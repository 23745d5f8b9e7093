import TreePath.Pattern.Flags
import TreePath.Pattern.Match
import TreePath.Pattern.Property
import TreePath.Text.Integer

/-! # Reading patterns

A pattern is read from left to right under the flags in force. Branches are separated by `|`, a
branch is a sequence of items, and an item may be followed by repetitions, each of which applies
to all of the item before it. -/

namespace TreePath.Pattern

/-- The rest of a text after a comment's end. -/
def skipComment : List Char → List Char
  | [] => []
  | c :: rest => if c = '\n' then c :: rest else skipComment rest

/-- In spaced patterns, the text from the first character that is neither blank nor in a comment;
`fuel` bounds the number of comments. -/
def skipSpaced (fuel : Nat) (text : List Char) : List Char :=
  match fuel, text.dropWhile Text.isBlankChar with
  | fuel + 1, '#' :: rest => skipSpaced fuel (skipComment rest)
  | _, text => text

/-- The text from the next character that counts. -/
def Flags.skip (flags : Flags) (text : List Char) : List Char :=
  if flags.spaced then skipSpaced text.length text else text

/-- What an escape or a plain character stands for, before it is known where it stands. -/
inductive Piece where
  | literal (c : Char) (byte : Bool)
  | set (s : CharSet)
  | look (place : Look)
deriving Repr

/-- Punctuation that has a meaning in patterns, or may get one. -/
def isMeta (c : Char) : Bool :=
  "\\.+*?()|[]\x7b\x7d^$#&-~".toList.contains c

/-- Whether a character stands for itself after a backslash: ASCII, but no letter or digit and no
angle bracket. -/
def isEscapable (c : Char) : Bool :=
  isMeta c || (c.toNat < 0x80 && !c.isAlphanum && c != '<' && c != '>')

/-- The value of a hexadecimal digit. -/
def hexValue? (c : Char) : Option Nat :=
  if c.isDigit then some (c.toNat - '0'.toNat)
  else if 'a' ≤ c ∧ c ≤ 'f' then some (c.toNat - 'a'.toNat + 10)
  else if 'A' ≤ c ∧ c ≤ 'F' then some (c.toNat - 'A'.toNat + 10)
  else none

/-- The character of a code, unless the code is that of a surrogate or too large. -/
def charOfCode (n : Nat) : Except Fault Char :=
  if n.isValidChar then .ok (Char.ofNat n) else .error .badEscape

/-- A given number of hexadecimal digits. -/
def readHexDigits (flags : Flags) : Nat → Nat → List Char → Except Fault (Nat × List Char)
  | 0, n, text => .ok (n, text)
  | count + 1, n, text =>
    match flags.skip text with
    | [] => .error .badEscape
    | c :: rest =>
      match hexValue? c with
      | some d => readHexDigits flags count (16 * n + d) rest
      | none => .error .badEscape

/-- Hexadecimal digits up to a closing brace; `fuel` bounds their number. -/
def readHexBraced (flags : Flags) (fuel : Nat) (digits : List Nat) (text : List Char) :
    Except Fault (Nat × List Char) :=
  match fuel, flags.skip text with
  | _, [] => .error .badEscape
  | 0, _ => .error .badEscape
  | fuel + 1, c :: rest =>
    if c = '\x7d' then
      if digits.isEmpty then .error .badEscape
      else .ok (digits.foldr (fun d n => d + 16 * n) 0, rest)
    else
      match hexValue? c with
      | some d => readHexBraced flags fuel (d :: digits) rest
      | none => .error .badEscape

/-- The code after `\x`, `\u` or `\U`: digits in braces, or as many digits as the letter asks. -/
def readHex (flags : Flags) (count : Nat) (text : List Char) : Except Fault (Piece × List Char) :=
  match flags.skip text with
  | '\x7b' :: rest =>
    (readHexBraced flags rest.length [] rest).bind fun (n, rest) =>
      (charOfCode n).map fun c => (.literal c false, rest)
  | text =>
    (readHexDigits flags count 0 text).bind fun (n, rest) =>
      (charOfCode n).map fun c => (.literal c (count == 2), rest)

/-- The letters of a name up to a closing brace. -/
def readBraced (flags : Flags) (fuel : Nat) (name : List Char) (text : List Char) :
    Except Fault (List Char × List Char) :=
  match fuel, flags.skip text with
  | _, [] => .error .badEscape
  | 0, _ => .error .badEscape
  | fuel + 1, c :: rest =>
    if c = '\x7d' then .ok (name.reverse, rest) else readBraced flags fuel (c :: name) rest

/-- Cuts a text before and after the first place where a separator stands. -/
def cutAt? (separator : List Char) : List Char → Option (List Char × List Char)
  | [] => none
  | c :: rest =>
    if separator.isPrefixOf (c :: rest) then some ([], (c :: rest).drop separator.length)
    else (cutAt? separator rest).map fun (before, after) => (c :: before, after)

/-- The set named between the braces of a property: a name, or a property with a value. The mark
`!=` between the two means no more than `=` does. -/
def bracedProperty? (name : List Char) : Option CharSet :=
  match cutAt? ['!', '='] name, cutAt? [':'] name, cutAt? ['='] name with
  | some (property, value), _, _ => propertyValueSet? property value
  | none, some (property, value), _ => propertyValueSet? property value
  | none, none, some (property, value) => propertyValueSet? property value
  | none, none, none => propertySet? name

/-- The piece of a property, if there is one of the name that was read. -/
def propertyPiece (flags : Flags) (negated : Bool) (found : Option CharSet) :
    Except Fault Piece :=
  match found with
  | some set => if flags.wide then .ok (.set (flags.bracketed negated set)) else .error .beyondText
  | none => .error .unknownProperty

/-- The set after `\p` or `\P`. -/
def readProperty (flags : Flags) (negated : Bool) (text : List Char) :
    Except Fault (Piece × List Char) :=
  match flags.skip text with
  | [] => .error .badEscape
  | '\x7b' :: rest =>
    (readBraced flags rest.length [] rest).bind fun (name, rest) =>
      (propertyPiece flags negated (bracedProperty? name)).map fun piece => (piece, rest)
  | '\\' :: _ => .error .badEscape
  | c :: rest => (propertyPiece flags negated (propertySet? [c])).map fun piece => (piece, rest)

/-- Whether a character can stand in the name of a word boundary. -/
def isBoundaryChar (c : Char) : Bool :=
  c.isAlpha || c == '-'

/-- The letters of a boundary's name. -/
def readBoundaryName (flags : Flags) (fuel : Nat) (name : List Char) (text : List Char) :
    List Char × List Char :=
  match fuel, flags.skip text with
  | fuel + 1, c :: rest =>
    if isBoundaryChar c then readBoundaryName flags fuel (c :: name) rest
    else (name.reverse, c :: rest)
  | _, text => (name.reverse, text)

/-- The side of a word boundary that a name stands for. -/
def boundaryLook : String → Except Fault Look
  | "start" => .ok .wordStart
  | "end" => .ok .wordEnd
  | "start-half" => .ok .wordStartHalf
  | "end-half" => .ok .wordEndHalf
  | _ => .error .badEscape

/-- The boundary with a name in braces, from the character after its brace. -/
def readNamedBoundary (flags : Flags) (text : List Char) : Except Fault (Piece × List Char) :=
  match readBoundaryName flags text.length [] text with
  | (name, '\x7d' :: rest) =>
    (boundaryLook (String.ofList name)).map fun place => (.look place, rest)
  | _ => .error .badEscape

/-- What `\b` means: a word boundary, or one side of it if a name in braces follows. Braces that do
not hold a name are left for a repetition. -/
def readBoundary (flags : Flags) (text : List Char) : Except Fault (Piece × List Char) :=
  match text with
  | '\x7b' :: rest =>
    match flags.skip rest with
    | [] => .error .badEscape
    | c :: _ =>
      if isBoundaryChar c then readNamedBoundary flags rest else .ok (.look .wordBoundary, text)
  | text => .ok (.look .wordBoundary, text)

/-- What stands after a backslash. -/
def readEscape (flags : Flags) : List Char → Except Fault (Piece × List Char)
  | [] => .error .badEscape
  | c :: rest =>
    match c with
    | 'x' => readHex flags 2 rest
    | 'u' => readHex flags 4 rest
    | 'U' => readHex flags 8 rest
    | 'p' => readProperty flags false rest
    | 'P' => readProperty flags true rest
    | 'a' => .ok (.literal '\x07' false, rest)
    | 'f' => .ok (.literal '\x0c' false, rest)
    | 't' => .ok (.literal '\t' false, rest)
    | 'n' => .ok (.literal '\n' false, rest)
    | 'r' => .ok (.literal '\r' false, rest)
    | 'v' => .ok (.literal '\x0b' false, rest)
    | 'A' => .ok (.look .textStart, rest)
    | 'z' => .ok (.look .textEnd, rest)
    | 'b' => readBoundary flags rest
    | 'B' => .ok (.look .notWordBoundary, rest)
    | '<' => .ok (.look .wordStart, rest)
    | '>' => .ok (.look .wordEnd, rest)
    | c =>
      match flags.named? c with
      | some set => (flags.checked set).map fun set => (.set set, rest)
      | none => if isEscapable c then .ok (.literal c false, rest) else .error .badEscape

/-! ## Classes -/

/-- A set read so far, with the height of the tree it was written as. -/
structure Sized where
  set : CharSet
  height : Nat

/-- A set inside a class that has an end of its own, or the whole class. -/
def Sized.checked (flags : Flags) (item : Sized) : Except Fault Sized :=
  (flags.checked item.set).map fun set => ⟨set, item.height⟩

/-- The union of the items of a class, last one first. -/
def unionOf : List Sized → Sized
  | [] => ⟨.none, 0⟩
  | [item] => item
  | items =>
    ⟨items.foldr (fun item set => .union set item.set) .none,
      1 + items.foldl (fun height item => max height item.height) 0⟩

/-- The operations between the sets of a class. -/
inductive SetOp where
  | inter
  | diff
  | symmDiff

/-- The set an operation makes; its two sides are closed under change of case first. -/
def SetOp.apply (op : SetOp) (flags : Flags) (a b : Sized) : Sized :=
  let x := flags.fold a.set
  let y := flags.fold b.set
  let set := match op with
    | .inter => .inter x y
    | .diff => .diff x y
    | .symmDiff => .symmDiff x y
  ⟨set, 1 + max a.height b.height⟩

/-- An operation that waits for its right side. -/
def finishOp (flags : Flags) (pending : Option (SetOp × Sized)) (items : List Sized) : Sized :=
  match pending with
  | none => unionOf items
  | some (op, left) => op.apply flags left (unionOf items)

/-- One character or escape inside a class. -/
def readClassPiece (flags : Flags) : List Char → Except Fault (Piece × List Char)
  | [] => .error .unclosedClass
  | '\\' :: rest => readEscape flags rest
  | c :: rest => .ok (.literal c false, rest)

/-- The character of a literal inside a class; a class of bytes takes ASCII and written bytes. -/
def classLiteral (flags : Flags) : Piece → Except Fault Char
  | .literal c byte =>
    if flags.wide || byte || c.toNat < 0x80 then .ok c else .error .beyondText
  | _ => .error .badRange

/-- The set of a piece that stands alone inside a class. -/
def classItem (flags : Flags) (piece : Piece) : Except Fault Sized :=
  match piece with
  | .set s => .ok ⟨s, 0⟩
  | .look _ => .error .badClassItem
  | piece => (classLiteral flags piece).map fun c => ⟨.single c, 0⟩

/-- The character after the next one, past blanks in spaced patterns. -/
def peekAfter (flags : Flags) (text : List Char) : Option Char :=
  if flags.spaced then
    match text.dropWhile Text.isBlankChar with
    | '#' :: rest => (rest.dropWhile Text.isBlankChar).head?
    | rest => rest.head?
  else text.head?

/-- The range between two pieces of a class. -/
def rangeOf (flags : Flags) (first last : Piece) : Except Fault Sized :=
  (classLiteral flags first).bind fun a =>
    (classLiteral flags last).bind fun b =>
      if a ≤ b then .ok ⟨.range a b, 0⟩ else .error .badRange

/-- The range from a piece of a class, from the character after its hyphen. -/
def readRangeEnd (flags : Flags) (first : Piece) (text : List Char) :
    Except Fault (Sized × List Char) :=
  match flags.skip text with
  | [] => .error .unclosedClass
  | text =>
    (readClassPiece flags text).bind fun (last, rest) =>
      (rangeOf flags first last).map fun item => (item, rest)

/-- What a piece of a class starts: a range if a hyphen follows it, unless a bracket or another
hyphen follows that. -/
def readRangeFrom (flags : Flags) (first : Piece) (text : List Char) :
    Except Fault (Sized × List Char) :=
  match flags.skip text with
  | [] => .error .unclosedClass
  | '-' :: rest =>
    let next := peekAfter flags rest
    if next = some ']' ∨ next = some '-' then
      (classItem flags first).map fun item => (item, '-' :: rest)
    else readRangeEnd flags first rest
  | rest => (classItem flags first).map fun item => (item, rest)

/-- A character, a set or a range inside a class. -/
def readClassRange (flags : Flags) (text : List Char) : Except Fault (Sized × List Char) :=
  (readClassPiece flags text).bind fun (first, rest) => readRangeFrom flags first rest

/-- The set of a name, from the first character of the name. -/
def namedClass? (flags : Flags) (negated : Bool) (text : List Char) :
    Option (Sized × List Char) :=
  match text.dropWhile (· != ':') with
  | ':' :: ']' :: rest =>
    (CharSet.ofAsciiName? (String.ofList (text.takeWhile (· != ':')))).map fun set =>
      (⟨flags.bracketed negated set, 0⟩, rest)
  | _ => none

/-- A named set such as `[:alpha:]`, from the character after its bracket. -/
def asciiClass? (flags : Flags) : List Char → Option (Sized × List Char)
  | ':' :: '^' :: rest => namedClass? flags true rest
  | ':' :: rest => namedClass? flags false rest
  | _ => none

/-- Hyphens at the start of a class stand for themselves. -/
def leadingHyphens (flags : Flags) (fuel : Nat) (items : List Sized) (text : List Char) :
    List Sized × List Char :=
  match fuel, flags.skip text with
  | fuel + 1, '-' :: rest => leadingHyphens flags fuel (⟨.single '-', 0⟩ :: items) rest
  | _, text => (items, text)

/-- The items at the start of a class that stand for themselves only there: hyphens, or else a
closing bracket. -/
def openItems (flags : Flags) (text : List Char) : List Sized × List Char :=
  let (items, text) := leadingHyphens flags text.length [] text
  match items, flags.skip text with
  | [], ']' :: rest => ([⟨.single ']', 0⟩], rest)
  | items, text => (items, text)

/-- The start of a class after its bracket: whether it is negated, and its first items. -/
def openClass (flags : Flags) (text : List Char) : Bool × List Sized × List Char :=
  match flags.skip text with
  | '^' :: rest => (true, openItems flags rest)
  | rest => (false, openItems flags rest)

/-- The inside of a class up to its closing bracket, after the items and the operation read so
far. `fuel` bounds the number of steps. -/
def readClass (fuel : Nat) (flags : Flags) (negated : Bool) (pending : Option (SetOp × Sized))
    (items : List Sized) (text : List Char) : Except Fault (Sized × List Char) :=
  match fuel with
  | 0 => .error .unclosedClass
  | fuel + 1 =>
    match flags.skip text with
    | [] => .error .unclosedClass
    | '[' :: rest =>
      match asciiClass? flags rest with
      | some (item, rest) =>
        (item.checked flags).bind fun item =>
          readClass fuel flags negated pending (item :: items) rest
      | none =>
        let (innerNegated, innerItems, inner) := openClass flags rest
        (readClass fuel flags innerNegated none innerItems inner).bind fun (item, rest) =>
          readClass fuel flags negated pending (item :: items) rest
    | ']' :: rest =>
      let found := finishOp flags pending items
      (Sized.checked flags ⟨flags.bracketed negated found.set, found.height + 1⟩).map fun item =>
        (item, rest)
    | '&' :: '&' :: rest =>
      readClass fuel flags negated (some (.inter, finishOp flags pending items)) [] rest
    | '-' :: '-' :: rest =>
      readClass fuel flags negated (some (.diff, finishOp flags pending items)) [] rest
    | '~' :: '~' :: rest =>
      readClass fuel flags negated (some (.symmDiff, finishOp flags pending items)) [] rest
    | text =>
      (readClassRange flags text).bind fun (item, rest) =>
        readClass fuel flags negated pending (item :: items) rest

/-! ## Repetitions -/

/-- The digits of a count, with blanks around them. -/
def readCountDigits (flags : Flags) (fuel : Nat) (digits : List Char) (text : List Char) :
    List Char × List Char :=
  match fuel, text with
  | fuel + 1, c :: rest =>
    if c.isDigit then readCountDigits flags fuel (c :: digits) (flags.skip rest)
    else (digits.reverse, c :: rest)
  | _, text => (digits.reverse, text)

/-- A count below `2 ^ 32`, if there is one, and the rest of the text. -/
def readCount (flags : Flags) (text : List Char) : Except Fault (Option Nat × List Char) :=
  let text := text.dropWhile Text.isBlankChar
  let (digits, rest) := readCountDigits flags text.length [] text
  let rest := flags.skip (rest.dropWhile Text.isBlankChar)
  match Text.natural? digits with
  | none => .ok (none, rest)
  | some n => if n < Nat.pow 2 32 then .ok (some n, rest) else .error .badCount

/-- The greatest count of a repetition that has a least one, with the brace behind it. -/
def readMost (flags : Flags) (least : Nat) (text : List Char) :
    Except Fault ((Nat × Option Nat) × List Char) :=
  (readCount flags text).bind fun (most, rest) =>
    match most, rest with
    | some most, '\x7d' :: rest =>
      if least ≤ most then .ok ((least, some most), rest) else .error .badCount
    | _, _ => .error .badCount

/-- The bounds of a counted repetition, from the character after its brace. -/
def readBounds (flags : Flags) (text : List Char) :
    Except Fault ((Nat × Option Nat) × List Char) :=
  (readCount flags (flags.skip text)).bind fun (least, rest) =>
    match least, rest with
    | some n, '\x7d' :: rest => .ok ((n, some n), rest)
    | some n, ',' :: rest =>
      match flags.skip rest with
      | '\x7d' :: rest => .ok ((n, none), rest)
      | rest => readMost flags n rest
    | _, _ => .error .badCount

/-! ## Groups and branches -/

/-- An item of a branch: its node, the height of the tree it was written as, and whether it can be
repeated. -/
structure Item where
  node : Node
  height : Nat
  repeatable : Bool

/-- A sequence of items, last one first. -/
def sequenceOf : List Item → Item
  | [] => ⟨.empty, 0, false⟩
  | [item] => item
  | items =>
    ⟨.ofSequence (items.reverse.map Item.node),
      1 + items.foldl (fun height item => max height item.height) 0, true⟩

/-- A choice of branches, last one first. -/
def choiceOf : List Item → Item
  | [] => ⟨.empty, 0, false⟩
  | [branch] => branch
  | branches =>
    ⟨.ofChoice (branches.reverse.map Item.node),
      1 + branches.foldl (fun height branch => max height branch.height) 0, true⟩

/-- The last item repeated, in place of the item. -/
def repeatLast (least : Nat) (most : Option Nat) : List Item → Except Fault (List Item)
  | [] => .error .nothingToRepeat
  | item :: rest =>
    if item.repeatable then
      .ok (⟨.times item.node least most, item.height + 1, true⟩ :: rest)
    else .error .nothingToRepeat

/-- What a piece means in a branch. -/
def Piece.item (flags : Flags) : Piece → Except Fault Item
  | .literal c byte => (flags.literal c byte).map fun node => ⟨node, 0, true⟩
  | .set s => .ok ⟨.chars s, 0, true⟩
  | .look place => .ok ⟨.look place flags.word, 0, true⟩

/-- Whether a character can stand in the name of a group: a letter or an underscore, and after the
first place also a number, a point or a bracket. -/
def isGroupNameChar (first : Bool) (c : Char) : Bool :=
  c == '_' || CharSet.alphabetic.contains c ||
    (!first && (CharSet.number.contains c || c == '.' || c == '[' || c == ']'))

/-- The name of a group, up to its closing angle bracket. -/
def readGroupName (text : List Char) : Except Fault (List Char × List Char) :=
  match text.takeWhile (· != '>'), text.dropWhile (· != '>') with
  | c :: name, '>' :: rest =>
    if isGroupNameChar true c && name.all (isGroupNameChar false) then .ok (c :: name, rest)
    else .error .badGroupName
  | _, _ => .error .badGroupName

/-- The flags of a group or of what follows: letters, of which those after a hyphen are switched
off. No letter and no hyphen may stand twice, and a hyphen needs a letter after it. The answer has
the character that ends the flags. -/
def readFlags (flags : Flags) (seen : List Char) : List Char →
    Except Fault (Flags × List Char × Char × List Char)
  | [] => .error .badFlags
  | c :: rest =>
    if c = ':' ∨ c = ')' then
      if seen.head? = some '-' then .error .badFlags else .ok (flags, seen, c, rest)
    else if seen.contains c then .error .badFlags
    else if c = '-' then readFlags flags (c :: seen) rest
    else
      match flags.switch? (!seen.contains '-') c with
      | some flags => readFlags flags (c :: seen) rest
      | none => .error .badFlags

/-- How a group starts. -/
inductive GroupStart where
  | plain
  | name (name : List Char)
  | flags (flags : Flags)
  | setFlags (flags : Flags)

/-- The flags of a group, or those of what follows, from the character after the question mark. -/
def readGroupFlags (flags : Flags) (text : List Char) : Except Fault (GroupStart × List Char) :=
  (readFlags flags [] text).bind fun (inner, seen, last, rest) =>
    if last = ':' then .ok (.flags inner, rest)
    else if seen.isEmpty then .error .nothingToRepeat
    else .ok (.setFlags inner, rest)

/-- The start of a group after its bracket. -/
def openGroup (flags : Flags) (text : List Char) : Except Fault (GroupStart × List Char) :=
  match flags.skip text with
  | '?' :: '=' :: _ | '?' :: '!' :: _ | '?' :: '<' :: '=' :: _ | '?' :: '<' :: '!' :: _ =>
    .error .lookAround
  | '?' :: 'P' :: '<' :: rest | '?' :: '<' :: rest =>
    (readGroupName rest).map fun (name, rest) => (.name name, rest)
  | '?' :: rest => readGroupFlags flags rest
  | text => .ok (.plain, text)

/-- What is read of a group so far: its finished branches and the items of its last one, last ones
first, and the names of groups met in the whole pattern. -/
structure Reading where
  branches : List Item
  items : List Item
  names : List (List Char)

namespace Reading

/-- The group as one item. -/
def finish (r : Reading) : Item :=
  choiceOf (sequenceOf r.items :: r.branches)

/-- One more item. -/
def push (r : Reading) (item : Item) : Reading :=
  { r with items := item :: r.items }

/-- The inside of a group that starts here, and the flags it is read under. -/
def inside (r : Reading) (flags : Flags) : GroupStart → Except Fault (Flags × Reading)
  | .name name =>
    if r.names.contains name then .error .repeatedGroupName
    else .ok (flags, ⟨[], [], name :: r.names⟩)
  | .flags inner => .ok (inner, ⟨[], [], r.names⟩)
  | .plain | .setFlags _ => .ok (flags, ⟨[], [], r.names⟩)

/-- The reading after a group: the group is one more item, and its names are met. -/
def afterGroup (r group : Reading) : Reading :=
  let item := group.finish
  ⟨r.branches, ⟨item.node, item.height + 1, true⟩ :: r.items, group.names⟩

/-- The reading after a repetition of the last item, past the mark that asks for short matches. -/
def repeated (r : Reading) (least : Nat) (most : Option Nat) (text : List Char) :
    Except Fault (Reading × List Char) :=
  (repeatLast least most r.items).map fun items =>
    match text with
    | '?' :: rest => ({ r with items := items }, rest)
    | rest => ({ r with items := items }, rest)

end Reading

/-- A reader of what is left of a group, given the flags in force and what is read of it so far. -/
abbrev GroupReader := Flags → Reading → List Char → Except Fault (Reading × List Char)

section Items

variable (more : GroupReader) (flags : Flags) (r : Reading)

/-- A group, from the character after its bracket: its own branches up to the closing bracket, or
flags for what follows. -/
def readGroup (text : List Char) : Except Fault (Reading × List Char) :=
  (openGroup flags text).bind fun (start, rest) =>
    match start with
    | .setFlags inner => more inner (r.push ⟨.empty, 0, false⟩) rest
    | start =>
      (r.inside flags start).bind fun (inner, group) =>
        (more inner group rest).bind fun (group, rest) =>
          match rest with
          | ')' :: rest => more flags (r.afterGroup group) rest
          | _ => .error .unclosedGroup

/-- A class, from the character after its bracket. -/
def readClassItem (text : List Char) : Except Fault (Reading × List Char) :=
  let (negated, items, inner) := openClass flags text
  (readClass inner.length.succ flags negated none items inner).bind fun (found, rest) =>
    more flags (r.push ⟨.chars found.set, found.height, true⟩) rest

/-- A repetition, from the character after its mark. -/
def readRepeated (least : Nat) (most : Option Nat) (text : List Char) :
    Except Fault (Reading × List Char) :=
  (r.repeated least most text).bind fun (r, rest) => more flags r rest

/-- A counted repetition, from the character after its brace. -/
def readCounted (text : List Char) : Except Fault (Reading × List Char) :=
  (readBounds flags text).bind fun ((least, most), rest) =>
    readRepeated more flags r least most (flags.skip rest)

/-- An escape, from the character after its backslash. -/
def readEscaped (text : List Char) : Except Fault (Reading × List Char) :=
  (readEscape flags text).bind fun (piece, rest) =>
    (piece.item flags).bind fun item => more flags (r.push item) rest

/-- A node that one character stands for. -/
def readNodeItem (node : Except Fault Node) (text : List Char) :
    Except Fault (Reading × List Char) :=
  node.bind fun node => more flags (r.push ⟨node, 0, true⟩) text

/-- What a character starts that does not close the group. -/
def readItem : Char → List Char → Except Fault (Reading × List Char)
  | '|' => more flags ⟨sequenceOf r.items :: r.branches, [], r.names⟩
  | '(' => readGroup more flags r
  | '[' => readClassItem more flags r
  | '?' => readRepeated more flags r 0 (some 1)
  | '*' => readRepeated more flags r 0 none
  | '+' => readRepeated more flags r 1 none
  | '\x7b' => readCounted more flags r
  | '\\' => readEscaped more flags r
  | '.' => readNodeItem more flags r flags.dot
  | '^' => readNodeItem more flags r (.ok (.look flags.atStart flags.word))
  | '$' => readNodeItem more flags r (.ok (.look flags.atEnd flags.word))
  | c => readNodeItem more flags r (flags.literal c false)

end Items

/-- Reads branches up to the bracket that closes the group, or to the end of the text. `fuel`
bounds the number of steps. -/
def readBranches (fuel : Nat) (flags : Flags) (r : Reading) (text : List Char) :
    Except Fault (Reading × List Char) :=
  match fuel with
  | 0 => .error .tooLarge
  | fuel + 1 =>
    match flags.skip text with
    | [] => .ok (r, [])
    | ')' :: rest => .ok (r, ')' :: rest)
    | c :: rest => readItem (readBranches fuel) flags r c rest

end TreePath.Pattern
