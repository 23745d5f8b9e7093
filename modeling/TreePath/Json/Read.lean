import TreePath.Error
import TreePath.Json.Numeral

/-! # Reading JSON

A document is read in one pass from left to right. An entry whose value is `null` is left out, and
`null` anywhere else is refused; so is a blank key, once the value of its entry has been read. A
later entry replaces an earlier one of the same key in place. -/

namespace TreePath.Json

/-- The characters that may stand between tokens. -/
def isSpace (c : Char) : Bool :=
  c == ' ' || c == '\t' || c == '\n' || c == '\r'

/-- The text from its first token on. -/
def skipSpace (text : List Char) : List Char :=
  text.dropWhile isSpace

/-- The rest of a text after a given word. -/
def expectWord : List Char → List Char → Except Fault (List Char)
  | [], text => .ok text
  | _ :: _, [] => .error .endOfText
  | w :: ws, c :: rest => if c = w then expectWord ws rest else .error (.unexpected c)

/-- The value of a hexadecimal digit. -/
def hexValue? (c : Char) : Option Nat :=
  if c.isDigit then some (c.toNat - '0'.toNat)
  else if 'a' ≤ c ∧ c ≤ 'f' then some (c.toNat - 'a'.toNat + 10)
  else if 'A' ≤ c ∧ c ≤ 'F' then some (c.toNat - 'A'.toNat + 10)
  else none

/-- The code of four hexadecimal digits. -/
def hexCode? (a b c d : Char) : Option Nat := do
  return (((← hexValue? a) * 16 + (← hexValue? b)) * 16 + (← hexValue? c)) * 16 + (← hexValue? d)

/-- The first half of a pair of codes that stands for one character. -/
def isHighSurrogate (n : Nat) : Bool := 0xD800 ≤ n && n ≤ 0xDBFF

/-- The second half of such a pair. -/
def isLowSurrogate (n : Nat) : Bool := 0xDC00 ≤ n && n ≤ 0xDFFF

/-- The character of an escape of one letter. -/
def unescape? : Char → Option Char
  | '"' => some '"'
  | '\\' => some '\\'
  | '/' => some '/'
  | 'b' => some '\x08'
  | 'f' => some '\x0c'
  | 'n' => some '\n'
  | 'r' => some '\r'
  | 't' => some '\t'
  | _ => none

/-- The characters of a string up to its closing quote, put before those already read (in reverse
order), and the rest of the text. -/
def readString (done : List Char) : List Char → Except Fault (List Char × List Char)
  | [] => .error .endOfText
  | '"' :: rest => .ok (done.reverse, rest)
  | '\\' :: 'u' :: a :: b :: c :: d :: rest =>
    match hexCode? a b c d with
    | none => .error .badEscape
    | some n =>
      if isLowSurrogate n then .error .badEscape
      else if isHighSurrogate n then
        match rest with
        | '\\' :: 'u' :: a :: b :: c :: d :: rest =>
          match hexCode? a b c d with
          | none => .error .badEscape
          | some m =>
            if isLowSurrogate m then
              readString (Char.ofNat (0x10000 + (n - 0xD800) * 0x400 + (m - 0xDC00)) :: done) rest
            else .error .badEscape
        | _ => .error .badEscape
      else readString (Char.ofNat n :: done) rest
  | '\\' :: e :: rest =>
    match unescape? e with
    | some c => readString (c :: done) rest
    | none => .error .badEscape
  | c :: rest => if c.toNat < 0x20 then .error .controlCharacter else readString (c :: done) rest

/-- The next token's first character, which must be the given one, is taken off. -/
def expectChar (c : Char) (text : List Char) : Except Fault (List Char) :=
  expectWord [c] (skipSpace text)

/-- How many containers may stand inside one another. -/
def depthLimit : Nat := 127

mutual

/-- The value at the start of a text and the rest of the text. `room` is the number of containers
that may still be opened, and `fuel` bounds the number of steps. -/
def readValue (fuel room : Nat) (text : List Char) : Except Fault (Value × List Char) :=
  match fuel with
  | 0 => .error .endOfText
  | fuel + 1 =>
    match skipSpace text with
    | [] => .error .endOfText
    | 'n' :: rest => (expectWord ['u', 'l', 'l'] rest).bind fun _ => .error .null
    | 't' :: rest => (expectWord ['r', 'u', 'e'] rest).map fun rest => (.bool true, rest)
    | 'f' :: rest => (expectWord ['a', 'l', 's', 'e'] rest).map fun rest => (.bool false, rest)
    | '"' :: rest => (readString [] rest).map fun (cs, rest) => (.string (String.ofList cs), rest)
    | '[' :: rest =>
      match room with
      | 0 => .error .tooDeep
      | room + 1 =>
        match skipSpace rest with
        | ']' :: rest => .ok (.list [], rest)
        | rest => (readItems fuel room [] rest).map fun (items, rest) => (.list items, rest)
    | '\x7b' :: rest =>
      match room with
      | 0 => .error .tooDeep
      | room + 1 =>
        match skipSpace rest with
        | '\x7d' :: rest => .ok (.map [], rest)
        | rest => (readEntries fuel room [] rest).map fun (entries, rest) => (.map entries, rest)
    | text =>
      (Numeral.read text).bind fun (numeral, rest) =>
        numeral.value.map fun n => (.number n, rest)

/-- The elements of a list from the next one to its closing bracket, after those already read (in
reverse order). -/
def readItems (fuel room : Nat) (done : List Value) (text : List Char) :
    Except Fault (List Value × List Char) :=
  match fuel with
  | 0 => .error .endOfText
  | fuel + 1 =>
    (readValue fuel room text).bind fun (v, rest) =>
      match skipSpace rest with
      | ',' :: rest => readItems fuel room (v :: done) rest
      | ']' :: rest => .ok ((v :: done).reverse, rest)
      | c :: _ => .error (.unexpected c)
      | [] => .error .endOfText

/-- The entries of a map from the next one to its closing bracket, put into those already read. -/
def readEntries (fuel room : Nat) (done : Dict Value) (text : List Char) :
    Except Fault (Dict Value × List Char) :=
  match fuel with
  | 0 => .error .endOfText
  | fuel + 1 =>
    (readEntry fuel room text).bind fun (key, value, rest) =>
      if Text.isBlank key then .error .blankKey
      else
        let done := match value with
          | some v => Dict.insert (String.ofList key) v done
          | none => done
        match skipSpace rest with
        | ',' :: rest => readEntries fuel room done rest
        | '\x7d' :: rest => .ok (done, rest)
        | c :: _ => .error (.unexpected c)
        | [] => .error .endOfText

/-- One entry: its key, and its value unless that is `null`. -/
def readEntry (fuel room : Nat) (text : List Char) :
    Except Fault (List Char × Option Value × List Char) :=
  match fuel with
  | 0 => .error .endOfText
  | fuel + 1 =>
    (expectChar '"' text).bind fun rest =>
      (readString [] rest).bind fun (key, rest) =>
        (expectChar ':' rest).bind fun rest =>
          match skipSpace rest with
          | 'n' :: rest => (expectWord ['u', 'l', 'l'] rest).map fun rest => (key, none, rest)
          | rest => (readValue fuel room rest).map fun (v, rest) => (key, some v, rest)

end

/-- The value of a document. Every character is looked at in at most three steps. -/
def read (text : List Char) : Except Fault Value :=
  (readValue (3 * text.length + 3) depthLimit text).bind fun (v, rest) =>
    match skipSpace rest with
    | [] => .ok v
    | _ :: _ => .error .textAfterValue

/-- The value of a document, or the error of decoding it. -/
def decode (text : String) : Except Error Value :=
  match read text.toList with
  | .ok v => .ok v
  | .error fault => .error (.value (.decode fault))

end TreePath.Json
