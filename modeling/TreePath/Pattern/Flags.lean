import TreePath.Pattern.Syntax

/-! # Flags

Flags change the meaning of what follows them, to the end of the group they stand in. Here is what
each piece of a pattern means under the flags in force. -/

namespace TreePath.Pattern

/-- Why a text is no pattern. -/
inductive Fault where
  | unclosedGroup
  | unopenedGroup
  | badGroupName
  | repeatedGroupName
  | badFlags
  | lookAround
  | nothingToRepeat
  | badCount
  | unclosedClass
  | badClassItem
  | badRange
  | badEscape
  | unknownProperty
  | beyondText
  | tooNested
  | tooLarge
deriving DecidableEq, Repr

def Fault.message : Fault → String
  | .unclosedGroup => "unclosed group"
  | .unopenedGroup => "unopened group"
  | .badGroupName => "invalid group name"
  | .repeatedGroupName => "repeated group name"
  | .badFlags => "invalid flags"
  | .lookAround => "look-around is not supported"
  | .nothingToRepeat => "repetition of nothing"
  | .badCount => "invalid repetition count"
  | .unclosedClass => "unclosed class"
  | .badClassItem => "invalid class item"
  | .badRange => "invalid class range"
  | .badEscape => "invalid escape"
  | .unknownProperty => "unknown property"
  | .beyondText => "the pattern could match bytes that are no text"
  | .tooNested => "the pattern is nested too deeply"
  | .tooLarge => "the pattern is too large"

/-- The flags in force. Without `wide`, names of sets mean their ASCII part and a class is a set of
bytes. -/
structure Flags where
  caseless : Bool
  multiLine : Bool
  dotAll : Bool
  wide : Bool
  crlf : Bool
  spaced : Bool
deriving DecidableEq, Repr

namespace Flags

/-- The flags at the start of a pattern. -/
def initial : Flags := ⟨false, false, false, true, false, false⟩

/-- The flags after switching the one of a letter; `U`, which asks for short matches, changes
nothing here. -/
def switch? (flags : Flags) (on : Bool) : Char → Option Flags
  | 'i' => some { flags with caseless := on }
  | 'm' => some { flags with multiLine := on }
  | 's' => some { flags with dotAll := on }
  | 'u' => some { flags with wide := on }
  | 'R' => some { flags with crlf := on }
  | 'x' => some { flags with spaced := on }
  | 'U' => some flags
  | _ => none

variable (flags : Flags)

/-- A set closed under change of case, if the flags say so. -/
def fold (set : CharSet) : CharSet :=
  if flags.caseless then (if flags.wide then .caseless set else .asciiCaseless set) else set

/-- The word characters. -/
def word : CharSet :=
  if flags.wide then .word else .asciiWord

/-- The set of a letter such as `d` or `W`; a capital letter stands for the complement. -/
def named? : Char → Option CharSet
  | 'd' => some (if flags.wide then .digit else .asciiDigit)
  | 's' => some (if flags.wide then .space else .asciiSpace)
  | 'w' => some flags.word
  | 'D' => some (.compl (if flags.wide then .digit else .asciiDigit))
  | 'S' => some (.compl (if flags.wide then .space else .asciiSpace))
  | 'W' => some (.compl flags.word)
  | _ => none

/-- A set of bytes may be used only if it holds none above ASCII, as those are no characters. -/
def checked (set : CharSet) : Except Fault CharSet :=
  if flags.wide || (List.range 128).all (fun n => !set.contains (Char.ofNat (n + 128))) then
    .ok (if flags.wide then set else .inter set (.table [(0, 0x7F)]))
  else .error .beyondText

/-- A character that stands for itself. One above ASCII that is written as a byte is none. -/
def literal (c : Char) (byte : Bool) : Except Fault Node :=
  if !flags.wide && byte && 0x80 ≤ c.toNat then .error .beyondText
  else .ok (.chars (flags.fold (.single c)))

/-- The point: any character, or any but a line end. -/
def dot : Except Fault Node :=
  if !flags.wide then .error .beyondText
  else if flags.dotAll then .ok (.chars .all)
  else if flags.crlf then .ok (.chars (.compl (.union (.single '\r') (.single '\n'))))
  else .ok (.chars (.compl (.single '\n')))

/-- The condition of `^`. -/
def atStart : Look :=
  if flags.multiLine then (if flags.crlf then .crlfLineStart else .lineStart) else .textStart

/-- The condition of `$`. -/
def atEnd : Look :=
  if flags.multiLine then (if flags.crlf then .crlfLineEnd else .lineEnd) else .textEnd

/-- The end of a class: closed under change of case, then complemented if it is negated. -/
def bracketed (negated : Bool) (set : CharSet) : CharSet :=
  if negated then .compl (flags.fold set) else flags.fold set

end Flags

end TreePath.Pattern
