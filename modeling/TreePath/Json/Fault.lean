/-! # What is wrong with a JSON text

A text is read once from left to right and the first thing met that cannot stand decides. -/

namespace TreePath.Json

/-- Why a JSON text is not a value tree. -/
inductive Fault where
  | null
  | blankKey
  | endOfText
  | unexpected (c : Char)
  | tooDeep
  | numberTooLarge
  | badEscape
  | controlCharacter
  | textAfterValue
deriving DecidableEq, Repr

def Fault.message : Fault → String
  | .null => "null is not allowed in a canonical value"
  | .blankKey => "map keys must not be blank"
  | .endOfText => "the text ends too early"
  | .unexpected c => "unexpected character " ++ c.toString
  | .tooDeep => "containers are nested too deeply"
  | .numberTooLarge => "number out of range"
  | .badEscape => "invalid escape"
  | .controlCharacter => "control character in a string"
  | .textAfterValue => "text after the value"

end TreePath.Json
