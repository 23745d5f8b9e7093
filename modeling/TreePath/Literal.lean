import TreePath.Json.Read
import TreePath.Decimal.Read

/-! # Literals

The argument of an operation is a literal: a JSON list or map, a text in quotes taken as it
stands, a boolean, a number, or else the text itself. -/

namespace TreePath.Literal

/-- A text between two quotes, which are taken off and nothing else. -/
def unquoted? : List Char → Option (List Char)
  | '"' :: rest => if rest.getLast? = some '"' then some rest.dropLast else none
  | _ => none

/-- The finite number of a text. -/
def finiteNumber? (text : List Char) : Option Number :=
  match Text.integerWithin? (Width.least .w64) (Width.greatest .w64) text with
  | some z => some (Number.ofInt z)
  | none =>
    ((Decimal.read? text : Option (Binary .double)).filter Binary.isFinite).map
      fun x => .float .double x

/-- The value of a literal with no blank characters at its ends. -/
def decodeTrimmed (text : List Char) : Except Error Value :=
  if text.head? = some '[' ∨ text.head? = some '\x7b' then Json.decode (String.ofList text)
  else
    match unquoted? text with
    | some inner => .ok (.string (String.ofList inner))
    | none =>
      if text = ['t', 'r', 'u', 'e'] then .ok (.bool true)
      else if text = ['f', 'a', 'l', 's', 'e'] then .ok (.bool false)
      else
        match finiteNumber? text with
        | some n => .ok (.number n)
        | none => .ok (.string (String.ofList text))

/-- The value of a literal. -/
def decode (text : String) : Except Error Value :=
  decodeTrimmed (Text.trim text.toList)

end TreePath.Literal
