import TreePath.Binary.Round
import TreePath.Text.Integer

/-! # Reading decimal numbers

A decimal number is an optional sign, digits with an optional point among or beside them, and an
optional exponent; or one of the words for infinity and not-a-number, in any case. It is read as
the nearest value. -/

namespace TreePath.Decimal

/-- The exponent that ends a number: nothing, or `e` with an integer. -/
def exponent? : List Char → Option Int
  | [] => some 0
  | c :: rest =>
    if c = 'e' ∨ c = 'E' then
      match rest with
      | '-' :: digits => (Text.natural? digits).map fun n => -(n : Int)
      | '+' :: digits => (Text.natural? digits).map Int.ofNat
      | digits => (Text.natural? digits).map Int.ofNat
    else none

/-- The digits and the exponent of an unsigned number. -/
def unsigned? (text : List Char) : Option (Nat × Int) :=
  let whole := text.takeWhile Char.isDigit
  let afterWhole := text.dropWhile Char.isDigit
  let (fraction, rest) := match afterWhole with
    | '.' :: tail => (tail.takeWhile Char.isDigit, tail.dropWhile Char.isDigit)
    | _ => ([], afterWhole)
  if whole.isEmpty && fraction.isEmpty then none
  else (exponent? rest).map fun e =>
    (Nat.ofDigitChars 10 (whole ++ fraction) 0, e - fraction.length)

/-- The nearest value of a number with its sign taken off. -/
def readUnsigned? {f : Binary.Format} (negative : Bool) (text : List Char) : Option (Binary f) :=
  let word := String.ofList (text.map Char.toLower)
  if word = "inf" ∨ word = "infinity" then some (Binary.infinity negative)
  else if word = "nan" then some .nan
  else (unsigned? text).map fun (digits, exponent) => Binary.ofDecimal negative digits exponent

/-- The nearest value of a number. -/
def read? {f : Binary.Format} : List Char → Option (Binary f)
  | '-' :: rest => readUnsigned? true rest
  | '+' :: rest => readUnsigned? false rest
  | text => readUnsigned? false text

end TreePath.Decimal
