import TreePath.Decimal.Shortest

/-! # How decimals are written

A layout says for which exponents the point is written in place and how an exponent is written
otherwise. There are two: the plain one, for showing values, and the one of JSON documents. -/

namespace TreePath

/-- The choices in writing a decimal. `leastFixed` and `greatestFixed` bound the exponents of the
first digit for which the number is written without an exponent. -/
structure Decimal.Layout where
  tie : Decimal.Tie
  leastFixed : Int
  greatestFixed : Int
  plusSign : Bool
deriving Repr

namespace Decimal

namespace Layout

/-- Values are shown with the point in place from 0.0001 up to, and not including, 10 ^ 16; of two
equally near decimals the larger is shown. -/
def plain : Layout := ⟨.up, -4, 15, false⟩

/-- Documents have the point in place for first digits from the fifth place after it to the
sixteenth before it, and always sign the exponent; of two equally near decimals the even one is
written. -/
def document : Layout := ⟨.toEven, -5, 15, true⟩

/-- Documents write values of the 32-bit format with bounds of their own. -/
def documentSingle : Layout := ⟨.toEven, -6, 12, true⟩

end Layout

/-- Digits with a point after the first `whole` of them; a side with no digits is written `0`. -/
def pointed (digits : List Char) (whole : Nat) : List Char :=
  let fraction := digits.drop whole
  digits.take whole ++ List.replicate (whole - digits.length) '0' ++
    '.' :: (if fraction.isEmpty then ['0'] else fraction)

/-- The text of a decimal in a layout. -/
def text (layout : Layout) (d : Decimal) : List Char :=
  let digits := Nat.toDigits 10 d.digits
  let lead : Int := d.exponent + (digits.length : Int) - 1
  if d.digits = 0 then ['0', '.', '0']
  else if lead < layout.leastFixed ∨ layout.greatestFixed < lead then
    let mantissa := if digits.length = 1 then digits else pointed digits 1
    let sign := if lead < 0 then ['-'] else if layout.plusSign then ['+'] else []
    mantissa ++ 'e' :: sign ++ Nat.toDigits 10 lead.natAbs
  else if 0 ≤ lead then pointed digits (lead.toNat + 1)
  else '0' :: '.' :: (List.replicate ((-lead).toNat - 1) '0' ++ digits)

end Decimal

namespace Binary

variable {f : Format}

/-- The text of a finite value in a layout, with a sign also on a negative zero. -/
def finiteText (layout : Decimal.Layout) (negative : Bool) (rank : Nat) : List Char :=
  (if negative then ['-'] else []) ++ (f.shortest layout.tie rank).text layout

/-- The plain text of a value. -/
def text : Binary f → List Char
  | .nan => ['N', 'a', 'N']
  | .signed negative rank =>
    if rank.val < f.infinityRank then finiteText (f := f) .plain negative rank.val
    else if negative then ['-', 'i', 'n', 'f'] else ['i', 'n', 'f']

end Binary

end TreePath
