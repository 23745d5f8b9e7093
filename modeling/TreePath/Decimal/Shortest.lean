import TreePath.Binary.Format

/-! # Shortest decimals

The shortest decimal of a finite value is one with the fewest digits among those that round back
to the value, and of these the nearest to it. It is found by trying 1, 2, … digits: with a given
number of digits only the two neighbours of the value on that grid can qualify. -/

namespace TreePath

/-- The decimal number `digits * 10 ^ exponent`. -/
structure Decimal where
  digits : Nat
  exponent : Int
deriving DecidableEq, Repr

namespace Decimal

/-- Which of two equally near decimals is taken. -/
inductive Tie where
  | up
  | toEven
deriving DecidableEq, Repr

/-- The number of decimal digits of a natural number. -/
def digitCount (n : Nat) : Nat :=
  (Nat.toDigits 10 n).length

/-- The exponent `e` with `10 ^ e ≤ num / den < 10 ^ (e + 1)`, for a positive quotient. -/
def leadingExponent (num den : Nat) : Int :=
  if den ≤ num then (digitCount (num / den) : Int) - 1
  else -(digitCount ((den - 1) / num) : Int)

end Decimal

namespace Binary.Format

variable (f : Format)

/-- With this many digits every value of the format has a decimal that rounds back to it. -/
def sufficientDigits : Nat :=
  2 + (f.fractionBits + 1) * 30103 / 100000

/-- Whether the decimal `num / den` rounds to the value of a rank: it lies between the midpoints
to the neighbouring values, which themselves count for an even rank only. -/
def roundsTo (rank num den : Nat) : Bool :=
  let low := (f.units rank + f.units (rank - 1)) * den
  let high := (f.units rank + f.units (rank + 1)) * den
  let here := 2 * num * f.unitsInOne
  if rank % 2 = 0 then low ≤ here && here ≤ high else low < here && here < high

/-- The nearer of the two neighbours of a value on the grid of `count` digits, among those that
round back to the value. -/
def decimalOf? (tie : Decimal.Tie) (rank count : Nat) : Option Decimal :=
  let lead := Decimal.leadingExponent (f.units rank) f.unitsInOne
  let places : Int := count - 1 - lead
  let scaleUp := Nat.pow 10 places.toNat
  let scaleDown := Nat.pow 10 (-places).toNat
  let num := f.units rank * scaleUp
  let den := f.unitsInOne * scaleDown
  let below := num / den
  let rest := num % den
  let fits (c : Nat) : Bool := f.roundsTo rank (c * scaleDown) scaleUp
  let decimal (c : Nat) : Decimal :=
    if c = Nat.pow 10 count then ⟨1, lead + 1⟩ else ⟨c, -places⟩
  let preferAbove : Bool :=
    if 2 * rest = den then tie == .up || below % 2 == 1 else den < 2 * rest
  match fits below, fits (below + 1) with
  | true, true => some (decimal (if preferAbove then below + 1 else below))
  | true, false => some (decimal below)
  | false, true => some (decimal (below + 1))
  | false, false => none

/-- The shortest decimal of the finite value of a rank. -/
def shortest (tie : Decimal.Tie) (rank : Nat) : Decimal :=
  if rank = 0 then ⟨0, 0⟩
  else
    ((List.range f.sufficientDigits).findSome? fun n => f.decimalOf? tie rank (n + 1)).getD ⟨0, 0⟩

end Binary.Format

end TreePath
