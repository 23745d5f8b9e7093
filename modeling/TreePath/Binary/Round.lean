import TreePath.Binary.Format

/-! # Rounding to the nearest value

A nonnegative quotient of natural numbers, measured in units of a format, is rounded to the rank
of the nearest value. A quotient halfway between two values goes to the even rank, and one at or
beyond the midpoint above the largest finite value goes to infinity. -/

namespace TreePath.Binary

namespace Format

variable (f : Format)

/-- The rank of the value nearest to `num / den` units, with no upper end: ranks past the rank of
infinity go on doubling their spacing. `shift` is the binade of the quotient beyond the first two,
and `gap` the spacing there, scaled by `den`. -/
def nearestRank (num den : Nat) : Nat :=
  let shift := (num / den).log2 - f.fractionBits
  let gap := Nat.pow 2 shift * den
  let rank := shift * Nat.pow 2 f.fractionBits + num / gap
  let rest := num % gap
  if 2 * rest < gap then rank
  else if gap < 2 * rest then rank + 1
  else rank + rank % 2

end Format

variable {f : Format}

/-- The value nearest to `num / den` units, with a sign. -/
def round (negative : Bool) (num den : Nat) : Binary f :=
  .signed negative
    ⟨min (f.nearestRank num den) f.infinityRank, Nat.lt_succ_of_le (Nat.min_le_right _ _)⟩

/-- The finite value nearest to `num / den` units: what would round to infinity stays at the
largest finite value. -/
def roundFinite (negative : Bool) (num den : Nat) : Binary f :=
  .signed negative
    ⟨min (f.nearestRank num den) (f.infinityRank - 1),
      Nat.lt_succ_of_le (Nat.le_trans (Nat.min_le_right _ _) (Nat.sub_le _ _))⟩

/-- The value nearest to an integer. -/
def ofInt (z : Int) : Binary f :=
  round (z < 0) (z.natAbs * f.unitsInOne) 1

/-- The value nearest to `± digits * 10 ^ exponent`. Beyond `2 ^ exponentBits` decimal places on
either side of the point the answer is infinity or zero, and no power of ten is formed. -/
def ofDecimal (negative : Bool) (digits : Nat) (exponent : Int) : Binary f :=
  let reach : Int := Nat.pow 2 f.exponentBits
  if digits = 0 then zero negative
  else if reach < exponent then infinity negative
  else if exponent + ((digits.log2 + 1 : Nat) : Int) < -reach then zero negative
  else if 0 ≤ exponent then round negative (digits * Nat.pow 10 exponent.toNat * f.unitsInOne) 1
  else round negative (digits * f.unitsInOne) (Nat.pow 10 (-exponent).toNat)

end TreePath.Binary
