/-! # Binary floating point formats

A format says how many bits hold the fraction of a number and how many its exponent. The
nonnegative values of a format, infinity included, are numbered from 0 upward in order of size;
the number of a value is its *rank*. `Format.units` gives the value of a rank as a count of the
smallest positive value, so every finite value is a natural number of units and all arithmetic
below is exact. -/

namespace TreePath

/-- A binary format: the bits of the fraction and the bits of the exponent. -/
structure Binary.Format where
  fractionBits : Nat
  exponentBits : Nat
deriving DecidableEq, Repr

namespace Binary.Format

/-- The 32-bit format. -/
def single : Format := ⟨23, 8⟩

/-- The 64-bit format. -/
def double : Format := ⟨52, 11⟩

/-- One unit of the format is `2 ^ (-unitExponent)`, its smallest positive value. -/
def unitExponent (f : Format) : Nat :=
  Nat.pow 2 (f.exponentBits - 1) - 2 + f.fractionBits

/-- The number of units in one. -/
def unitsInOne (f : Format) : Nat :=
  Nat.pow 2 f.unitExponent

/-- The rank of infinity, one above the rank of the largest finite value. -/
def infinityRank (f : Format) : Nat :=
  (Nat.pow 2 f.exponentBits - 1) * Nat.pow 2 f.fractionBits

/-- The value of a rank, in units. A binade is a run of `2 ^ fractionBits` ranks; the spacing is
one unit in the first two binades and doubles with every binade after that. -/
def units (f : Format) (rank : Nat) : Nat :=
  let binade := rank / Nat.pow 2 f.fractionBits
  let fraction := rank % Nat.pow 2 f.fractionBits
  if binade = 0 then fraction else (Nat.pow 2 f.fractionBits + fraction) * Nat.pow 2 (binade - 1)

end Binary.Format

/-- A value of a binary format: not a number, or a sign and the rank of a magnitude. -/
inductive Binary (f : Binary.Format) where
  | nan
  | signed (negative : Bool) (rank : Fin (f.infinityRank + 1))
deriving DecidableEq, Repr

namespace Binary

variable {f : Format}

/-- Neither infinite nor not-a-number. -/
def isFinite : Binary f → Bool
  | .nan => false
  | .signed _ rank => rank.val < f.infinityRank

/-- The sign and the magnitude in units of a finite value. -/
def finite? : Binary f → Option (Bool × Nat)
  | .nan => none
  | .signed negative rank =>
    if rank.val < f.infinityRank then some (negative, f.units rank.val) else none

/-- The comparison `==` of numbers: not-a-number differs from everything, and the two zeros are
equal. -/
def equals : Binary f → Binary f → Bool
  | .signed n r, .signed m s => r == s && (n == m || r.val == 0)
  | _, _ => false

/-- The same magnitude with the other sign. -/
def neg : Binary f → Binary f
  | .nan => .nan
  | .signed negative rank => .signed (!negative) rank

/-- The infinity of a sign. -/
def infinity (negative : Bool) : Binary f :=
  .signed negative ⟨f.infinityRank, Nat.lt_succ_self _⟩

/-- The zero of a sign. -/
def zero (negative : Bool) : Binary f :=
  .signed negative ⟨0, Nat.succ_pos _⟩

/-- The interchange bits as a number: the sign above the rank. Every not-a-number is written with
the first fraction bit set. -/
def toBits : Binary f → Nat
  | .nan => f.infinityRank + Nat.pow 2 (f.fractionBits - 1)
  | .signed negative rank =>
    (if negative then Nat.pow 2 (f.fractionBits + f.exponentBits) else 0) + rank.val

/-- The value of interchange bits; bits above the format's width are ignored. -/
def ofBits (bits : Nat) : Binary f :=
  let signBit := Nat.pow 2 (f.fractionBits + f.exponentBits)
  let rank := bits % signBit
  if h : rank < f.infinityRank + 1 then .signed (bits / signBit % 2 == 1) ⟨rank, h⟩ else .nan

end Binary

end TreePath
