import TreePath.Binary.Round

/-! # Arithmetic on binary values

Products and quotients are formed exactly in units and rounded once. Integers are cut out of a
value by truncation toward zero, and clamped where a range is asked for. -/

namespace TreePath.Binary

variable {f : Format}

/-- The product, rounded to nearest. -/
def mul : Binary f → Binary f → Binary f
  | .signed n r, .signed m s =>
    if r.val < f.infinityRank ∧ s.val < f.infinityRank then
      round (n != m) (f.units r.val * f.units s.val) f.unitsInOne
    else if r.val = 0 ∨ s.val = 0 then .nan
    else infinity (n != m)
  | _, _ => .nan

/-- The quotient, rounded to nearest. -/
def div : Binary f → Binary f → Binary f
  | .signed n r, .signed m s =>
    if r.val < f.infinityRank then
      if s.val = 0 then (if r.val = 0 then .nan else infinity (n != m))
      else if s.val < f.infinityRank then
        round (n != m) (f.units r.val * f.unitsInOne) (f.units s.val)
      else zero (n != m)
    else if s.val < f.infinityRank then infinity (n != m)
    else .nan
  | _, _ => .nan

/-- The integer of a sign and a magnitude. -/
def signedInt (negative : Bool) (magnitude : Nat) : Int :=
  if negative then -(magnitude : Int) else magnitude

/-- The integer part of a finite value: its magnitude rounded down, with its sign. -/
def truncate? (x : Binary f) : Option Int :=
  x.finite?.map fun (negative, units) => signedInt negative (units / f.unitsInOne)

/-- The value as an integer, if it is finite and has no fractional part. -/
def whole? (x : Binary f) : Option Int :=
  match x.finite? with
  | some (negative, units) =>
    if units % f.unitsInOne = 0 then some (signedInt negative (units / f.unitsInOne)) else none
  | none => none

/-- The truncated value held to the range from `least` to `greatest`: an infinity gives the bound
of its sign, and not-a-number gives zero. -/
def clampToInt (least greatest : Int) (x : Binary f) : Int :=
  match x with
  | .nan => 0
  | .signed negative _ =>
    match x.truncate? with
    | some z => max least (min greatest z)
    | none => if negative then least else greatest

variable {g : Format}

/-- The nearest value of another format. -/
def convert : Binary f → Binary g
  | .nan => .nan
  | .signed negative rank =>
    if rank.val < f.infinityRank then
      round negative (f.units rank.val * g.unitsInOne) f.unitsInOne
    else infinity negative

/-- The nearest value of another format, where a finite value stays finite. -/
def convertFinite : Binary f → Binary g
  | .nan => .nan
  | .signed negative rank =>
    if rank.val < f.infinityRank then
      roundFinite negative (f.units rank.val * g.unitsInOne) f.unitsInOne
    else infinity negative

end TreePath.Binary
