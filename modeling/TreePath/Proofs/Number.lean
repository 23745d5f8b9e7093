import TreePath.Number

/-!
# Classes of integers

Every integer of a width fits 64 bits. Where it has lost its width it takes 32 bits if it fits
them, and else 64, and doing so again changes nothing.
-/

namespace TreePath

/-- An integer, of any width. -/
def Number.isInteger (n : Number) : Bool := !n.kind.isFloat

/-! ## Widths -/

namespace Sized

variable {w : Width} {z : Int}

/-- The same integer in 64 bits. -/
def wide (n : Sized w) : Sized .w64 where
  val := n.val
  least_le := Int.le_trans (by cases w <;> decide) n.least_le
  le_greatest := Int.le_trans n.le_greatest (by cases w <;> decide)

theorem clamp_val (n : Sized w) : clamp w n.val = n := by
  obtain ⟨z, hleast, hgreatest⟩ := n
  simp only [clamp, Sized.mk.injEq]
  omega

theorem val_of_ofInt? {n : Sized w} (h : ofInt? w z = some n) : n.val = z := by
  simp only [ofInt?] at h
  split at h <;> cases h
  rfl

theorem ofInt?_eq_none : ofInt? w z = none ↔ z < w.least ∨ w.greatest < z := by
  simp only [ofInt?]
  split <;> simp <;> omega

/-- An integer that does not fit 32 bits still does not when it is held to 64 bits. -/
theorem ofInt?_clamp (h : ofInt? .w32 z = none) : ofInt? .w32 (clamp .w64 z).val = none := by
  have hleast : Width.least .w64 < Width.least .w32 := by decide
  have hgreatest : Width.greatest .w32 < Width.greatest .w64 := by decide
  rw [ofInt?_eq_none] at h ⊢
  simp only [clamp]
  omega

end Sized

/-! ## The class of an integer that has no other -/

namespace Number

/-- The number without its width: an integer in 32 bits if it fits them, else in 64. -/
def unclassed (n : Number) : Number :=
  match n with
  | .int _ z =>
    match Sized.ofInt? .w32 z.val with
    | some small => .int .w32 small
    | none => .int .w64 z.wide
  | .float _ _ => n

theorem unclassed_int {w : Width} (n : Sized w) : (int w n).unclassed = ofInt n.val := by
  have hwide : Sized.clamp .w64 n.val = n.wide := Sized.clamp_val n.wide
  cases hsmall : Sized.ofInt? .w32 n.val <;> simp only [unclassed, ofInt, hsmall, hwide]

theorem unclassed_ofInt (z : Int) : (ofInt z).unclassed = ofInt z := by
  cases hsmall : Sized.ofInt? .w32 z with
  | some small => simp only [ofInt, hsmall, unclassed_int, Sized.val_of_ofInt? hsmall]
  | none => simp only [ofInt, hsmall, unclassed_int, Sized.ofInt?_clamp hsmall, Sized.clamp_val]

end Number

end TreePath
