import TreePath.Proofs.Binary.Rounding
import TreePath.Proofs.Number

/-!
# Numbers in another class

A number that is written in a class has that class, and in its own class it stays what it is. A
finite number is finite in every class; a product can only be finite if the number was.
-/

namespace TreePath.Number

variable {n : Number} {k : NumberKind} {z : Int} {x factor : Binary .double}

@[simp] theorem kind_fromInt : (fromInt z k).kind = k := by
  cases k <;> rfl

@[simp] theorem kind_fromDouble : (fromDouble x k).kind = k := by
  match k with
  | .int _ | .float .single | .float .double => rfl

@[simp] theorem kind_coerceTo : (n.coerceTo k).kind = k := by
  rw [coerceTo]
  split
  · exact kind_fromInt
  · exact kind_fromDouble

@[simp] theorem kind_times : (n.times factor).kind = n.kind := by
  rw [times]
  split
  · exact kind_fromInt
  · exact kind_fromDouble

/-- A number is already in its own class. -/
theorem coerceTo_self : n.coerceTo n.kind = n := by
  match n with
  | .int w z => exact congrArg (int w) (Sized.clamp_val z)
  | .float .single x =>
    exact congrArg (float .single) (Binary.convertFinite_convert Binary.embeds_single_double)
  | .float .double x => rfl

/-! ## Finite numbers -/

theorem isFinite_ofInt : (ofInt z).isFinite := by
  rw [ofInt]
  split <;> rfl

theorem isFinite_fromInt (hz : z.natAbs ≤ 2 ^ 64) : (fromInt z k).isFinite := by
  match k with
  | .int _ => rfl
  | .float .single => exact Binary.isFinite_ofInt (by decide) hz
  | .float .double => exact Binary.isFinite_ofInt (by decide) hz

theorem isFinite_fromDouble (h : x.isFinite) : (fromDouble x k).isFinite := by
  match k with
  | .int _ => rfl
  | .float .single => exact (Binary.isFinite_convertFinite (by decide)).trans h
  | .float .double => exact h

theorem natAbs_le {w : Width} (z : Sized w) : z.val.natAbs ≤ 2 ^ 64 := by
  have hleast : -9223372036854775808 ≤ z.val := z.wide.least_le
  have hgreatest : z.val ≤ 9223372036854775807 := z.wide.le_greatest
  omega

theorem isFinite_toDouble (h : n.isFinite) : n.toDouble.isFinite := by
  match n with
  | .int _ z => exact Binary.isFinite_ofInt (by decide) (natAbs_le z)
  | .float .single x => exact Binary.isFinite_convert Binary.embeds_single_double h
  | .float .double x => exact h

theorem isFinite_coerceTo (h : n.isFinite) : (n.coerceTo k).isFinite := by
  match n with
  | .int _ z => exact isFinite_fromInt (natAbs_le z)
  | .float .single x => exact isFinite_fromDouble (isFinite_toDouble h)
  | .float .double x => exact isFinite_fromDouble h

/-- A number that is not finite stays so under multiplication. -/
theorem isFinite_of_times (h : (n.times factor).isFinite) : n.isFinite := by
  match n with
  | .int _ _ => rfl
  | .float .single x =>
    have hproduct : ((x.convert : Binary .double).mul factor).isFinite :=
      (Binary.isFinite_convertFinite (by decide)).symm.trans h
    exact Binary.isFinite_of_convert (Binary.isFinite_of_mul hproduct)
  | .float .double x => exact Binary.isFinite_of_mul h

end TreePath.Number
