import TreePath.Proofs.Number.Coercion
import Mathlib.Tactic.Linarith

/-!
# Products of integers with whole factors

A whole factor of at most 64 bits multiplies an integer as an integer, and one beyond 64 bits takes
every integer but zero past both ends of its range, however its product is rounded. So the product
is the exact one, held to the range of the width, with one exception: the factor `2 ^ 63` is held to
64 bits before the multiplication, which shows in its product with minus one.
-/

namespace TreePath

namespace Binary

variable {f : Format} {x : Binary f} {k least greatest : Int} {negative : Bool}
  {r s : Fin (f.infinityRank + 1)} {z : Int}

/-! ## Whole values -/

/-- The exact value of a finite value, as a count of units with its sign. -/
def signedUnits? (x : Binary f) : Option Int :=
  x.finite?.map fun (negative, units) => signedInt negative units

theorem signedInt_mul {q u : Nat} : signedInt negative (q * u) = signedInt negative q * u := by
  cases negative <;> simp [signedInt]

theorem natAbs_signedInt {q : Nat} : (signedInt negative q).natAbs = q := by
  cases negative <;> simp [signedInt]

/-- A value is whole exactly if its units are those of an integer. -/
theorem whole?_eq_some_iff : x.whole? = some k ↔ x.signedUnits? = some (k * f.unitsInOne) := by
  have hpos : 0 < f.unitsInOne := unitsInOne_pos
  have hne : (f.unitsInOne : Int) ≠ 0 := by omega
  rw [whole?, signedUnits?]
  cases x.finite? with
  | none => simp
  | some finite =>
    obtain ⟨negative, units⟩ := finite
    simp only [Option.map_some, Option.some.injEq, Option.ite_none_right_eq_some]
    constructor
    · rintro ⟨hmod, rfl⟩
      rw [← signedInt_mul, Nat.div_mul_cancel (Nat.dvd_of_mod_eq_zero hmod)]
    · intro h
      have hunits : units = k.natAbs * f.unitsInOne := by
        have habs : (signedInt negative units).natAbs = units := natAbs_signedInt
        rw [← habs, h, Int.natAbs_mul, Int.natAbs_natCast]
      rw [hunits, signedInt_mul] at h
      rw [hunits, Nat.mul_mod_left, Nat.mul_div_cancel _ hpos]
      exact ⟨rfl, Int.eq_of_mul_eq_mul_right hne h⟩

theorem exists_signed {n : Int} (h : x.signedUnits? = some n) :
    ∃ (sign : Bool) (r : Fin (f.infinityRank + 1)), x = .signed sign r ∧
      r.val < f.infinityRank ∧ signedInt sign (f.units r.val) = n := by
  cases x with
  | nan => cases h
  | signed sign r =>
    simp only [signedUnits?, finite?] at h
    split at h
    · next hr => exact ⟨sign, r, rfl, hr, Option.some.inj h⟩
    · cases h

/-- A value has the sign of the integer that it is. -/
theorem sign_of_signedInt {units : Nat} (h : signedInt negative units = k * f.unitsInOne)
    (hk : k ≠ 0) : negative = decide (k < 0) := by
  have hpos : (0 : Int) < f.unitsInOne := by exact_mod_cast unitsInOne_pos
  rcases Int.lt_or_lt_of_ne hk with hneg | hpositive
  · have hvalue : k * f.unitsInOne < 0 := Int.mul_neg_of_neg_of_pos hneg hpos
    cases negative with
    | false =>
      rw [signedInt, if_neg (by decide)] at h
      omega
    | true => simp [hneg]
  · have hvalue : 0 < k * f.unitsInOne := Int.mul_pos hpositive hpos
    cases negative with
    | false => simp [hpositive.le]
    | true =>
      rw [signedInt, if_pos rfl] at h
      omega

/-! ## Zero -/

theorem round_zero {den : Nat} (hden : 0 < den) :
    (round negative 0 den : Binary f) = zero negative := by
  have hrank : f.nearestRank 0 den = 0 :=
    Nat.eq_zero_of_le_zero (Format.nearestRank_le hden (Nat.zero_le _))
  simp [round, zero, hrank]

theorem units_zero : f.units 0 = 0 := Format.units_of_lt (Nat.two_pow_pos _)

/-- Zero times a finite value is zero, which is in every range around it. -/
theorem clampToInt_ofInt_zero_mul (hr : r.val < f.infinityRank)
    (hzero : least ≤ 0 ∧ 0 ≤ greatest) :
    clampToInt least greatest ((ofInt 0 : Binary f).mul (.signed negative r)) = 0 := by
  have hpos : 0 < f.infinityRank := Nat.zero_lt_of_lt hr
  have hofInt : (ofInt 0 : Binary f) = zero false := by
    rw [ofInt, Int.natAbs_zero, Nat.zero_mul]
    exact round_zero Nat.one_pos
  have hproduct : (ofInt 0 : Binary f).mul (.signed negative r) = zero (false != negative) := by
    rw [hofInt, zero, mul, if_pos ⟨hpos, hr⟩, units_zero, Nat.zero_mul, round_zero unitsInOne_pos]
  rw [hproduct, zero]
  simp only [clampToInt, truncate?, finite?, hpos, if_true, Option.map_some, units_zero,
    Nat.zero_div]
  cases (false != negative) <;> simp [signedInt] <;> omega

/-! ## Values beyond a range -/

/-- A value that is no smaller than both ends of a range is held to the end of its sign. -/
theorem clampToInt_of_le (hzero : least ≤ 0 ∧ 0 ≤ greatest)
    (hleast : -least * f.unitsInOne ≤ f.units r.val)
    (hgreatest : greatest * f.unitsInOne ≤ f.units r.val) :
    clampToInt least greatest (.signed negative r : Binary f) =
      if negative then least else greatest := by
  have hpos : (0 : Int) < f.unitsInOne := by exact_mod_cast unitsInOne_pos
  have hquotient {bound : Int} (h : bound * f.unitsInOne ≤ f.units r.val) :
      bound ≤ (f.units r.val / f.unitsInOne : Nat) := by
    rw [Int.natCast_ediv]
    exact (Int.le_ediv_iff_mul_le hpos).mpr h
  have hbelow := hquotient hleast
  have habove := hquotient hgreatest
  simp only [clampToInt, truncate?, finite?]
  by_cases hfinite : r.val < f.infinityRank
  · simp only [hfinite, if_true, Option.map_some, signedInt]
    cases negative <;> simp <;> omega
  · simp [hfinite]

/-- An integer other than zero is rounded to a value of at least one. -/
theorem exists_ofInt (hz : z ≠ 0) (hfinite : (ofInt z : Binary f).isFinite) :
    ∃ r : Fin (f.infinityRank + 1), (ofInt z : Binary f) = .signed (z < 0) r ∧
      r.val < f.infinityRank ∧ f.unitsInOne ≤ f.units r.val := by
  have hrank := isFinite_round_iff.mp hfinite
  have hone : f.unitsInOne * 1 ≤ z.natAbs * f.unitsInOne := by
    rw [Nat.mul_one]
    exact Nat.le_mul_of_pos_left _ (Int.natAbs_pos.mpr hz)
  refine ⟨_, rfl, ?_, ?_⟩
  · exact (Nat.min_le_left _ _).trans_lt hrank
  · simpa only [Nat.min_eq_left hrank.le] using unitsInOne_le_units Nat.one_pos hone

/-- What is at least one in size makes no value smaller by multiplication. -/
theorem mul_signed (sign other : Bool) (hr : r.val < f.infinityRank)
    (hs : s.val < f.infinityRank) (hone : f.unitsInOne ≤ f.units r.val) :
    ∃ t : Fin (f.infinityRank + 1),
      (signed sign r : Binary f).mul (.signed other s) = .signed (sign != other) t ∧ s ≤ t := by
  refine ⟨_, by rw [mul, if_pos ⟨hr, hs⟩, round], ?_⟩
  refine Fin.mk_le_mk.mpr (Nat.le_min.mpr ⟨?_, hs.le⟩)
  refine Format.le_nearestRank unitsInOne_pos ?_
  rw [Nat.mul_comm]
  exact Nat.mul_le_mul_right _ hone

/-- An integer other than zero takes a value beyond a range to the end of the sign of the
product. -/
theorem clampToInt_ofInt_mul (hz : z ≠ 0) (hfinite : (ofInt z : Binary f).isFinite)
    (hs : s.val < f.infinityRank) (hzero : least ≤ 0 ∧ 0 ≤ greatest)
    (hleast : -least * f.unitsInOne ≤ f.units s.val)
    (hgreatest : greatest * f.unitsInOne ≤ f.units s.val) :
    clampToInt least greatest ((ofInt z : Binary f).mul (.signed negative s)) =
      if decide (z < 0) != negative then least else greatest := by
  obtain ⟨r, hofInt, hr, hone⟩ := exists_ofInt hz hfinite
  obtain ⟨t, hproduct, ht⟩ := mul_signed (decide (z < 0)) negative hr hs hone
  have hsize : (f.units s.val : Int) ≤ f.units t.val := by
    exact_mod_cast Format.units_le_of_le ht
  rw [hofInt, hproduct, clampToInt_of_le hzero (hleast.trans hsize) (hgreatest.trans hsize)]

end Binary

/-! ## Integers held to a width -/

namespace Sized

variable {w : Width} {z : Int}

theorem val_clamp_of_le (h : w.greatest ≤ z) : (clamp w z).val = w.greatest := by
  have hbounds := w.least_le_greatest
  simp only [clamp]
  omega

theorem val_clamp_of_ge (h : z ≤ w.least) : (clamp w z).val = w.least := by
  have hbounds := w.least_le_greatest
  simp only [clamp]
  omega

/-- Every width lies within 64 bits. -/
theorem clamp_clamp_w64 : clamp w (clamp .w64 z).val = clamp w z := by
  have hleast : Width.least .w64 ≤ w.least := by cases w <;> decide
  have hgreatest : w.greatest ≤ Width.greatest .w64 := by cases w <;> decide
  have hbounds := w.least_le_greatest
  simp only [clamp, Sized.mk.injEq]
  omega

end Sized

namespace Number

open Binary

variable {w : Width} {z : Sized w} {factor : Binary .double} {k : Int}

theorem times_of_within (h : factor.whole? = some k) (hlow : -2 ^ 63 ≤ k) (hhigh : k ≤ 2 ^ 63) :
    (int w z).times factor =
      .int w (Sized.clamp w (Sized.clamp .w64 (z.val * (Sized.clamp .w64 k).val)).val) := by
  have hwithin : (Width.least .w64 ≤ k && k ≤ (Nat.pow 2 63 : Nat)) = true := by
    simp only [Bool.and_eq_true, decide_eq_true_eq]
    exact ⟨hlow, hhigh⟩
  simp only [times, h, Option.filter_some, hwithin, if_true, int?, fromInt, kind]

theorem times_of_beyond (h : factor.whole? = some k) (hbeyond : k < -2 ^ 63 ∨ 2 ^ 63 < k) :
    (int w z).times factor = .int w
      (Sized.clamp w (((Binary.ofInt z.val).mul factor).clampToInt w.least w.greatest)) := by
  have hwithin : (Width.least .w64 ≤ k && k ≤ (Nat.pow 2 63 : Nat)) = false := by
    rw [Bool.eq_false_iff, ne_eq, Bool.and_eq_true, decide_eq_true_eq, decide_eq_true_eq]
    rintro ⟨hlow, hhigh⟩
    have hlow : -2 ^ 63 ≤ k := hlow
    have hhigh : k ≤ 2 ^ 63 := hhigh
    omega
  simp only [times, h, Option.filter_some, hwithin, Bool.false_eq_true, if_false, int?, fromDouble,
    toDouble, kind]

/-- The factor `2 ^ 63` and the greatest integer of 64 bits take every integer but minus one to the
same end of its range, and minus one only where the range is narrower. -/
theorem clamp_mul_greatest (z : Sized w) :
    Sized.clamp w (z.val * Width.greatest .w64) = Sized.clamp w (z.val * 2 ^ 63) ↔
      ¬ (w = .w64 ∧ z.val = -1) := by
  have hgreatest : Width.greatest .w64 = 9223372036854775807 := rfl
  simp only [Sized.clamp, Sized.mk.injEq, hgreatest]
  cases w <;> simp [Width.least, Width.greatest, Width.bits] <;> omega

/-- A factor that is larger than a range takes every integer but zero to an end of it. -/
theorem clamp_mul_of_beyond {m : Int} (hm : m ≠ 0) (hbeyond : k < -2 ^ 63 ∨ 2 ^ 63 < k) :
    (Sized.clamp w (m * k)).val =
      if decide (m < 0) != decide (k < 0) then w.least else w.greatest := by
  have hends : -2 ^ 63 ≤ w.least ∧ w.greatest ≤ 2 ^ 63 := by cases w <;> decide
  rcases Int.lt_or_lt_of_ne hm with hneg | hpos <;> rcases hbeyond with hlow | hhigh
  · have hproduct : w.greatest ≤ m * k := by nlinarith
    have hk : k < 0 := by omega
    simpa [hneg, hk] using Sized.val_clamp_of_le hproduct
  · have hproduct : m * k ≤ w.least := by nlinarith
    have hk : ¬ k < 0 := by omega
    simpa [hneg, hk] using Sized.val_clamp_of_ge hproduct
  · have hproduct : m * k ≤ w.least := by nlinarith
    have hk : k < 0 := by omega
    simpa [hpos.le, not_lt.mpr hpos.le, hk] using Sized.val_clamp_of_ge hproduct
  · have hproduct : w.greatest ≤ m * k := by nlinarith
    have hk : ¬ k < 0 := by omega
    simpa [not_lt.mpr hpos.le, hk] using Sized.val_clamp_of_le hproduct

/-- Beyond 64 bits the rounded product goes to the same end of the range as the exact one. -/
theorem times_beyond_eq_clamp (h : factor.signedUnits? = some (k * Format.double.unitsInOne))
    (hbeyond : k < -2 ^ 63 ∨ 2 ^ 63 < k) :
    (int w z).times factor = .int w (Sized.clamp w (z.val * k)) := by
  rw [times_of_beyond (whole?_eq_some_iff.mpr h) hbeyond]
  obtain ⟨sign, s, rfl, hs, hvalue⟩ := exists_signed h
  obtain rfl := sign_of_signedInt hvalue (by omega)
  have hzero : w.least ≤ 0 ∧ 0 ≤ w.greatest := by cases w <;> decide
  by_cases hz : z.val = 0
  · rw [hz, Int.zero_mul, clampToInt_ofInt_zero_mul hs hzero]
  have hunits : (Format.double.units s.val : Int) = k.natAbs * Format.double.unitsInOne := by
    have habs := congrArg Int.natAbs hvalue
    rw [natAbs_signedInt, Int.natAbs_mul, Int.natAbs_natCast] at habs
    exact_mod_cast habs
  have hbound {bound : Int} (h : bound ≤ 2 ^ 63) :
      bound * Format.double.unitsInOne ≤ Format.double.units s.val := by
    rw [hunits]
    exact Int.mul_le_mul_of_nonneg_right (by omega) (Int.natCast_nonneg _)
  have hends : -w.least ≤ 2 ^ 63 ∧ w.greatest ≤ 2 ^ 63 := by cases w <;> decide
  have hfinite : (Binary.ofInt z.val : Binary .double).isFinite :=
    Binary.isFinite_ofInt (by decide) (natAbs_le z)
  rw [clampToInt_ofInt_mul hz hfinite hs hzero (hbound hends.1) (hbound hends.2),
    ← clamp_mul_of_beyond hz hbeyond, Sized.clamp_val]

/-- The product of an integer and a whole factor is the exact product, held to the range of the
width, in all cases but one. -/
theorem times_eq_clamp_iff (h : factor.signedUnits? = some (k * Format.double.unitsInOne)) :
    (int w z).times factor = .int w (Sized.clamp w (z.val * k)) ↔
      ¬ (w = .w64 ∧ z.val = -1 ∧ k = 2 ^ 63) := by
  rcases Int.lt_or_le k (-2 ^ 63) with hlow | hlow
  · exact iff_of_true (times_beyond_eq_clamp h (.inl hlow)) (by omega)
  rcases Int.lt_or_le (2 ^ 63) k with hhigh | hhigh
  · exact iff_of_true (times_beyond_eq_clamp h (.inr hhigh)) (by omega)
  rw [times_of_within (whole?_eq_some_iff.mpr h) hlow hhigh, Sized.clamp_clamp_w64]
  by_cases heq : k = 2 ^ 63
  · subst heq
    have hfactor : (Sized.clamp .w64 (2 ^ 63)).val = Width.greatest .w64 :=
      Sized.val_clamp_of_le (by decide)
    rw [hfactor, Number.int.injEq, heq_iff_eq, eq_self, true_and, clamp_mul_greatest]
    simp only [and_true]
  · have hfactor : (Sized.clamp .w64 k).val = k := by
      have hgreatest : k ≤ Width.greatest .w64 := Int.le_sub_one_of_lt (lt_of_le_of_ne hhigh heq)
      have hleast : Width.least .w64 ≤ k := hlow
      exact congrArg Sized.val (Sized.clamp_val ⟨k, hleast, hgreatest⟩)
    rw [hfactor]
    exact iff_of_true rfl fun hand => heq hand.2.2

/-- Minus one times `2 ^ 64` is held to the least integer of 64 bits. -/
theorem times_eq_clamp_iff_beyond :
    let n : Sized .w64 := ⟨-1, by decide, by decide⟩
    let factor : Binary .double := .ofBits 0x43F0000000000000
    let k : Int := 2 ^ 64
    factor.signedUnits? = some (k * Format.double.unitsInOne) ∧
      (int .w64 n).times factor = .int .w64 (Sized.clamp .w64 (n.val * k)) ∧
      (Sized.clamp .w64 (n.val * k)).val = Width.least .w64 := by
  intro n factor k
  have hfactor : factor.signedUnits? = some (k * Format.double.unitsInOne) := by
    decide +kernel
  exact ⟨hfactor, (times_eq_clamp_iff hfactor).mpr (by decide), by decide⟩

/-- Minus one times `2 ^ 63` fits 64 bits, but the product that is formed is one above it. -/
theorem times_neg_one_ne_clamp :
    let n : Sized .w64 := ⟨-1, by decide, by decide⟩
    let factor : Binary .double := .ofBits 0x43E0000000000000
    let k : Int := 2 ^ 63
    factor.signedUnits? = some (k * Format.double.unitsInOne) ∧
      (Sized.clamp .w64 (n.val * k)).val = n.val * k ∧
      (int .w64 n).times factor = .int .w64 (Sized.clamp .w64 (n.val * k + 1)) ∧
      (int .w64 n).times factor ≠ .int .w64 (Sized.clamp .w64 (n.val * k)) := by
  decide +kernel

end Number

end TreePath
