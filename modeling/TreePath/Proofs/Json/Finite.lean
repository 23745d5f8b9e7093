import TreePath.Json.Numeral
import TreePath.Proofs.Number.Coercion
import TreePath.Proofs.Outcome

/-!
# Numbers that are read are finite

At most 64 bits of digits are taken, which is a finite value; dividing it by powers of ten that are
at least one keeps it finite, and where it is multiplied by one the result is tested.
-/

namespace TreePath.Json.Numeral

open Binary

variable {x : Binary .double} {exponent n : Nat} {text : List Char} {numeral : Numeral}

/-! ## Powers of ten -/

/-- The greatest power of ten is below the largest finite value, with `u` the exponent of its
units. -/
theorem pow_greatestPower_le (u : Nat) :
    10 ^ greatestPower * 2 ^ u ≤ (2 ^ 53 - 1) * 2 ^ (243 + (243 + (243 + (242 + u)))) := by
  have hsplit : greatestPower = 154 + 154 := rfl
  have hle : 10 ^ 154 * 10 ^ 154 ≤ (2 ^ 53 - 1) * (2 ^ 243 * (2 ^ 243 * (2 ^ 243 * 2 ^ 242))) := by
    decide +kernel
  rw [hsplit]
  simp only [Nat.pow_add, ← Nat.mul_assoc] at hle ⊢
  exact Nat.mul_le_mul_right _ hle

theorem powerOfTen_eq (h : exponent ≤ greatestPower) :
    powerOfTen exponent = round false (10 ^ exponent * Format.double.unitsInOne) 1 := by
  have hexponent : exponent ≤ 308 := h
  have hreach : ((Nat.pow 2 Format.double.exponentBits : Nat) : Int) = 2048 := rfl
  rw [powerOfTen, ofDecimal, if_neg Nat.one_ne_zero, if_neg, if_neg, if_pos (Int.natCast_nonneg _)]
  · simp
  · omega
  · omega

/-- A power of ten is a finite value and at least one. -/
theorem exists_powerOfTen (h : exponent ≤ greatestPower) :
    ∃ rank, powerOfTen exponent = .signed false rank ∧ rank.val < Format.double.infinityRank ∧
      Format.double.unitsInOne ≤ Format.double.units rank.val := by
  have hle : 10 ^ exponent * Format.double.unitsInOne ≤
      10 ^ greatestPower * 2 ^ Format.double.unitExponent := by
    rw [unitsInOne_eq]
    exact Nat.mul_le_mul_right _ (Nat.pow_le_pow_right (by decide) h)
  have hlargest := Format.units_scaled (f := .double) (m := 2 ^ 53 - 1)
    (t := 243 + (243 + (243 + (242 + Format.double.unitExponent)))) (by decide) (by decide)
  have hlarge : 10 ^ exponent * Format.double.unitsInOne ≤ Format.double.units
      ((243 + (243 + (243 + (242 + Format.double.unitExponent)))) *
        2 ^ Format.double.fractionBits + (2 ^ 53 - 1)) * 1 := by
    rw [Nat.mul_one, hlargest]
    exact hle.trans (pow_greatestPower_le _)
  have hrank : Format.double.nearestRank (10 ^ exponent * Format.double.unitsInOne) 1 <
      Format.double.infinityRank :=
    Nat.lt_of_le_of_lt (Format.nearestRank_le Nat.one_pos hlarge) (by decide)
  have hone : Format.double.unitsInOne * 1 ≤ 10 ^ exponent * Format.double.unitsInOne := by
    rw [Nat.mul_one]
    exact Nat.le_mul_of_pos_left _ (Nat.pow_pos (by decide))
  refine ⟨_, powerOfTen_eq h, Nat.lt_of_le_of_lt (Nat.min_le_left _ _) hrank, ?_⟩
  simp only [Nat.min_eq_left hrank.le]
  exact unitsInOne_le_units Nat.one_pos hone

theorem isFinite_div_powerOfTen (hx : x.isFinite) (h : exponent ≤ greatestPower) :
    (x.div (powerOfTen exponent)).isFinite := by
  obtain ⟨rank, heq, hrank, hone⟩ := exists_powerOfTen h
  rw [heq]
  exact isFinite_div hx hrank hone

theorem isFinite_divideByPower {places : Nat} (hx : x.isFinite) :
    (divideByPower x places).isFinite := by
  fun_induction divideByPower x places with
  | case1 x places hplaces => exact isFinite_div_powerOfTen hx hplaces
  | case2 x places _ _ => exact hx
  | case3 x places _ _ ih => exact ih (isFinite_div_powerOfTen hx (Nat.le_refl _))

/-! ## Digits -/

theorem takeDigits_lt (h : n < 2 ^ 64) : (takeDigits n text).1 < 2 ^ 64 := by
  fun_induction takeDigits n text with
  | case1 n => exact h
  | case2 n d rest next hnext ih => exact ih hnext
  | case3 n d rest next hnext => exact h

theorem isFinite_integer {negative : Bool} (h : n < 2 ^ 64) : (integer negative n).isFinite := by
  have hfinite : (Binary.ofInt (n : Int) : Binary .double).isFinite :=
    isFinite_ofInt (by decide) (by simpa using h.le)
  rw [integer]
  split
  · split
    · exact Number.isFinite_ofInt
    · exact isFinite_neg.trans hfinite
  · split
    · exact Number.isFinite_ofInt
    · exact hfinite

/-- What is scaled by a power of ten is finite where the result is not refused. -/
theorem isFinite_scale {negative : Bool} {exponent : Int} (hn : n < 2 ^ 64)
    (h : scale negative n exponent = .ok x) : x.isFinite := by
  have hdigits : (Binary.ofInt (n : Int) : Binary .double).isFinite :=
    isFinite_ofInt (by decide) (by simpa using hn.le)
  have hsigned {y : Binary .double} (hy : y.isFinite) :
      (if negative then y.neg else y).isFinite := by
    split
    · rwa [isFinite_neg]
    · exact hy
  simp only [scale] at h
  split at h
  · cases h
    exact hsigned (isFinite_divideByPower hdigits)
  · split at h
    · split at h
      · next hfinite =>
        cases h
        exact hsigned hfinite
      · cases h
    · split at h
      · cases h
        exact hsigned hdigits
      · cases h

/-- Every number that is read from a document is finite. -/
theorem isFinite_of_value {m : Number} (h : value numeral = .ok m) : m.isFinite := by
  have hwhole : (takeDigits 0 numeral.whole).1 < 2 ^ 64 := takeDigits_lt (by decide)
  simp only [value] at h
  split at h
  · cases h
    exact isFinite_integer hwhole
  · obtain ⟨x, hx, rfl⟩ := map_eq_ok.mp h
    exact isFinite_scale (takeDigits_lt hwhole) hx

end TreePath.Json.Numeral
