import TreePath.Decimal.Shortest
import TreePath.Proofs.Binary.Rounding

/-!
# Shortest decimals

The decimal that is found for a value has at most the number of digits that were tried, and if it
is an integer it is not above the midpoint to the next value. Nothing is said here of a value for
which none is found.
-/

namespace TreePath

namespace Decimal

variable {n num den : Nat}

theorem lt_pow_digitCount : n < 10 ^ digitCount n :=
  (Nat.length_toDigits_le_iff (by decide) Nat.length_toDigits_pos).mp (Nat.le_refl _)

theorem digitCount_pos : 0 < digitCount n :=
  Nat.length_toDigits_pos

theorem pow_digitCount_le (h : 0 < n) : 10 ^ (digitCount n - 1) ≤ n := by
  by_cases hone : digitCount n - 1 = 0
  · rw [hone]
    exact h
  · by_contra hlt
    have hle : digitCount n ≤ digitCount n - 1 :=
      (Nat.length_toDigits_le_iff (by decide) (by omega)).mpr (Nat.lt_of_not_le hlt)
    omega

/-- A quotient is less than the power of ten above its leading digit. -/
theorem lt_pow_leadingExponent (hnum : 0 < num) (hden : 0 < den) :
    num * 10 ^ (-(leadingExponent num den + 1)).toNat <
      10 ^ (leadingExponent num den + 1).toNat * den := by
  by_cases hle : den ≤ num
  · have hlead : leadingExponent num den + 1 = (digitCount (num / den) : Int) := by
      rw [leadingExponent, if_pos hle]
      omega
    rw [hlead, Int.toNat_natCast, Int.toNat_neg_natCast, Nat.pow_zero, Nat.mul_one]
    exact (Nat.div_lt_iff_lt_mul hden).mp lt_pow_digitCount
  · have hpos : 0 < (den - 1) / num := Nat.div_pos (by omega) hnum
    have hlead : -(leadingExponent num den + 1) =
        ((digitCount ((den - 1) / num) - 1 : Nat) : Int) := by
      have hcount := digitCount_pos (n := (den - 1) / num)
      rw [leadingExponent, if_neg hle]
      omega
    have hbelow : num * 10 ^ (digitCount ((den - 1) / num) - 1) ≤ den - 1 := by
      rw [Nat.mul_comm]
      exact (Nat.le_div_iff_mul_le hnum).mp (pow_digitCount_le hpos)
    have habove : (leadingExponent num den + 1).toNat = 0 := by omega
    rw [hlead, Int.toNat_natCast, habove, Nat.pow_zero, Nat.one_mul]
    omega

end Decimal

namespace Binary.Format

open Decimal

variable {f : Format} {tie : Tie} {rank count num den : Nat} {d : Decimal}

/-- What rounds to a value is not above the midpoint to the next one. -/
theorem le_of_roundsTo (h : f.roundsTo rank num den) :
    2 * num * f.unitsInOne ≤ (f.units rank + f.units (rank + 1)) * den := by
  simp only [roundsTo] at h
  split at h
  · exact of_decide_eq_true (Bool.and_eq_true_iff.mp h).2
  · exact (of_decide_eq_true (Bool.and_eq_true_iff.mp h).2 : _ < _).le

/-- A decimal that is found on the grid of some digits is one of the neighbours of the value. -/
theorem exists_of_decimalOf? (h : f.decimalOf? tie rank count = some d) :
    let lead := leadingExponent (f.units rank) f.unitsInOne
    let places : Int := count - 1 - lead
    ∃ c, c ≤ f.units rank * 10 ^ places.toNat / (f.unitsInOne * 10 ^ (-places).toNat) + 1 ∧
      f.roundsTo rank (c * 10 ^ (-places).toNat) (10 ^ places.toNat) ∧
      d = if c = 10 ^ count then ⟨1, lead + 1⟩ else ⟨c, -places⟩ := by
  intro lead places
  simp only [decimalOf?, Nat.pow_eq] at h
  split at h
  · next hbelow habove =>
    cases h
    refine ⟨_, ?_, ?_, rfl⟩
    · split_ifs <;> first | exact Nat.le_refl _ | exact Nat.le_succ _
    · split_ifs <;> assumption
  · next hbelow _ =>
    cases h
    exact ⟨_, Nat.le_succ _, hbelow, rfl⟩
  · next _ habove =>
    cases h
    exact ⟨_, Nat.le_refl _, habove, rfl⟩
  · cases h

/-- No more digits are found than were asked for. -/
theorem digits_lt_of_decimalOf? (hrank : 0 < f.units rank) (hcount : 0 < count)
    (h : f.decimalOf? tie rank count = some d) : d.digits < 10 ^ count := by
  obtain ⟨c, hle, -, rfl⟩ := exists_of_decimalOf? h
  have hlead := lt_pow_leadingExponent hrank (unitsInOne_pos (f := f))
  generalize leadingExponent (f.units rank) f.unitsInOne = lead at hle hlead
  have hcell : f.units rank * 10 ^ ((count : Int) - 1 - lead).toNat /
      (f.unitsInOne * 10 ^ (-((count : Int) - 1 - lead)).toNat) < 10 ^ count := by
    refine (Nat.div_lt_iff_lt_mul (Nat.mul_pos unitsInOne_pos (Nat.pow_pos (by decide)))).mpr ?_
    -- Both sides are scaled, so that all exponents are natural numbers.
    have hexponents : ((count : Int) - 1 - lead).toNat + (lead + 1).toNat =
        count + (-((count : Int) - 1 - lead)).toNat + (-(lead + 1)).toNat := by omega
    refine Nat.lt_of_mul_lt_mul_right (a := 10 ^ (-(lead + 1)).toNat) ?_
    calc f.units rank * 10 ^ ((count : Int) - 1 - lead).toNat * 10 ^ (-(lead + 1)).toNat
        = 10 ^ ((count : Int) - 1 - lead).toNat * (f.units rank * 10 ^ (-(lead + 1)).toNat) := by
          ring
      _ < 10 ^ ((count : Int) - 1 - lead).toNat * (10 ^ (lead + 1).toNat * f.unitsInOne) :=
          Nat.mul_lt_mul_of_pos_left hlead (Nat.pow_pos (by decide))
      _ = 10 ^ (((count : Int) - 1 - lead).toNat + (lead + 1).toNat) * f.unitsInOne := by ring
      _ = 10 ^ count * (f.unitsInOne * 10 ^ (-((count : Int) - 1 - lead)).toNat) *
          10 ^ (-(lead + 1)).toNat := by
          rw [hexponents]
          ring
  split
  · exact Nat.one_lt_pow hcount.ne' (by decide)
  · simp only
    omega

/-- An integer decimal of a value is not above the midpoint to the next value. -/
theorem le_of_decimalOf? (h : f.decimalOf? tie rank count = some d) (hd : 0 ≤ d.exponent) :
    2 * (d.digits * 10 ^ d.exponent.toNat) * f.unitsInOne ≤
      f.units rank + f.units (rank + 1) := by
  obtain ⟨c, -, hrounds, rfl⟩ := exists_of_decimalOf? h
  have hle := le_of_roundsTo hrounds
  generalize leadingExponent (f.units rank) f.unitsInOne = lead at hle hd ⊢
  split at hd
  · next hc =>
    have hlead : 0 ≤ lead + 1 := hd
    have hexponents : ((count : Int) - 1 - lead).toNat + (lead + 1).toNat =
        count + (-((count : Int) - 1 - lead)).toNat := by omega
    rw [if_pos hc]
    refine Nat.le_of_mul_le_mul_right (c := 10 ^ ((count : Int) - 1 - lead).toNat) ?_
      (Nat.pow_pos (by decide))
    calc 2 * (1 * 10 ^ (lead + 1).toNat) * f.unitsInOne * 10 ^ ((count : Int) - 1 - lead).toNat
        = 2 * 10 ^ (((count : Int) - 1 - lead).toNat + (lead + 1).toNat) * f.unitsInOne := by ring
      _ = 2 * (c * 10 ^ (-((count : Int) - 1 - lead)).toNat) * f.unitsInOne := by
          rw [hexponents, hc]
          ring
      _ ≤ _ := hle
  · next hc =>
    rw [if_neg hc]
    have hneg : 0 ≤ -((count : Int) - 1 - lead) := hd
    have hplaces : ((count : Int) - 1 - lead).toNat = 0 := by omega
    rwa [hplaces, Nat.pow_zero, Nat.mul_one] at hle

/-- The decimal of a value is found on the grid of some digits, if it is not zero. -/
theorem shortest_cases (f : Format) (tie : Tie) (rank : Nat) : f.shortest tie rank = ⟨0, 0⟩ ∨
    0 < rank ∧ ∃ count, 0 < count ∧ count ≤ f.sufficientDigits ∧
      f.decimalOf? tie rank count = some (f.shortest tie rank) := by
  rw [shortest]
  split
  · exact .inl rfl
  · next hrank =>
    cases hfound : (List.range f.sufficientDigits).findSome? fun n =>
        f.decimalOf? tie rank (n + 1) with
    | none => exact .inl rfl
    | some d =>
      obtain ⟨n, hn, hd⟩ := List.exists_of_findSome?_eq_some hfound
      exact .inr ⟨Nat.pos_of_ne_zero hrank, n + 1, Nat.succ_pos n, List.mem_range.mp hn, hd⟩

theorem digits_shortest_lt : (f.shortest tie rank).digits < 10 ^ f.sufficientDigits := by
  rcases shortest_cases f tie rank with hzero | hfound
  · rw [hzero]
    exact Nat.pow_pos (by decide)
  · obtain ⟨hrank, count, hcount, hle, hfound⟩ := hfound
    exact Nat.lt_of_lt_of_le (digits_lt_of_decimalOf? (units_pos hrank) hcount hfound)
      (Nat.pow_le_pow_right (by decide) hle)

theorem shortest_le (h : 0 ≤ (f.shortest tie rank).exponent) :
    2 * ((f.shortest tie rank).digits * 10 ^ (f.shortest tie rank).exponent.toNat) *
      f.unitsInOne ≤ f.units rank + f.units (rank + 1) := by
  rcases shortest_cases f tie rank with hzero | hfound
  · simp [hzero]
  · obtain ⟨-, count, -, -, hfound⟩ := hfound
    exact le_of_decimalOf? hfound h

end Binary.Format

end TreePath
