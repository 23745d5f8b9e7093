import TreePath.Binary.Arithmetic
import Mathlib.Tactic.Ring

/-!
# Rounding

A rank is a binade and a fraction in it: above the first binade, the value of a rank is a fraction
of full length times a power of two. Rounding to the nearest rank keeps the order of values and
leaves a value of the format as it is. So what is converted to a wider format and back is what it
was before, and a result that is no larger than a finite value is finite.
-/

namespace TreePath.Binary

namespace Format

variable {f g : Format} {r s num den : Nat}

/-! ## The value of a rank -/

/-- The value of a rank that is a full fraction above a number of binades. -/
theorem units_scaled {m t : Nat} (hle : 2 ^ f.fractionBits ≤ m)
    (hlt : m < 2 ^ (f.fractionBits + 1)) :
    f.units (t * 2 ^ f.fractionBits + m) = m * 2 ^ t := by
  rw [Nat.pow_succ] at hlt
  have hpos : 0 < 2 ^ f.fractionBits := Nat.two_pow_pos _
  obtain ⟨k, rfl⟩ := Nat.exists_eq_add_of_le hle
  have hk : k < 2 ^ f.fractionBits := by omega
  have hsplit : t * 2 ^ f.fractionBits + (2 ^ f.fractionBits + k) =
      k + 2 ^ f.fractionBits * (t + 1) := by ring
  simp only [units, Nat.pow_eq, hsplit, Nat.add_mul_div_left _ _ hpos, Nat.add_mul_mod_self_left,
    Nat.div_eq_of_lt hk, Nat.mod_eq_of_lt hk, Nat.zero_add, Nat.succ_ne_zero, if_false,
    Nat.add_sub_cancel]

/-- The first two binades count in single units. -/
theorem units_of_lt (h : r < 2 ^ (f.fractionBits + 1)) : f.units r = r := by
  by_cases hr : r < 2 ^ f.fractionBits
  · simp [units, Nat.div_eq_of_lt hr, Nat.mod_eq_of_lt hr]
  · have hscaled := units_scaled (t := 0) (Nat.le_of_not_lt hr) h
    simpa using hscaled

/-- Every rank is a fraction above a number of binades, and the fraction is full unless that number
is zero. -/
theorem exists_scaled (f : Format) (r : Nat) :
    ∃ t m, r = t * 2 ^ f.fractionBits + m ∧ (t = 0 ∨ 2 ^ f.fractionBits ≤ m) ∧
      m < 2 ^ (f.fractionBits + 1) ∧ f.units r = m * 2 ^ t := by
  by_cases hr : r < 2 ^ (f.fractionBits + 1)
  · exact ⟨0, r, by simp, .inl rfl, hr, by rw [units_of_lt hr, Nat.pow_zero, Nat.mul_one]⟩
  · have hpos : 0 < 2 ^ f.fractionBits := Nat.two_pow_pos _
    have hmod := Nat.mod_lt r hpos
    have hsplit := Nat.div_add_mod' r (2 ^ f.fractionBits)
    have hbinade : 2 ≤ r / 2 ^ f.fractionBits := by
      rw [Nat.le_div_iff_mul_le hpos, Nat.mul_comm, ← Nat.pow_succ]
      exact Nat.le_of_not_lt hr
    obtain ⟨t, ht⟩ := Nat.exists_eq_add_of_le' (Nat.le_of_succ_le hbinade)
    have hm : 2 ^ f.fractionBits ≤ 2 ^ f.fractionBits + r % 2 ^ f.fractionBits :=
      Nat.le_add_right ..
    have hm' : 2 ^ f.fractionBits + r % 2 ^ f.fractionBits < 2 ^ (f.fractionBits + 1) := by
      rw [Nat.pow_succ]
      omega
    have hrank : r = t * 2 ^ f.fractionBits + (2 ^ f.fractionBits + r % 2 ^ f.fractionBits) := by
      rw [ht, Nat.add_mul, Nat.one_mul] at hsplit
      omega
    refine ⟨t, _, hrank, .inr hm, hm', ?_⟩
    conv_lhs => rw [hrank]
    exact units_scaled hm hm'

/-! ## The nearest rank -/

/-- How a quotient is cut into a binade and a fraction before it is rounded. -/
theorem exists_nearest (f : Format) (num : Nat) (hden : 0 < den) :
    ∃ t m rest, num = m * (2 ^ t * den) + rest ∧ rest < 2 ^ t * den ∧
      (t = 0 ∨ 2 ^ f.fractionBits ≤ m) ∧ m < 2 ^ (f.fractionBits + 1) ∧
      (rest = 0 → f.nearestRank num den = t * 2 ^ f.fractionBits + m) ∧
      t * 2 ^ f.fractionBits + m ≤ f.nearestRank num den ∧
      f.nearestRank num den ≤ t * 2 ^ f.fractionBits + m + 1 := by
  set t := (num / den).log2 - f.fractionBits with ht
  have hgap : 0 < 2 ^ t * den := Nat.mul_pos (Nat.two_pow_pos _) hden
  have hquotient : num / (2 ^ t * den) = num / den / 2 ^ t := by
    rw [Nat.mul_comm, Nat.div_div_eq_div_mul]
  refine ⟨t, num / (2 ^ t * den), num % (2 ^ t * den), (Nat.div_add_mod' _ _).symm,
    Nat.mod_lt _ hgap, ?_, ?_, ?_, ?_, ?_⟩
  · by_cases hzero : t = 0
    · exact .inl hzero
    · have hne : num / den ≠ 0 := by
        intro h
        simp [h] at ht
        exact hzero ht
      refine .inr ?_
      rw [hquotient, Nat.le_div_iff_mul_le (Nat.two_pow_pos _), ← Nat.pow_add]
      exact (Nat.le_log2 hne).mp (by omega)
  · rw [hquotient, Nat.div_lt_iff_lt_mul (Nat.two_pow_pos _), ← Nat.pow_add]
    have hlog : num / den < 2 ^ ((num / den).log2 + 1) := Nat.lt_log2_self
    exact Nat.lt_of_lt_of_le hlog (Nat.pow_le_pow_right Nat.two_pos (by omega))
  all_goals simp only [nearestRank, Nat.pow_eq, ← ht]
  · intro h
    simp [h, hgap]
  · split <;> (try split) <;> omega
  · split <;> (try split) <;> omega

/-- A quotient that is at most the value of a rank is rounded to that rank or below. -/
theorem nearestRank_le (hden : 0 < den) (h : num ≤ f.units r * den) :
    f.nearestRank num den ≤ r := by
  obtain ⟨t, m, rest, hnum, hrest, hfull, hm, hexact, -, hupper⟩ := exists_nearest f num hden
  obtain ⟨u, k, rfl, hfull', hk, hunits⟩ := exists_scaled f r
  rw [hunits, hnum] at h
  rw [Nat.pow_succ] at hm hk
  rcases Nat.lt_trichotomy t u with hlt | rfl | hlt
  · obtain ⟨j, rfl⟩ := Nat.exists_eq_add_of_lt hlt
    have hsplit : (t + j + 1) * 2 ^ f.fractionBits =
      t * 2 ^ f.fractionBits + j * 2 ^ f.fractionBits + 2 ^ f.fractionBits := by ring
    have hfull' := hfull'.resolve_left (Nat.succ_ne_zero _)
    omega
  · have hle : m * (2 ^ t * den) ≤ k * (2 ^ t * den) := by
      rw [Nat.mul_assoc] at h
      omega
    have hmk : m ≤ k := Nat.le_of_mul_le_mul_right hle (Nat.mul_pos (Nat.two_pow_pos _) hden)
    by_cases heq : m = k
    · subst heq
      rw [Nat.mul_assoc] at h
      exact (hexact (by omega)).le
    · omega
  · -- The binade of the quotient is above that of the rank, so the quotient is larger.
    exfalso
    obtain ⟨j, rfl⟩ := Nat.exists_eq_add_of_lt hlt
    have hfull := hfull.resolve_left (Nat.succ_ne_zero _)
    have hpow : 2 ^ (u + j + 1) * den = 2 * 2 ^ j * (2 ^ u * den) := by ring
    have hle : m * (2 * 2 ^ j) * (2 ^ u * den) ≤ k * (2 ^ u * den) := by
      have hassoc : m * (2 * 2 ^ j) * (2 ^ u * den) = m * (2 ^ (u + j + 1) * den) := by
        rw [hpow, Nat.mul_assoc m]
      rw [hassoc, ← Nat.mul_assoc k]
      omega
    have hmk := Nat.le_of_mul_le_mul_right hle (Nat.mul_pos (Nat.two_pow_pos _) hden)
    have hj : m * 2 ≤ m * (2 * 2 ^ j) :=
      Nat.mul_le_mul_left m (Nat.le_mul_of_pos_right 2 (Nat.two_pow_pos j))
    omega

/-- A quotient that is at least the value of a rank is rounded to that rank or above. -/
theorem le_nearestRank (hden : 0 < den) (h : f.units r * den ≤ num) :
    r ≤ f.nearestRank num den := by
  obtain ⟨t, m, rest, hnum, hrest, hfull, hm, -, hlower, -⟩ := exists_nearest f num hden
  obtain ⟨u, k, rfl, hfull', hk, hunits⟩ := exists_scaled f r
  rw [hunits, hnum] at h
  have hgap : 0 < 2 ^ t * den := Nat.mul_pos (Nat.two_pow_pos _) hden
  have hbelow : m * (2 ^ t * den) + rest < (m + 1) * (2 ^ t * den) := by
    rw [Nat.add_mul, Nat.one_mul]
    omega
  rw [Nat.pow_succ] at hm hk
  rcases Nat.lt_trichotomy t u with hlt | rfl | hlt
  · -- The binade of the quotient is below that of the rank, so the quotient is smaller.
    exfalso
    obtain ⟨j, rfl⟩ := Nat.exists_eq_add_of_lt hlt
    have hfull' := hfull'.resolve_left (Nat.succ_ne_zero _)
    have hscale : k * 2 ^ (t + j + 1) * den = k * (2 * 2 ^ j) * (2 ^ t * den) := by ring
    have hlt : k * (2 * 2 ^ j) < m + 1 := by
      refine Nat.lt_of_mul_lt_mul_right (a := 2 ^ t * den) ?_
      rw [← hscale]
      omega
    have hj : k * 2 ≤ k * (2 * 2 ^ j) :=
      Nat.mul_le_mul_left k (Nat.le_mul_of_pos_right 2 (Nat.two_pow_pos j))
    omega
  · have hlt : k < m + 1 := by
      refine Nat.lt_of_mul_lt_mul_right (a := 2 ^ t * den) ?_
      rw [← Nat.mul_assoc]
      omega
    omega
  · obtain ⟨j, rfl⟩ := Nat.exists_eq_add_of_lt hlt
    have hsplit : (u + j + 1) * 2 ^ f.fractionBits =
      u * 2 ^ f.fractionBits + j * 2 ^ f.fractionBits + 2 ^ f.fractionBits := by ring
    have hfull := hfull.resolve_left (Nat.succ_ne_zero _)
    omega

/-- A value of the format is its own nearest one. -/
theorem nearestRank_units (hden : 0 < den) : f.nearestRank (f.units r * den) den = r :=
  Nat.le_antisymm (nearestRank_le hden Nat.le.refl) (le_nearestRank hden Nat.le.refl)

/-- A larger quotient is not rounded to a smaller rank. -/
theorem nearestRank_mono {larger : Nat} (hden : 0 < den) (h : num ≤ larger) :
    f.nearestRank num den ≤ f.nearestRank larger den := by
  have hquotient : num / den ≤ larger / den := Nat.div_le_div_right h
  have hlog : (num / den).log2 ≤ (larger / den).log2 := by
    by_cases hzero : num / den = 0
    · simp [hzero]
    · have hne : larger / den ≠ 0 := fun heq => hzero (Nat.eq_zero_of_le_zero (heq ▸ hquotient))
      exact (Nat.le_log2 hne).mpr (Nat.le_trans (Nat.log2_self_le hzero) hquotient)
  rcases Nat.lt_or_eq_of_le (Nat.sub_le_sub_right hlog f.fractionBits) with hlt | heq
  · -- A power of two that is a value of the format lies between the two quotients.
    set t := (num / den).log2 - f.fractionBits with ht
    have hvalue : f.units ((t + 1) * 2 ^ f.fractionBits + 2 ^ f.fractionBits) =
        2 ^ (f.fractionBits + (t + 1)) := by
      rw [units_scaled Nat.le.refl (Nat.pow_lt_pow_right Nat.one_lt_two (Nat.lt_succ_self _)),
        ← Nat.pow_add]
    have hbelow : num / den < 2 ^ (f.fractionBits + (t + 1)) :=
      Nat.lt_of_lt_of_le Nat.lt_log2_self (Nat.pow_le_pow_right Nat.two_pos (by omega))
    have habove : 2 ^ (f.fractionBits + (t + 1)) ≤ larger / den := by
      have hne : larger / den ≠ 0 := by
        intro hzero
        rw [hzero] at hlt
        simp at hlt
      exact (Nat.le_log2 hne).mp (by omega)
    have hupper := nearestRank_le hden (hvalue ▸ ((Nat.div_lt_iff_lt_mul hden).mp hbelow).le)
    have hlower := le_nearestRank hden (hvalue ▸ (Nat.le_div_iff_mul_le hden).mp habove)
    exact hupper.trans hlower
  · simp only [nearestRank, Nat.pow_eq, heq]
    set gap := 2 ^ ((larger / den).log2 - f.fractionBits) * den
    have hcells : num / gap ≤ larger / gap := Nat.div_le_div_right h
    rcases Nat.lt_or_eq_of_le hcells with hless | hsame
    · split_ifs <;> omega
    · -- In the same cell the larger quotient is at least as far into it.
      have hnum := Nat.div_add_mod num gap
      have hlarger := Nat.div_add_mod larger gap
      rw [hsame] at hnum ⊢
      split_ifs <;> omega

theorem le_of_units_le (h : f.units r ≤ f.units s) : r ≤ s := by
  have hrank := nearestRank_units (f := f) (r := r) Nat.one_pos
  rw [← hrank]
  exact nearestRank_le Nat.one_pos (Nat.mul_le_mul_right 1 h)

theorem units_le_of_le (h : r ≤ s) : f.units r ≤ f.units s := by
  by_contra hlt
  have hge := le_of_units_le (Nat.le_of_lt (Nat.lt_of_not_le hlt))
  exact hlt (Nat.le_antisymm h hge ▸ Nat.le.refl)

theorem units_pos (h : 0 < r) : 0 < f.units r := by
  by_contra hzero
  have hle : f.units r ≤ f.units 0 := by omega
  exact Nat.not_lt_of_le (le_of_units_le hle) h

/-- A short number of units times a power of two is a value of the format, with no regard to its
end. -/
theorem exists_units_eq {m : Nat} (t : Nat) (hm : m < 2 ^ (f.fractionBits + 1)) :
    ∃ r, f.units r = m * 2 ^ t := by
  induction t with
  | zero => exact ⟨m, by rw [units_of_lt hm, Nat.pow_zero, Nat.mul_one]⟩
  | succ t ih =>
    obtain ⟨r, hr⟩ := ih
    obtain ⟨u, k, -, hfull, hk, hunits⟩ := exists_scaled f r
    rw [Nat.pow_succ, ← Nat.mul_assoc, ← hr, hunits]
    by_cases hlong : 2 ^ f.fractionBits ≤ k
    · exact ⟨(u + 1) * 2 ^ f.fractionBits + k, by rw [units_scaled hlong hk]; ring⟩
    · obtain rfl := hfull.resolve_right hlong
      have hlt : k * 2 < 2 ^ (f.fractionBits + 1) := by
        rw [Nat.pow_succ]
        omega
      exact ⟨k * 2, by rw [units_of_lt hlt, Nat.pow_zero, Nat.mul_one]⟩

/-- A quotient well below the last binades is rounded to a finite value. -/
theorem nearestRank_lt_infinityRank {t : Nat} (ht : t + 3 < 2 ^ f.exponentBits) (hden : 0 < den)
    (h : num ≤ 2 ^ (f.fractionBits + t) * den) : f.nearestRank num den < f.infinityRank := by
  have hunits : f.units (t * 2 ^ f.fractionBits + 2 ^ f.fractionBits) =
      2 ^ (f.fractionBits + t) := by
    rw [units_scaled Nat.le.refl (Nat.pow_lt_pow_right Nat.one_lt_two (Nat.lt_succ_self _)),
      Nat.pow_add]
  have hle := nearestRank_le hden (hunits ▸ h)
  have hlt : (t + 1) * 2 ^ f.fractionBits < (2 ^ f.exponentBits - 1) * 2 ^ f.fractionBits :=
    Nat.mul_lt_mul_of_pos_right (by omega) (Nat.two_pow_pos _)
  rw [Nat.add_mul, Nat.one_mul] at hlt
  simp only [infinityRank, Nat.pow_eq]
  omega

theorem lt_infinityRank {t : Nat} (ht : t + 3 < 2 ^ f.exponentBits)
    (h : f.units r ≤ 2 ^ (f.fractionBits + t)) : r < f.infinityRank := by
  have hlt := nearestRank_lt_infinityRank ht Nat.one_pos (Nat.mul_le_mul_right 1 h)
  rwa [nearestRank_units Nat.one_pos] at hlt

end Format

variable {f g : Format} {negative : Bool} {num den r : Nat} {x y : Binary f}

theorem unitsInOne_eq : f.unitsInOne = 2 ^ f.unitExponent := by
  rw [Format.unitsInOne, Nat.pow_eq]

theorem unitsInOne_pos : 0 < f.unitsInOne := by
  rw [unitsInOne_eq]
  exact Nat.two_pow_pos _

/-- What is at least one is rounded to a value of at least one. -/
theorem unitsInOne_le_units (hden : 0 < den) (h : f.unitsInOne * den ≤ num) :
    f.unitsInOne ≤ f.units (f.nearestRank num den) := by
  have hshort : 1 < 2 ^ (f.fractionBits + 1) := Nat.one_lt_two_pow (Nat.succ_ne_zero _)
  obtain ⟨r, hr⟩ := Format.exists_units_eq f.unitExponent hshort
  rw [Nat.one_mul, ← unitsInOne_eq] at hr
  rw [← hr] at h ⊢
  exact Format.units_le_of_le (Format.le_nearestRank hden h)

/-- Rounding gives a value of the format as it is. -/
theorem round_units (hr : r < f.infinityRank) (hden : 0 < den) :
    (round negative (f.units r * den) den : Binary f) =
      .signed negative ⟨r, Nat.lt_succ_of_lt hr⟩ := by
  simp [round, Format.nearestRank_units hden, Nat.min_eq_left hr.le]

theorem roundFinite_units (hr : r < f.infinityRank) (hden : 0 < den) :
    (roundFinite negative (f.units r * den) den : Binary f) =
      .signed negative ⟨r, Nat.lt_succ_of_lt hr⟩ := by
  simp [roundFinite, Format.nearestRank_units hden, Nat.min_eq_left (Nat.le_sub_one_of_lt hr)]

/-! ## Conversion to a wider format and back -/

/-- Every value of a format is a value of another one. -/
def Format.Embeds (f g : Format) : Prop :=
  ∀ r < f.infinityRank, ∃ s < g.infinityRank, g.units s * f.unitsInOne = f.units r * g.unitsInOne

/-- A format with longer fractions, smaller units and a wider range has all the values. -/
theorem embeds_of_wider {n : Nat} (hfraction : f.fractionBits ≤ g.fractionBits)
    (hunit : g.unitExponent = n + f.unitExponent) (hbinades : 3 < 2 ^ g.exponentBits)
    (hrange : f.fractionBits + 2 ^ f.exponentBits + n + 3 ≤ g.fractionBits + 2 ^ g.exponentBits) :
    f.Embeds g := by
  intro r hr
  obtain ⟨t, m, rfl, -, hm, hunits⟩ := Format.exists_scaled f r
  have ht : t + 1 < 2 ^ f.exponentBits := by
    have hlt : t * 2 ^ f.fractionBits < (2 ^ f.exponentBits - 1) * 2 ^ f.fractionBits :=
      Nat.lt_of_le_of_lt (Nat.le_add_right _ _) hr
    have hrank := Nat.lt_of_mul_lt_mul_right hlt
    omega
  have hshort : m < 2 ^ (g.fractionBits + 1) :=
    Nat.lt_of_lt_of_le hm (Nat.pow_le_pow_right Nat.two_pos (by omega))
  obtain ⟨s, hs⟩ := Format.exists_units_eq (t + n) hshort
  refine ⟨s, Format.lt_infinityRank (t := f.fractionBits + 1 + t + n - g.fractionBits) ?_ ?_, ?_⟩
  · omega
  · rw [hs]
    refine Nat.le_trans (Nat.mul_le_mul_right _ hm.le) ?_
    rw [← Nat.pow_add]
    exact Nat.pow_le_pow_right Nat.two_pos (by omega)
  · rw [hs, hunits, unitsInOne_eq, unitsInOne_eq, hunit]
    ring

theorem embeds_single_double : Format.Embeds .single .double :=
  embeds_of_wider (n := 925) (by decide) rfl (by decide) (by decide)

theorem convertFinite_convert (h : f.Embeds g) :
    (convertFinite (convert x : Binary g) : Binary f) = x := by
  cases x with
  | nan => rfl
  | signed negative rank =>
    by_cases hfinite : rank.val < f.infinityRank
    · obtain ⟨s, hs, hunits⟩ := h rank.val hfinite
      have hconvert : (convert (.signed negative rank : Binary f) : Binary g) =
          .signed negative ⟨s, Nat.lt_succ_of_lt hs⟩ := by
        rw [convert, if_pos hfinite, ← hunits, round_units hs unitsInOne_pos]
      rw [hconvert, convertFinite, if_pos hs, hunits, roundFinite_units hfinite unitsInOne_pos]
    · have hrank : rank.val = f.infinityRank := by omega
      rw [convert, if_neg hfinite, infinity, convertFinite, if_neg (Nat.lt_irrefl _), infinity]
      simp [← hrank]

/-! ## Finite results -/

@[simp] theorem isFinite_neg : x.neg.isFinite = x.isFinite := by
  cases x <;> rfl

theorem isFinite_round_iff :
    (round negative num den : Binary f).isFinite ↔ f.nearestRank num den < f.infinityRank := by
  simp [round, isFinite]

theorem isFinite_round (h : f.nearestRank num den < f.infinityRank) :
    (round negative num den : Binary f).isFinite :=
  isFinite_round_iff.mpr h

theorem isFinite_roundFinite (h : 0 < f.infinityRank) :
    (roundFinite negative num den : Binary f).isFinite := by
  simp only [roundFinite, isFinite, decide_eq_true_eq]
  omega

theorem isFinite_convert (h : f.Embeds g) (hx : x.isFinite) : (convert x : Binary g).isFinite := by
  cases x with
  | nan => cases hx
  | signed negative rank =>
    have hfinite : rank.val < f.infinityRank := of_decide_eq_true hx
    obtain ⟨s, hs, hunits⟩ := h rank.val hfinite
    rw [convert, if_pos hfinite, ← hunits, round_units hs unitsInOne_pos]
    exact decide_eq_true hs

theorem isFinite_of_convert (h : (convert x : Binary g).isFinite) : x.isFinite := by
  cases x with
  | nan => cases h
  | signed negative rank =>
    rw [convert] at h
    split at h
    · next hfinite => exact decide_eq_true hfinite
    · simp [infinity, isFinite] at h

theorem isFinite_convertFinite (h : 0 < g.infinityRank) :
    (convertFinite x : Binary g).isFinite = x.isFinite := by
  cases x with
  | nan => rfl
  | signed negative rank =>
    rw [convertFinite]
    split
    · next hfinite =>
      rw [isFinite_roundFinite h]
      exact (decide_eq_true hfinite).symm
    · next hfinite => simp [infinity, isFinite, hfinite]

/-- A product is finite only if its first factor is. -/
theorem isFinite_of_mul (h : (x.mul y).isFinite) : x.isFinite := by
  cases x with
  | nan => cases h
  | signed negative rank =>
    cases y with
    | nan => cases h
    | signed negative' rank' =>
      rw [mul] at h
      split at h
      · next hfinite => exact decide_eq_true hfinite.1
      · split at h <;> simp [infinity, isFinite] at h

protected theorem mul_comm : x.mul y = y.mul x := by
  cases x with
  | nan => cases y <;> rfl
  | signed n r =>
    cases y with
    | nan => rfl
    | signed m s =>
      simp only [mul, bne_comm (a := n), Nat.mul_comm (f.units r.val),
        and_comm (a := r.val < f.infinityRank), or_comm (a := r.val = 0)]

/-- A smaller factor has a finite product if a larger one has. -/
theorem isFinite_mul_of_le {negative' : Bool} {r s : Fin (f.infinityRank + 1)} (hle : r ≤ s)
    (h : ((signed negative s).mul y).isFinite) : ((signed negative' r).mul y).isFinite := by
  have hs : s.val < f.infinityRank := of_decide_eq_true (isFinite_of_mul h)
  cases y with
  | nan => cases h
  | signed sign rank =>
    by_cases hrank : rank.val < f.infinityRank
    · rw [mul, if_pos ⟨hs, hrank⟩, isFinite_round_iff] at h
      rw [mul, if_pos ⟨Nat.lt_of_le_of_lt hle hs, hrank⟩, isFinite_round_iff]
      refine Nat.lt_of_le_of_lt (Format.nearestRank_mono unitsInOne_pos ?_) h
      exact Nat.mul_le_mul_right _ (Format.units_le_of_le hle)
    · rw [mul, if_neg (fun hfinite => hrank hfinite.2)] at h
      split at h <;> simp [infinity, isFinite] at h

theorem isFinite_ofInt_mul_of_le {n larger : Nat} (hle : n ≤ larger)
    (h : ((ofInt (larger : Int)).mul y).isFinite) : ((ofInt (n : Int)).mul y).isFinite := by
  refine isFinite_mul_of_le (Fin.mk_le_mk.mpr (min_le_min_right _ ?_)) h
  exact Format.nearestRank_mono Nat.one_pos (Nat.mul_le_mul_right _ (by simpa using hle))

/-- A finite value over one that is at least one is finite. -/
theorem isFinite_div (hx : x.isFinite) {negative : Bool} {rank : Fin (f.infinityRank + 1)}
    (hy : rank.val < f.infinityRank) (hone : f.unitsInOne ≤ f.units rank.val) :
    (x.div (.signed negative rank)).isFinite := by
  cases x with
  | nan => cases hx
  | signed negative' rank' =>
    have hfinite : rank'.val < f.infinityRank := of_decide_eq_true hx
    have hpos : 0 < f.units rank.val := Nat.lt_of_lt_of_le unitsInOne_pos hone
    have hne : rank.val ≠ 0 := by
      intro hzero
      have hunits : f.units 0 = 0 := Format.units_of_lt (Nat.two_pow_pos _)
      rw [hzero] at hpos
      omega
    rw [div, if_pos hfinite, if_neg hne, if_pos hy]
    refine isFinite_round (Nat.lt_of_le_of_lt ?_ hfinite)
    exact Format.nearestRank_le hpos (Nat.mul_le_mul_left _ hone)

/-- Integers of up to 64 bits are finite values of a format of enough range. -/
theorem isFinite_ofInt {z : Int}
    (hrange : f.unitExponent + 67 < 2 ^ f.exponentBits + f.fractionBits)
    (hz : z.natAbs ≤ 2 ^ 64) : (ofInt z : Binary f).isFinite := by
  refine isFinite_round (Format.nearestRank_lt_infinityRank
    (t := f.unitExponent + 64 - f.fractionBits) ?_ Nat.one_pos ?_)
  · have hle : f.fractionBits ≤ f.unitExponent := Nat.le_add_left _ _
    omega
  · rw [unitsInOne_eq, Nat.mul_one]
    refine Nat.le_trans (Nat.mul_le_mul_right _ hz) ?_
    rw [← Nat.pow_add]
    exact Nat.pow_le_pow_right Nat.two_pos (by omega)

end TreePath.Binary
