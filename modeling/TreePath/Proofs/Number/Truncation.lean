import TreePath.Proofs.Number.Product
import Mathlib.Data.Rat.Floor
import Mathlib.Order.WithBot

/-!
# Numbers in classes of integers

The exact value of a number is a rational, and an infinity stands below or above all of them. In a
class of integers a number becomes its exact value, truncated toward zero and held to the range of
the class. Truncating and holding keep the order of values, and a value that a class has goes into
it as it is.
-/

namespace TreePath

/-- The rationals, with one value below and one above all of them. -/
abbrev ExtendedRat := WithBot (WithTop ℚ)

/-- A rational among the extended ones. -/
@[match_pattern] def ExtendedRat.rational (q : ℚ) : ExtendedRat := ((q : WithTop ℚ) : WithBot _)

open ExtendedRat (rational)

/-! ## Truncation -/

/-- The integer next to a rational on the way to zero. -/
def towardZero (q : ℚ) : Int := if 0 ≤ q then ⌊q⌋ else ⌈q⌉

/-- A value truncated toward zero and held to the range from `least` to `greatest`. -/
def truncateWithin (least greatest : Int) : ExtendedRat → Int
  | ⊥ => least
  | ⊤ => greatest
  | rational q => max least (min greatest (towardZero q))

section Truncation

variable {least greatest z : Int} {p q : ℚ} {low high : ExtendedRat}

@[simp] theorem ExtendedRat.rational_inj : rational p = rational q ↔ p = q := by
  simp [rational]

theorem ExtendedRat.rational_le : rational p ≤ rational q ↔ p ≤ q := by
  simp [rational]

theorem towardZero_intCast : towardZero z = z := by
  simp [towardZero]

theorem truncateWithin_rational :
    truncateWithin least greatest (rational q) = max least (min greatest (towardZero q)) := rfl

theorem truncateWithin_mem (hrange : least ≤ greatest) :
    least ≤ truncateWithin least greatest low ∧ truncateWithin least greatest low ≤ greatest := by
  match low with
  | ⊥ => exact ⟨Int.le_refl _, hrange⟩
  | ⊤ => exact ⟨hrange, Int.le_refl _⟩
  | rational q =>
    rw [truncateWithin_rational]
    omega

theorem towardZero_mono (h : p ≤ q) : towardZero p ≤ towardZero q := by
  rw [towardZero, towardZero]
  split
  · next hp =>
    rw [if_pos (hp.trans h)]
    exact Int.floor_le_floor h
  · next hp =>
    split
    · next hq => exact (Int.ceil_nonpos.mpr (not_le.mp hp).le).trans (Int.floor_nonneg.mpr hq)
    · exact Int.ceil_le_ceil h

/-- A larger value is not truncated to a smaller one, whether it is held back or not. -/
theorem truncateWithin_mono (hrange : least ≤ greatest) (h : low ≤ high) :
    truncateWithin least greatest low ≤ truncateWithin least greatest high := by
  match low, high with
  | ⊥, ⊥ => exact Int.le_refl _
  | ⊥, ⊤ => exact hrange
  | ⊥, rational q => exact Int.le_max_left _ _
  | ⊤, ⊤ => exact Int.le_refl _
  | ⊤, ⊥ => simp at h
  | ⊤, rational q => simp [rational] at h
  | rational p, ⊥ => simp [rational] at h
  | rational p, ⊤ => exact Int.max_le.mpr ⟨hrange, Int.min_le_left _ _⟩
  | rational p, rational q =>
    have hmono := towardZero_mono (ExtendedRat.rational_le.mp h)
    rw [truncateWithin_rational, truncateWithin_rational]
    omega

/-- An integer of the range is kept. -/
theorem truncateWithin_intCast (hleast : least ≤ z) (hgreatest : z ≤ greatest) :
    truncateWithin least greatest (rational z) = z := by
  rw [truncateWithin_rational, towardZero_intCast]
  omega

/-- A value may be held to a wider range first. -/
theorem truncateWithin_truncateWithin {lower upper : Int} (hleast : lower ≤ least)
    (hgreatest : greatest ≤ upper) (hrange : least ≤ greatest) :
    truncateWithin least greatest (rational (truncateWithin lower upper low)) =
      truncateWithin least greatest low := by
  rw [truncateWithin_rational, towardZero_intCast]
  match low with
  | ⊥ =>
    simp only [truncateWithin]
    omega
  | ⊤ =>
    simp only [truncateWithin]
    omega
  | rational q =>
    rw [truncateWithin_rational, truncateWithin_rational]
    omega

end Truncation

/-! ## Exact values -/

namespace Binary

variable {f g : Format} {x : Binary f} {y : Binary g} {negative : Bool} {z least greatest : Int}
  {r : Fin (f.infinityRank + 1)} {q : ℚ}

/-- The exact value of a binary value, unless it is not a number. -/
def worth? : Binary f → Option ExtendedRat
  | .nan => none
  | .signed negative rank =>
    if rank.val < f.infinityRank then
      some (rational (signedInt negative (f.units rank.val) / f.unitsInOne))
    else some (if negative then ⊥ else ⊤)

theorem worth?_of_lt (hr : r.val < f.infinityRank) :
    (signed negative r : Binary f).worth? =
      some (rational (signedInt negative (f.units r.val) / f.unitsInOne)) := by
  rw [worth?, if_pos hr]

theorem worth?_of_not_lt (hr : ¬ r.val < f.infinityRank) :
    (signed negative r : Binary f).worth? = some (if negative then ⊥ else ⊤) := by
  rw [worth?, if_neg hr]

theorem worth?_infinity :
    (infinity negative : Binary f).worth? = some (if negative then ⊥ else ⊤) :=
  worth?_of_not_lt (Nat.lt_irrefl _)

/-- A value that is a rational is finite, and is so many units. -/
theorem exists_of_worth? (h : x.worth? = some (rational q)) :
    ∃ sign r, x = .signed sign r ∧ r.val < f.infinityRank ∧
      (signedInt sign (f.units r.val) / f.unitsInOne : ℚ) = q := by
  cases x with
  | nan => cases h
  | signed sign r =>
    by_cases hr : r.val < f.infinityRank
    · rw [worth?_of_lt hr, Option.some.injEq, ExtendedRat.rational_inj] at h
      exact ⟨sign, r, rfl, hr, h⟩
    · rw [worth?_of_not_lt hr] at h
      cases sign <;> simp [rational] at h

theorem unitsInOne_ne_zero : (f.unitsInOne : ℚ) ≠ 0 := by
  exact_mod_cast unitsInOne_pos.ne'

/-- Truncating units to whole ones is truncating the value. -/
theorem towardZero_signedInt {units one : Nat} :
    towardZero (signedInt negative units / one) = signedInt negative (units / one) := by
  have hfloor : ⌊((units : ℚ) / one)⌋ = ((units / one : Nat) : Int) := by
    have hdiv := Rat.floor_intCast_div_natCast units one
    rwa [Int.cast_natCast] at hdiv
  have hnonneg : 0 ≤ (units : ℚ) / one := by positivity
  cases negative with
  | false => simpa [towardZero, signedInt, hnonneg] using hfloor
  | true =>
    have hneg : ((signedInt true units : Int) : ℚ) / one = -((units : ℚ) / one) := by
      simp [signedInt, neg_div]
    rw [hneg, towardZero]
    split
    · next hzero =>
      have hvalue : (units : ℚ) / one = 0 := le_antisymm (by linarith) hnonneg
      rw [hvalue, Int.floor_zero] at hfloor
      simp [hvalue, signedInt, ← hfloor]
    · rw [Int.ceil_neg, hfloor]
      rfl

/-- A value is cut out as an integer by truncating it within the range. -/
theorem clampToInt_eq :
    x.clampToInt least greatest = x.worth?.elim 0 (truncateWithin least greatest) := by
  cases x with
  | nan => rfl
  | signed negative r =>
    by_cases hr : r.val < f.infinityRank
    · rw [worth?_of_lt hr, Option.elim_some, truncateWithin_rational, towardZero_signedInt]
      simp [clampToInt, truncate?, finite?, hr]
    · rw [worth?_of_not_lt hr, Option.elim_some]
      simp only [clampToInt, truncate?, finite?, hr, if_false, Option.map_none]
      cases negative <;> rfl

/-! ## Conversions -/

/-- Values of two formats that are equal as rationals are equally many of the smallest units. -/
theorem units_eq_of_worth? {s : Fin (g.infinityRank + 1)} {sign : Bool}
    (h : (signedInt sign (g.units s.val) / g.unitsInOne : ℚ) =
      signedInt negative (f.units r.val) / f.unitsInOne) :
    f.units r.val * g.unitsInOne = g.units s.val * f.unitsInOne := by
  rw [div_eq_div_iff unitsInOne_ne_zero unitsInOne_ne_zero] at h
  have hsigned : signedInt sign (g.units s.val) * f.unitsInOne =
      signedInt negative (f.units r.val) * g.unitsInOne := by exact_mod_cast h
  have habs := congrArg Int.natAbs hsigned
  rw [Int.natAbs_mul, Int.natAbs_mul, natAbs_signedInt, natAbs_signedInt, Int.natAbs_natCast,
    Int.natAbs_natCast] at habs
  exact habs.symm

theorem worth?_signed_congr {s : Fin (g.infinityRank + 1)} (hr : r.val < f.infinityRank)
    (hs : s.val < g.infinityRank)
    (h : f.units r.val * g.unitsInOne = g.units s.val * f.unitsInOne) :
    (signed negative s : Binary g).worth? = (signed negative r : Binary f).worth? := by
  have hunits : (f.units r.val * g.unitsInOne : ℚ) = g.units s.val * f.unitsInOne := by
    exact_mod_cast h
  rw [worth?_of_lt hr, worth?_of_lt hs, Option.some.injEq, ExtendedRat.rational_inj,
    div_eq_div_iff unitsInOne_ne_zero unitsInOne_ne_zero]
  cases negative <;> simp [signedInt] <;> linarith

/-- A value that another format has is converted to it as it is. -/
theorem worth?_convertFinite (h : y.worth? = x.worth?) :
    (convertFinite x : Binary g).worth? = x.worth? := by
  cases x with
  | nan => rfl
  | signed negative r =>
    by_cases hr : r.val < f.infinityRank
    · rw [worth?_of_lt hr] at h
      obtain ⟨sign, s, -, hs, hvalue⟩ := exists_of_worth? h
      have hunits := units_eq_of_worth? hvalue
      rw [convertFinite, if_pos hr, hunits, roundFinite_units hs unitsInOne_pos]
      exact worth?_signed_congr (s := ⟨s.val, Nat.lt_succ_of_lt hs⟩) hr hs hunits
    · rw [convertFinite, if_neg hr, worth?_infinity, worth?_of_not_lt hr]

/-- Every value is converted as it is to a format that has all of them. -/
theorem worth?_convert (h : f.Embeds g) : (convert x : Binary g).worth? = x.worth? := by
  cases x with
  | nan => rfl
  | signed negative r =>
    by_cases hr : r.val < f.infinityRank
    · obtain ⟨s, hs, hunits⟩ := h r.val hr
      rw [convert, if_pos hr, ← hunits, round_units hs unitsInOne_pos]
      exact worth?_signed_congr (s := ⟨s, Nat.lt_succ_of_lt hs⟩) hr hs hunits.symm
    · rw [convert, if_neg hr, worth?_infinity, worth?_of_not_lt hr]

/-- An integer that a format has is converted to it as it is. -/
theorem worth?_ofInt (h : y.worth? = some (rational z)) :
    (ofInt z : Binary g).worth? = some (rational z) := by
  obtain ⟨sign, s, -, hs, hvalue⟩ := exists_of_worth? h
  rw [div_eq_iff unitsInOne_ne_zero] at hvalue
  have hsigned : signedInt sign (g.units s.val) = z * g.unitsInOne := by exact_mod_cast hvalue
  have hunits : g.units s.val = z.natAbs * g.unitsInOne := by
    have habs := congrArg Int.natAbs hsigned
    rwa [natAbs_signedInt, Int.natAbs_mul, Int.natAbs_natCast] at habs
  have hround : (round (decide (z < 0)) (z.natAbs * g.unitsInOne) 1 : Binary g) =
      .signed (decide (z < 0)) ⟨s.val, Nat.lt_succ_of_lt hs⟩ := by
    rw [← hunits, ← Nat.mul_one (g.units s.val)]
    exact round_units hs Nat.one_pos
  have hz : signedInt (decide (z < 0)) z.natAbs = z := by
    by_cases hneg : z < 0
    · simp only [signedInt, hneg, decide_true, if_true]
      omega
    · simp [signedInt, hneg, Int.not_lt.mp hneg]
  rw [ofInt, hround, worth?_of_lt hs]
  simp only [hunits, signedInt_mul, hz, Int.cast_mul, Int.cast_natCast]
  rw [mul_div_cancel_right₀ _ unitsInOne_ne_zero]

end Binary

namespace Number

variable {w mid : Width} {x y : Number} {k : NumberKind} {z : Int}

/-- The exact value of a number, unless it is not a number. -/
def worth? : Number → Option ExtendedRat
  | .int _ z => some (rational z.val)
  | .float _ x => x.worth?

theorem worth?_toDouble {p : Precision} {x : Binary p.format} :
    (float p x).toDouble.worth? = x.worth? := by
  cases p with
  | single => exact Binary.worth?_convert Binary.embeds_single_double
  | double => rfl

/-- A number in a class of integers is its exact value, truncated within the range of the class;
what is not a number becomes zero. -/
theorem int?_coerceTo_int :
    (x.coerceTo (.int w)).int? = some (x.worth?.elim 0 (truncateWithin w.least w.greatest)) := by
  cases x with
  | int v z =>
    rw [worth?, Option.elim_some, truncateWithin_rational, towardZero_intCast]
    rfl
  | float p x =>
    have hcut : ((float p x).toDouble.clampToInt w.least w.greatest) =
        x.worth?.elim 0 (truncateWithin w.least w.greatest) := by
      rw [Binary.clampToInt_eq, worth?_toDouble]
    have hrange : w.least ≤ x.worth?.elim 0 (truncateWithin w.least w.greatest) ∧
        x.worth?.elim 0 (truncateWithin w.least w.greatest) ≤ w.greatest := by
      cases x.worth? with
      | none => cases w <;> decide
      | some q => exact truncateWithin_mem w.least_le_greatest
    simp only [coerceTo, int?, fromDouble, hcut, Sized.clamp, worth?, Option.some.injEq]
    omega

theorem worth?_of_int? (h : x.int? = some z) : x.worth? = some (rational z) := by
  cases x with
  | int w m =>
    cases h
    rfl
  | float p x => cases h

/-- A number of a class of integers is known by its class and its integer. -/
theorem eq_of_int? (hx : x.kind = .int w) (hy : y.kind = .int w) (h : x.int? = y.int?) : x = y := by
  cases x <;> cases hx
  cases y <;> cases hy
  next m n =>
  cases m
  cases n
  cases h
  rfl

/-- A value that a class has goes into it as it is. -/
theorem worth?_coerceTo (hkind : y.kind = k) (h : y.worth? = x.worth?) :
    (x.coerceTo k).worth? = x.worth? := by
  subst hkind
  match y, x with
  | .int w m, x =>
    have hvalue : (x.coerceTo (.int w)).int? = some m.val := by
      rw [int?_coerceTo_int, ← h, worth?, Option.elim_some,
        truncateWithin_intCast m.least_le m.le_greatest]
    exact (worth?_of_int? hvalue).trans h
  | .float p y, .int _ z =>
    have hofInt := Binary.worth?_ofInt h
    exact hofInt
  | .float .single y, .float .single x => exact congrArg worth? coerceTo_self
  | .float .single y, .float .double x => exact Binary.worth?_convertFinite h
  | .float .double y, .float p x => exact worth?_toDouble

/-- Going through a class of integers with a wider range makes no difference. -/
theorem coerceTo_coerceTo_int (hleast : mid.least ≤ w.least)
    (hgreatest : w.greatest ≤ mid.greatest) :
    (x.coerceTo (.int mid)).coerceTo (.int w) = x.coerceTo (.int w) := by
  refine eq_of_int? kind_coerceTo kind_coerceTo ?_
  rw [int?_coerceTo_int, worth?_of_int? int?_coerceTo_int, int?_coerceTo_int, Option.elim_some]
  cases x.worth? with
  | none =>
    have hzero : truncateWithin w.least w.greatest (rational (0 : Int)) = 0 :=
      truncateWithin_intCast (by cases w <;> decide) (by cases w <;> decide)
    exact congrArg some hzero
  | some q =>
    exact congrArg some (truncateWithin_truncateWithin hleast hgreatest w.least_le_greatest)

/-- A number in a class of integers has that class, and its integer is the exact value of the number
truncated toward zero and held to the range, or zero for what is not a number. So a number that is
no larger than another one becomes no larger than the other one does, a value that a class has goes
into it as it is, and a class of integers with a wider range may be gone through on the way. -/
theorem coerceTo_int_truncates (x : Number) (w : Width) :
    (x.coerceTo (.int w)).kind = .int w ∧
    (x.coerceTo (.int w)).int? = some (x.worth?.elim 0 (truncateWithin w.least w.greatest)) ∧
    (∀ (y : Number) (low high : ExtendedRat), x.worth? = some low → y.worth? = some high →
      low ≤ high → ∃ m n, (x.coerceTo (.int w)).int? = some m ∧
        (y.coerceTo (.int w)).int? = some n ∧ m ≤ n) ∧
    (∀ (k : NumberKind) (y : Number), y.kind = k → y.worth? = x.worth? →
      (x.coerceTo k).worth? = x.worth?) ∧
    ∀ mid : Width, mid.least ≤ w.least → w.greatest ≤ mid.greatest →
      (x.coerceTo (.int mid)).coerceTo (.int w) = x.coerceTo (.int w) := by
  refine ⟨kind_coerceTo, int?_coerceTo_int, fun y low high hlow hhigh hle => ?_,
    fun k y => worth?_coerceTo, fun mid => coerceTo_coerceTo_int⟩
  refine ⟨_, _, int?_coerceTo_int, int?_coerceTo_int, ?_⟩
  rw [hlow, hhigh]
  exact truncateWithin_mono w.least_le_greatest hle

/-- The single value -128.5 and the integer 300 go to the two ends of 8 bits, also through 16. -/
theorem coerceTo_int_truncates_ends :
    let half : Number := .float .single (.signed true ⟨134 * 2 ^ 23 + 2 ^ 15, by decide⟩)
    let larger : Number := .int .w64 (Sized.clamp .w64 300)
    half.worth? = some (rational (-257 / 2)) ∧ larger.worth? = some (rational 300) ∧
      rational (-257 / 2) ≤ rational 300 ∧
      (half.coerceTo (.int .w8)).int? = some (-128) ∧
      (larger.coerceTo (.int .w8)).int? = some 127 ∧ (-128 : Int) ≤ 127 ∧
      (half.coerceTo (.int .w16)).coerceTo (.int .w8) = half.coerceTo (.int .w8) := by
  intro half larger
  have hhalf : half.worth? = some (rational (-257 / 2)) := by decide +kernel
  have hlarger : larger.worth? = some (rational 300) := by decide +kernel
  have hle : rational (-257 / 2) ≤ rational 300 := ExtendedRat.rational_le.mpr (by norm_num)
  obtain ⟨-, -, horder, -, hthrough⟩ := coerceTo_int_truncates half .w8
  obtain ⟨m, n, hm, hn, hmn⟩ := horder larger _ _ hhalf hlarger hle
  have hm' : (half.coerceTo (.int .w8)).int? = some (-128) := by decide +kernel
  have hn' : (larger.coerceTo (.int .w8)).int? = some 127 := by decide +kernel
  cases hm.symm.trans hm'
  cases hn.symm.trans hn'
  exact ⟨hhalf, hlarger, hle, hm, hn, hmn, hthrough .w16 (by decide) (by decide)⟩

end Number

end TreePath
