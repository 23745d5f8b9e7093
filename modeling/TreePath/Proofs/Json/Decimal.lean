import TreePath.Proofs.Decimal.Shortest
import TreePath.Proofs.Json.Finite
import TreePath.Proofs.Json.RoundTrip

/-!
# Reading written binary numbers

The text of a finite number is a proper numeral, and a number is read of it, if not always the one
that was written. Reading can only be refused where a power of ten is multiplied with, so all that
counts is that the digits of the largest numbers do not go beyond the range when this is done with
two roundings.
-/

namespace TreePath.Json

open Binary

namespace Numeral

variable {m : Numeral} {negative : Bool} {digits larger e top n : Nat} {exponent : Int}
  {text : List Char}

/-! ## Powers of ten in range -/

theorem exists_powerOfTen_le (he : e ≤ top) (htop : top ≤ greatestPower) :
    ∃ r s, powerOfTen e = .signed false r ∧ powerOfTen top = .signed false s ∧ r ≤ s := by
  refine ⟨_, _, powerOfTen_eq (he.trans htop), powerOfTen_eq htop, ?_⟩
  refine Fin.mk_le_mk.mpr (min_le_min_right _ (Format.nearestRank_mono Nat.one_pos ?_))
  exact Nat.mul_le_mul_right _ (Nat.pow_le_pow_right (by decide) he)

/-- Fewer digits with a smaller exponent are taken where more with a larger one are. -/
theorem exists_scale_of_le (hdigits : digits ≤ larger) (he : e ≤ top) (htop : top ≤ greatestPower)
    (h : ((Binary.ofInt (larger : Int)).mul (powerOfTen top)).isFinite) :
    ∃ x, scale negative digits e = .ok x := by
  obtain ⟨r, s, hr, hs, hle⟩ := exists_powerOfTen_le he htop
  have hfinite : ((Binary.ofInt (digits : Int)).mul (powerOfTen e)).isFinite := by
    rw [hs, Binary.mul_comm] at h
    rw [hr]
    refine isFinite_ofInt_mul_of_le hdigits ?_
    rw [Binary.mul_comm]
    exact isFinite_mul_of_le hle h
  rw [scale, if_neg (by omega), if_pos (by simpa using he.trans htop), Int.toNat_natCast,
    if_pos hfinite]
  exact ⟨_, rfl⟩

theorem exists_scale_of_nonpos (hdigits : digits < 2 ^ 64) (h : exponent ≤ 0) :
    ∃ x, scale negative digits exponent = .ok x := by
  by_cases hneg : exponent < 0
  · rw [scale, if_pos hneg]
    exact ⟨_, rfl⟩
  · have hzero : exponent = (0 : Nat) := by omega
    rw [hzero]
    exact exists_scale_of_le hdigits.le (Nat.le_refl 0) (by decide) (by decide +kernel)

/-- The midpoint below the largest finite value. Only that value itself is written with digits above
it; they are refused from 17976931348623158 on, with the exponent 292. -/
def upperMidpoint : Nat := (2 ^ 54 - 3) * 2 ^ 970

/-- Seventeen digits are taken with every exponent with which they are below the last midpoint. -/
theorem exists_scale_of_le_upperMidpoint (hdigits : digits ≤ 10 ^ 17)
    (hle : digits * 10 ^ e ≤ upperMidpoint) : ∃ x, scale negative digits e = .ok x := by
  by_cases hsmall : e ≤ 291
  · exact exists_scale_of_le hdigits hsmall (by decide) (by decide +kernel)
  by_cases hlarge : e ≤ greatestPower
  · have hgreatest : ∀ i < 17, ((Binary.ofInt ((upperMidpoint / 10 ^ (292 + i) : Nat) : Int)).mul
        (powerOfTen (292 + i))).isFinite := by
      decide +kernel
    have hrange : e ≤ 308 := hlarge
    obtain ⟨i, rfl⟩ := Nat.exists_eq_add_of_le (Nat.lt_of_not_le hsmall)
    refine exists_scale_of_le ?_ (Nat.le_refl _) hlarge (hgreatest i (by omega))
    exact (Nat.le_div_iff_mul_le (Nat.pow_pos (by decide))).mpr hle
  · have hzero : digits = 0 := by
      have hbeyond : upperMidpoint < 10 ^ (greatestPower + 1) := by decide +kernel
      have hpow : 10 ^ (greatestPower + 1) ≤ 10 ^ e :=
        Nat.pow_le_pow_right (by decide) (Nat.lt_of_not_le hlarge)
      by_contra hpos
      have hone : 10 ^ e ≤ digits * 10 ^ e := Nat.le_mul_of_pos_left _ (Nat.pos_of_ne_zero hpos)
      omega
    rw [scale, if_neg (by omega), if_neg (by simpa using hlarge), if_pos hzero]
    exact ⟨_, rfl⟩

/-! ## The number of a numeral -/

theorem ofDigitChars_lt (h : ∀ c ∈ text, c.isDigit) :
    Nat.ofDigitChars 10 text n < 10 ^ text.length * (n + 1) := by
  induction text generalizing n with
  | nil => simp
  | cons c rest ih =>
    obtain ⟨hc, hrest⟩ := List.forall_mem_cons.mp h
    have hdigit : c.toNat - '0'.toNat ≤ 9 := by
      have hle := (Char.isDigit_iff_toNat.mp hc).2
      have hnine : '9'.toNat = '0'.toNat + 9 := rfl
      omega
    rw [Nat.ofDigitChars_cons, List.length_cons, Nat.pow_succ]
    refine Nat.lt_of_lt_of_le (ih hrest) ?_
    rw [Nat.mul_assoc]
    exact Nat.mul_le_mul_left _ (by omega)

/-- A numeral with a fraction and no exponent has a number, if its whole part is not too long. -/
theorem exists_value_of_fraction {fraction : List Char} (hfraction : m.fraction = some fraction)
    (hexponent : m.exponent = none) (hwhole : ∀ c ∈ m.whole, c.isDigit)
    (hlength : m.whole.length ≤ 19) : ∃ n, m.value = .ok n := by
  have hbound : Nat.ofDigitChars 10 m.whole 0 < Nat.pow 2 64 := by
    have hlt := ofDigitChars_lt (n := 0) hwhole
    have hpow : 10 ^ m.whole.length ≤ 10 ^ 19 := Nat.pow_le_pow_right (by decide) hlength
    simp only [Nat.pow_eq]
    omega
  have hscale : ∃ x, scale m.negative (takeDigits (Nat.ofDigitChars 10 m.whole 0) fraction).1
      (0 - (fraction.length -
        (takeDigits (Nat.ofDigitChars 10 m.whole 0) fraction).2.length : Nat) + 0) = .ok x :=
    exists_scale_of_nonpos (takeDigits_lt hbound) (by omega)
  obtain ⟨x, hx⟩ := hscale
  have hread : m.value = Except.map (fun x => .float .double x) (.ok x) := by
    rw [← hx]
    simp only [value, takeDigits_eq hbound, hfraction, hexponent]
    rfl
  exact ⟨_, hread⟩

/-- The digits of a numeral with an exponent are all taken, if they are not too many. -/
theorem value_of_exponent (hexponent : m.exponent = some exponent)
    (hdigits : Nat.ofDigitChars 10 (m.whole ++ m.fraction.getD []) 0 < 2 ^ 64) :
    m.value = (scale m.negative (Nat.ofDigitChars 10 (m.whole ++ m.fraction.getD []) 0)
      (exponent - (m.fraction.getD []).length)).map (.float .double) := by
  rw [Nat.ofDigitChars_append] at hdigits ⊢
  have hwhole : Nat.ofDigitChars 10 m.whole 0 < Nat.pow 2 64 :=
    Nat.lt_of_le_of_lt le_ofDigitChars hdigits
  have hplaces : exponent - ((m.fraction.getD []).length : Int) =
      ((([] : List Char).length : Int) -
        ((m.fraction.getD []).length - ([] : List Char).length : Nat)) + exponent := by
    simp only [List.length_nil, Nat.sub_zero]
    omega
  have htaken := takeDigits_eq hdigits
  rw [hplaces]
  simp only [value, takeDigits_eq hwhole, hexponent]
  cases hfraction : m.fraction with
  | none => rfl
  | some fraction =>
    rw [hfraction, Option.getD_some] at htaken
    simp only [Option.getD_some, htaken]
    rfl

/-! ## The numeral of a decimal -/

variable {d : Decimal} {layout : Decimal.Layout}

theorem exists_denotes_fraction {front back : List Char}
    (h : (⟨negative, front, some back, none⟩ : Numeral).Proper)
    (hlength : front.length ≤ 19) :
    ∃ n, Denotes ((if negative then ['-'] else []) ++ (front ++ '.' :: back)) n := by
  obtain ⟨n, hn⟩ := exists_value_of_fraction rfl rfl h.isDigit hlength
  exact ⟨n, _, false, h, by simp [written, fractionText, exponentText], hn⟩

theorem exists_denotes_zero {back : List Char} (hne : back ≠ [])
    (hback : ∀ c ∈ back, c.isDigit) :
    ∃ n, Denotes ((if negative then ['-'] else []) ++ '0' :: '.' :: back) n := by
  refine exists_denotes_fraction ⟨.inl rfl, List.forall_mem_singleton.mpr rfl, ?_⟩ (by decide)
  rintro fraction ⟨⟩
  exact ⟨hne, hback⟩

/-- A point among digits gives a proper numeral, whatever its exponent. -/
theorem exists_pointed {whole : Nat} (hn : 0 < n) (hwhole : 0 < whole) :
    ∃ front back, Decimal.pointed (Nat.toDigits 10 n) whole = front ++ '.' :: back ∧
      front.length = whole ∧
      ∀ negative exponent, (⟨negative, front, some back, exponent⟩ : Numeral).Proper := by
  obtain ⟨c, digits, hdigits, hc⟩ := head_toDigits hn
  have hall : ∀ c ∈ Nat.toDigits 10 n, c.isDigit := fun _ => isDigit_of_mem_toDigits
  refine ⟨_, _, rfl, ?_, fun negative exponent => ⟨.inr ?_, ?_, ?_⟩⟩
  · simp only [List.length_append, List.length_take, List.length_replicate]
    omega
  · obtain ⟨below, rfl⟩ := Nat.exists_eq_add_one_of_ne_zero hwhole.ne'
    exact ⟨c, _, by rw [hdigits, List.take_succ_cons, List.cons_append], hc⟩
  · intro c hmem
    rcases List.mem_append.mp hmem with htaken | hzero
    · exact hall c (List.mem_of_mem_take htaken)
    · rw [List.eq_of_mem_replicate hzero]
      rfl
  · rintro fraction ⟨⟩
    split
    · exact ⟨List.cons_ne_nil _ _, List.forall_mem_singleton.mpr rfl⟩
    · next hne =>
      exact ⟨fun hnil => hne (List.isEmpty_iff.mpr hnil),
        fun c hmem => hall c (List.mem_of_mem_drop hmem)⟩

/-- The digits of a decimal with an exponent, set for the first of them, are taken as they are. -/
theorem exists_value_of_decimal {c : Char} {fraction : Option (List Char)}
    (hdigits : d.digits < 2 ^ 64) (htext : Nat.toDigits 10 d.digits = [c] ++ fraction.getD [])
    (hscale : 0 ≤ d.exponent → ∃ x, scale negative d.digits d.exponent = .ok x) :
    ∃ n, value ⟨negative, [c], fraction, some (d.exponent + ((fraction.getD []).length : Int))⟩ =
      .ok n := by
  have hnumber : Nat.ofDigitChars 10 ([c] ++ fraction.getD []) 0 = d.digits := by
    rw [← htext, Nat.ofDigitChars_ten_toDigits]
  obtain ⟨x, hx⟩ : ∃ x, scale negative d.digits d.exponent = .ok x := by
    by_cases hneg : d.exponent < 0
    · rw [scale, if_pos hneg]
      exact ⟨_, rfl⟩
    · exact hscale (Int.not_lt.mp hneg)
  refine ⟨.float .double x, ?_⟩
  rw [← hnumber] at hdigits hx
  rw [value_of_exponent rfl hdigits, Int.add_sub_cancel, hx]
  rfl

theorem exists_denotes_exponent (hpos : 0 < d.digits) (hdigits : d.digits < 2 ^ 64)
    (hscale : 0 ≤ d.exponent → ∃ x, scale negative d.digits d.exponent = .ok x) (plus : Bool) :
    ∃ n, Denotes ((if negative then ['-'] else []) ++
      ((if (Nat.toDigits 10 d.digits).length = 1 then Nat.toDigits 10 d.digits
        else Decimal.pointed (Nat.toDigits 10 d.digits) 1) ++ exponentText plus
          (some (d.exponent + ((Nat.toDigits 10 d.digits).length : Int) - 1)))) n := by
  obtain ⟨c, tail, htext, hc⟩ := head_toDigits hpos
  have hall : ∀ digit ∈ c :: tail, digit.isDigit := by
    rw [← htext]
    exact fun _ => isDigit_of_mem_toDigits
  obtain ⟨hhead, htail⟩ := List.forall_mem_cons.mp hall
  have hlead : d.exponent + ((Nat.toDigits 10 d.digits).length : Int) - 1 =
      d.exponent + (tail.length : Int) := by
    rw [htext, List.length_cons]
    omega
  have hwhole : ∀ digit ∈ [c], digit.isDigit := List.forall_mem_singleton.mpr hhead
  rw [hlead, htext]
  cases tail with
  | nil =>
    have hproper : Proper ⟨negative, [c], none, some (d.exponent + (0 : Nat))⟩ :=
      ⟨.inr ⟨c, [], rfl, hc⟩, hwhole, nofun⟩
    obtain ⟨n, hn⟩ : ∃ n, value ⟨negative, [c], none, some (d.exponent + (0 : Nat))⟩ = .ok n :=
      exists_value_of_decimal hdigits htext hscale
    exact ⟨n, _, plus, hproper, by simp [written, fractionText], hn⟩
  | cons digit more =>
    have hfraction : ∀ fraction ∈ some (digit :: more),
        fraction ≠ [] ∧ ∀ c ∈ fraction, c.isDigit := by
      rintro fraction ⟨⟩
      exact ⟨List.cons_ne_nil _ _, htail⟩
    obtain ⟨n, hn⟩ : ∃ n, value ⟨negative, [c], some (digit :: more),
        some (d.exponent + ((digit :: more).length : Int))⟩ = .ok n :=
      exists_value_of_decimal hdigits htext hscale
    exact ⟨n, _, plus, ⟨.inr ⟨c, [], rfl, hc⟩, hwhole, hfraction⟩,
      by simp [written, fractionText, Decimal.pointed], hn⟩

/-- A decimal is read from its text, if its product is in range where one is formed. -/
theorem exists_denotes_decimal (hfixed : layout.greatestFixed ≤ 18) (hdigits : d.digits < 2 ^ 64)
    (hscale : 0 ≤ d.exponent → ∃ x, scale negative d.digits d.exponent = .ok x) :
    ∃ n, Denotes ((if negative then ['-'] else []) ++ d.text layout) n := by
  simp only [Decimal.text]
  by_cases hzero : d.digits = 0
  · rw [if_pos hzero]
    exact exists_denotes_zero (List.cons_ne_nil _ _) (List.forall_mem_singleton.mpr rfl)
  have hpos : 0 < d.digits := Nat.pos_of_ne_zero hzero
  rw [if_neg hzero]
  by_cases hrange : d.exponent + ((Nat.toDigits 10 d.digits).length : Int) - 1 < layout.leastFixed ∨
      layout.greatestFixed < d.exponent + ((Nat.toDigits 10 d.digits).length : Int) - 1
  · rw [if_pos hrange]
    have hread := exists_denotes_exponent hpos hdigits hscale layout.plusSign
    simpa [exponentText] using hread
  rw [if_neg hrange]
  by_cases hlead : 0 ≤ d.exponent + ((Nat.toDigits 10 d.digits).length : Int) - 1
  · obtain ⟨front, back, htext, hlength, hproper⟩ := exists_pointed hpos (Nat.succ_pos
      (d.exponent + ((Nat.toDigits 10 d.digits).length : Int) - 1).toNat)
    rw [if_pos hlead, htext]
    exact exists_denotes_fraction (hproper _ _) (by omega)
  · rw [if_neg hlead]
    refine exists_denotes_zero (List.append_ne_nil_of_right_ne_nil _ Nat.toDigits_ne_nil)
      fun c hc => ?_
    rcases List.mem_append.mp hc with hzeros | hdigit
    · rw [List.eq_of_mem_replicate hzeros]
      rfl
    · exact isDigit_of_mem_toDigits hdigit

end Numeral

/-! ## Finite numbers -/

variable {p : Precision} {rank : Nat} {negative : Bool}

theorem digits_shortest_lt (p : Precision) (rank : Nat) :
    (p.format.shortest .toEven rank).digits < 10 ^ 17 := by
  have hcount : p.format.sufficientDigits ≤ 17 := by
    cases p <;> decide
  exact Nat.lt_of_lt_of_le Format.digits_shortest_lt (Nat.pow_le_pow_right (by decide) hcount)

/-- The decimal of a value is in range: below the largest value its midpoint to the next value is at
most the last one, and the decimal of the largest value is tried. -/
theorem exists_scale_shortest (hrank : rank < p.format.infinityRank)
    (he : 0 ≤ (p.format.shortest .toEven rank).exponent) :
    ∃ x, Numeral.scale negative (p.format.shortest .toEven rank).digits
      (p.format.shortest .toEven rank).exponent = .ok x := by
  have hdigits := (digits_shortest_lt p rank).le
  have hmidpoint := Format.shortest_le he
  obtain ⟨e, hexponent⟩ := Int.eq_ofNat_of_zero_le he
  rw [hexponent, Int.toNat_natCast] at hmidpoint
  have hbelow {n : Nat} (hn : n ≤ Numeral.upperMidpoint) (h : p.format.units rank +
      p.format.units (rank + 1) ≤ 2 * n * p.format.unitsInOne) :
      ∃ x, Numeral.scale negative (p.format.shortest .toEven rank).digits
        (p.format.shortest .toEven rank).exponent = .ok x := by
    have hle := Nat.le_of_mul_le_mul_right (hmidpoint.trans h) unitsInOne_pos
    rw [hexponent]
    exact Numeral.exists_scale_of_le_upperMidpoint hdigits (by omega)
  cases p with
  | single =>
    have hlargest : Format.single.units (Format.single.infinityRank - 1) +
        Format.single.units Format.single.infinityRank ≤
          2 * 2 ^ 128 * Format.single.unitsInOne := by
      decide +kernel
    refine hbelow (by decide +kernel) (Nat.le_trans ?_ hlargest)
    exact Nat.add_le_add (Format.units_le_of_le (Nat.le_sub_one_of_lt hrank))
      (Format.units_le_of_le hrank)
  | double =>
    by_cases hlargest : rank = Format.double.infinityRank - 1
    · have hshortest : Precision.double.format.shortest .toEven (Format.double.infinityRank - 1) =
          ⟨17976931348623157, 292⟩ := by
        decide +kernel
      rw [hlargest, hshortest]
      exact Numeral.exists_scale_of_le (Nat.le_refl _) (Nat.le_refl 292) (by decide)
        (by decide +kernel)
    · have hrank' : rank < Format.double.infinityRank := hrank
      have hsecond : Precision.double.format.units (Format.double.infinityRank - 2) +
          Precision.double.format.units (Format.double.infinityRank - 1) ≤
            2 * Numeral.upperMidpoint * Precision.double.format.unitsInOne := by
        decide +kernel
      have hbefore : rank ≤ Format.double.infinityRank - 2 := by omega
      have hafter : rank + 1 ≤ Format.double.infinityRank - 1 := by omega
      refine hbelow (Nat.le_refl _) (Nat.le_trans ?_ hsecond)
      exact Nat.add_le_add (Format.units_le_of_le hbefore) (Format.units_le_of_le hafter)

/-- Every finite number is written as a numeral of which a number is read. -/
theorem exists_denotes {n : Number} (h : n.isFinite) : ∃ m, Denotes (numberText n) m := by
  cases n with
  | int w n => exact ⟨_, denotes_int n⟩
  | float p x =>
    cases x with
    | nan => cases h
    | signed negative rank =>
      have hrank : rank.val < p.format.infinityRank := of_decide_eq_true h
      have htie : (numberLayout p).tie = .toEven := by cases p <;> rfl
      have hfixed : (numberLayout p).greatestFixed ≤ 18 := by cases p <;> decide
      have hdigits : (p.format.shortest .toEven rank.val).digits < 2 ^ 64 :=
        Nat.lt_trans (digits_shortest_lt p rank.val) (by decide)
      rw [numberText, if_pos hrank, finiteText, htie]
      exact Numeral.exists_denotes_decimal hfixed hdigits (exists_scale_shortest hrank)

/-- The numbers that are written as `null` are those that are not finite. -/
theorem numberText_eq_null_iff {n : Number} :
    numberText n = ['n', 'u', 'l', 'l'] ↔ n.isFinite = false := by
  constructor
  · intro hnull
    by_contra hfinite
    obtain ⟨_, numeral, plus, hproper, htext, -⟩ :=
      exists_denotes (Bool.eq_true_of_not_eq_false hfinite)
    obtain ⟨c, tail, hwritten, hc⟩ := hproper.exists_written plus
    rw [htext, hwritten] at hnull
    exact hc 'n' (by decide) rfl (List.cons.inj hnull).1
  · intro hinfinite
    cases n with
    | int w n => cases hinfinite
    | float p x =>
      cases x with
      | nan => rfl
      | signed negative rank => rw [numberText, if_neg (of_decide_eq_false hinfinite)]

/-- A finite tree with keys in order that fits a document is read back from its text but for its
numbers, of which none is lost. -/
theorem exists_decode_encode : ∃ g : Number → Number, ∀ style v,
    Fits Number.isFinite depthLimit v → decode (encode style v) = .ok (v.mapNumbers g) := by
  have hread (n : Number) (h : n.isFinite) : ∃ m, Denotes (numberText n) m := exists_denotes h
  choose! g hg using hread
  exact ⟨g, fun style v h => decode_encode_of_denotes hg h⟩

end TreePath.Json
