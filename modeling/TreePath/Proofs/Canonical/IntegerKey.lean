import TreePath.Proofs.Canonical.Datum

/-!
# Integers as keys

The name of an integer as a key is its decimal text as long as the integer fits 64 bits with a sign.
Decimal texts of different integers are different, so no entry replaces another one. Larger integers
without a sign become binary values, and the text of such a value is no decimal text of any integer:
different integers may have the same one.
-/

namespace TreePath

/-! ## Texts of numbers -/

namespace Text

variable {a b z : Int}

theorem filter_isDigit_ofInt : (ofInt z).filter Char.isDigit = Nat.toDigits 10 z.natAbs := by
  have hdigits : (Nat.toDigits 10 z.natAbs).filter Char.isDigit = Nat.toDigits 10 z.natAbs := by
    rw [List.filter_eq_self]
    intro c hc
    exact Json.isDigit_of_mem_toDigits hc
  by_cases hneg : z < 0 <;> simp [ofInt, hneg, hdigits]

theorem minus_mem_ofInt : '-' ∈ ofInt z ↔ z < 0 := by
  have hdigits : '-' ∉ Nat.toDigits 10 z.natAbs := by
    intro hmem
    exact absurd (Json.isDigit_of_mem_toDigits hmem) (by decide)
  by_cases hneg : z < 0 <;> simp [ofInt, hneg, hdigits]

/-- Different integers have different texts: the sign is seen from the minus, and the rest from the
digits. -/
theorem ofInt_injective : Function.Injective ofInt := by
  intro a b h
  have hsign : a < 0 ↔ b < 0 := by rw [← minus_mem_ofInt, h, minus_mem_ofInt]
  have htext : Nat.toDigits 10 a.natAbs = Nat.toDigits 10 b.natAbs := by
    rw [← filter_isDigit_ofInt, h, filter_isDigit_ofInt]
  have hdigits : a.natAbs = b.natAbs := by
    simpa using congrArg (fun digits => Nat.ofDigitChars 10 digits 0) htext
  omega

theorem mem_ofInt {c : Char} (h : c ∈ ofInt z) : c = '-' ∨ c.isDigit := by
  by_cases hneg : z < 0
  · rw [ofInt, if_pos hneg, List.singleton_append, List.mem_cons] at h
    exact h.imp_right Json.isDigit_of_mem_toDigits
  · rw [ofInt, if_neg hneg, List.nil_append] at h
    exact .inr (Json.isDigit_of_mem_toDigits h)

theorem isBlank_ofInt : isBlank (ofInt z) = false := by
  obtain ⟨c, digits, htext, hdigit⟩ := Json.exists_toDigits z.natAbs
  have hmem : c ∈ ofInt z := List.mem_append_right _ (htext ▸ List.mem_cons_self)
  have hblank : isBlankChar c = false := by
    have hrange : 48 ≤ c.toNat ∧ c.toNat ≤ 57 := by
      simpa [Char.isDigit, UInt32.le_iff_toNat_le] using hdigit
    simp [isBlankChar, spaceTable, CodeTable.contains]
    omega
  rw [isBlank, List.all_eq_false]
  exact ⟨c, hmem, by simp [hblank]⟩

end Text

/-- The text of a decimal has a point or an exponent. -/
theorem Decimal.exists_mem_text (layout : Decimal.Layout) (d : Decimal) :
    ∃ c ∈ d.text layout, c = '.' ∨ c = 'e' := by
  have hpointed (digits : List Char) (whole : Nat) : '.' ∈ pointed digits whole := by
    simp [pointed]
  simp only [Decimal.text]
  by_cases hzero : d.digits = 0
  · rw [if_pos hzero]
    exact ⟨'.', by decide, .inl rfl⟩
  rw [if_neg hzero]
  split
  · exact ⟨'e', List.mem_append_left _ (List.mem_append_right _ List.mem_cons_self), .inr rfl⟩
  split
  · exact ⟨'.', hpointed _ _, .inl rfl⟩
  · exact ⟨'.', List.mem_cons_of_mem _ List.mem_cons_self, .inl rfl⟩

/-- Every text of a binary value has a character that no decimal text of an integer has. -/
theorem Binary.exists_mem_text {f : Binary.Format} (x : Binary f) :
    ∃ c ∈ x.text, c = '.' ∨ c = 'e' ∨ c = 'N' ∨ c = 'i' := by
  cases x with
  | nan => exact ⟨'N', List.mem_cons_self, by decide⟩
  | signed negative rank =>
    rw [Binary.text]
    by_cases hfinite : rank.val < f.infinityRank
    · rw [if_pos hfinite]
      obtain ⟨c, hc, hpoint⟩ := Decimal.exists_mem_text .plain (f.shortest .up rank.val)
      have hmark : c = '.' ∨ c = 'e' ∨ c = 'N' ∨ c = 'i' := hpoint.imp_right .inl
      exact ⟨c, List.mem_append_right _ hc, hmark⟩
    · rw [if_neg hfinite]
      refine ⟨'i', ?_, by decide⟩
      cases negative <;> simp

theorem Binary.text_ne_ofInt {f : Binary.Format} (x : Binary f) (z : Int) :
    x.text ≠ Text.ofInt z := by
  intro h
  obtain ⟨c, hc, hmark⟩ := Binary.exists_mem_text x
  rw [h] at hc
  rcases Text.mem_ofInt hc with rfl | hdigit
  · simp at hmark
  · rcases hmark with rfl | rfl | rfl | rfl <;> exact absurd hdigit (by decide)

theorem Binary.isBlank_text {f : Binary.Format} (x : Binary f) : Text.isBlank x.text = false := by
  obtain ⟨c, hc, hmark⟩ := Binary.exists_mem_text x
  rw [Text.isBlank, List.all_eq_false]
  refine ⟨c, hc, ?_⟩
  rcases hmark with rfl | rfl | rfl | rfl <;> decide

namespace Canonical

variable {d : Data} {z : Int} {w : Width}

/-! ## Names of integers -/

/-- Data of a type of integers with or without a sign, as it is, wrapped or held by an option. -/
def Data.HoldsInteger (d : Data) (z : Int) : Prop :=
  (∃ w n, d.bare = .signed w n ∧ n.val = z) ∨ ∃ w n, d.bare = .unsigned w n ∧ (n.val : Int) = z

/-- The name of an integer as a key. -/
def integerName (z : Int) : String :=
  if z ≤ Width.greatest .w64 then String.ofList (Text.ofInt z)
  else String.ofList (Binary.ofInt z : Binary .double).text

theorem integerName_of_le (h : z ≤ Width.greatest .w64) :
    integerName z = String.ofList (Text.ofInt z) :=
  if_pos h

theorem integerName_of_gt (h : Width.greatest .w64 < z) :
    integerName z = String.ofList (Binary.ofInt z : Binary .double).text :=
  if_neg (Int.not_le.mpr h)

theorem isBlank_integerName : Text.isBlank (integerName z).toList = false := by
  unfold integerName
  split
  · rw [String.toList_ofList, Text.isBlank_ofInt]
  · rw [String.toList_ofList, Binary.isBlank_text]

theorem text_unsignedNumber (n : Fin (Nat.pow 2 w.bits)) :
    String.ofList (unsignedNumber w n.val).text = integerName n.val := by
  have hfits (wider : Width) (hle : (n.val : Int) ≤ wider.greatest) :
      String.ofList (Number.fromInt n.val (.int wider)).text = integerName n.val := by
    have hleast : wider.least ≤ n.val := by
      have hnonpos : wider.least ≤ 0 := by cases wider <;> decide
      exact Int.le_trans hnonpos (Int.natCast_nonneg n.val)
    have hwidest : wider.greatest ≤ Width.greatest .w64 := by cases wider <;> decide
    rw [integerName_of_le (Int.le_trans hle hwidest), Number.fromInt, Number.text,
      clamp_val_of_le hleast hle]
  rw [unsignedNumber]
  cases hwider : widened? w with
  | some wider => exact hfits wider (le_greatest_of_widened? hwider n)
  | none =>
    by_cases hsmall : (n.val : Int) ≤ Width.greatest .w64
    · rw [if_pos hsmall]
      exact hfits .w64 hsmall
    · rw [if_neg hsmall, integerName_of_gt (Int.not_le.mp hsmall)]
      rfl

/-- The name of a key that is an integer depends on the integer alone. -/
theorem keyName_of_holdsInteger (h : d.HoldsInteger z) :
    d.lower.bind keyName = .ok (integerName z) := by
  rw [← Data.lower_bare]
  rcases h with ⟨w, n, hbare, rfl⟩ | ⟨w, n, hbare, rfl⟩
  · have hle : n.val ≤ Width.greatest .w64 :=
      Int.le_trans n.le_greatest (by cases w <;> decide)
    rw [hbare, integerName_of_le hle]
    rfl
  · rw [hbare, ← text_unsignedNumber n]
    rfl

/-! ## Maps with integers as keys -/

variable {entries : List (Data × Data)} {pairs : List (Int × Value)} {named : List (String × Value)}
  {done : Dict Value}

/-- Integer keys and the trees of the values under them. -/
def Data.KeyedByIntegers (entries : List (Data × Data)) (pairs : List (Int × Value)) : Prop :=
  List.Forall₂
    (fun entry pair => entry.1.HoldsInteger pair.1 ∧ entry.2.toCanonical = .ok pair.2) entries pairs

/-- Entries whose keys have names and whose values are present are put in one after the other. -/
theorem Data.lowerEntries_of_named
    (h : List.Forall₂ (fun entry pair =>
      entry.1.lower.bind keyName = .ok pair.1 ∧ entry.2.lower = .ok (some pair.2)) entries named) :
    lowerEntries done entries =
      .ok (named.foldl (fun es (key, v) => Dict.insert key v es) done) := by
  induction h generalizing done with
  | nil => rfl
  | cons hentry hrest ih =>
    obtain ⟨hkey, hvalue⟩ := hentry
    rw [lowerEntries, ← bind_bind, hkey, Except.bind, hvalue, Except.bind, ih]
    rfl

/-- Values under the names of integers. -/
def underNames (pairs : List (Int × Value)) : List (String × Value) :=
  pairs.map fun (z, v) => (integerName z, v)

theorem mem_underNames {entry : String × Value} :
    entry ∈ underNames pairs ↔ ∃ z, (z, entry.2) ∈ pairs ∧ integerName z = entry.1 := by
  rw [underNames, List.mem_map]
  constructor
  · rintro ⟨⟨z, v⟩, hmem, rfl⟩
    exact ⟨z, hmem, rfl⟩
  · rintro ⟨z, hmem, hname⟩
    exact ⟨(z, entry.2), hmem, Prod.ext hname rfl⟩

/-- A map with integers as keys is made the map of the names of the integers. -/
theorem Data.toCanonical_map_of_integers (h : KeyedByIntegers entries pairs) :
    (Data.map entries).toCanonical = .ok (.map (Dict.ofPairs (underNames pairs))) := by
  have hnamed : List.Forall₂ (fun entry pair =>
      entry.1.lower.bind keyName = .ok pair.1 ∧ entry.2.lower = .ok (some pair.2)) entries
      (underNames pairs) := by
    rw [underNames, List.forall₂_map_right_iff]
    refine h.imp fun entry pair hentry => ?_
    exact ⟨keyName_of_holdsInteger hentry.1, (toCanonical_eq_ok.mp hentry.2).1⟩
  have hvalues : ∀ pair ∈ pairs, pair.2.isValid := by
    intro pair hpair
    obtain ⟨i, hi, rfl⟩ := List.getElem_of_mem hpair
    have hentry := (List.forall₂_iff_get.mp h).2 i (h.length_eq ▸ hi) hi
    exact (toCanonical_eq_ok.mp hentry.2).2
  have hvalid : (Value.map (Dict.ofPairs (underNames pairs))).isValid := by
    refine Value.validEntries_iff.mpr ⟨fun name hname => ?_, fun entry hentry => ?_⟩
    · obtain ⟨entry, hentry, rfl⟩ := List.mem_map.mp hname
      obtain ⟨z, -, hz⟩ := mem_underNames.mp (Dict.mem_of_mem_ofPairs hentry)
      rw [← hz, isBlank_integerName]
    · obtain ⟨z, hz, -⟩ := mem_underNames.mp (Dict.mem_of_mem_ofPairs hentry)
      exact hvalues _ hz
  rw [toCanonical_eq_ok, lower, lowerEntries_of_named hnamed]
  exact ⟨rfl, hvalid⟩

/-- A map whose keys are different integers is made the map of their decimal texts, with all entries
in order, exactly if no key is too large for 64 bits with a sign. -/
theorem Data.toCanonical_integerKeys_iff (h : KeyedByIntegers entries pairs)
    (hdistinct : (pairs.map Prod.fst).Nodup) :
    (Data.map entries).toCanonical =
        .ok (.map (pairs.map fun (z, v) => (String.ofList (Text.ofInt z), v))) ↔
      ∀ pair ∈ pairs, pair.1 ≤ Width.greatest .w64 := by
  rw [toCanonical_map_of_integers h, Except.ok.injEq, Value.map.injEq]
  constructor
  · intro heq pair hpair
    by_contra hlarge
    have hkey : integerName pair.1 ∈ Dict.keys (underNames pairs) :=
      List.mem_map_of_mem (List.mem_map_of_mem hpair)
    rw [← Dict.mem_keys_ofPairs, heq] at hkey
    obtain ⟨entry, hentry, hname⟩ := List.mem_map.mp hkey
    obtain ⟨other, -, rfl⟩ := List.mem_map.mp hentry
    rw [integerName_of_gt (Int.not_le.mp hlarge), String.ofList_inj] at hname
    exact Binary.text_ne_ofInt _ _ hname.symm
  · intro hle
    have hnames : underNames pairs =
        pairs.map fun (z, v) => (String.ofList (Text.ofInt z), v) :=
      List.map_congr_left fun pair hpair =>
        congrArg (·, pair.2) (integerName_of_le (hle pair hpair))
    have hkeys : (Dict.keys (underNames pairs)).Nodup := by
      have hmap : Dict.keys (underNames pairs) =
          (pairs.map Prod.fst).map fun z => String.ofList (Text.ofInt z) := by
        simp [hnames, Dict.keys, Function.comp_def]
      rw [hmap]
      exact hdistinct.map fun a b heq => Text.ofInt_injective (String.ofList_inj.mp heq)
    rw [Dict.ofPairs_of_nodup hkeys, hnames]

/-- A negative key, the largest one that fits, and a wrapped one. -/
theorem Data.toCanonical_integerKeys_greatest :
    let entries : List (Data × Data) :=
      [(.signed .w8 ⟨-5, by decide, by decide⟩, .present (.bool true)),
        (.unsigned .w64 ⟨9223372036854775807, by decide⟩, .text "largest"),
        (.wrapped (.unsigned .w8 ⟨5, by decide⟩), .map [(.text "none", .absent)])]
    let pairs : List (Int × Value) :=
      [(-5, .bool true), (9223372036854775807, .string "largest"), (5, .map [])]
    KeyedByIntegers entries pairs ∧ (pairs.map Prod.fst).Nodup ∧
      (Data.map entries).toCanonical =
        .ok (.map [("-5", .bool true), ("9223372036854775807", .string "largest"),
          ("5", .map [])]) := by
  intro entries pairs
  have hkeyed : KeyedByIntegers entries pairs :=
    .cons ⟨.inl ⟨_, _, rfl, rfl⟩, rfl⟩ (.cons ⟨.inr ⟨_, _, rfl, rfl⟩, rfl⟩
      (.cons ⟨.inr ⟨_, _, rfl, rfl⟩, rfl⟩ .nil))
  have hdistinct : (pairs.map Prod.fst).Nodup := by decide
  have hle : ∀ pair ∈ pairs, pair.1 ≤ Width.greatest .w64 := by
    intro pair hpair
    have hkeys : ∀ z ∈ pairs.map Prod.fst, z ≤ Width.greatest .w64 := by decide
    exact hkeys pair.1 (List.mem_map_of_mem hpair)
  exact ⟨hkeyed, hdistinct, (toCanonical_integerKeys_iff hkeyed hdistinct).mpr hle⟩

/-- Of two entries whose keys do not fit 64 bits with a sign one is lost. -/
theorem Data.entry_lost_of_large_keys :
    let entries : List (Data × Data) :=
      [(.unsigned .w64 ⟨18446744073709551615, by decide⟩, .bool true),
        (.unsigned .w64 ⟨18446744073709551614, by decide⟩, .bool false)]
    let pairs : List (Int × Value) :=
      [(18446744073709551615, .bool true), (18446744073709551614, .bool false)]
    KeyedByIntegers entries pairs ∧ (pairs.map Prod.fst).Nodup ∧
      (Data.map entries).toCanonical = .ok (.map [("1.8446744073709552e19", .bool false)]) ∧
      (Data.map entries).toCanonical ≠
        .ok (.map (pairs.map fun (z, v) => (String.ofList (Text.ofInt z), v))) := by
  intro entries pairs
  have hkeyed : KeyedByIntegers entries pairs :=
    .cons ⟨.inr ⟨_, _, rfl, rfl⟩, rfl⟩ (.cons ⟨.inr ⟨_, _, rfl, rfl⟩, rfl⟩ .nil)
  have hnames : integerName 18446744073709551615 = "1.8446744073709552e19" ∧
      integerName 18446744073709551614 = "1.8446744073709552e19" := by
    decide +kernel
  have hmade : (Data.map entries).toCanonical =
      .ok (.map [("1.8446744073709552e19", .bool false)]) := by
    simp only [toCanonical_map_of_integers hkeyed, pairs, underNames, List.map_cons, hnames]
    rfl
  refine ⟨hkeyed, by decide, hmade, ?_⟩
  rw [hmade]
  simp [pairs]

end Canonical

end TreePath
