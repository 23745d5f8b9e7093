import TreePath.Proofs.Canonical.Refusal

/-!
# What data stands for

Data stands for a value or for nothing. Integers stand for themselves in a class that has room for
their type, and byte strings for lists of integers. A sequence stands for the list of what its
elements stand for, and a map or a record for the entries that have a value: of several under one
name the last one counts, at the place of the first. The tree of data is the value that it stands
for, and there is none only if the data stands for nothing, if something in it is refused, or if the
value has a blank key.
-/

namespace TreePath.Canonical

variable {d : Data} {v : Value} {vs : List Value} {items : List Data}
  {entries : List (Data × Data)} {fields : List (String × Data)} {done es : Dict Value}
  {found : Option Value} {name : String} {w c : Width} {n : Number}

/-! ## Unsigned integers, byte strings and keys -/

/-- The narrowest class that holds all unsigned integers of a width, or the widest class if none
does. -/
structure NarrowestFor (w c : Width) : Prop where
  holds : (Nat.pow 2 w.bits : Int) ≤ c.greatest + 1 ∨ c = .w64
  narrower : ∀ other : Width, other.bits < c.bits → other.greatest + 1 < (Nat.pow 2 w.bits : Int)

/-- An unsigned integer of a width stands for itself, in the narrowest class for its width. One that
has no room in the widest class is rounded to the nearest binary value. -/
def DepictsUnsigned (w : Width) (z : Nat) : Number → Prop
  | .int c n => NarrowestFor w c ∧ n.val = z
  | .float .double x => NarrowestFor w .w64 ∧ Width.greatest .w64 < z ∧ x = Binary.ofInt z
  | .float .single _ => False

/-- One number for each byte, as for an unsigned integer of eight bits. -/
def DepictsBytes (content : List UInt8) (vs : List Value) : Prop :=
  List.Forall₂ (fun b v => ∃ n, DepictsUnsigned .w8 b.toNat n ∧ v = .number n) content vs

/-- The name that a value is as a key: a text is its own, and others have the text they are shown
by. Lists and maps are no keys. -/
def Names : Value → String → Prop
  | .string s, name => name = s
  | .number (.int _ n), name => name = toString n.val
  | .number (.float _ x), name => name = String.ofList x.text
  | .bool b, name => name = toString b
  | .list _, _ | .map _, _ => False

theorem narrowestFor_iff : NarrowestFor w c ↔ c = (widened? w).getD .w64 := by
  constructor
  · rintro ⟨hholds, hnarrower⟩
    have h8 := hnarrower .w8
    have h16 := hnarrower .w16
    have h32 := hnarrower .w32
    cases w <;> cases c <;> simp_all [Width.bits, Width.greatest, widened?]
  · rintro rfl
    refine ⟨by cases w <;> decide, fun other h => ?_⟩
    cases w <;> cases other <;> revert h <;> decide

/-- Two numbers that an unsigned integer stands for are the same. -/
theorem DepictsUnsigned.unique {z : Nat} {m : Number} (hn : DepictsUnsigned w z n)
    (hm : DepictsUnsigned w z m) : n = m := by
  have hapart {c : Width} {value : Sized c} (hc : NarrowestFor w c) (hvalue : value.val = z)
      (hwidest : NarrowestFor w .w64) (hlarge : Width.greatest .w64 < (z : Int)) : False := by
    obtain rfl := (narrowestFor_iff.mp hc).trans (narrowestFor_iff.mp hwidest).symm
    exact absurd value.le_greatest (by omega)
  cases n with
  | int c value =>
    cases m with
    | int c' value' =>
      obtain ⟨hc, hvalue⟩ := hn
      obtain ⟨hc', hvalue'⟩ := hm
      obtain rfl := (narrowestFor_iff.mp hc).trans (narrowestFor_iff.mp hc').symm
      obtain ⟨_, _, _⟩ := value
      obtain ⟨_, _, _⟩ := value'
      obtain rfl := hvalue.trans hvalue'.symm
      rfl
    | float precision y =>
      cases precision with
      | single => exact hm.elim
      | double => exact (hapart hn.1 hn.2 hm.1 hm.2.1).elim
  | float precision x =>
    cases precision with
    | single => exact hn.elim
    | double =>
      cases m with
      | int _ _ => exact (hapart hm.1 hm.2 hn.1 hn.2.1).elim
      | float precision y =>
        cases precision with
        | single => exact hm.elim
        | double => rw [hn.2.2, hm.2.2]

theorem depictsUnsigned_self (z : Fin (Nat.pow 2 w.bits)) :
    DepictsUnsigned w z.val (unsignedNumber w z.val) := by
  have hleast (c : Width) : c.least ≤ (z.val : Int) := by
    have hnonpos : c.least ≤ 0 := by cases c <;> decide
    exact Int.le_trans hnonpos (Int.natCast_nonneg z.val)
  rw [unsignedNumber]
  cases hwider : widened? w with
  | some wider =>
    exact ⟨narrowestFor_iff.mpr (by rw [hwider]; rfl),
      clamp_val_of_le (hleast wider) (le_greatest_of_widened? hwider z)⟩
  | none =>
    have hwidest : NarrowestFor w .w64 := narrowestFor_iff.mpr (by rw [hwider]; rfl)
    by_cases hsmall : (z.val : Int) ≤ Width.greatest .w64
    · rw [if_pos hsmall]
      exact ⟨hwidest, clamp_val_of_le (hleast .w64) hsmall⟩
    · rw [if_neg hsmall]
      exact ⟨hwidest, Int.not_le.mp hsmall, rfl⟩

theorem depictsUnsigned_iff (z : Fin (Nat.pow 2 w.bits)) :
    DepictsUnsigned w z.val n ↔ n = unsignedNumber w z.val :=
  ⟨fun h => h.unique (depictsUnsigned_self z), fun h => h ▸ depictsUnsigned_self z⟩

theorem depictsBytes_iff {content : List UInt8} :
    DepictsBytes content vs ↔ byteList content = .list vs := by
  have hbyte (b : UInt8) (v : Value) : (∃ n, DepictsUnsigned .w8 b.toNat n ∧ v = .number n) ↔
      Value.number (Number.fromInt b.toNat (.int .w16)) = v := by
    have hb (n : Number) : DepictsUnsigned .w8 b.toNat n ↔ n = unsignedNumber .w8 b.toNat :=
      depictsUnsigned_iff (w := .w8) ⟨b.toNat, b.toNat_lt⟩
    simp only [hb, exists_eq_left, eq_comm]
    rfl
  rw [DepictsBytes, byteList, Value.list.injEq, ← List.forall₂_eq_eq_eq, List.forall₂_map_left_iff]
  simp only [hbyte]

theorem ofList_ofInt {z : Int} : String.ofList (Text.ofInt z) = toString z := by
  cases z with
  | ofNat n =>
    rw [Text.ofInt, if_neg (by simp)]
    rfl
  | negSucc n =>
    rw [Text.ofInt, if_pos (Int.negSucc_lt_zero n), String.ofList_append]
    rfl

theorem names_iff : Names v name ↔ keyName (some v) = .ok name := by
  cases v with
  | bool b =>
    rw [keyName, Except.ok.injEq, eq_comm]
    cases b <;> rfl
  | number n =>
    cases n with
    | int w value => simp [Names, keyName, Number.text, ofList_ofInt, eq_comm]
    | float precision x => simp [Names, keyName, Number.text, eq_comm]
  | string s => simp [Names, keyName, eq_comm]
  | list items => simp [Names, keyName]
  | map entries => simp [Names, keyName]

/-- The names and values of the entries that have a value. -/
def presentPairs (pairs : List (String × Option Value)) : List (String × Value) :=
  pairs.filterMap fun (name, found) => found.map fun v => (name, v)

namespace Data

mutual

/-- The value that data stands for, or that it stands for none. -/
def Depicts : Data → Option Value → Prop
  | .bool b, found => found = some (.bool b)
  | .signed w n, found => found = some (.number (.int w n))
  | .unsigned w z, found => ∃ n, DepictsUnsigned w z.val n ∧ found = some (.number n)
  | .float p x, found => x.isFinite ∧ found = some (.number (.float p x))
  | .char c, found => found = some (.string c.toString)
  | .text s, found => found = some (.string s)
  | .bytes content, found => ∃ vs, DepictsBytes content vs ∧ found = some (.list vs)
  | .absent, found => found = none
  | .present content, found => content.Depicts found
  | .unit, found => found = none
  | .wrapped content, found => content.Depicts found
  | .sequence items, found => ∃ vs, DepictsItems items vs ∧ found = some (.list vs)
  | .map entries, found =>
    ∃ pairs es, DepictsEntries entries pairs ∧ Dict.Collects (presentPairs pairs) es ∧
      found = some (.map es)
  | .record fields, found =>
    ∃ pairs es, DepictsFields fields pairs ∧ Dict.Collects (presentPairs pairs) es ∧
      found = some (.map es)
  | .unitVariant name, found => found = some (.string name)
  | .wrappedVariant name content, found =>
    ∃ v, content.Depicts (some v) ∧ found = some (.map [(name, v)])
  | .sequenceVariant name items, found =>
    ∃ vs, DepictsItems items vs ∧ found = some (.map [(name, .list vs)])
  | .recordVariant name fields, found =>
    ∃ pairs es, DepictsFields fields pairs ∧ Dict.Collects (presentPairs pairs) es ∧
      found = some (.map [(name, .map es)])
  | .valueWithoutKey _, _ => False
  | .unsupported _, _ => False
  | .failing _, _ => False

/-- One value for each element. -/
def DepictsItems : List Data → List Value → Prop
  | [], [] => True
  | d :: rest, v :: vs => d.Depicts (some v) ∧ DepictsItems rest vs
  | _, _ => False

/-- The name of the key of each entry, and what the entry stands for. -/
def DepictsEntries : List (Data × Data) → List (String × Option Value) → Prop
  | [], [] => True
  | (key, d) :: rest, (name, found) :: pairs =>
    (∃ v, key.Depicts (some v) ∧ Names v name) ∧ d.Depicts found ∧
      DepictsEntries rest pairs
  | _, _ => False

/-- The name of each field, and what the field stands for. -/
def DepictsFields : List (String × Data) → List (String × Option Value) → Prop
  | [], [] => True
  | (field, d) :: rest, (name, found) :: pairs =>
    name = field ∧ d.Depicts found ∧ DepictsFields rest pairs
  | _, _ => False

end

end Data

/-! ## Entries that are put in -/

/-- Entries put in one after the other, those that have a value. -/
def putPairs (done : Dict Value) (pairs : List (String × Option Value)) : Dict Value :=
  pairs.foldl (fun done (name, found) => insertPresent name found done) done

theorem putPairs_nil {pairs : List (String × Option Value)} :
    putPairs [] pairs = Dict.ofPairs (presentPairs pairs) := by
  rw [putPairs, Dict.ofPairs, presentPairs, List.foldl_filterMap]
  congr 1
  funext done pair
  obtain ⟨name, found⟩ := pair
  cases found <;> rfl

namespace Data

theorem depictsEntries_nil {pairs : List (String × Option Value)} :
    DepictsEntries [] pairs ↔ pairs = [] := by
  cases pairs <;> simp [DepictsEntries]

theorem depictsFields_nil {pairs : List (String × Option Value)} :
    DepictsFields [] pairs ↔ pairs = [] := by
  cases pairs <;> simp [DepictsFields]

mutual

/-- What is made of data is what it stands for. -/
theorem lower_eq_ok_iff : ∀ {d : Data} {found : Option Value},
    d.lower = .ok found ↔ d.Depicts found
  | .bool _, _ | .signed _ _, _ | .char _, _ | .text _, _ | .absent, _ | .unit, _
  | .unitVariant _, _ => by
    rw [lower, Depicts, Except.ok.injEq, eq_comm]
  | .unsigned _ _, _ => by
    rw [lower, Depicts, Except.ok.injEq, eq_comm]
    simp only [depictsUnsigned_iff, exists_eq_left]
  | .bytes content, _ => by
    obtain ⟨vs, hvs⟩ : ∃ vs, byteList content = .list vs := ⟨_, rfl⟩
    rw [lower, Depicts, Except.ok.injEq, eq_comm]
    simp only [depictsBytes_iff, hvs, Value.list.injEq, exists_eq_left']
  | .valueWithoutKey _, _ | .unsupported _, _ | .failing _, _ => by simp [lower, Depicts]
  | .float _ _, _ => by
    rw [lower, map_eq_ok, Depicts]
    simp only [finiteNumber_eq_ok, and_assoc, exists_and_left, exists_eq_left']
    exact and_congr_right fun _ => eq_comm
  | .present content, _ => lower_eq_ok_iff (d := content)
  | .wrapped content, _ => lower_eq_ok_iff (d := content)
  | .sequence _, _ => by
    rw [lower, map_eq_ok, Depicts]
    exact exists_congr fun vs => and_congr lowerItems_eq_ok_iff eq_comm
  | .map _, _ => by
    rw [lower, map_eq_ok, Depicts]
    simp only [lowerEntries_eq_ok_iff, putPairs_nil, Dict.ofPairs_eq_iff]
    grind
  | .record _, _ => by
    rw [lower, map_eq_ok, Depicts]
    simp only [lowerFields_eq_ok_iff, putPairs_nil, Dict.ofPairs_eq_iff]
    grind
  | .wrappedVariant _ _, _ => by
    rw [lower, bind_eq_ok, Depicts]
    simp only [lower_eq_ok_iff, map_eq_ok, required_eq_ok, tagged]
    grind
  | .sequenceVariant _ _, _ => by
    rw [lower, map_eq_ok, Depicts]
    exact exists_congr fun vs => and_congr lowerItems_eq_ok_iff eq_comm
  | .recordVariant _ _, _ => by
    rw [lower, map_eq_ok, Depicts]
    simp only [lowerFields_eq_ok_iff, putPairs_nil, Dict.ofPairs_eq_iff, tagged]
    grind

theorem lowerItems_eq_ok_iff : ∀ {items : List Data} {vs : List Value},
    lowerItems items = .ok vs ↔ DepictsItems items vs
  | [], vs => by cases vs <;> simp [lowerItems, DepictsItems]
  | d :: rest, [] => by simp [lowerItems, DepictsItems, bind_eq_ok, map_eq_ok]
  | d :: rest, v :: vs => by
    rw [lowerItems, bind_eq_ok, DepictsItems]
    simp only [bind_eq_ok, map_eq_ok, required_eq_ok, lower_eq_ok_iff, lowerItems_eq_ok_iff]
    grind

theorem lowerEntries_eq_ok_iff : ∀ {entries : List (Data × Data)} {done es : Dict Value},
    lowerEntries done entries = .ok es ↔
      ∃ pairs, DepictsEntries entries pairs ∧ putPairs done pairs = es
  | [], done, es => by simp [lowerEntries, depictsEntries_nil, putPairs]
  | (key, d) :: rest, done, es => by
    simp only [lowerEntries, bind_eq_ok, lower_eq_ok_iff, lowerEntries_eq_ok_iff]
    constructor
    · rintro ⟨present, hkey, name, hname, found, hd, pairs, hrest, hput⟩
      cases present with
      | none => cases hname
      | some v =>
        exact ⟨(name, found) :: pairs, ⟨⟨v, hkey, names_iff.mpr hname⟩, hd, hrest⟩, hput⟩
    · rintro ⟨pairs, hpairs, hput⟩
      cases pairs with
      | nil => exact hpairs.elim
      | cons pair pairs =>
        obtain ⟨⟨v, hkey, hname⟩, hd, hrest⟩ := hpairs
        exact ⟨some v, hkey, pair.1, names_iff.mp hname, pair.2, hd, pairs, hrest, hput⟩

theorem lowerFields_eq_ok_iff : ∀ {fields : List (String × Data)} {done es : Dict Value},
    lowerFields done fields = .ok es ↔
      ∃ pairs, DepictsFields fields pairs ∧ putPairs done pairs = es
  | [], done, es => by simp [lowerFields, depictsFields_nil, putPairs]
  | (name, d) :: rest, done, es => by
    simp only [lowerFields, bind_eq_ok, lower_eq_ok_iff, lowerFields_eq_ok_iff]
    constructor
    · rintro ⟨found, hd, pairs, hrest, hput⟩
      exact ⟨(name, found) :: pairs, ⟨rfl, hd, hrest⟩, hput⟩
    · rintro ⟨pairs, hpairs, hput⟩
      cases pairs with
      | nil => exact hpairs.elim
      | cons pair pairs =>
        obtain ⟨rfl, hd, hrest⟩ := hpairs
        exact ⟨pair.2, hd, pairs, hrest, hput⟩

end

/-- The tree of data is the value that it stands for, if no key of this is blank. -/
theorem toCanonical_eq_ok_iff : d.toCanonical = .ok v ↔ d.Depicts (some v) ∧ v.isValid := by
  rw [toCanonical_eq_ok, lower_eq_ok_iff]

theorem fails_toCanonical :
    Fails d.toCanonical ↔
      Fails d.lower ∨ d.lower = .ok none ∨ ∃ v, d.lower = .ok (some v) ∧ v.isValid = false := by
  rw [toCanonical]
  cases d.lower with
  | error e => simp [Except.bind]
  | ok found =>
    cases found with
    | none => simp [Except.bind]
    | some v => cases hvalid : v.isValid <;> simp [Except.bind, Value.validate, hvalid]

/-- There is no tree of data exactly if the data is absent, if something refused stands somewhere
in it, or if the value it stands for has a blank key. The tree of all other data is the value that
it stands for: it has no blank key, no key twice, and its numbers are finite. -/
theorem toCanonical_depicts (d : Data) :
    (Fails d.toCanonical ↔
      d.isAbsent ∨ (∃ n, Within n d ∧ n.isRefused) ∨ ∃ v, d.Depicts (some v) ∧ v.isValid = false) ∧
    ∀ v, d.toCanonical = .ok v →
      v.validate = .ok () ∧ v.isDistinct ∧ v.allNumbers Number.isFinite ∧ d.Depicts (some v) := by
  refine ⟨?_, fun v h => ?_⟩
  · rw [fails_toCanonical, fails_lower_iff, lower_eq_none_iff]
    simp only [lower_eq_ok_iff]
    exact or_left_comm
  · obtain ⟨hdepicts, hvalid⟩ := toCanonical_eq_ok_iff.mp h
    have hlower := lower_eq_ok_iff.mpr hdepicts
    exact ⟨Value.validate_eq_ok.mpr hvalid, holds_of_lower builtUp_isDistinct hlower,
      holds_of_lower builtUp_isFinite hlower, hdepicts⟩

/-- A key that stands twice, a blank key for nothing, a number as a key, and variants. -/
theorem toCanonical_depicts_variants :
    let d : Data := .map [(.text "a", .signed .w8 ⟨1, by decide, by decide⟩), (.text "", .absent),
      (.unsigned .w8 ⟨7, by decide⟩, .present (.wrappedVariant "V" (.bool true))),
      (.text "a", .unitVariant "W"), (.text "a", .unit)]
    let v : Value := .map [("a", .string "W"), ("7", .map [("V", .bool true)])]
    d.toCanonical = .ok v ∧ v.validate = .ok () ∧ v.isDistinct ∧ v.allNumbers Number.isFinite ∧
      d.Depicts (some v) := by
  intro d v
  have h : d.toCanonical = .ok v := rfl
  exact ⟨h, (toCanonical_depicts d).2 v h⟩

end Data

end TreePath.Canonical
