import TreePath.Canonical.Lower
import TreePath.Proofs.Number.Coercion
import TreePath.Proofs.Outcome
import TreePath.Proofs.Value.Sound

/-!
# The trees of data

What holds of all leaves with finite numbers, and of lists and maps if it holds of what is in them,
holds of the trees of all data. So whatever data a tree is made from, its numbers are finite and no
map in it has a key twice: entries and fields under a name that was there before replace the earlier
ones. Blank keys are looked for at the end.
-/

namespace TreePath.Canonical

open Value

variable {Q : Value → Prop} {v : Value} {done : Dict Value} {name : String}

/-- A property of values that comes from what they are made of. No map that is made of data has a
key twice. -/
structure BuiltUp (Q : Value → Prop) : Prop where
  bool : ∀ b, Q (.bool b)
  number : ∀ n, n.isFinite → Q (.number n)
  string : ∀ s, Q (.string s)
  list : ∀ vs, (∀ v ∈ vs, Q v) → Q (.list vs)
  map : ∀ es : Dict Value, (Dict.keys es).Nodup → (∀ entry ∈ es, Q entry.2) → Q (.map es)

theorem builtUp_isDistinct : BuiltUp fun v => v.isDistinct where
  bool _ := rfl
  number _ _ := rfl
  string _ := rfl
  list _ h := distinctItems_iff.mpr h
  map _ hnodup h := isDistinct_map.mpr ⟨hnodup, h⟩

theorem builtUp_isFinite : BuiltUp fun v => v.allNumbers Number.isFinite where
  bool _ := rfl
  number _ h := h
  string _ := rfl
  list _ h := allNumbersItems_iff.mpr h
  map _ _ h := allNumbersEntries_iff.mpr h

/-- Entries with distinct keys, of whose values something holds. -/
structure Kept (Q : Value → Prop) (done : Dict Value) : Prop where
  nodup : (Dict.keys done).Nodup
  values : ∀ entry ∈ done, Q entry.2

theorem kept_nil : Kept Q [] := ⟨List.nodup_nil, List.forall_mem_nil _⟩

/-- Entries that are put in one after the other have distinct keys. -/
theorem Kept.insertPresent {v : Option Value} (h : Kept Q done) (hv : ∀ w, v = some w → Q w) :
    Kept Q (insertPresent name v done) := by
  cases v with
  | none => exact h
  | some w =>
    refine ⟨Dict.nodup_keys_insert h.nodup, fun entry hentry => ?_⟩
    rcases Dict.mem_insert hentry with hold | rfl
    · exact h.values entry hold
    · exact hv w rfl

theorem BuiltUp.tagged (hQ : BuiltUp Q) (h : Q v) : Q (tagged name v) :=
  hQ.map _ (List.nodup_singleton name) (List.forall_mem_singleton.mpr h)

theorem required_eq_ok {place : String} {found : Option Value} :
    required place found = .ok v ↔ found = some v := by
  cases found <;> simp [required]

theorem finiteNumber_eq_ok {p : Precision} {x : Binary p.format} :
    finiteNumber p x = .ok v ↔ x.isFinite ∧ .number (.float p x) = v := by
  rw [finiteNumber]
  split <;> simp_all

theorem clamp_val_of_le {w : Width} {z : Int} (hleast : w.least ≤ z) (hgreatest : z ≤ w.greatest) :
    (Sized.clamp w z).val = z :=
  congrArg Sized.val (Sized.clamp_val ⟨z, hleast, hgreatest⟩)

/-- An unsigned integer of less than 64 bits fits the next width, and so 63 bits. -/
theorem le_greatest_of_widened? {w wider : Width} (h : widened? w = some wider)
    (n : Fin (Nat.pow 2 w.bits)) : (n.val : Int) ≤ wider.greatest := by
  have hbound := n.isLt
  cases w <;> cases h <;> simp [Width.greatest, Width.bits] at hbound ⊢ <;> omega

theorem isFinite_unsignedNumber {w : Width} (n : Fin (Nat.pow 2 w.bits)) :
    (unsignedNumber w n.val).isFinite := by
  have hbits : Nat.pow 2 w.bits ≤ 2 ^ 64 := by cases w <;> decide
  have hn : (n.val : Int).natAbs ≤ 2 ^ 64 := by omega
  rw [unsignedNumber]
  split
  · exact Number.isFinite_fromInt hn
  · split <;> exact Number.isFinite_fromInt hn

namespace Data

mutual

/-- A property that comes from what values are made of holds of all trees of data. -/
theorem holds_of_lower (hQ : BuiltUp Q) : ∀ {d : Data} {v : Value}, d.lower = .ok (some v) → Q v
  | .bool _, _, h => by
    cases h
    exact hQ.bool _
  | .signed _ _, _, h => by
    cases h
    exact hQ.number _ rfl
  | .unsigned _ n, _, h => by
    cases h
    exact hQ.number _ (isFinite_unsignedNumber n)
  | .float _ _, _, h => by
    obtain ⟨v, hv, hsome⟩ := map_eq_ok.mp h
    cases hsome
    obtain ⟨hfinite, rfl⟩ := finiteNumber_eq_ok.mp hv
    exact hQ.number _ hfinite
  | .char _, _, h => by
    cases h
    exact hQ.string _
  | .text _, _, h => by
    cases h
    exact hQ.string _
  | .bytes _, _, h => by
    cases h
    refine hQ.list _ fun v hv => ?_
    obtain ⟨b, -, rfl⟩ := List.mem_map.mp hv
    exact hQ.number _ rfl
  | .present content, _, h => holds_of_lower hQ (d := content) h
  | .wrapped content, _, h => holds_of_lower hQ (d := content) h
  | .sequence _, _, h => by
    obtain ⟨vs, hvs, hv⟩ := map_eq_ok.mp h
    cases hv
    exact hQ.list _ (holds_of_lowerItems hQ hvs)
  | .map _, _, h => by
    obtain ⟨es, hes, hv⟩ := map_eq_ok.mp h
    cases hv
    obtain ⟨hnodup, hvalues⟩ := kept_of_lowerEntries hQ kept_nil hes
    exact hQ.map _ hnodup hvalues
  | .record _, _, h => by
    obtain ⟨es, hes, hv⟩ := map_eq_ok.mp h
    cases hv
    obtain ⟨hnodup, hvalues⟩ := kept_of_lowerFields hQ kept_nil hes
    exact hQ.map _ hnodup hvalues
  | .unitVariant _, _, h => by
    cases h
    exact hQ.string _
  | .wrappedVariant _ _, _, h => by
    obtain ⟨found, hfound, h⟩ := bind_eq_ok.mp h
    obtain ⟨v, hv, hsome⟩ := map_eq_ok.mp h
    cases hsome
    rw [required_eq_ok.mp hv] at hfound
    exact hQ.tagged (holds_of_lower hQ hfound)
  | .sequenceVariant _ _, _, h => by
    obtain ⟨vs, hvs, hv⟩ := map_eq_ok.mp h
    cases hv
    exact hQ.tagged (hQ.list _ (holds_of_lowerItems hQ hvs))
  | .recordVariant _ _, _, h => by
    obtain ⟨es, hes, hv⟩ := map_eq_ok.mp h
    cases hv
    obtain ⟨hnodup, hvalues⟩ := kept_of_lowerFields hQ kept_nil hes
    exact hQ.tagged (hQ.map _ hnodup hvalues)

theorem holds_of_lowerItems (hQ : BuiltUp Q) : ∀ {items : List Data} {vs : List Value},
    lowerItems items = .ok vs → ∀ v ∈ vs, Q v
  | [], _, h => by
    cases h
    exact List.forall_mem_nil _
  | _ :: _, _, h => by
    obtain ⟨found, hfound, h⟩ := bind_eq_ok.mp h
    obtain ⟨v, hv, h⟩ := bind_eq_ok.mp h
    obtain ⟨vs, hvs, rfl⟩ := map_eq_ok.mp h
    rw [required_eq_ok.mp hv] at hfound
    exact List.forall_mem_cons.mpr ⟨holds_of_lower hQ hfound, holds_of_lowerItems hQ hvs⟩

theorem kept_of_lowerEntries (hQ : BuiltUp Q) : ∀ {entries : List (Data × Data)}
    {done es : Dict Value}, Kept Q done → lowerEntries done entries = .ok es → Kept Q es
  | [], _, _, hdone, h => by
    cases h
    exact hdone
  | (_, _) :: _, _, _, hdone, h => by
    obtain ⟨_, -, h⟩ := bind_eq_ok.mp h
    obtain ⟨_, -, h⟩ := bind_eq_ok.mp h
    obtain ⟨v, hv, h⟩ := bind_eq_ok.mp h
    refine kept_of_lowerEntries hQ (hdone.insertPresent fun w hw => ?_) h
    exact holds_of_lower hQ (hw ▸ hv)

theorem kept_of_lowerFields (hQ : BuiltUp Q) : ∀ {fields : List (String × Data)}
    {done es : Dict Value}, Kept Q done → lowerFields done fields = .ok es → Kept Q es
  | [], _, _, hdone, h => by
    cases h
    exact hdone
  | (_, _) :: _, _, _, hdone, h => by
    obtain ⟨v, hv, h⟩ := bind_eq_ok.mp h
    refine kept_of_lowerFields hQ (hdone.insertPresent fun w hw => ?_) h
    exact holds_of_lower hQ (hw ▸ hv)

end

theorem toCanonical_eq_ok {d : Data} :
    d.toCanonical = .ok v ↔ d.lower = .ok (some v) ∧ v.isValid := by
  rw [toCanonical, bind_eq_ok]
  constructor
  · rintro ⟨found, hfound, h⟩
    cases found with
    | none => cases h
    | some w =>
      obtain ⟨_, hvalid, rfl⟩ := map_eq_ok.mp h
      exact ⟨hfound, validate_eq_ok.mp hvalid⟩
  · rintro ⟨hlower, hvalid⟩
    exact ⟨some v, hlower, map_eq_ok.mpr ⟨(), validate_eq_ok.mpr hvalid, rfl⟩⟩

/-- The tree of data has no key twice and no blank key. -/
theorem sound_of_toCanonical {d : Data} (h : d.toCanonical = .ok v) : Sound (fun _ => true) v := by
  obtain ⟨hlower, hvalid⟩ := toCanonical_eq_ok.mp h
  exact sound_iff.mpr ⟨holds_of_lower builtUp_isDistinct hlower, hvalid⟩

end Data

end TreePath.Canonical
