import TreePath.Proofs.Canonical

/-!
# Data that is refused

Data is made a tree part by part, and the first part that is refused ends it. Which parts are
refused is seen from each of them and from the parts right below it: it does not matter how deep
they stand, whether in a key or in a value, nor what is done with what they are a part of.
-/

namespace TreePath.Canonical

variable {d c : Data} {v : Value} {items : List Data} {entries : List (Data × Data)}
  {fields : List (String × Data)} {done : Dict Value}

theorem fails_keyName : Fails (keyName (some v)) ↔ v.isContainer := by
  cases v <;> simp [keyName, Value.isContainer, Value.kind, Kind.isContainer]

theorem fails_finiteNumber {p : Precision} {x : Binary p.format} :
    Fails (finiteNumber p x) ↔ x.isFinite = false := by
  rw [finiteNumber]
  split <;> simp_all

namespace Data

/-- Data without a value: an absent option, the unit, or what holds or wraps one of these. -/
def isAbsent : Data → Bool
  | .absent | .unit => true
  | .present content | .wrapped content => content.isAbsent
  | _ => false

/-- Data of which a list or a map is made. -/
def isContainer : Data → Bool
  | .bytes _ | .sequence _ | .map _ | .record _ => true
  | .wrappedVariant _ _ | .sequenceVariant _ _ | .recordVariant _ _ => true
  | .present content | .wrapped content => content.isContainer
  | _ => false

/-- The data right below data: elements, keys and values, fields, or contents. -/
def children : Data → List Data
  | .present content | .wrapped content | .wrappedVariant _ content => [content]
  | .sequence items | .sequenceVariant _ items => items
  | .map entries => entries.flatMap fun (key, d) => [key, d]
  | .record fields | .recordVariant _ fields => fields.map Prod.snd
  | .valueWithoutKey d => [d]
  | _ => []

/-- The data itself and all that stands somewhere in it. -/
inductive Within (n : Data) : Data → Prop
  | self : Within n n
  | child {d c : Data} (hc : c ∈ d.children) (h : Within n c) : Within n d

/-- Data that is refused by what it is itself: a number that is not finite, a sequence with an absent
element, a variant around something absent, a map with a key that is absent or a container. The last
three kinds of data are those of no supported type, as integers of 128 bits are, and those that fail
by themselves. -/
def isRefused : Data → Bool
  | .float _ x => !x.isFinite
  | .sequence items | .sequenceVariant _ items => items.any isAbsent
  | .wrappedVariant _ content => content.isAbsent
  | .map entries => entries.any fun (key, _) => key.isAbsent || key.isContainer
  | .valueWithoutKey _ | .unsupported _ | .failing _ => true
  | _ => false

/-! ## Induction on what data is made of -/

theorem sizeOf_lt_of_mem_children (h : c ∈ d.children) : sizeOf c < sizeOf d := by
  cases d <;> simp only [children, List.mem_singleton, List.not_mem_nil] at h
  case present | wrapped | wrappedVariant | valueWithoutKey =>
    subst h
    simp only [present.sizeOf_spec, wrapped.sizeOf_spec, wrappedVariant.sizeOf_spec,
      valueWithoutKey.sizeOf_spec]
    omega
  case sequence | sequenceVariant =>
    have hlt := List.sizeOf_lt_of_mem h
    simp only [sequence.sizeOf_spec, sequenceVariant.sizeOf_spec]
    omega
  case map =>
    obtain ⟨⟨key, value⟩, hentry, hc⟩ := List.mem_flatMap.mp h
    have hlt := List.sizeOf_lt_of_mem hentry
    simp only [Prod.mk.sizeOf_spec, map.sizeOf_spec] at hlt ⊢
    rcases List.mem_pair.mp hc with rfl | rfl <;> omega
  case record | recordVariant =>
    obtain ⟨⟨name, value⟩, hfield, rfl⟩ := List.mem_map.mp h
    have hlt := List.sizeOf_lt_of_mem hfield
    simp only [Prod.mk.sizeOf_spec, record.sizeOf_spec, recordVariant.sizeOf_spec] at hlt ⊢
    omega

/-- What holds of data if it holds of all that is right below it holds of all data. -/
theorem induction_on_children {motive : Data → Prop}
    (h : ∀ d, (∀ c ∈ d.children, motive c) → motive d) (d : Data) : motive d :=
  h d fun c _ => induction_on_children h c
termination_by sizeOf d
decreasing_by exact sizeOf_lt_of_mem_children ‹c ∈ d.children›

theorem exists_within_iff {P : Data → Prop} :
    (∃ n, Within n d ∧ P n) ↔ P d ∨ ∃ c ∈ d.children, ∃ n, Within n c ∧ P n := by
  constructor
  · rintro ⟨n, hn, hP⟩
    cases hn with
    | self => exact .inl hP
    | child hc h => exact .inr ⟨_, hc, n, h, hP⟩
  · rintro (hP | ⟨c, hc, n, h, hP⟩)
    · exact ⟨d, .self, hP⟩
    · exact ⟨n, .child hc h, hP⟩

/-! ## What has no value, and what is a container -/

/-- Data without a value is made nothing of, and nothing else is. -/
theorem lower_eq_none_iff : ∀ {d : Data}, d.lower = .ok none ↔ d.isAbsent
  | .present content => lower_eq_none_iff (d := content)
  | .wrapped content => lower_eq_none_iff (d := content)
  | .absent | .unit => by simp [lower, isAbsent]
  | .bool _ | .signed _ _ | .unsigned _ _ | .char _ | .text _ | .bytes _ | .unitVariant _
  | .valueWithoutKey _ | .unsupported _ | .failing _ => by simp [lower, isAbsent]
  | .float _ _ | .sequence _ | .map _ | .record _ | .wrappedVariant _ _ | .sequenceVariant _ _
  | .recordVariant _ _ => by simp [lower, isAbsent, map_eq_ok, bind_eq_ok]

theorem isContainer_of_lower : ∀ {d : Data} {v : Value}, d.lower = .ok (some v) →
    v.isContainer = d.isContainer
  | .present content, _, h => isContainer_of_lower (d := content) h
  | .wrapped content, _, h => isContainer_of_lower (d := content) h
  | .absent, _, h | .unit, _, h | .valueWithoutKey _, _, h | .unsupported _, _, h
  | .failing _, _, h => by cases h
  | .bool _, _, h | .signed _ _, _, h | .unsigned _ _, _, h | .char _, _, h | .text _, _, h
  | .bytes _, _, h | .unitVariant _, _, h => by
    cases h
    rfl
  | .float _ _, _, h => by
    obtain ⟨v, hv, hsome⟩ := map_eq_ok.mp h
    cases hsome
    obtain ⟨-, rfl⟩ := finiteNumber_eq_ok.mp hv
    rfl
  | .sequence _, _, h | .map _, _, h | .record _, _, h | .sequenceVariant _ _, _, h
  | .recordVariant _ _, _, h => by
    obtain ⟨_, -, hv⟩ := map_eq_ok.mp h
    cases hv
    rfl
  | .wrappedVariant _ _, _, h => by
    obtain ⟨_, -, h⟩ := bind_eq_ok.mp h
    obtain ⟨_, -, hv⟩ := map_eq_ok.mp h
    cases hv
    rfl

/-! ## What fails -/

/-- Data that has to have a value fails where it is refused or has none. -/
theorem fails_bind_required {place : String} :
    Fails (d.lower.bind (required place)) ↔ Fails d.lower ∨ d.isAbsent := by
  rw [← lower_eq_none_iff]
  cases d.lower with
  | error e => simp [Except.bind]
  | ok found => cases found <;> simp [Except.bind, required]

/-- A key fails where its data is refused, has no value or is a container. -/
theorem fails_bind_keyName :
    Fails (d.lower.bind keyName) ↔ Fails d.lower ∨ d.isAbsent || d.isContainer := by
  rw [Bool.or_eq_true, ← lower_eq_none_iff]
  cases hd : d.lower with
  | error e => simp [Except.bind]
  | ok found =>
    cases found with
    | none => simp [Except.bind, keyName]
    | some v => simp [Except.bind, fails_keyName, isContainer_of_lower hd]

theorem fails_lowerItems :
    Fails (lowerItems items) ↔ items.any isAbsent ∨ ∃ c ∈ items, Fails c.lower := by
  induction items with
  | nil => simp [lowerItems]
  | cons d rest ih =>
    rw [lowerItems, ← bind_bind, fails_bind fun _ => fails_map, fails_bind_required, ih,
      List.any_cons, Bool.or_eq_true, List.exists_mem_cons_iff]
    tauto

theorem fails_lowerEntries :
    Fails (lowerEntries done entries) ↔
      (entries.any fun (key, _) => key.isAbsent || key.isContainer) ∨
        ∃ c ∈ entries.flatMap fun (key, d) => [key, d], Fails c.lower := by
  induction entries generalizing done with
  | nil => simp [lowerEntries]
  | cons entry rest ih =>
    obtain ⟨key, d⟩ := entry
    rw [lowerEntries, ← bind_bind, fails_bind fun _ => fails_bind fun _ => ih, fails_bind_keyName,
      List.any_cons, List.flatMap_cons]
    simp only [Bool.or_eq_true, List.mem_append, List.mem_pair, or_and_right, exists_or,
      exists_eq_left]
    tauto

theorem fails_lowerFields :
    Fails (lowerFields done fields) ↔ ∃ c ∈ fields.map Prod.snd, Fails c.lower := by
  induction fields generalizing done with
  | nil => simp [lowerFields]
  | cons field rest ih =>
    rw [lowerFields, fails_bind fun _ => ih, List.map_cons, List.exists_mem_cons_iff]

/-- Making a tree of data fails where the data is refused by what it is itself, or where it fails
right below it. -/
theorem fails_lower_iff_children :
    Fails d.lower ↔ d.isRefused ∨ ∃ c ∈ d.children, Fails c.lower := by
  cases d with
  | sequence items => rw [lower, fails_map, fails_lowerItems, isRefused, children]
  | sequenceVariant name items => rw [lower, fails_map, fails_lowerItems, isRefused, children]
  | map entries => rw [lower, fails_map, fails_lowerEntries, isRefused, children]
  | record fields => simp [lower, fails_lowerFields, isRefused, children]
  | recordVariant name fields => simp [lower, fails_lowerFields, isRefused, children]
  | wrappedVariant name content =>
    rw [lower, ← map_bind, fails_map, fails_bind_required, isRefused, children]
    simp [or_comm]
  | float p x => simp [lower, fails_finiteNumber, isRefused, children]
  | _ => simp [lower, isRefused, children]

/-- Making a tree of data fails exactly if something refused stands somewhere in it. -/
theorem fails_lower_iff : Fails d.lower ↔ ∃ n, Within n d ∧ n.isRefused := by
  induction d using induction_on_children with
  | h d ih =>
    rw [fails_lower_iff_children, exists_within_iff]
    exact or_congr_right (exists_congr fun c => and_congr_right fun hc => ih c hc)

end Data

end TreePath.Canonical
