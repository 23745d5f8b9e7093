import TreePath.Proofs.Handler.Reading
import TreePath.Proofs.Handler.Service
import TreePath.Proofs.Value.Location
import TreePath.Run

/-!
# The keys that built-in selects give

A named select gives some of the keys a container has, forwards or backwards; a bare segment gives
its one key, whether there is a child under it or not. What is given depends on the kind and the
keys of the container alone, and never on its children.
-/

namespace TreePath

variable {d : Directive} {v w : Value} {keys : List Key} {key : Key}

namespace Select

theorem literalKeys_eq_ok :
    literalKeys d v = .ok keys ↔ ∃ key, d.key = .ok key ∧ v.suits key ∧ keys = [key] := by
  simp only [literalKeys, bind_eq_ok]
  constructor
  · rintro ⟨key, hkey, h⟩
    refine ⟨key, hkey, ?_⟩
    cases v <;> cases key <;> simp_all [Value.suits]
  · rintro ⟨key, hkey, hsuits, rfl⟩
    refine ⟨key, hkey, ?_⟩
    cases v <;> cases key <;> simp_all [Value.suits]

theorem allKeys_eq_ok {name : String} :
    allKeys name v = .ok keys ↔ v.isContainer ∧ keys = v.ownKeys := by
  cases v <;>
    simp [allKeys, Value.ownKeys, Value.isContainer, Value.kind, Kind.isContainer, eq_comm]

/-- The built-in selects that are called by name. -/
def named : List Select := [.last, .each, .eachReversed, .matching]

/-- A named select keeps the order of the keys or turns it round. -/
theorem sublist_of_keys {s : Select} (hs : s ∈ named) (h : s.keys d v = .ok keys) :
    keys.Sublist v.ownKeys ∨ keys.Sublist v.ownKeys.reverse := by
  simp only [named, List.mem_cons, List.not_mem_nil, or_false] at hs
  rcases hs with rfl | rfl | rfl | rfl
  · left
    simp only [last] at h
    split at h
    · cases h
      exact List.nil_sublist _
    · next items hne =>
      cases h
      have hpos : 0 < items.length := List.length_pos_of_ne_nil hne
      simp [Value.ownKeys, List.mem_map]
      omega
    · cases h
  · exact .inl ((allKeys_eq_ok.mp h).2 ▸ List.Sublist.refl _)
  · simp only [eachReversed] at h
    split at h
    · cases h
      exact .inr (by simp [Value.ownKeys])
    · exact .inl ((allKeys_eq_ok.mp h).2 ▸ List.Sublist.refl _)
  · left
    obtain ⟨p, -, h⟩ := bind_eq_ok.mp h
    split at h
    · cases h
      exact (List.filter_sublist).map _
    · cases h

/-- A select of the library gives no key twice. -/
theorem nodup_of_keys {s : Select} (hs : s ∈ library) (hnodup : v.ownKeys.Nodup)
    (h : s.keys d v = .ok keys) : keys.Nodup := by
  rcases List.mem_cons.mp hs with rfl | hnamed
  · obtain ⟨key, -, -, rfl⟩ := literalKeys_eq_ok.mp h
    exact List.nodup_singleton key
  · rcases sublist_of_keys hnamed h with hsub | hsub
    · exact hnodup.sublist hsub
    · exact (List.nodup_reverse.mpr hnodup).sublist hsub

/-- The keys that a select of the library gives are such as the container takes. -/
theorem suits_of_keys {s : Select} (hs : s ∈ library) (h : s.keys d v = .ok keys)
    (hkey : key ∈ keys) : v.suits key := by
  have hown (hmem : key ∈ v.ownKeys) : v.suits key := by
    obtain ⟨child, hchild⟩ := Value.mem_ownKeys_iff.mp hmem
    exact Value.suits_of_childAt hchild
  rcases List.mem_cons.mp hs with rfl | hnamed
  · obtain ⟨_, -, hsuits, rfl⟩ := literalKeys_eq_ok.mp h
    exact List.mem_singleton.mp hkey ▸ hsuits
  · rcases sublist_of_keys hnamed h with hsub | hsub
    · exact hown (hsub.subset hkey)
    · exact hown (List.mem_reverse.mp (hsub.subset hkey))

theorem literal_keys_congr (hkind : w.kind = v.kind) : literal.keys d w = literal.keys d v := by
  simp only [literal, literalKeys]
  cases v <;> cases w <;> simp only [Value.kind, reduceCtorEq] at hkind <;>
    cases d.key with
    | error e => rfl
    | ok key => cases key <;> rfl

/-- What a named select gives depends on the kind of a container and on its keys alone. -/
theorem named_keys_congr {s : Select} (hs : s ∈ named) (hkind : w.kind = v.kind)
    (hkeys : w.ownKeys = v.ownKeys) : s.keys d w = s.keys d v := by
  have hall (name : String) : allKeys name w = allKeys name v := by
    cases v <;> cases w <;> simp only [Value.kind, reduceCtorEq] at hkind <;>
      first
        | rfl
        | exact congrArg Except.ok hkeys
  simp only [named, List.mem_cons, List.not_mem_nil, or_false] at hs
  cases v <;> cases w <;> simp only [Value.kind, reduceCtorEq] at hkind
  case list.list items others =>
    have hlength : others.length = items.length := by
      simpa [Value.ownKeys] using congrArg List.length hkeys
    rcases hs with rfl | rfl | rfl | rfl
    · cases items <;> cases others <;> simp_all [last]
    · exact hall "each"
    · simp [eachReversed, hlength]
    · rfl
  case map.map entries others =>
    have hnames : Dict.keys others = Dict.keys entries :=
      List.map_injective_iff.mpr (fun _ _ => Key.name.inj) hkeys
    rcases hs with rfl | rfl | rfl | rfl
    · rfl
    · exact hall "each"
    · exact hall "eachr"
    · simp only [matching, hnames]
  all_goals rcases hs with rfl | rfl | rfl | rfl <;> rfl

end Select

namespace Registry

/-- The select of a directive with a name is a named one. -/
theorem selectFor_builtin_cases {s : Select} (h : builtin.selectFor d = .ok s) :
    d.name = none ∧ s = .literal ∨ s ∈ Select.named := by
  simp only [selectFor] at h
  split at h
  · next hname =>
    cases h
    exact .inl ⟨hname, rfl⟩
  · split at h
    · next name _ s' hs =>
      cases h
      have hmem := select?_builtin.mp hs
      simp only [List.mem_cons, Prod.mk.injEq, List.not_mem_nil, or_false] at hmem
      right
      rcases hmem with ⟨-, rfl⟩ | ⟨-, rfl⟩ | ⟨-, rfl⟩ | ⟨-, rfl⟩ <;> simp [Select.named]
    · cases h

theorem selectFor_builtin {s : Select} (h : builtin.selectFor d = .ok s) :
    s = .literal ∨ s ∈ Select.named :=
  (selectFor_builtin_cases h).imp_left And.right

theorem keysOf_eq_ok {r : Registry} :
    r.keysOf d v = .ok keys ↔
      v.isContainer ∧ ∃ s, r.selectFor d = .ok s ∧ s.keys d v = .ok keys := by
  simp only [keysOf, bind_eq_ok, Value.ensureContainer, Value.isLeaf]
  by_cases hcontainer : v.isContainer <;> simp [hcontainer]

/-- The keys of a bare segment or of a named select. -/
theorem keysOf_builtin (h : builtin.keysOf d v = .ok keys) :
    (∃ key, keys = [key] ∧ v.suits key ∧ ∀ w : Value, w.kind = v.kind →
      builtin.keysOf d w = .ok keys) ∨
    (keys.Sublist v.ownKeys ∨ keys.Sublist v.ownKeys.reverse) ∧
      ∀ w : Value, w.kind = v.kind → w.ownKeys = v.ownKeys → builtin.keysOf d w = .ok keys := by
  obtain ⟨hcontainer, s, hs, h⟩ := keysOf_eq_ok.mp h
  have hcongr {w : Value} (hkind : w.kind = v.kind) (hw : s.keys d w = s.keys d v) :
      builtin.keysOf d w = .ok keys := by
    refine keysOf_eq_ok.mpr ⟨?_, s, hs, hw.trans h⟩
    rwa [Value.isContainer, hkind]
  rcases selectFor_builtin hs with rfl | hnamed
  · obtain ⟨key, -, hsuits, rfl⟩ := Select.literalKeys_eq_ok.mp h
    exact .inl ⟨key, rfl, hsuits, fun w hkind => hcongr hkind (Select.literal_keys_congr hkind)⟩
  · exact .inr ⟨Select.sublist_of_keys hnamed h,
      fun w hkind hkeys => hcongr hkind (Select.named_keys_congr hnamed hkind hkeys)⟩

theorem library_of_selectFor {s : Select} (h : builtin.selectFor d = .ok s) :
    s ∈ Select.library := by
  rcases selectFor_builtin h with rfl | hnamed
  · exact List.mem_cons_self
  · exact List.mem_cons_of_mem _ hnamed

theorem nodup_of_keysOf (hnodup : v.ownKeys.Nodup) (h : builtin.keysOf d v = .ok keys) :
    keys.Nodup := by
  obtain ⟨-, s, hs, h⟩ := keysOf_eq_ok.mp h
  exact Select.nodup_of_keys (library_of_selectFor hs) hnodup h

theorem suits_of_keysOf (h : builtin.keysOf d v = .ok keys) (hkey : key ∈ keys) :
    v.suits key := by
  obtain ⟨-, s, hs, h⟩ := keysOf_eq_ok.mp h
  exact Select.suits_of_keys (library_of_selectFor hs) h hkey

/-- A container of the same kind and with the same keys is given the same keys. -/
theorem keysOf_congr (hkind : w.kind = v.kind) (hown : w.ownKeys = v.ownKeys)
    (h : builtin.keysOf d v = .ok keys) : builtin.keysOf d w = .ok keys := by
  rcases keysOf_builtin h with ⟨_, _, _, hw⟩ | ⟨_, hw⟩
  · exact hw w hkind
  · exact hw w hkind hown

/-- All children in order. -/
theorem keysOf_each (h : d.name = some "each") :
    builtin.keysOf d v = .ok keys ↔ v.isContainer ∧ keys = v.ownKeys := by
  have hselect : builtin.selectFor d = .ok .each := by
    rw [selectFor, h]
    rfl
  rw [keysOf_eq_ok]
  simp [hselect, Select.each, Select.allKeys_eq_ok]

/-- The elements of a list backwards, the entries of a map in order. -/
theorem keysOf_eachReversed (h : d.name = some "eachr") :
    builtin.keysOf d v = .ok keys ↔
      v.isContainer ∧ keys = if v.kind = .list then v.ownKeys.reverse else v.ownKeys := by
  have hselect : builtin.selectFor d = .ok .eachReversed := by
    rw [selectFor, h]
    rfl
  rw [keysOf_eq_ok]
  simp only [hselect, Except.ok.injEq, exists_eq_left', Select.eachReversed]
  cases v with
  | list items =>
    refine and_congr_right fun _ => ?_
    rw [Except.ok.injEq, eq_comm, List.map_reverse]
    rfl
  | _ => simp [Select.allKeys_eq_ok, Value.kind]

/-- A key without a child comes from a bare segment: it is the only key, whatever other keys there
are. -/
theorem keysOf_of_absent (h : builtin.keysOf d v = .ok keys) (hkey : key ∈ keys)
    (habsent : v.childAt key = none) :
    keys = [key] ∧ ∀ w : Value, w.kind = v.kind → builtin.keysOf d w = .ok keys := by
  have hown (hmem : key ∈ v.ownKeys) : False := by
    obtain ⟨child, hchild⟩ := Value.mem_ownKeys_iff.mp hmem
    simp [habsent] at hchild
  rcases keysOf_builtin h with ⟨_, rfl, -, hw⟩ | ⟨hsub | hsub, -⟩
  · obtain rfl := List.mem_singleton.mp hkey
    exact ⟨rfl, hw⟩
  · exact (hown (hsub.subset hkey)).elim
  · exact (hown (List.mem_reverse.mp (hsub.subset hkey))).elim

end Registry

end TreePath
