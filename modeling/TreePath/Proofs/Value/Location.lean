import TreePath.Proofs.Dict
import TreePath.Value.Child
import Mathlib.Data.List.Nodup

/-!
# Locations in a tree

A location is the list of keys on the way from the root to a node. What is written under a key of
a container is found there again, and nothing else in the container changes: neither the children
under other keys nor the keys and their order.
-/

namespace TreePath.Value

variable {v child : Value} {key other : Key}

/-! ## Children -/

/-- The child under a key. -/
def childAt (v : Value) (key : Key) : Option Value :=
  match v, key with
  | .map entries, .name text => Dict.get? text entries
  | .list items, .index i => items[i]?
  | _, _ => none

/-- Keys of lists are positions, keys of maps are names. -/
def suits (v : Value) (key : Key) : Bool :=
  match v, key with
  | .map _, .name _ | .list _, .index _ => true
  | _, _ => false

/-- The keys of the children, in order. -/
def ownKeys : Value → List Key
  | .list items => (List.range items.length).map .index
  | .map entries => (Dict.keys entries).map .name
  | _ => []

/-- Looking up a key gives a child, or none if a map lacks the name. -/
theorem child?_eq_ok_iff {found : Option Value} :
    v.child? key = .ok found ↔
      v.suits key ∧ v.childAt key = found ∧ (found = none → v.kind = .map) := by
  cases v <;> cases key <;> simp [child?, suits, childAt, kind]
  case list.index items i => cases items[i]? <;> grind

theorem childAt_of_child? {found : Option Value} (h : v.child? key = .ok found) :
    v.childAt key = found :=
  (child?_eq_ok_iff.mp h).2.1

/-- Values in which a key is looked up with the same result have the same child there. -/
theorem childAt_congr {w : Value} (h : w.child? key = v.child? key) :
    w.childAt key = v.childAt key := by
  have hlook (u : Value) : u.childAt key = (u.child? key).toOption.join := by
    cases u <;> cases key <;> simp only [childAt, child?, keyMismatch]
    case list.index items i => cases items[i]? <;> rfl
    all_goals rfl
  rw [hlook, hlook, h]

theorem child?_of_childAt (h : v.childAt key = some child) : v.child? key = .ok (some child) := by
  cases v <;> cases key <;> simp_all [childAt, child?]

theorem suits_of_childAt (h : v.childAt key = some child) : v.suits key :=
  (child?_eq_ok_iff.mp (child?_of_childAt h)).1

theorem suits_congr {w : Value} (h : w.kind = v.kind) : w.suits key = v.suits key := by
  cases v <;> cases w <;> cases key <;> simp_all [kind, suits]

/-- A key that can be looked up can be looked up in every value of the same kind that has a child
wherever the first has one. -/
theorem child?_of_kind {w : Value} (h : v.child? key = .ok (v.childAt key))
    (hkind : w.kind = v.kind) (hstays : (v.childAt key).isSome → (w.childAt key).isSome) :
    w.child? key = .ok (w.childAt key) := by
  obtain ⟨hsuits, -, hmap⟩ := child?_eq_ok_iff.mp h
  refine child?_eq_ok_iff.mpr ⟨by rwa [suits_congr hkind], rfl, fun hnone => ?_⟩
  rw [hkind]
  refine hmap (Option.not_isSome_iff_eq_none.mp fun hsome => ?_)
  simpa [hnone] using hstays hsome

theorem isContainer_of_suits (h : v.suits key) : v.isContainer := by
  cases v <;> cases key <;> simp_all [suits, isContainer, kind, Kind.isContainer]

theorem mem_ownKeys_iff : key ∈ v.ownKeys ↔ ∃ child, v.childAt key = some child := by
  cases v <;> cases key <;>
    simp [ownKeys, childAt, Dict.mem_keys_iff, Option.isSome_iff_exists, List.getElem?_eq_some_iff]

/-! ## Trees whose maps have distinct keys -/

mutual

/-- No map at any depth has a key twice. -/
def isDistinct : Value → Bool
  | .list items => distinctItems items
  | .map entries => (Dict.keys entries).Nodup && distinctEntries entries
  | _ => true

def distinctItems : List Value → Bool
  | [] => true
  | v :: rest => v.isDistinct && distinctItems rest

def distinctEntries : List (String × Value) → Bool
  | [] => true
  | (_, v) :: rest => v.isDistinct && distinctEntries rest

end

theorem distinctItems_iff {items : List Value} :
    distinctItems items ↔ ∀ v ∈ items, v.isDistinct := by
  induction items with
  | nil => simp [distinctItems]
  | cons v rest ih => simp [distinctItems, ih]

theorem distinctEntries_iff {entries : Dict Value} :
    distinctEntries entries ↔ ∀ entry ∈ entries, entry.2.isDistinct := by
  induction entries with
  | nil => simp [distinctEntries]
  | cons entry rest ih => simp [distinctEntries, ih]

theorem isDistinct_map {entries : Dict Value} :
    (map entries).isDistinct ↔
      (Dict.keys entries).Nodup ∧ ∀ entry ∈ entries, entry.2.isDistinct := by
  simp [isDistinct, distinctEntries_iff]

theorem nodup_ownKeys (h : v.isDistinct) : v.ownKeys.Nodup := by
  cases v with
  | list items => exact List.nodup_range.map fun _ _ => Key.index.inj
  | map entries => exact (isDistinct_map.mp h).1.map fun _ _ => Key.name.inj
  | _ => exact List.nodup_nil

theorem isDistinct_of_childAt (h : v.isDistinct) (hchild : v.childAt key = some child) :
    child.isDistinct := by
  cases v <;> cases key <;> simp only [childAt, reduceCtorEq] at hchild
  · simp only [isDistinct] at h
    exact distinctItems_iff.mp h child (List.mem_of_getElem? hchild)
  · exact (isDistinct_map.mp h).2 _ (Dict.mem_of_get?_eq_some hchild)

/-- A container is given by its kind, by the order of its keys and by its children. -/
theorem eq_of_childAt {w : Value} (hv : v.isContainer) (hnodup : v.ownKeys.Nodup)
    (hkind : w.kind = v.kind) (hkeys : w.ownKeys = v.ownKeys)
    (hchild : ∀ key, w.childAt key = v.childAt key) : w = v := by
  cases v with
  | list items =>
    cases w <;> simp only [kind, reduceCtorEq] at hkind
    rw [List.ext_getElem? fun i => hchild (.index i)]
  | map entries =>
    cases w <;> simp only [kind, reduceCtorEq] at hkind
    have hnames := List.map_injective_iff.mpr (fun _ _ => Key.name.inj) hkeys
    rw [Dict.ext_of_get? (List.Nodup.of_map _ hnodup) hnames fun text => hchild (.name text)]
  | _ => simp [isContainer, kind, Kind.isContainer] at hv

/-! ## Writing through a key -/

@[simp] theorem kind_replaceChild : (v.replaceChild key child).kind = v.kind := by
  cases v <;> cases key <;> rfl

@[simp] theorem ownKeys_replaceChild : (v.replaceChild key child).ownKeys = v.ownKeys := by
  cases v <;> cases key <;> simp [replaceChild, ownKeys]

theorem childAt_replaceChild_self {old : Value} (h : v.childAt key = some old) :
    (v.replaceChild key child).childAt key = some child := by
  cases v <;> cases key <;> simp only [childAt, reduceCtorEq] at h
  · obtain ⟨hlt, -⟩ := List.getElem?_eq_some_iff.mp h
    simp [replaceChild, childAt, hlt]
  · have hmem := Dict.mem_keys_iff.mpr (Option.isSome_iff_exists.mpr ⟨old, h⟩)
    simp [replaceChild, childAt, Dict.get?_replace_self hmem]

theorem childAt_replaceChild_of_ne (h : other ≠ key) :
    (v.replaceChild key child).childAt other = v.childAt other := by
  cases v <;> cases key <;> cases other <;> simp only [replaceChild, childAt]
  · exact List.getElem?_set_ne fun heq => h (congrArg Key.index heq.symm)
  · exact Dict.get?_replace_of_ne fun heq => h (congrArg Key.name heq)

theorem child?_replaceChild_of_ne {found : Option Value} (h : other ≠ key)
    (hchild : v.child? other = .ok found) :
    (v.replaceChild key child).child? other = .ok found := by
  rw [child?_eq_ok_iff] at hchild ⊢
  rwa [suits_congr kind_replaceChild, childAt_replaceChild_of_ne h, kind_replaceChild]

theorem replaceChild_eq_self (h : v.childAt key = some child) : v.replaceChild key child = v := by
  cases v <;> cases key <;> simp only [childAt, reduceCtorEq] at h
  · obtain ⟨hlt, rfl⟩ := List.getElem?_eq_some_iff.mp h
    simp [replaceChild]
  · simp [replaceChild, Dict.replace_eq_self h]

theorem replaceChild_replaceChild {later : Value} :
    (v.replaceChild key child).replaceChild key later = v.replaceChild key later := by
  cases v <;> cases key <;> simp [replaceChild, Dict.replace_replace]

/-! ## Putting a child in -/

/-- The value with a child under a key: a map takes a new name as its last one, a list has to have
the position. -/
def putChild (v : Value) (key : Key) (child : Value) : Value :=
  match v, key with
  | .map entries, .name text => .map (Dict.insert text child entries)
  | .list items, .index i => .list (items.set i child)
  | v, _ => v

@[simp] theorem kind_putChild : (v.putChild key child).kind = v.kind := by
  cases v <;> cases key <;> rfl

theorem putChild_eq_replaceChild {old : Value} (h : v.childAt key = some old) :
    v.putChild key child = v.replaceChild key child := by
  cases v <;> cases key <;> simp only [childAt, reduceCtorEq] at h
  · rfl
  · have hmem := Dict.mem_keys_iff.mpr (Option.isSome_iff_exists.mpr ⟨old, h⟩)
    simp [putChild, replaceChild, Dict.insert_of_mem hmem]

theorem childAt_putChild_self {found : Option Value} (h : v.child? key = .ok found) :
    (v.putChild key child).childAt key = some child := by
  cases v <;> cases key <;> simp only [child?, reduceCtorEq] at h
  · next items i =>
    split at h
    · next hitem =>
      obtain ⟨hlt, -⟩ := List.getElem?_eq_some_iff.mp hitem
      simp [putChild, childAt, hlt]
    · cases h
  · exact Dict.get?_insert_self

theorem childAt_putChild_of_ne (h : other ≠ key) :
    (v.putChild key child).childAt other = v.childAt other := by
  cases v <;> cases key <;> cases other <;> simp only [putChild, childAt]
  · exact List.getElem?_set_ne fun heq => h (congrArg Key.index heq.symm)
  · exact Dict.get?_insert_of_ne fun heq => h (congrArg Key.name heq)

/-- Looking up another key that suits the container, whether it is found or not. -/
theorem child?_putChild_of_ne (hsuits : v.suits other) (h : other ≠ key) :
    (v.putChild key child).child? other = v.child? other := by
  cases v <;> cases other <;> simp only [suits, Bool.false_eq_true] at hsuits
  case list.index items i =>
    cases key with
    | index j =>
      have hne : j ≠ i := fun heq => h (congrArg Key.index heq.symm)
      simp [putChild, child?, List.getElem?_set_ne hne]
    | name text => rfl
  case map.name entries text =>
    cases key with
    | index j => rfl
    | name text' =>
      have hne : text ≠ text' := fun heq => h (congrArg Key.name heq)
      simp [putChild, child?, Dict.get?_insert_of_ne hne]

/-- A new key comes last. -/
theorem ownKeys_putChild (h : v.child? key = .ok none) :
    (v.putChild key child).ownKeys = v.ownKeys ++ [key] := by
  obtain ⟨hsuits, habsent, hkind⟩ := child?_eq_ok_iff.mp h
  cases v <;> cases key <;> simp only [kind, suits, reduceCtorEq, forall_const] at hkind hsuits
  simp [putChild, ownKeys, Dict.keys_insert, Dict.get?_eq_none_iff.mp habsent]

/-! ## Locations -/

/-- The node at a location. -/
def at? : List Key → Value → Option Value
  | [], v => some v
  | key :: rest, v => (v.childAt key).bind (at? rest)

@[simp] theorem at?_nil : at? [] v = some v := rfl

@[simp] theorem at?_cons {rest : List Key} :
    at? (key :: rest) v = (v.childAt key).bind (at? rest) := rfl

theorem isDistinct_of_at? {node : Value} {p : List Key} (h : v.isDistinct)
    (hnode : v.at? p = some node) : node.isDistinct := by
  induction p generalizing v with
  | nil =>
    cases hnode
    exact h
  | cons key rest ih =>
    obtain ⟨child, hchild, hrest⟩ := Option.bind_eq_some_iff.mp hnode
    exact ih (isDistinct_of_childAt h hchild) hrest

@[simp] theorem bind_at?_nil {found : Option Value} : found.bind (at? []) = found := by
  cases found <;> rfl

end TreePath.Value
