import TreePath.Proofs.Value.Location

/-!
# Trees without some of their nodes

What is left of a tree when the nodes at some locations are taken out, all at once. Taking out one
child after the other comes to the same as long as no child that is taken out moves one that is
still to come: in a list the later ones go first.
-/

namespace TreePath

/-- Taking out the child under a key leaves the child under another key where it was. -/
def Key.Clears (key other : Key) : Prop :=
  match key, other with
  | .index i, .index j => j < i
  | .name s, .name t => s ≠ t
  | _, _ => False

namespace Value

/-- Of some locations those that lead through a key, seen from below it. -/
def locationsBelow (key : Key) (locations : List (List Key)) : List (List Key) :=
  locations.filterMap fun
    | [] => none
    | k :: rest => if k = key then some rest else none

mutual

/-- The tree without the nodes at some locations below its root; everything else stays as it is
and in its order. -/
def without (gone : List (List Key)) : Value → Value
  | .list items => .list (withoutItems gone 0 items)
  | .map entries => .map (withoutEntries gone entries)
  | v => v

/-- What is left of the elements of a list from a position on. -/
def withoutItems (gone : List (List Key)) (i : Nat) : List Value → List Value
  | [] => []
  | v :: rest =>
    if [.index i] ∈ gone then withoutItems gone (i + 1) rest
    else v.without (locationsBelow (.index i) gone) :: withoutItems gone (i + 1) rest

def withoutEntries (gone : List (List Key)) : List (String × Value) → List (String × Value)
  | [] => []
  | (k, v) :: rest =>
    if [.name k] ∈ gone then withoutEntries gone rest
    else (k, v.without (locationsBelow (.name k) gone)) :: withoutEntries gone rest

end

/-- The value without the child under a key. -/
def removeChild (v : Value) (key : Key) : Value :=
  match v, key with
  | .map entries, .name text => .map (Dict.erase text entries)
  | .list items, .index i => .list (items.eraseIdx i)
  | v, _ => v

variable {v child : Value} {key other : Key} {gone : List (List Key)} {items : List Value}
  {entries : Dict Value} {p : List Key} {i k : Nat}

/-! ## Locations below a key -/

@[simp] theorem locationsBelow_nil : locationsBelow key [] = [] := rfl

@[simp] theorem mem_locationsBelow : p ∈ locationsBelow key gone ↔ key :: p ∈ gone := by
  simp only [locationsBelow, List.mem_filterMap]
  constructor
  · rintro ⟨location, hmem, hlocation⟩
    split at hlocation
    · cases hlocation
    · next k rest =>
      split at hlocation
      · next heq =>
        cases hlocation
        exact heq ▸ hmem
      · cases hlocation
  · intro hmem
    exact ⟨key :: p, hmem, by simp⟩

theorem locationsBelow_append {others : List (List Key)} :
    locationsBelow key (gone ++ others) = locationsBelow key gone ++ locationsBelow key others := by
  simp [locationsBelow]

theorem locationsBelow_map :
    locationsBelow key (gone.map (other :: ·)) = if other = key then gone else [] := by
  simp only [locationsBelow, List.filterMap_map, Function.comp_def]
  split <;> simp

/-! ## Nothing is taken out -/

mutual

theorem without_nil : (v : Value) → v.without [] = v
  | .list items => by rw [without, withoutItems_nil]
  | .map entries => by rw [without, withoutEntries_nil]
  | .bool _ | .number _ | .string _ => rfl

theorem withoutItems_nil : (i : Nat) → (items : List Value) → withoutItems [] i items = items
  | _, [] => rfl
  | i, v :: rest => by
    rw [withoutItems, if_neg List.not_mem_nil, locationsBelow_nil, without_nil v,
      withoutItems_nil (i + 1) rest]

theorem withoutEntries_nil : (entries : List (String × Value)) → withoutEntries [] entries = entries
  | [] => rfl
  | (k, v) :: rest => by
    rw [withoutEntries, if_neg List.not_mem_nil, locationsBelow_nil, without_nil v,
      withoutEntries_nil rest]

end

theorem withoutItems_eq_self (h : ∀ j, i ≤ j → locationsBelow (.index j) gone = []) :
    withoutItems gone i items = items := by
  induction items generalizing i with
  | nil => rfl
  | cons v rest ih =>
    have hhere := h i (Nat.le_refl i)
    have hstays : [.index i] ∉ gone := by
      rw [← mem_locationsBelow, hhere]
      exact List.not_mem_nil
    rw [withoutItems, if_neg hstays, hhere, without_nil, ih fun j hj => h j (by omega)]

/-! ## Nodes below the children are taken out -/

theorem getElem?_withoutItems (h : ∀ key, [key] ∉ gone) :
    (withoutItems gone i items)[k]? =
      items[k]?.map (without (locationsBelow (.index (i + k)) gone)) := by
  induction items generalizing i k with
  | nil => simp [withoutItems]
  | cons v rest ih =>
    rw [withoutItems, if_neg (h _)]
    cases k with
    | zero => rfl
    | succ k =>
      have hsum : i + 1 + k = i + (k + 1) := by omega
      rw [List.getElem?_cons_succ, List.getElem?_cons_succ, ih, hsum]

theorem length_withoutItems (h : ∀ key, [key] ∉ gone) :
    (withoutItems gone i items).length = items.length := by
  induction items generalizing i with
  | nil => rfl
  | cons v rest ih => rw [withoutItems, if_neg (h _), List.length_cons, List.length_cons, ih]

theorem keys_withoutEntries (h : ∀ key, [key] ∉ gone) :
    Dict.keys (withoutEntries gone entries) = Dict.keys entries := by
  induction entries with
  | nil => rfl
  | cons entry rest ih => rw [withoutEntries, if_neg (h _), Dict.keys_cons, Dict.keys_cons, ih]

theorem get?_withoutEntries (h : ∀ key, [key] ∉ gone) {t : String} :
    Dict.get? t (withoutEntries gone entries) =
      (Dict.get? t entries).map (without (locationsBelow (.name t) gone)) := by
  induction entries with
  | nil => rfl
  | cons entry rest ih =>
    rw [withoutEntries, if_neg (h _), Dict.get?_cons, Dict.get?_cons]
    split
    · next heq => rw [heq, Option.map_some]
    · exact ih

@[simp] theorem kind_without : (v.without gone).kind = v.kind := by
  cases v <;> rfl

theorem ownKeys_without (h : ∀ key, [key] ∉ gone) : (v.without gone).ownKeys = v.ownKeys := by
  cases v with
  | list items => simp [without, ownKeys, length_withoutItems h]
  | map entries => simp [without, ownKeys, keys_withoutEntries h]
  | _ => rfl

/-- A child is left without the nodes that are taken out below it. -/
theorem childAt_without (h : ∀ key, [key] ∉ gone) :
    (v.without gone).childAt key = (v.childAt key).map (without (locationsBelow key gone)) := by
  cases v <;> cases key <;> simp only [without, childAt, Option.map_none]
  · rw [getElem?_withoutItems h, Nat.zero_add]
  · exact get?_withoutEntries h

/-! ## A child is taken out -/

theorem locationsBelow_eq_nil (h : ∀ p ∈ gone, ∃ k rest, p = k :: rest ∧ k ≠ key) :
    locationsBelow key gone = [] := by
  rw [List.eq_nil_iff_forall_not_mem]
  intro p hp
  obtain ⟨k, rest, heq, hne⟩ := h _ (mem_locationsBelow.mp hp)
  exact hne (List.cons.inj heq).1.symm

theorem locationsBelow_cons_of_ne (h : other ≠ key) :
    locationsBelow key ([other] :: gone) = locationsBelow key gone := by
  simp [locationsBelow, h]

theorem mem_cons_location_of_ne (h : other ≠ key) : [key] ∈ [other] :: gone ↔ [key] ∈ gone := by
  simp [Ne.symm h]

theorem withoutItems_cons (h : ∀ p ∈ gone, ∃ j rest, p = .index j :: rest ∧ j < i + k) :
    withoutItems ([.index (i + k)] :: gone) i items =
      withoutItems gone i (items.eraseIdx k) := by
  induction items generalizing i k with
  | nil => rfl
  | cons v rest ih =>
    cases k with
    | zero =>
      -- The locations that are left do not reach what stands behind the element.
      have hleft (j : Nat) (hj : i ≤ j) : locationsBelow (.index j) gone = [] := by
        refine locationsBelow_eq_nil fun p hp => ?_
        obtain ⟨n, tail, rfl, hlt⟩ := h p hp
        refine ⟨_, tail, rfl, fun heq => ?_⟩
        have hsame : n = j := Key.index.inj heq
        omega
      have hfirst (j : Nat) (hj : i + 1 ≤ j) :
          locationsBelow (.index j) ([.index i] :: gone) = [] := by
        have hne : i ≠ j := by omega
        rw [locationsBelow_cons_of_ne fun heq => hne (Key.index.inj heq), hleft j (by omega)]
      rw [Nat.add_zero, withoutItems, if_pos List.mem_cons_self, withoutItems_eq_self hfirst,
        List.eraseIdx_zero, List.tail_cons, withoutItems_eq_self hleft]
    | succ k =>
      have hsum : i + (k + 1) = i + 1 + k := by omega
      have hne : Key.index (i + (k + 1)) ≠ .index i := fun heq => by
        have hsame := Key.index.inj heq
        omega
      have hrest := ih (i := i + 1) (k := k) (hsum ▸ h)
      rw [List.eraseIdx_cons_succ, withoutItems, withoutItems, locationsBelow_cons_of_ne hne, hsum,
        hrest]
      simp only [← hsum, mem_cons_location_of_ne hne]

theorem withoutEntries_cons_of_notMem {t : String} (h : t ∉ Dict.keys entries) :
    withoutEntries ([.name t] :: gone) entries = withoutEntries gone entries := by
  induction entries with
  | nil => rfl
  | cons entry rest ih =>
    obtain ⟨hne, hrest⟩ := not_or.mp (h ∘ List.mem_cons.mpr)
    have hkey : Key.name t ≠ .name entry.1 := fun heq => hne (Key.name.inj heq)
    rw [withoutEntries, withoutEntries, locationsBelow_cons_of_ne hkey, ih hrest]
    simp only [mem_cons_location_of_ne hkey]

theorem withoutEntries_cons {t : String} (hnodup : (Dict.keys entries).Nodup) :
    withoutEntries ([.name t] :: gone) entries = withoutEntries gone (Dict.erase t entries) := by
  induction entries with
  | nil => rfl
  | cons entry rest ih =>
    obtain ⟨hnotin, hrest⟩ := List.nodup_cons.mp hnodup
    rw [Dict.erase_cons, withoutEntries]
    by_cases heq : entry.1 = t
    · subst heq
      rw [if_pos List.mem_cons_self, if_pos rfl, withoutEntries_cons_of_notMem hnotin]
    · have hkey : Key.name t ≠ .name entry.1 := fun h => heq (Key.name.inj h).symm
      rw [if_neg heq, withoutEntries, locationsBelow_cons_of_ne hkey, ih hrest]
      simp only [mem_cons_location_of_ne hkey]

/-- Of several children one that moves none of the others can be taken out first. -/
theorem without_cons (hnodup : v.ownKeys.Nodup) (hchild : v.childAt key = some child)
    (h : ∀ p ∈ gone, ∃ other rest, p = other :: rest ∧ key.Clears other) :
    v.without ([key] :: gone) = (v.removeChild key).without gone := by
  cases v <;> cases key <;> simp only [childAt, reduceCtorEq] at hchild
  · next items i =>
    have hbefore (p : List Key) (hp : p ∈ gone) : ∃ j rest, p = .index j :: rest ∧ j < 0 + i := by
      obtain ⟨other, rest, rfl, hclears⟩ := h p hp
      cases other with
      | index j => exact ⟨j, rest, rfl, (Nat.zero_add i).symm ▸ hclears⟩
      | name t => exact hclears.elim
    have hcons : withoutItems ([.index (0 + i)] :: gone) 0 items =
        withoutItems gone 0 (items.eraseIdx i) := withoutItems_cons hbefore
    rw [Nat.zero_add] at hcons
    rw [without, removeChild, without, hcons]
  · next entries t =>
    rw [without, removeChild, without, withoutEntries_cons (List.Nodup.of_map _ hnodup)]

theorem nodup_ownKeys_removeChild (h : v.ownKeys.Nodup) : (v.removeChild key).ownKeys.Nodup := by
  cases v with
  | list items => cases key <;> exact List.nodup_range.map fun _ _ => Key.index.inj
  | map entries =>
    cases key with
    | index i => exact h
    | name t => exact h.sublist ((Dict.sublist_erase.map _).map _)
  | _ => exact List.nodup_nil

theorem child?_removeChild (hclears : key.Clears other) (hchild : v.childAt key = some child) :
    (v.removeChild key).child? other = v.child? other := by
  cases v <;> cases key <;> simp only [childAt, reduceCtorEq] at hchild <;>
    cases other <;> simp only [Key.Clears] at hclears
  · next items i j =>
    obtain ⟨hlt, -⟩ := List.getElem?_eq_some_iff.mp hchild
    have hj : j < items.length := Nat.lt_trans hclears hlt
    have hsame : (items.eraseIdx i)[j]? = some items[j] := by
      rw [List.getElem?_eraseIdx_of_lt hclears, List.getElem?_eq_getElem hj]
    simp [removeChild, child?, hsame, hj]
  · next entries s t =>
    rw [removeChild, child?, child?, Dict.get?_erase_of_ne (Ne.symm hclears)]

end Value

end TreePath
