import TreePath.Proofs.Value.Location
import TreePath.Run

/-!
# Runs one after the other

Runs in turn are put together like lists: a run of two lists of steps is a run of the first and
then of the second. A sequence of steps below one key of a container is the same whether the child
is written back after each step or after the last one.
-/

namespace TreePath.Run

variable {α : Type} {r : Run} {tree child : Value} {key other : Key}

theorem found_andThen {next : Value → Run} : (found tree []).andThen next = next tree := rfl

theorem andThen_found : (r.andThen fun tree => found tree []) = r := by
  obtain ⟨tree, hits, failure⟩ := r
  cases failure <;> simp [andThen, found]

theorem andThen_assoc {f g : Value → Run} :
    (r.andThen f).andThen g = r.andThen fun tree => (f tree).andThen g := by
  obtain ⟨tree, hits, failure⟩ := r
  cases failure with
  | some e => rfl
  | none =>
    simp only [andThen]
    cases hfailure : (f tree).failure <;> simp [hfailure]

/-- A second run matters only where the first one leaves the tree. -/
theorem andThen_congr {f g : Value → Run} (h : f r.tree = g r.tree) :
    r.andThen f = r.andThen g := by
  simp only [andThen, h]

theorem andThen_within {next : Value → Run} :
    (r.within tree key).andThen (fun t => (next r.tree).within t key) =
      (r.andThen next).within tree key := by
  obtain ⟨t, hits, failure⟩ := r
  cases failure <;> simp [andThen, within, Value.replaceChild_replaceChild]

theorem andThen_failure {next : Value → Run} :
    (r.andThen next).failure = none ↔ r.failure = none ∧ (next r.tree).failure = none := by
  cases hfailure : r.failure <;> simp [andThen, hfailure]

theorem andThen_eq {next : Value → Run} (h : r.failure = none) :
    r.andThen next =
      ⟨(next r.tree).tree, r.hits ++ (next r.tree).hits, (next r.tree).failure⟩ := by
  simp [andThen, h]

theorem andThen_tree {next : Value → Run} (h : r.failure = none) :
    (r.andThen next).tree = (next r.tree).tree := by
  rw [andThen_eq h]

theorem andThen_hits {next : Value → Run} (h : r.failure = none) :
    (r.andThen next).hits = r.hits ++ (next r.tree).hits := by
  rw [andThen_eq h]

@[simp] theorem needing_ok {a : α} {next : α → Run} : needing tree (.ok a) next = next a := rfl

theorem needing_failure {result : Except Error α} {next : α → Run} :
    (needing tree result next).failure = none ↔
      ∃ a, result = .ok a ∧ (next a).failure = none := by
  cases result <;> simp [needing, failed]

/-! ## Steps in turn -/

/-- One step after the other for the members of a list. -/
def inTurn (visit : α → Value → Run) : List α → Value → Run
  | [], tree => found tree []
  | a :: rest, tree => (visit a tree).andThen (inTurn visit rest)

theorem overKeys_eq_inTurn {visit : Key → Value → Run} {keys : List Key} :
    overKeys visit keys = inTurn visit keys := by
  induction keys with
  | nil => rfl
  | cons key rest ih =>
    funext tree
    rw [overKeys, inTurn, ih]

theorem inTurn_append {visit : α → Value → Run} {left right : List α} :
    inTurn visit (left ++ right) tree = (inTurn visit left tree).andThen (inTurn visit right) := by
  induction left generalizing tree with
  | nil => rw [List.nil_append, inTurn, found_andThen]
  | cons a rest ih =>
    rw [List.cons_append, inTurn, inTurn, andThen_assoc]
    exact andThen_congr ih

theorem inTurn_map {β : Type} {visit : α → Value → Run} {f : β → α} {members : List β} :
    inTurn visit (members.map f) = inTurn (fun b => visit (f b)) members := by
  induction members with
  | nil => rfl
  | cons b rest ih =>
    funext tree
    rw [List.map_cons, inTurn, inTurn, ih]

/-- Steps that keep some property of the tree can be replaced by steps that do the same on trees
with that property. -/
theorem inTurn_congr {visit visit' : α → Value → Run} {members : List α} (Keeps : Value → Prop)
    (hsame : ∀ a ∈ members, ∀ t, Keeps t → visit a t = visit' a t ∧ Keeps (visit a t).tree)
    (h : Keeps tree) : inTurn visit members tree = inTurn visit' members tree := by
  induction members generalizing tree with
  | nil => rfl
  | cons a rest ih =>
    obtain ⟨heq, hkeeps⟩ := hsame a List.mem_cons_self tree h
    rw [inTurn, inTurn, ← heq]
    exact andThen_congr (ih (fun b hb => hsame b (List.mem_cons_of_mem _ hb)) hkeeps)

/-! ## Steps on a child -/

/-- A run on the child under a key; nothing where the name is absent. -/
def descend (sub : Value → Run) (key : Key) (container : Value) : Run :=
  needing container (container.child? key) fun
    | none => found container []
    | some child => (sub child).within container key

theorem descend_of_absent {sub : Value → Run} (h : tree.child? key = .ok none) :
    descend sub key tree = found tree [] := by
  simp [descend, h, needing]

theorem descend_of_child {sub : Value → Run} (h : tree.childAt key = some child) :
    descend sub key tree = (sub child).within tree key := by
  simp [descend, Value.child?_of_childAt h, needing]

theorem tree_descend {sub : Value → Run} :
    (descend sub key tree).tree = tree ∨
      ∃ child, (descend sub key tree).tree = tree.replaceChild key child := by
  simp only [descend, needing]
  split
  · split
    · exact .inl rfl
    · exact .inr ⟨_, rfl⟩
  · exact .inl rfl

theorem kind_descend {sub : Value → Run} : (descend sub key tree).tree.kind = tree.kind := by
  rcases @tree_descend tree key sub with h | ⟨child, h⟩
  · rw [h]
  · rw [h, Value.kind_replaceChild]

theorem child?_descend_of_ne {sub : Value → Run} {found : Option Value} (hne : other ≠ key)
    (h : tree.child? other = .ok found) :
    (descend sub key tree).tree.child? other = .ok found := by
  rcases @tree_descend tree key sub with htree | ⟨child, htree⟩
  · rwa [htree]
  · rw [htree]
    exact Value.child?_replaceChild_of_ne hne h

theorem descend_failure {sub : Value → Run} (h : (descend sub key tree).failure = none) :
    tree.child? key = .ok (tree.childAt key) ∧
      ∀ child, tree.childAt key = some child → (sub child).failure = none := by
  obtain ⟨found, hfound, hsub⟩ := needing_failure.mp h
  obtain rfl := Value.childAt_of_child? hfound
  refine ⟨hfound, fun child hchild => ?_⟩
  rw [hchild] at hsub
  exact hsub

/-- Steps below one key, each of which writes the child back, come to one step below that key. -/
theorem inTurn_descend {visit : α → Value → Run} {members : List α}
    (h : tree.childAt key = some child) :
    inTurn (fun a => descend (visit a) key) members tree =
      descend (inTurn visit members) key tree := by
  induction members generalizing tree child with
  | nil =>
    rw [descend_of_child h, inTurn, inTurn, within, found, found, Value.replaceChild_eq_self h]
  | cons a rest ih =>
    have hnext : (tree.replaceChild key (visit a child).tree).childAt key =
        some (visit a child).tree := Value.childAt_replaceChild_self h
    rw [inTurn, descend_of_child h, descend_of_child h, inTurn, ← andThen_within]
    refine andThen_congr ?_
    rw [within, ih hnext, descend_of_child hnext]

/-- What a run below some keys of a container leaves: each child that is there is as a run on it
leaves it, and everything else is as it was. -/
structure Descended (sub : Value → Run) (keys : List Key) (v : Value) (r : Run) : Prop where
  kind : r.tree.kind = v.kind
  ownKeys : r.tree.ownKeys = v.ownKeys
  found : ∀ key ∈ keys, v.child? key = .ok (v.childAt key)
  child : ∀ key ∈ keys, ∀ child, v.childAt key = some child →
    (sub child).failure = none ∧ r.tree.childAt key = some (sub child).tree
  kept : ∀ key, (key ∈ keys → v.childAt key = none) → r.tree.childAt key = v.childAt key
  hits : r.hits =
    keys.flatMap fun key => ((v.childAt key).map fun child => (sub child).hits).getD []

theorem descended_one {sub : Value → Run} (h : (descend sub key tree).failure = none) :
    Descended sub [key] tree (descend sub key tree) := by
  obtain ⟨hfound, hsub⟩ := descend_failure h
  cases hchild : tree.childAt key with
  | none =>
    rw [descend_of_absent (hchild ▸ hfound)]
    refine ⟨rfl, rfl, ?_, ?_, fun _ _ => rfl, ?_⟩
    · simpa using hfound
    · simp [hchild]
    · simp [hchild, found]
  | some child =>
    rw [descend_of_child hchild]
    refine ⟨Value.kind_replaceChild, Value.ownKeys_replaceChild, ?_, ?_, fun other hother => ?_, ?_⟩
    · simpa using hfound
    · rintro k hk c hc
      obtain rfl := List.mem_singleton.mp hk
      obtain rfl : child = c := Option.some.inj (hchild.symm.trans hc)
      exact ⟨hsub child hchild, Value.childAt_replaceChild_self hchild⟩
    · refine Value.childAt_replaceChild_of_ne fun heq => ?_
      simp [heq, hchild] at hother
    · simp [hchild, within]

/-- A run below one key and a run below others make up one below them all. -/
theorem descended_cons {sub : Value → Run} {keys : List Key} {one more : Run} (hkey : key ∉ keys)
    (first : Descended sub [key] tree one) (others : Descended sub keys one.tree more) :
    Descended sub (key :: keys) tree ⟨more.tree, one.hits ++ more.hits, more.failure⟩ := by
  have hsame (other : Key) (hother : other ∈ keys) :
      one.tree.childAt other = tree.childAt other := by
    refine first.kept other fun hmem => ?_
    exact absurd (List.mem_singleton.mp hmem ▸ hother) hkey
  refine ⟨others.kind.trans first.kind, others.ownKeys.trans first.ownKeys, ?_, ?_, ?_, ?_⟩
  · refine List.forall_mem_cons.mpr ⟨first.found key List.mem_cons_self, fun other hother => ?_⟩
    refine Value.child?_of_kind (others.found other hother) first.kind.symm fun hsome => ?_
    rwa [← hsame other hother]
  · refine List.forall_mem_cons.mpr ⟨fun child hchild => ?_, fun other hother child hchild => ?_⟩
    · obtain ⟨hsub, hat⟩ := first.child key List.mem_cons_self child hchild
      exact ⟨hsub, (others.kept key fun hin => absurd hin hkey).trans hat⟩
    · exact others.child other hother child ((hsame other hother).trans hchild)
  · intro other hother
    have hat : one.tree.childAt other = tree.childAt other :=
      first.kept other fun hin => hother (List.mem_cons.mpr (.inl (List.mem_singleton.mp hin)))
    rw [others.kept other fun hin => hat.trans (hother (List.mem_cons_of_mem _ hin)), hat]
  · have hhits : keys.flatMap (fun k => ((one.tree.childAt k).map fun c => (sub c).hits).getD []) =
        keys.flatMap fun k => ((tree.childAt k).map fun c => (sub c).hits).getD [] :=
      List.flatMap_congr fun other hother => by rw [hsame other hother]
    rw [first.hits, others.hits, hhits]
    simp

/-- A run below some keys without failure leaves each of their children as a run on it does. -/
theorem descended_of_failure {sub : Value → Run} {keys : List Key} (hnodup : keys.Nodup)
    (h : (inTurn (descend sub) keys tree).failure = none) :
    Descended sub keys tree (inTurn (descend sub) keys tree) := by
  induction keys generalizing tree with
  | nil => exact ⟨rfl, rfl, nofun, nofun, fun _ _ => rfl, rfl⟩
  | cons key rest ih =>
    obtain ⟨hkey, hrest⟩ := List.nodup_cons.mp hnodup
    obtain ⟨hfirst, hothers⟩ := andThen_failure.mp h
    have hall := descended_cons hkey (descended_one hfirst) (ih hrest hothers)
    rw [inTurn, andThen_eq hfirst]
    exact hall

namespace Descended

variable {sub : Value → Run} {keys : List Key} {r : Run}

/-- Below a key there is a child before and after, or there is none. -/
theorem child_cases (h : Descended sub keys v r) (hkey : key ∈ keys) :
    v.childAt key = none ∧ r.tree.childAt key = none ∨
    ∃ child, v.childAt key = some child ∧ r.tree.childAt key = some (sub child).tree := by
  cases hchild : v.childAt key with
  | none => exact .inl ⟨rfl, by rw [h.kept key fun _ => hchild, hchild]⟩
  | some child => exact .inr ⟨child, rfl, (h.child key hkey child hchild).2⟩

end Descended

end TreePath.Run
