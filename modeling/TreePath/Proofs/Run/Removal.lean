import TreePath.Proofs.Grammar.Complete
import TreePath.Proofs.Run.Pointwise
import TreePath.Proofs.Run.Query
import TreePath.Proofs.Run.Visit
import TreePath.Proofs.Value.Removal

/-!
# Taking out what a path selects

The keys of a segment are selected before anything is taken out, and taking an element out of a
list moves those behind it. A path that goes through lists backwards still finds every element
where it was. A path that goes forwards does not, but then it runs past the end of the list: a
command that takes nodes out either fails or takes out what a query of its path selects.
-/

namespace TreePath

open Run

/-- The run that takes out the nodes at some locations and reports them. -/
def Run.removed (v : Value) (gone : List (List Key)) : Run :=
  .found (v.without gone) (gone.filterMap fun p => v.at? p)

variable {r : Registry} {d : Directive} {predicate : Option Directive} {segment last : Segment}
  {path rest : List Segment} {v w child : Value} {key other : Key} {keys : List Key}
  {gone here : List (List Key)} {items : List Value} {i m : Nat}

theorem Run.removed_nil : removed v [] = found v [] := by
  rw [removed, Value.without_nil]
  rfl

/-! ## One key -/

namespace Operation

theorem act_unset (h : v.childAt key = some child) :
    unset.act d v key = (v.removeChild key, .ok (some child)) := by
  cases v <;> cases key <;> simp only [Value.childAt, reduceCtorEq] at h
  · simp [unset, h, Value.removeChild]
  · simp [unset, ← h, Dict.take_fst, Value.removeChild, Dict.erase]

end Operation

namespace Registry

/-- The location of the child under a key, if there is one and a predicate keeps it. -/
def chosen (r : Registry) (predicate : Option Directive) (v : Value) (key : Key) :
    Except Error (List (List Key)) :=
  under v (r.kept predicate (r.selection [])) key

theorem chosen_congr (h : w.child? key = v.child? key) :
    r.chosen predicate w key = r.chosen predicate v key := by
  simp only [chosen, under, h]

theorem visitLast_unset (h : v.childAt key = some child) :
    r.visitLast predicate (some (.unset, d)) key v =
      needing v (r.accepts predicate child) fun kept =>
        if kept then found (v.removeChild key) [child] else found v [] := by
  simp only [visitLast_of_child h, Operation.act_unset h]
  rfl

/-- Taking out the child under one key, if it is chosen. -/
theorem visitLast_of_chosen (h : r.chosen predicate v key = .ok here) :
    here = [] ∧ r.visitLast predicate (some (.unset, d)) key v = found v [] ∨
      ∃ child, here = [[key]] ∧ v.childAt key = some child ∧
        r.visitLast predicate (some (.unset, d)) key v = found (v.removeChild key) [child] := by
  rcases under_eq_ok.mp h with ⟨habsent, rfl⟩ | ⟨child, below, hfound, hbelow, rfl⟩
  · left
    simp [visitLast, habsent, Operation.act_unset_of_absent habsent, operated]
  · have hchild := Value.childAt_of_child? hfound
    obtain ⟨kept, hkept, hbelow⟩ := bind_eq_ok.mp hbelow
    rw [visitLast_unset hchild, hkept]
    cases kept with
    | false =>
      cases hbelow
      exact .inl ⟨rfl, rfl⟩
    | true =>
      cases hbelow
      exact .inr ⟨child, rfl, hchild, rfl⟩

theorem exists_chosen
    (h : (r.visitLast predicate (some (.unset, d)) key v).failure = none) :
    ∃ here, r.chosen predicate v key = .ok here := by
  obtain ⟨found, hfound, h⟩ := needing_failure.mp h
  cases found with
  | none => exact ⟨[], under_eq_ok.mpr (.inl ⟨hfound, rfl⟩)⟩
  | some child =>
    obtain ⟨kept, hkept, -⟩ := needing_failure.mp h
    obtain ⟨below, hbelow⟩ : ∃ below, r.kept predicate (r.selection []) child = .ok below := by
      cases kept with
      | false => exact ⟨[], bind_eq_ok.mpr ⟨false, hkept, rfl⟩⟩
      | true => exact ⟨[[]], bind_eq_ok.mpr ⟨true, hkept, rfl⟩⟩
    exact ⟨_, under_eq_ok.mpr (.inr ⟨child, below, hfound, hbelow, rfl⟩)⟩

/-! ## Keys of which none moves a later one -/

theorem chosen_removeChild (hclears : ∀ other ∈ keys, key.Clears other)
    (hchild : v.childAt key = some child) :
    gather (r.chosen predicate (v.removeChild key)) keys = gather (r.chosen predicate v) keys :=
  gather_congr fun other hother =>
    chosen_congr (Value.child?_removeChild (hclears other hother) hchild)

theorem exists_gather_chosen (hclears : keys.Pairwise Key.Clears)
    (h : (inTurn (r.visitLast predicate (some (.unset, d))) keys v).failure = none) :
    ∃ gone, gather (r.chosen predicate v) keys = .ok gone := by
  induction keys generalizing v with
  | nil => exact ⟨[], rfl⟩
  | cons key rest ih =>
    obtain ⟨hkey, hrest⟩ := List.pairwise_cons.mp hclears
    obtain ⟨hfirst, hothers⟩ := andThen_failure.mp h
    obtain ⟨here, hhere⟩ := exists_chosen hfirst
    obtain ⟨others, hgather⟩ := ih hrest hothers
    refine ⟨here ++ others, gather_cons_eq_ok.mpr ⟨here, others, hhere, ?_, rfl⟩⟩
    rcases visitLast_of_chosen (d := d) hhere with ⟨-, hvisit⟩ | ⟨child, -, hchild, hvisit⟩
    · rwa [hvisit] at hgather
    · rw [hvisit] at hgather
      rwa [← chosen_removeChild hkey hchild]

/-- A location that is chosen for one of some keys is the location of its child. -/
theorem mem_of_gather_chosen {p : List Key} (h : gather (r.chosen predicate v) keys = .ok gone)
    (hp : p ∈ gone) : ∃ key ∈ keys, p = [key] := by
  obtain ⟨key, hkey, here, hhere, hmem⟩ := mem_of_gather h hp
  rcases visitLast_of_chosen (d := ⟨"", none, .none⟩) hhere with ⟨rfl, -⟩ | ⟨_, rfl, -⟩
  · cases hmem
  · exact ⟨key, hkey, List.mem_singleton.mp hmem⟩

/-- Taking out what is chosen for some keys, one after the other. -/
theorem inTurn_unset (hnodup : v.ownKeys.Nodup) (hclears : keys.Pairwise Key.Clears)
    (h : gather (r.chosen predicate v) keys = .ok gone) :
    inTurn (r.visitLast predicate (some (.unset, d))) keys v = removed v gone := by
  induction keys generalizing v gone with
  | nil =>
    cases h
    exact removed_nil.symm
  | cons key rest ih =>
    obtain ⟨hkey, hrest⟩ := List.pairwise_cons.mp hclears
    obtain ⟨here, others, hhere, hothers, rfl⟩ := gather_cons_eq_ok.mp h
    rw [inTurn]
    rcases visitLast_of_chosen (d := d) hhere with ⟨rfl, hvisit⟩ | ⟨child, rfl, hchild, hvisit⟩
    · rw [hvisit, found_andThen, ih hnodup hrest hothers]
      rfl
    · have hsteps (p : List Key) (hp : p ∈ others) :
          ∃ other tail, p = other :: tail ∧ key.Clears other := by
        obtain ⟨other, hother, rfl⟩ := mem_of_gather_chosen hothers hp
        exact ⟨other, [], rfl, hkey other hother⟩
      have hvalues : others.filterMap (fun p => (v.removeChild key).at? p) =
          others.filterMap fun p => v.at? p := by
        refine List.filterMap_congr fun p hp => ?_
        obtain ⟨other, hother, rfl⟩ := mem_of_gather_chosen hothers hp
        have hsame := Value.childAt_congr (Value.child?_removeChild (hkey other hother) hchild)
        rw [Value.at?_cons, Value.at?_cons, hsame]
      rw [← chosen_removeChild hkey hchild] at hothers
      have hmore := ih (Value.nodup_ownKeys_removeChild hnodup) hrest hothers
      rw [hvisit, andThen_eq rfl]
      simp only [found, hmore]
      have hgone : v.without ([[key]] ++ others) = (v.removeChild key).without others :=
        Value.without_cons hnodup hchild hsteps
      rw [removed, removed, hvalues, hgone]
      simp [found, hchild]

/-! ## Going forwards through a list -/

/-- Taking out an element, or none, never makes a list longer. -/
theorem length_of_chosen {tree : Value} (hhere : r.chosen predicate (.list items) key = .ok here)
    (htree : (r.visitLast predicate (some (.unset, d)) key (.list items)).tree = tree) :
    ∃ items', tree = .list items' ∧ items'.length ≤ items.length := by
  rcases visitLast_of_chosen (d := d) hhere with ⟨-, hvisit⟩ | ⟨child, -, hchild, hvisit⟩
  · rw [hvisit] at htree
    exact ⟨items, htree.symm, Nat.le_refl _⟩
  · rw [hvisit] at htree
    cases key with
    | index i => exact ⟨items.eraseIdx i, htree.symm, List.length_eraseIdx_le _ _⟩
    | name t => cases hchild

/-- A position past the end of a list is still past its end when its turn comes. -/
theorem failure_of_short (hkey : .index i ∈ keys) (hshort : items.length ≤ i) :
    (inTurn (r.visitLast predicate (some (.unset, d))) keys (.list items)).failure ≠ none := by
  induction keys generalizing items with
  | nil => cases hkey
  | cons key rest ih =>
    intro h
    obtain ⟨hfirst, hothers⟩ := andThen_failure.mp h
    rcases List.mem_cons.mp hkey with rfl | hrest
    · obtain ⟨found, hfound, -⟩ := needing_failure.mp hfirst
      simp [Value.child?, List.getElem?_eq_none hshort] at hfound
    · obtain ⟨here, hhere⟩ := exists_chosen hfirst
      obtain ⟨items', htree, hle⟩ := length_of_chosen (d := d) hhere rfl
      rw [htree] at hothers
      exact ih hrest (Nat.le_trans hle hshort) hothers

/-- Going forwards through the rest of a list succeeds only if nothing but the last element is
taken out. -/
theorem inTurn_unset_forwards (hlength : i + m = items.length)
    (h : (inTurn (r.visitLast predicate (some (.unset, d))) ((List.range' i m).map .index)
      (.list items)).failure = none) :
    ∃ gone, gather (r.chosen predicate (.list items)) ((List.range' i m).map .index) = .ok gone ∧
      inTurn (r.visitLast predicate (some (.unset, d))) ((List.range' i m).map .index)
        (.list items) = removed (.list items) gone := by
  induction m generalizing i with
  | zero => exact ⟨[], rfl, removed_nil.symm⟩
  | succ m ih =>
    rw [List.range'_succ, List.map_cons] at h ⊢
    obtain ⟨hfirst, hothers⟩ := andThen_failure.mp h
    obtain ⟨here, hhere⟩ := exists_chosen hfirst
    rcases visitLast_of_chosen (d := d) hhere with ⟨rfl, hvisit⟩ | ⟨child, rfl, hchild, hvisit⟩
    · rw [hvisit] at hothers
      obtain ⟨gone, hgone, hrun⟩ := ih (by omega) hothers
      refine ⟨gone, gather_cons_eq_ok.mpr ⟨[], gone, hhere, hgone, rfl⟩, ?_⟩
      rw [inTurn, hvisit, found_andThen, hrun]
    · cases m with
      | zero =>
        have hgone : gather (r.chosen predicate (.list items)) [.index i] = .ok [[.index i]] :=
          gather_cons_eq_ok.mpr ⟨_, [], hhere, rfl, rfl⟩
        have hown : (Value.list items).ownKeys.Nodup :=
          List.nodup_range.map fun _ _ => Key.index.inj
        exact ⟨_, hgone, inTurn_unset hown (List.pairwise_singleton _ _) hgone⟩
      | succ m =>
        -- The list has become too short for its last position.
        rw [hvisit] at hothers
        have hmem : Key.index (i + 1 + m) ∈ (List.range' (i + 1) (m + 1)).map Key.index :=
          List.mem_map_of_mem (List.mem_range'_1.mpr (by omega))
        refine absurd hothers (failure_of_short hmem ?_)
        rw [List.length_eraseIdx_of_lt (by omega)]
        omega

/-! ## The last segment -/

theorem selection_last :
    r.selection [last] v = (r.keysOf last.select v).bind (gather (r.chosen last.predicate v)) := rfl

/-- Only the select of all children in order goes forwards through a list. -/
theorem pairwise_clears (hnodup : v.ownKeys.Nodup) (hkeys : builtin.keysOf d v = .ok keys)
    (h : d.name ≠ some "each" ∨ v.kind = .map) : keys.Pairwise Key.Clears := by
  obtain ⟨hcontainer, s, hselect, hs⟩ := keysOf_eq_ok.mp hkeys
  cases v with
  | map entries =>
    have hnames (key : Key) (hkey : key ∈ keys) : ∃ t, key = .name t := by
      have hsuits := suits_of_keysOf hkeys hkey
      cases key with
      | index i => cases hsuits
      | name t => exact ⟨t, rfl⟩
    refine (nodup_of_keysOf hnodup hkeys).imp_of_mem fun hfirst hsecond hne => ?_
    obtain ⟨s, rfl⟩ := hnames _ hfirst
    obtain ⟨t, rfl⟩ := hnames _ hsecond
    exact fun heq => hne (congrArg Key.name heq)
  | list items =>
    have hforwards : d.name ≠ some "each" := h.resolve_right nofun
    cases hname : d.name with
    | none =>
      simp only [selectFor, hname, Except.ok.injEq] at hselect
      subst hselect
      obtain ⟨key, -, -, rfl⟩ := Select.literalKeys_eq_ok.mp hs
      exact List.pairwise_singleton _ _
    | some name =>
      simp only [selectFor, hname] at hselect
      split at hselect
      case h_2 => cases hselect
      next s' hlookup =>
      cases hselect
      have hmem := select?_builtin.mp hlookup
      simp only [List.mem_cons, Prod.mk.injEq, List.not_mem_nil, or_false] at hmem
      rcases hmem with ⟨rfl, rfl⟩ | ⟨rfl, rfl⟩ | ⟨rfl, rfl⟩ | ⟨rfl, rfl⟩
      · cases items <;> cases hs <;> simp
      · exact absurd hname hforwards
      · obtain ⟨-, rfl⟩ := (keysOf_eachReversed hname).mp hkeys
        simp only [Value.kind, if_true, Value.ownKeys, List.pairwise_reverse, List.pairwise_map]
        exact List.pairwise_lt_range
      · obtain ⟨p, -, hs⟩ := bind_eq_ok.mp hs
        cases hs
  | _ => cases hcontainer

/-- The last segment takes out what it selects, or fails. -/
theorem applyLast_unset {select : Select} (hselect : builtin.selectFor last.select = .ok select)
    (hnodup : v.ownKeys.Nodup)
    (h : (builtin.applyLast select last (some (.unset, d)) v).failure = none) :
    ∃ gone, builtin.selection [last] v = .ok gone ∧
      builtin.applyLast select last (some (.unset, d)) v = removed v gone := by
  rw [applyLast_eq hselect] at h ⊢
  obtain ⟨keys, hkeys, h⟩ := needing_failure.mp h
  rw [selection_last, hkeys]
  by_cases horder : last.select.name ≠ some "each" ∨ v.kind = .map
  · have hclears := pairwise_clears hnodup hkeys horder
    obtain ⟨gone, hgone⟩ := exists_gather_chosen hclears h
    exact ⟨gone, hgone, inTurn_unset hnodup hclears hgone⟩
  · obtain ⟨hname, hkind⟩ := not_or.mp horder
    obtain ⟨hcontainer, rfl⟩ := (keysOf_each (not_not.mp hname)).mp hkeys
    cases v with
    | list items =>
      have hkeys : (Value.list items).ownKeys = (List.range' 0 items.length).map .index := by
        rw [Value.ownKeys, List.range_eq_range']
      rw [hkeys] at h ⊢
      exact inTurn_unset_forwards (Nat.zero_add _) h
    | map entries => exact absurd rfl hkind
    | _ => cases hcontainer

/-- Unless it goes forwards through a list, the last segment takes out what it selects if it
selects anything. -/
theorem applyLast_unset_failure {select : Select}
    (hselect : builtin.selectFor last.select = .ok select) (hnodup : v.ownKeys.Nodup)
    (horder : last.select.name ≠ some "each" ∨ v.kind = .map) :
    (builtin.applyLast select last (some (.unset, d)) v).failure = none ↔
      ∃ gone, builtin.selection [last] v = .ok gone := by
  constructor
  · intro h
    obtain ⟨gone, hgone, -⟩ := applyLast_unset hselect hnodup h
    exact ⟨gone, hgone⟩
  · rintro ⟨gone, hgone⟩
    obtain ⟨keys, hkeys, hgone⟩ := bind_eq_ok.mp hgone
    have hclears := pairwise_clears hnodup hkeys horder
    rw [applyLast_eq hselect, hkeys, needing_ok, inTurn_unset hnodup hclears hgone]
    rfl

/-! ## Any path -/

/-- A path of at least one segment does not select the root. -/
theorem nil_notMem_selection (hne : path ≠ []) (h : r.selection path v = .ok gone) :
    [] ∉ gone := by
  intro hnil
  cases path with
  | nil => exact hne rfl
  | cons segment rest =>
    obtain ⟨keys, -, hgather⟩ := bind_eq_ok.mp h
    obtain ⟨_, _, _, _, -, -, -, heq⟩ := mem_of_gather_under hgather hnil
    cases heq

theorem locationsBelow_spread {below : Key → List (List Key)} (hnodup : keys.Nodup) :
    Value.locationsBelow key (spread below keys) = if key ∈ keys then below key else [] := by
  induction keys with
  | nil => rfl
  | cons k rest ih =>
    obtain ⟨hnotin, hrest⟩ := List.nodup_cons.mp hnodup
    have hcons : spread below (k :: rest) = (below k).map (k :: ·) ++ spread below rest := by
      simp [spread]
    rw [hcons, Value.locationsBelow_append, Value.locationsBelow_map, ih hrest]
    by_cases heq : k = key
    · subst heq
      simp [hnotin]
    · simp [heq, Ne.symm heq]

/-- What is left of a container when nodes below its children are taken out. -/
theorem tree_of_descended {sub : Value → Run} {below : Key → List (List Key)} {result : Run}
    (hcontainer : v.isContainer) (hown : v.ownKeys.Nodup) (hnodup : keys.Nodup)
    (h : Descended sub keys v result)
    (hsub : ∀ key ∈ keys, ∀ child, v.childAt key = some child →
      [] ∉ below key ∧ sub child = removed child (below key))
    (hbelow : ∀ key, v.childAt key = none → below key = []) :
    result.tree = v.without (spread below keys) := by
  have hlonger (key : Key) : [key] ∉ spread below keys := by
    rw [cons_mem_spread]
    rintro ⟨hkey, hnil⟩
    cases hchild : v.childAt key with
    | none => simp [hbelow key hchild] at hnil
    | some child => exact (hsub key hkey child hchild).1 hnil
  refine Value.eq_of_childAt ?_ ?_ (h.kind.trans Value.kind_without.symm) ?_ fun key => ?_
  · rwa [Value.isContainer, Value.kind_without]
  · rwa [Value.ownKeys_without hlonger]
  · rw [h.ownKeys, Value.ownKeys_without hlonger]
  · rw [Value.childAt_without hlonger, locationsBelow_spread hnodup]
    cases hchild : v.childAt key with
    | none => rw [h.kept key fun _ => hchild, hchild, Option.map_none]
    | some child =>
      by_cases hkey : key ∈ keys
      · obtain ⟨-, hremoved⟩ := hsub key hkey child hchild
        rw [(h.child key hkey child hchild).2, hremoved, if_pos hkey]
        rfl
      · rw [h.kept key fun hin => absurd hin hkey, hchild, if_neg hkey, Option.map_some,
          Value.without_nil]

/-- A run below some keys that takes out what is selected below each of them takes out what is
selected below them all. -/
theorem removed_of_descended {sub : Value → Run} {find : Value → Except Error (List (List Key))}
    {result : Run} (hcontainer : v.isContainer) (hown : v.ownKeys.Nodup) (hnodup : keys.Nodup)
    (h : Descended sub keys v result) (hfailure : result.failure = none)
    (hsub : ∀ key ∈ keys, ∀ child, v.childAt key = some child → ∃ gone, find child = .ok gone ∧
      [] ∉ gone ∧ sub child = removed child gone) :
    ∃ gone, gather (under v find) keys = .ok gone ∧ result = removed v gone := by
  let below (key : Key) : List (List Key) :=
    ((v.childAt key).map fun child => (find child).toOption.getD []).getD []
  have habsent (key : Key) (hchild : v.childAt key = none) : below key = [] := by
    simp [below, hchild]
  have hbelow (key : Key) (hkey : key ∈ keys) (child : Value)
      (hchild : v.childAt key = some child) :
      find child = .ok (below key) ∧ [] ∉ below key ∧ sub child = removed child (below key) := by
    obtain ⟨gone, hgone, hnil, hremoved⟩ := hsub key hkey child hchild
    have heq : below key = gone := by simp [below, hchild, hgone, Except.toOption]
    rw [heq]
    exact ⟨hgone, hnil, hremoved⟩
  refine ⟨spread below keys, gather_eq_flatMap fun key hkey => under_eq_ok.mpr ?_, ?_⟩
  · have hfound := h.found key hkey
    cases hchild : v.childAt key with
    | none => exact .inl ⟨hchild ▸ hfound, by rw [habsent key hchild, List.map_nil]⟩
    | some child =>
      exact .inr ⟨child, below key, hchild ▸ hfound, (hbelow key hkey child hchild).1, rfl⟩
  · have htree := tree_of_descended hcontainer hown hnodup h
      (fun key hkey child hchild => (hbelow key hkey child hchild).2) habsent
    have hhits : result.hits = (spread below keys).filterMap fun p => v.at? p := by
      rw [h.hits, spread, List.filterMap_flatMap]
      refine List.flatMap_congr fun key hkey => ?_
      cases hchild : v.childAt key with
      | none => rw [habsent key hchild]; rfl
      | some child =>
        rw [Option.map_some, Option.getD_some, (hbelow key hkey child hchild).2.2,
          List.filterMap_map]
        simp [removed, found, Function.comp_def, hchild]
    obtain ⟨tree, hits, failure⟩ := result
    simp only at htree hhits hfailure
    rw [htree, hhits, hfailure]
    rfl

/-- A walk that takes out what its last segment selects takes out what the path selects, or
fails. -/
theorem walk_unset {select : Select} (hselect : builtin.selectFor last.select = .ok select)
    (hdistinct : v.isDistinct)
    (h : (builtin.walk (builtin.applyLast select last (some (.unset, d))) path v).failure = none) :
    ∃ gone, builtin.selection (path ++ [last]) v = .ok gone ∧
      builtin.walk (builtin.applyLast select last (some (.unset, d))) path v = removed v gone := by
  induction path generalizing v with
  | nil => exact applyLast_unset hselect (Value.nodup_ownKeys hdistinct) h
  | cons segment rest ih =>
    rw [walk_cons] at h ⊢
    obtain ⟨keys, hkeys, h⟩ := needing_failure.mp h
    have hown := Value.nodup_ownKeys hdistinct
    have hnodup := nodup_of_keysOf hown hkeys
    rw [List.cons_append, selection, hkeys]
    have hdescended := descended_of_failure hnodup h
    refine removed_of_descended (keysOf_eq_ok.mp hkeys).1 hown hnodup hdescended h
      fun key hkey child hchild => ?_
    obtain ⟨kept, hkept, hsub⟩ := guarded_failure.mp (hdescended.child key hkey child hchild).1
    rw [Registry.kept, guarded, hkept, needing_ok]
    cases kept with
    | false => exact ⟨[], rfl, List.not_mem_nil, removed_nil.symm⟩
    | true =>
      obtain ⟨gone, hgone, hremoved⟩ := ih (Value.isDistinct_of_childAt hdistinct hchild) (hsub rfl)
      exact ⟨gone, hgone, nil_notMem_selection (by simp) hgone, hremoved⟩

/-! ## Commands -/

/-- A command that takes out what its path selects, or fails. -/
theorem run_unset (ho : builtin.operationFor d = .ok .unset) (hdistinct : v.isDistinct)
    (h : (builtin.run ⟨path, some d⟩ v).failure = none) :
    ∃ gone, builtin.selection path v = .ok gone ∧
      builtin.run ⟨path, some d⟩ v = removed v gone := by
  cases hlast : path.getLast? with
  | none => simp [run, hlast, failed] at h
  | some last =>
    have hpath : path.dropLast ++ [last] = path := List.dropLast_append_getLast? last hlast
    simp only [run, hlast] at h ⊢
    obtain ⟨select, hselect, h⟩ := needing_failure.mp h
    rw [hselect, needing_ok]
    simp only [operationOf, ho, Except.map, needing_ok] at h ⊢
    obtain ⟨gone, hgone, hremoved⟩ := walk_unset hselect hdistinct h
    exact ⟨gone, hpath ▸ hgone, hremoved⟩

/-- Where a path with `unset` succeeds, the path alone finds what was taken out. -/
theorem executeResult_of_run_unset {operation : Option Directive}
    (h : (builtin.run ⟨path, operation⟩ v).failure = none)
    (hgone : builtin.selection path v = .ok gone) :
    builtin.executeResult ⟨path, none⟩ v = (v, .ok (gone.filterMap fun p => v.at? p)) := by
  cases hlast : path.getLast? with
  | none => simp [run, hlast, failed] at h
  | some last =>
    simp only [run, hlast] at h
    obtain ⟨select, hselect, -⟩ := needing_failure.mp h
    have hread : builtin.executeResult ⟨path, none⟩ v = (v, builtin.selectValues path v) :=
      reads_run hlast hselect
    have hne : path ≠ [] := by
      rintro rfl
      cases hlast
    rw [hread, selectValues, if_neg (by simpa using hne), valuesAt_eq_selection, hgone]
    rfl

/-- Reading with the last segment succeeds where the segment selects something, or nothing. -/
theorem applyLast_read_failure {select : Select} (hselect : r.selectFor last.select = .ok select) :
    (r.applyLast select last none v).failure = none ↔
      ∃ gone, r.selection [last] v = .ok gone := by
  rw [(reads_applyLast hselect).failure, valuesAt_eq_selection]
  cases r.selection [last] v <;> simp [Except.map]

/-- Unless the last segment goes forwards through a list, what a path selects can be taken out. -/
theorem run_unset_failure (ho : builtin.operationFor d = .ok .unset) (hdistinct : v.isDistinct)
    (horder : (∀ last ∈ path.getLast?, last.select.name ≠ some "each") ∨
      ∀ containers, builtin.valuesAt path.dropLast v = .ok containers →
        ∀ c ∈ containers, c.kind = .map)
    (hread : (builtin.run ⟨path, none⟩ v).failure = none) :
    (builtin.run ⟨path, some d⟩ v).failure = none := by
  cases hlast : path.getLast? with
  | none => simp [run, hlast, failed] at hread
  | some last =>
  simp only [run, hlast] at hread ⊢
  obtain ⟨select, hselect, hread⟩ := needing_failure.mp hread
  rw [hselect, needing_ok]
  simp only [operationOf, ho, Except.map, needing_ok] at hread ⊢
  rw [walk_failure hdistinct] at hread ⊢
  obtain ⟨containers, hcontainers, hall⟩ := hread
  refine ⟨containers, hcontainers, fun c hc => ?_⟩
  have hnodup : c.ownKeys.Nodup := by
    rw [valuesAt_eq_selection] at hcontainers
    obtain ⟨locations, -, rfl⟩ := map_eq_ok.mp hcontainers
    obtain ⟨p, -, hp⟩ := List.mem_filterMap.mp hc
    exact Value.nodup_ownKeys (Value.isDistinct_of_at? hdistinct hp)
  have hkind : last.select.name ≠ some "each" ∨ c.kind = .map :=
    horder.imp (fun hname => hname last hlast) fun hmaps => hmaps containers hcontainers c hc
  rw [applyLast_unset_failure hselect hnodup hkind]
  exact (applyLast_read_failure hselect).mp (hall c hc)

/-- A path with `unset` that succeeds takes out exactly the nodes that the path alone selects, and
reports them in the same order. It succeeds whenever the path alone does, unless its last segment
goes forwards through a list. -/
theorem unset_removes_selection {text : String} (hpath : builtin.parsePath text = .ok path)
    (hdistinct : v.isDistinct) :
    (∀ w rs, builtin.onCommand (text ++ "!unset") builtin.executeResult v = (w, .ok rs) →
      builtin.onCommand text builtin.executeResult v = (v, .ok rs) ∧
        ∃ gone, builtin.selection path v = .ok gone ∧ w = v.without gone ∧
          rs = gone.filterMap fun p => v.at? p) ∧
    ((∀ last ∈ path.getLast?, last.select.name ≠ some "each") ∨
        (∀ containers, builtin.valuesAt path.dropLast v = .ok containers →
          ∀ c ∈ containers, c.kind = .map) →
      ((∃ rs, (builtin.onCommand (text ++ "!unset") builtin.executeResult v).2 = .ok rs) ↔
        ∃ rs, (builtin.onCommand text builtin.executeResult v).2 = .ok rs)) := by
  have hunset : builtin.parseCommand (text ++ "!unset") =
      .ok ⟨path, some ⟨"unset", some "unset", .none⟩⟩ := by
    have hoperation : builtin.parseOperation "unset" = .ok ⟨"unset", some "unset", .none⟩ := rfl
    rw [← parseCommand_append hpath hoperation, String.append_assoc]
    rfl
  have hread : builtin.parseCommand text = .ok ⟨path, none⟩ := readCommand_of_readPath hpath
  simp only [onCommand, hunset, hread]
  have ho : builtin.operationFor ⟨"unset", some "unset", .none⟩ = .ok .unset := rfl
  refine ⟨fun w rs hrun => ?_, fun horder => ?_⟩
  · obtain ⟨hfailure, rfl, rfl⟩ := executeResult_eq_ok.mp hrun
    obtain ⟨gone, hgone, hremoved⟩ := run_unset ho hdistinct hfailure
    refine ⟨?_, gone, hgone, by rw [hremoved]; rfl, by rw [hremoved]; rfl⟩
    rw [executeResult_of_run_unset hfailure hgone, hremoved]
    rfl
  · rw [executeResult_isOk, executeResult_isOk]
    constructor
    · intro hfailure
      obtain ⟨gone, hgone, -⟩ := run_unset ho hdistinct hfailure
      have hresult := executeResult_of_run_unset hfailure hgone
      exact (executeResult_eq_ok.mp hresult).1
    · exact run_unset_failure ho hdistinct horder

/-- Going backwards through the empty containers of a list takes out those two, and reports them
from the last to the first. -/
theorem unset_removes_selection_eachr :
    let tree : Value := .map [("a", .list [.list [], .map [], .list [.bool true]]), ("b", .list [])]
    let next : Value := .map [("a", .list [.list [.bool true]]), ("b", .list [])]
    builtin.onCommand "//a/:eachr#isEmpty!unset" builtin.executeResult tree =
        (next, .ok [.map [], .list []]) ∧
      builtin.onCommand "//a/:eachr#isEmpty" builtin.executeResult tree =
        (tree, .ok [.map [], .list []]) ∧
      ∃ gone, next = tree.without gone := by
  intro tree next
  let path : List Segment := [⟨⟨"a", none, .key (.name "a")⟩, none⟩,
    ⟨⟨":eachr", some "eachr", .none⟩, some ⟨"isEmpty", some "isEmpty", .none⟩⟩]
  have hpath : builtin.parsePath "//a/:eachr#isEmpty" = .ok path := rfl
  have hrun : builtin.onCommand "//a/:eachr#isEmpty!unset" builtin.executeResult tree =
      (next, .ok [.map [], .list []]) := rfl
  obtain ⟨hremoves, -⟩ := unset_removes_selection hpath (v := tree) (by decide)
  obtain ⟨hread, gone, -, hgone, -⟩ := hremoves _ _ hrun
  exact ⟨hrun, hread, gone, hgone⟩

end Registry

end TreePath
