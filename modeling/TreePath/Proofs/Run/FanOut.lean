import TreePath.Proofs.Handler.Update
import TreePath.Proofs.Run.Places
import TreePath.Proofs.Run.Sequence

/-!
# A command that fans out is a sequence of commands at single places

The keys of a segment are selected before anything below them is changed. What is done below one
of them changes neither the kind of the container nor the children under the other keys, so every
step finds what the selects found on the tree as it was.
-/

namespace TreePath

open Run

/-- A bare segment of one key. -/
def pointSegment (key : Key) : Segment := ⟨⟨key.text, none, .key key⟩, none⟩

/-- The command that does an operation at one place. -/
def pointCommand (place : List Key) (operation : Directive) : Command :=
  ⟨place.map pointSegment, some operation⟩

namespace Registry

/-- Executes commands one after the other on the same tree. The first failure ends it. -/
def executeAll (r : Registry) : List Command → Value → Value × Except Error (List Value)
  | [], tree => (tree, .ok [])
  | command :: rest, tree =>
    match r.executeResult command tree with
    | (next, .error e) => (next, .error e)
    | (next, .ok here) =>
      let (final, others) := executeAll r rest next
      (final, others.map fun others => here ++ others)

theorem executeAll_eq_inTurn {r : Registry} {commands : List Command} {tree : Value} :
    r.executeAll commands tree = (inTurn r.run commands tree).outcome := by
  induction commands generalizing tree with
  | nil => rfl
  | cons command rest ih =>
    simp only [executeAll, executeResult, inTurn, andThen, outcome]
    cases hfirst : (r.run command tree).failure with
    | some e => simp [hfirst]
    | none =>
      simp only [ih, outcome]
      cases (inTurn r.run rest (r.run command tree).tree).failure <;> rfl

variable {r : Registry} {segment last : Segment} {rest path : List Segment} {keys : List Key}
  {key : Key} {v tree : Value} {o : Operation} {d : Directive}

/-! ## One segment -/

/-- The select of the last segment is registered. -/
def Resolves (r : Registry) (path : List Segment) : Prop :=
  ∃ last select, path.getLast? = some last ∧ r.selectFor last.select = .ok select

theorem run_last (ho : r.operationFor d = .ok o) (hfree : last.predicate = none)
    (hkeys : r.keysOf last.select tree = .ok keys) :
    r.run ⟨[last], some d⟩ tree = inTurn (r.visitLast none (some (o, d))) keys tree := by
  obtain ⟨hcontainer, select, hselect, hkeys⟩ := keysOf_eq_ok.mp hkeys
  simp [run, hselect, operationOf, ho, Except.map, needing, walk, applyLast,
    Value.ensureContainer, Value.isLeaf, hcontainer, hkeys, hfree, overKeys_eq_inTurn]

/-- The first of several segments does the rest of the command on each child that is there. -/
theorem run_cons (ho : r.operationFor d = .ok o) (hresolves : r.Resolves rest)
    (hfree : segment.predicate = none) (hkeys : r.keysOf segment.select tree = .ok keys) :
    r.run ⟨segment :: rest, some d⟩ tree = inTurn (descend (r.run ⟨rest, some d⟩)) keys tree := by
  obtain ⟨last, select, hlast, hselect⟩ := hresolves
  have hne : rest ≠ [] := by
    rintro rfl
    cases hlast
  have hsub : r.run ⟨rest, some d⟩ =
      r.walk (r.applyLast select last (some (o, d))) rest.dropLast := by
    funext child
    simp [run, hlast, hselect, operationOf, ho, Except.map, needing]
  simp only [run, List.getLast?_cons_of_ne_nil hne, List.dropLast_cons_of_ne_nil hne, hlast,
    hselect, operationOf, ho, Except.map, needing, walk, hkeys, hfree, accepts,
    overKeys_eq_inTurn, if_true]
  rw [hsub]
  rfl

/-- A run without failure has got past the look-up of its last select and its first segment. -/
theorem resolves_of_run (h : (r.run ⟨segment :: rest, some d⟩ tree).failure = none) :
    r.Resolves (segment :: rest) ∧ ∃ keys, r.keysOf segment.select tree = .ok keys := by
  obtain ⟨last, hlast⟩ := Option.isSome_iff_exists.mp
    (List.getLast?_isSome.mpr (List.cons_ne_nil segment rest))
  simp only [run, hlast] at h
  obtain ⟨select, hselect, h⟩ := needing_failure.mp h
  obtain ⟨operation, -, h⟩ := needing_failure.mp h
  refine ⟨⟨last, select, hlast, hselect⟩, ?_⟩
  cases rest with
  | nil =>
    obtain rfl : segment = last := Option.some.inj hlast
    obtain ⟨_, hcontainer, h⟩ := needing_failure.mp h
    obtain ⟨keys, hkeys, -⟩ := needing_failure.mp h
    exact ⟨keys, bind_eq_ok.mpr ⟨_, hcontainer, bind_eq_ok.mpr ⟨select, hselect, hkeys⟩⟩⟩
  | cons next rest =>
    obtain ⟨keys, hkeys, -⟩ := needing_failure.mp h
    exact ⟨keys, hkeys⟩

theorem kind_visitLast (ho : builtin.operationFor d = .ok o) {predicate : Option Directive} :
    (r.visitLast predicate (some (o, d)) key tree).tree.kind = tree.kind := by
  have hlibrary := (Operation.library_of_operationFor ho).1
  simp only [visitLast, needing]
  split
  · split
    · split
      · rfl
      · rw [tree_operated, Operation.kind_act hlibrary]
    · rfl
  · rfl

/-! ## One place -/

theorem keysOf_pointSegment (h : tree.suits key) :
    builtin.keysOf (pointSegment key).select tree = .ok [key] := by
  have hkeys : Select.literalKeys (pointSegment key).select tree = .ok [key] :=
    Select.literalKeys_eq_ok.mpr ⟨key, rfl, h, rfl⟩
  exact keysOf_eq_ok.mpr ⟨Value.isContainer_of_suits h, .literal, rfl, hkeys⟩

theorem run_point_last (ho : builtin.operationFor d = .ok o) (h : tree.suits key) :
    builtin.run (pointCommand [key] d) tree = builtin.visitLast none (some (o, d)) key tree :=
  (run_last ho rfl (keysOf_pointSegment h)).trans andThen_found

theorem resolves_point {place : List Key} (hne : place ≠ []) :
    builtin.Resolves (place.map pointSegment) := by
  obtain ⟨last, hlast⟩ := Option.isSome_iff_exists.mp (List.getLast?_isSome.mpr hne)
  refine ⟨pointSegment last, .literal, ?_, rfl⟩
  rw [List.getLast?_map, hlast, Option.map_some]

theorem run_point_cons (ho : builtin.operationFor d = .ok o) (h : tree.suits key)
    {place : List Key} (hne : place ≠ []) :
    builtin.run (pointCommand (key :: place) d) tree =
      descend (builtin.run (pointCommand place d)) key tree :=
  (run_cons ho (resolves_point hne) rfl (keysOf_pointSegment h)).trans andThen_found

/-! ## Any path -/

/-- The run of the command at one place. -/
def pointRun (d : Directive) (place : List Key) : Value → Run :=
  builtin.run (pointCommand place d)

/-- The commands at places below one key do together what those on the child do. -/
theorem inTurn_pointRun_cons (ho : builtin.operationFor d = .ok o) {child : Value}
    (hchild : tree.childAt key = some child) {below : List (List Key)} (hne : ∀ p ∈ below, p ≠ []) :
    inTurn (pointRun d) (below.map (key :: ·)) tree =
      descend (inTurn (pointRun d) below) key tree := by
  rw [inTurn_map, ← inTurn_descend hchild]
  refine inTurn_congr (fun t => t.suits key) (fun p hp t ht => ?_) (Value.suits_of_childAt hchild)
  rw [pointRun, run_point_cons ho ht (hne p hp)]
  exact ⟨rfl, by rwa [Value.suits_congr kind_descend]⟩

/-- Going into the children under some keys does what the commands at the places below them do,
on any tree that still has the children with which the places were found. -/
theorem inTurn_descend_eq (ho : builtin.operationFor d = .ok o) {sub : Value → Run}
    {find : Value → Except Error (List (List Key))} {found : List (List Key)}
    (hfound : gather (under v find) keys = .ok found) (hnodup : keys.Nodup)
    (hagree : ∀ key ∈ keys, tree.child? key = v.child? key)
    (hsub : ∀ key child below, v.childAt key = some child → find child = .ok below →
      sub child = inTurn (pointRun d) below child ∧ ∀ p ∈ below, p ≠ []) :
    inTurn (descend sub) keys tree = inTurn (pointRun d) found tree := by
  induction keys generalizing tree found with
  | nil =>
    cases hfound
    rfl
  | cons key rest ih =>
    obtain ⟨here, others, hhere, hothers, rfl⟩ := gather_cons_eq_ok.mp hfound
    obtain ⟨hnotin, hrest⟩ := List.nodup_cons.mp hnodup
    obtain ⟨hkey, hagree⟩ := List.forall_mem_cons.mp hagree
    have hfirst : descend sub key tree = inTurn (pointRun d) here tree := by
      rcases under_eq_ok.mp hhere with ⟨habsent, rfl⟩ | ⟨child, below, hchild, hbelow, rfl⟩
      · exact descend_of_absent (hkey.trans habsent)
      · have hat := Value.childAt_of_child? (hkey.trans hchild)
        obtain ⟨heq, hne⟩ := hsub key child below (Value.childAt_of_child? hchild) hbelow
        rw [inTurn_pointRun_cons ho hat hne, descend_of_child hat, descend_of_child hat, heq]
    rw [inTurn, inTurn_append, ← hfirst]
    refine andThen_congr (ih hothers hrest fun other hother => ?_)
    -- What was done below the first key leaves the other children as they were.
    have hne : other ≠ key := fun heq => hnotin (heq ▸ hother)
    obtain ⟨_, hthere⟩ := exists_of_gather hothers hother
    obtain ⟨child, hchild⟩ := child?_of_under hthere
    rw [hchild]
    exact child?_descend_of_ne hne ((hagree other hother).trans hchild)

/-- The last segment does at its keys what the commands at the places of these keys do. -/
theorem inTurn_visitLast_eq (ho : builtin.operationFor d = .ok o)
    (hsuits : ∀ key ∈ keys, tree.suits key) :
    inTurn (builtin.visitLast none (some (o, d))) keys tree =
      inTurn (pointRun d) (keys.map fun key => [key]) tree := by
  rw [inTurn_map]
  refine inTurn_congr (fun t => ∀ key ∈ keys, t.suits key) (fun key hkey t ht => ?_) hsuits
  refine ⟨(run_point_last ho (ht key hkey)).symm, fun other hother => ?_⟩
  rw [Value.suits_congr (kind_visitLast ho)]
  exact ht other hother

theorem resolves_of_forall (hne : path ≠ [])
    (hselects : ∀ s ∈ path, ∃ select, r.selectFor s.select = .ok select) : r.Resolves path := by
  obtain ⟨last, hlast⟩ := Option.isSome_iff_exists.mp (List.getLast?_isSome.mpr hne)
  obtain ⟨select, hselect⟩ := hselects last (List.mem_of_getLast? hlast)
  exact ⟨last, select, hlast, hselect⟩

theorem run_eq_inTurn (ho : builtin.operationFor d = .ok o) (hne : path ≠ [])
    (hfree : ∀ s ∈ path, s.predicate = none)
    (hselects : ∀ s ∈ path, ∃ select, builtin.selectFor s.select = .ok select)
    (hdistinct : v.isDistinct) {found : List (List Key)}
    (hplaces : builtin.places path v = .ok found) :
    builtin.run ⟨path, some d⟩ v = inTurn (pointRun d) found v := by
  induction path generalizing v found with
  | nil => exact absurd rfl hne
  | cons segment rest ih =>
    obtain ⟨hsegment, hrest⟩ := List.forall_mem_cons.mp hfree
    obtain ⟨-, hselects⟩ := List.forall_mem_cons.mp hselects
    cases rest with
    | nil =>
      obtain ⟨keys, hkeys, rfl⟩ := map_eq_ok.mp hplaces
      rw [run_last ho hsegment hkeys]
      exact inTurn_visitLast_eq ho fun key hkey => suits_of_keysOf hkeys hkey
    | cons next rest =>
      obtain ⟨keys, hkeys, hgather⟩ := bind_eq_ok.mp hplaces
      rw [run_cons ho (resolves_of_forall (List.cons_ne_nil _ _) hselects) hsegment hkeys]
      refine inTurn_descend_eq ho hgather (nodup_of_keysOf (Value.nodup_ownKeys hdistinct) hkeys)
        (fun _ _ => rfl) fun key child below hchild hbelow => ⟨?_, ?_⟩
      · exact ih (List.cons_ne_nil _ _) hrest hselects
          (Value.isDistinct_of_childAt hdistinct hchild) hbelow
      · rintro p hp rfl
        simpa using length_of_mem_places hbelow hp

/-- A command without predicates over the built-in selects does what the commands at the places of
its path do one after the other: the results, the tree and the failure are the same. -/
theorem executeResult_eq_executeAll (hpath : path ≠ [])
    (hfree : ∀ s ∈ path, s.predicate = none)
    (hselects : ∀ s ∈ path, ∃ select, builtin.selectFor s.select = .ok select)
    (ho : builtin.operationFor d = .ok o) (hdistinct : v.isDistinct) {found : List (List Key)}
    (hplaces : builtin.places path v = .ok found) :
    builtin.executeResult ⟨path, some d⟩ v =
      builtin.executeAll (found.map fun place => pointCommand place d) v := by
  rw [executeResult, executeAll_eq_inTurn, inTurn_map,
    run_eq_inTurn ho hpath hfree hselects hdistinct hplaces]
  rfl

/-- Taking out every element of every list stops where a list has become too short; the commands at
the single places stop there too. -/
theorem executeResult_unset_each_each :
    let each : Segment := ⟨⟨":each", some "each", .none⟩, none⟩
    let unset : Directive := ⟨"unset", some "unset", .none⟩
    let tree : Value := .map [("a", .list [.bool true, .bool false]), ("b", .list [.string "x"])]
    builtin.executeResult ⟨[each, each], some unset⟩ tree =
      builtin.executeAll ([[.name "a", .index 0], [.name "a", .index 1], [.name "b", .index 0]].map
        fun place => pointCommand place unset) tree := by
  intro each unset tree
  have hselect : builtin.selectFor each.select = .ok .each := rfl
  exact executeResult_eq_executeAll (List.cons_ne_nil _ _) (by simp [each])
    (by simp [hselect]) rfl (by decide) rfl

end Registry

end TreePath
