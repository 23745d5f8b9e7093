import TreePath.Proofs.Run.Places
import TreePath.Proofs.Run.Sequence

/-!
# Visits of the children a segment keeps

A segment with a predicate goes into those of its children that the predicate keeps. No visit
changes what another one finds, so a walk succeeds exactly if the query of its path does and if
each of the nodes the query finds can be visited.
-/

namespace TreePath

namespace Run

variable {sub : Value → Run} {key : Key} {keys : List Key} {tree : Value}

theorem descend_failure_iff :
    (descend sub key tree).failure = none ↔
      tree.child? key = .ok (tree.childAt key) ∧
        ∀ child, tree.childAt key = some child → (sub child).failure = none := by
  refine ⟨descend_failure, ?_⟩
  rintro ⟨hfound, hsub⟩
  cases hchild : tree.childAt key with
  | none =>
    rw [descend_of_absent (hchild ▸ hfound)]
    rfl
  | some child =>
    rw [descend_of_child hchild]
    exact hsub child hchild

theorem ownKeys_descend : (descend sub key tree).tree.ownKeys = tree.ownKeys := by
  rcases @tree_descend tree key sub with h | ⟨child, h⟩
  · rw [h]
  · rw [h, Value.ownKeys_replaceChild]

/-- What is done below one key leaves the look-up of the others as it was. -/
theorem look_up_descend_of_ne (sub : Value → Run) {other : Key} (hne : other ≠ key)
    (h : tree.child? other = .ok (tree.childAt other)) :
    (descend sub key tree).tree.child? other = .ok (tree.childAt other) ∧
      (descend sub key tree).tree.childAt other = tree.childAt other := by
  have hfound : (descend sub key tree).tree.child? other = .ok (tree.childAt other) :=
    child?_descend_of_ne hne h
  exact ⟨hfound, Value.childAt_of_child? hfound⟩

/-- A run below distinct keys succeeds exactly if each of them can be looked up and the run on each
child that is there succeeds. -/
theorem inTurn_descend_failure (hnodup : keys.Nodup) :
    (inTurn (descend sub) keys tree).failure = none ↔
      ∀ key ∈ keys, tree.child? key = .ok (tree.childAt key) ∧
        ∀ child, tree.childAt key = some child → (sub child).failure = none := by
  constructor
  · intro h key hkey
    have hdescended := descended_of_failure hnodup h
    exact ⟨hdescended.found key hkey,
      fun child hchild => (hdescended.child key hkey child hchild).1⟩
  · intro h
    induction keys generalizing tree with
    | nil => rfl
    | cons key rest ih =>
      obtain ⟨hnotin, hrest⟩ := List.nodup_cons.mp hnodup
      obtain ⟨hkey, hothers⟩ := List.forall_mem_cons.mp h
      refine andThen_failure.mpr ⟨descend_failure_iff.mpr hkey, ih hrest fun other hother => ?_⟩
      have hne : other ≠ key := fun heq => hnotin (heq ▸ hother)
      obtain ⟨hfound, hsub⟩ := hothers other hother
      obtain ⟨hfound', hsame⟩ := look_up_descend_of_ne sub hne hfound
      rw [hsame]
      exact ⟨hfound', hsub⟩

end Run

namespace Registry

open Run

variable {r : Registry} {predicate : Option Directive} {segment last : Segment}
  {path rest : List Segment} {visit : Value → Run} {v child : Value} {key : Key} {keys : List Key}

/-- A run on a child that a predicate keeps; nothing is done on others. -/
def guarded (r : Registry) (predicate : Option Directive) (sub : Value → Run) (child : Value) :
    Run :=
  needing child (r.accepts predicate child) fun kept => if kept then sub child else found child []

theorem walk_cons :
    r.walk visit (segment :: rest) v =
      needing v (r.keysOf segment.select v) fun keys =>
        inTurn (descend (r.guarded segment.predicate (r.walk visit rest))) keys v := by
  rw [walk]
  congr 1
  funext keys
  rw [overKeys_eq_inTurn]
  congr 1
  funext key container
  cases hfound : container.child? key with
  | error e => simp [descend, hfound, needing]
  | ok present =>
    cases present with
    | none => simp [descend, hfound, needing]
    | some child =>
      -- Where the child is not run on, writing it back changes nothing.
      have hback := Value.replaceChild_eq_self (Value.childAt_of_child? hfound)
      cases hkept : r.accepts segment.predicate child with
      | error e => simp [descend, hfound, guarded, needing, hkept, within, failed, hback]
      | ok kept =>
        cases kept <;> simp [descend, hfound, guarded, needing, hkept, within, found, hback]

/-- At a child that is there the last segment asks its predicate first. -/
theorem visitLast_of_child {operation : Option (Operation × Directive)}
    (h : v.childAt key = some child) :
    r.visitLast predicate operation key v =
      needing v (r.accepts predicate child) fun kept =>
        if kept then
          match operation with
          | none => found v [child]
          | some (o, d) => operated (o.act d v key)
        else found v [] := by
  simp only [visitLast, Value.child?_of_childAt h, needing]
  cases r.accepts predicate child with
  | error e => rfl
  | ok kept => cases kept <;> rfl

theorem guarded_failure {sub : Value → Run} :
    (r.guarded predicate sub child).failure = none ↔
      ∃ kept, r.accepts predicate child = .ok kept ∧ (kept → (sub child).failure = none) := by
  rw [guarded, needing_failure]
  refine exists_congr fun kept => and_congr_right fun _ => ?_
  cases kept <;> simp [found]

theorem executeResult_eq_ok {c : Command} {w : Value} {hits : List Value} :
    r.executeResult c v = (w, .ok hits) ↔
      (r.run c v).failure = none ∧ (r.run c v).tree = w ∧ (r.run c v).hits = hits := by
  simp only [executeResult, outcome]
  cases (r.run c v).failure <;> simp

theorem executeResult_eq_error {c : Command} {e : Error} :
    (r.executeResult c v).2 = .error e ↔ (r.run c v).failure = some e := by
  simp only [executeResult, outcome]
  cases (r.run c v).failure <;> simp

theorem executeCount_eq_error {c : Command} {e : Error} :
    (r.executeCount c v).2 = .error e ↔ (r.run c v).failure = some e := by
  simp only [executeCount, outcome]
  cases (r.run c v).failure <;> simp [Except.map]

theorem executeResult_isOk {c : Command} :
    (∃ hits, (r.executeResult c v).2 = .ok hits) ↔ (r.run c v).failure = none := by
  simp only [executeResult, outcome]
  cases (r.run c v).failure <;> simp

theorem executeCount_of_executeResult {c : Command} {w : Value} {hits : List Value}
    (h : r.executeResult c v = (w, .ok hits)) : r.executeCount c v = (w, .ok hits.length) := by
  rw [executeResult] at h
  rw [executeCount, h]
  rfl

/-- The last segment visits its keys one after the other. -/
theorem applyLast_eq {select : Select} {operation : Option (Operation × Directive)}
    (hselect : r.selectFor last.select = .ok select) :
    r.applyLast select last operation v =
      needing v (r.keysOf last.select v) fun keys =>
        inTurn (r.visitLast last.predicate operation) keys v := by
  rw [keysOf, hselect, applyLast]
  cases v.ensureContainer with
  | error e => rfl
  | ok _ => simp only [needing, Except.bind, overKeys_eq_inTurn]

/-! ## Walks and queries -/

/-- Something holds of all that is found for some keys exactly if it holds of what is found for
each of them. -/
theorem exists_gather_iff {α : Type} {find : Key → Except Error (List α)} {P : α → Prop} :
    (∃ found, gather find keys = .ok found ∧ ∀ a ∈ found, P a) ↔
      ∀ key ∈ keys, ∃ here, find key = .ok here ∧ ∀ a ∈ here, P a := by
  induction keys with
  | nil => simp [gather]
  | cons key rest ih =>
    rw [List.forall_mem_cons, ← ih]
    constructor
    · rintro ⟨_, hfound, hall⟩
      obtain ⟨here, others, hhere, hothers, rfl⟩ := gather_cons_eq_ok.mp hfound
      obtain ⟨hfirst, hrest⟩ := List.forall_mem_append.mp hall
      exact ⟨⟨here, hhere, hfirst⟩, others, hothers, hrest⟩
    · rintro ⟨⟨here, hhere, hfirst⟩, others, hothers, hrest⟩
      exact ⟨here ++ others, gather_cons_eq_ok.mpr ⟨here, others, hhere, hothers, rfl⟩,
        List.forall_mem_append.mpr ⟨hfirst, hrest⟩⟩

/-- A walk below one key succeeds exactly if the query does and the visits of what it finds do. -/
theorem descend_guarded_failure
    (hwalk : ∀ child, v.childAt key = some child → ((r.walk visit rest child).failure = none ↔
      ∃ found, r.valuesAt rest child = .ok found ∧ ∀ node ∈ found, (visit node).failure = none)) :
    (v.child? key = .ok (v.childAt key) ∧ ∀ child, v.childAt key = some child →
        (r.guarded segment.predicate (r.walk visit rest) child).failure = none) ↔
      ∃ found, r.valuesUnder segment rest v key = .ok found ∧
        ∀ node ∈ found, (visit node).failure = none := by
  cases hfound : v.child? key with
  | error e => simp [valuesUnder, hfound, Except.bind]
  | ok present =>
    obtain rfl := Value.childAt_of_child? hfound
    cases hchild : v.childAt key with
    | none => simp [valuesUnder, hfound, hchild, Except.bind]
    | some child =>
      simp only [true_and, Option.some.injEq, forall_eq', guarded_failure, hwalk child hchild,
        valuesUnder, kept, hfound, hchild, Except.bind]
      cases r.accepts segment.predicate child with
      | error e => simp
      | ok kept => cases kept <;> simp

/-- A walk succeeds exactly if the query of its path does and each node that the query finds can be
visited. -/
theorem walk_failure (hdistinct : v.isDistinct) :
    (builtin.walk visit path v).failure = none ↔
      ∃ found, builtin.valuesAt path v = .ok found ∧
        ∀ node ∈ found, (visit node).failure = none := by
  induction path generalizing v with
  | nil => simp [walk, valuesAt]
  | cons segment rest ih =>
    rw [walk_cons, needing_failure, valuesAt_cons]
    cases hkeys : builtin.keysOf segment.select v with
    | error e => simp [Except.bind]
    | ok keys =>
      have hnodup := nodup_of_keysOf (Value.nodup_ownKeys hdistinct) hkeys
      simp only [Except.ok.injEq, exists_eq_left', Except.bind]
      rw [exists_gather_iff, inTurn_descend_failure hnodup]
      refine forall_congr' fun key => forall_congr' fun _ => ?_
      exact descend_guarded_failure fun child hchild =>
        ih (Value.isDistinct_of_childAt hdistinct hchild)

end Registry

end TreePath
