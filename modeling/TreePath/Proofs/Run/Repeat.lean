import TreePath.Proofs.Grammar.Operand
import TreePath.Proofs.Run.Pointwise
import TreePath.Proofs.Run.Query
import TreePath.Proofs.Value.Shape

/-!
# Updates that are done again

An update that puts in what does not depend on what was there finds on the tree that it leaves the
places where it was done, and at each of them what it would put in. Done again it leaves this tree
as it is. Setting and clearing report what they put in once more; the updates that only act where
something is absent have nothing to report.
-/

namespace TreePath

/-! ## Values equal to themselves -/

/-- Not-a-number, in either precision. -/
def Number.isNan : Number → Bool
  | .float _ .nan => true
  | _ => false

theorem Number.equals_self {n : Number} (h : n.isNan = false) : n.equals n := by
  cases n with
  | int w z => simp [equals]
  | float precision x =>
    cases x with
    | nan => cases h
    | signed negative rank => cases precision <;> simp [equals, Binary.equals]

/-- A value that holds no not-a-number is equal to itself. -/
theorem Value.equals_self {v : Value} (h : v.allNumbers fun n => !n.isNan) : v.equals v := by
  induction v using induction_on_children with
  | bool b => simp [equals]
  | number n => exact Number.equals_self (by simpa [allNumbers] using h)
  | string s => simp [equals]
  | list items ih =>
    have hitems := allNumbersItems_iff.mp h
    rw [equals]
    clear h
    induction items with
    | nil => rfl
    | cons v rest hrest =>
      obtain ⟨hv, hall⟩ := List.forall_mem_cons.mp hitems
      obtain ⟨ihv, ihall⟩ := List.forall_mem_cons.mp ih
      simp only [equalItems, ihv hv, hrest ihall hall, Bool.and_self]
  | map entries ih =>
    have hentries := allNumbersEntries_iff.mp h
    rw [equals]
    clear h
    induction entries with
    | nil => rfl
    | cons entry rest hrest =>
      obtain ⟨hv, hall⟩ := List.forall_mem_cons.mp hentries
      obtain ⟨ihv, ihall⟩ := List.forall_mem_cons.mp ih
      simp only [equalEntries, ihv hv, hrest ihall hall, beq_self_eq_true, Bool.and_self]

/-! ## One key -/

namespace Update

variable {u : Update} {source : String} {v w x : Value} {key : Key} {change : Option Change}
  {m n : Nat}

/-- The updates that put in what they would put in again. A value that may not be equal to itself
is not found where it was appended. -/
inductive Idempotent : Update → Prop
  | set (x : Value) : Idempotent (.set x)
  | setIfAbsent (x : Value) : Idempotent (.setIfAbsent x)
  | appendIfAbsent (x : Value) (h : x.allNumbers fun n => !n.isNan) :
      Idempotent (.appendIfAbsent x)
  | clear : Idempotent .clear

/-- How many results are reported when an update that reported some is done again. -/
def again : Update → Nat → Nat
  | setIfAbsent _, _ | appendIfAbsent _, _ => 0
  | _, n => n

theorem again_zero : u.again 0 = 0 := by
  cases u <;> rfl

theorem again_add : u.again (m + n) = u.again m + u.again n := by
  cases u <;> simp [again]

/-- A change of an update that was done before: it leaves the container as it is. -/
structure Settled (u : Update) (before : Option Change) (w : Value) (after : Option Change) :
    Prop where
  container : (after.map Change.container).getD w = w
  count : after.toList.length = u.again before.toList.length

theorem settled_of_onChild {f : Value → Value × Except Error (Option Value)}
    (habsent : u.next? none = none)
    (hpresent : ∀ child changed, Change.reported (f child) = .ok changed → ∃ next changed',
      u.next? (some child) = some next ∧ Change.reported (f next) = .ok changed' ∧
        (changed'.map Change.container).getD next = next ∧
        changed'.toList.length = u.again changed.toList.length)
    (h : Change.reported (Operation.onChild v key f) = .ok change)
    (hfound : w.child? key = .ok (w.childAt key))
    (hnext : w.childAt key = u.next? (v.childAt key)) :
    ∃ after, Change.reported (Operation.onChild w key f) = .ok after ∧
      Settled u change w after := by
  rcases Operation.reported_onChild_eq_ok.mp h with
    ⟨hchild, rfl⟩ | ⟨child, changed, hchild, hchanged, rfl⟩
  · rw [Value.childAt_of_child? hchild, habsent] at hnext
    exact ⟨none, Operation.reported_onChild_eq_ok.mpr (.inl ⟨hnext ▸ hfound, rfl⟩), rfl,
      again_zero.symm⟩
  · obtain ⟨next, changed', hput, hchanged', hsame, hcount⟩ := hpresent child changed hchanged
    rw [Value.childAt_of_child? hchild, hput] at hnext
    refine ⟨_, Operation.reported_onChild_eq_ok.mpr
      (.inr ⟨next, changed', hnext ▸ hfound, hchanged', rfl⟩), ?_, ?_⟩
    · cases changed' with
      | none => rfl
      | some changed' =>
        have hback : changed'.container = next := hsame
        simp [hback, Value.replaceChild_eq_self hnext]
    · cases changed <;> cases changed' <;> simpa using hcount

/-- At a key where an idempotent update was done it is done again without a change. -/
theorem exists_operate_again (hu : u.Idempotent)
    (h : u.operation.operate (u.directive source) v key = .ok change)
    (hfound : w.child? key = .ok (w.childAt key))
    (hnext : w.childAt key = u.next? (v.childAt key)) :
    ∃ after, u.operation.operate (u.directive source) w key = .ok after ∧
      Settled u change w after := by
  cases hu with
  | set x =>
    obtain ⟨container, rfl⟩ := result_of_set h
    have hx : w.childAt key = some x := hnext
    refine ⟨_, Operation.reported_storeValue hfound, ?_, rfl⟩
    show w.putChild key x = w
    rw [Value.putChild_eq_replaceChild hx, Value.replaceChild_eq_self hx]
  | setIfAbsent x =>
    have hx : w.childAt key = some ((v.childAt key).getD x) := hnext
    refine ⟨none, Change.reported_needing_eq_ok.mpr ⟨_, Value.child?_of_childAt hx, rfl⟩, rfl, rfl⟩
  | appendIfAbsent x hnan =>
    refine settled_of_onChild rfl (fun child changed hchanged => ?_) h hfound hnext
    split at hchanged
    · next items =>
      have hany : (if items.any (·.equals x) then items else items ++ [x]).any (·.equals x) := by
        split
        · assumption
        · simp [Value.equals_self hnan]
      exact ⟨_, none, rfl, congrArg Change.reported (if_pos hany), rfl, rfl⟩
    · cases hchanged
  | clear =>
    refine settled_of_onChild rfl (fun child changed hchanged => ?_) h hfound hnext
    split at hchanged <;> cases hchanged
    · exact ⟨_, _, rfl, rfl, rfl, rfl⟩
    · exact ⟨_, _, rfl, rfl, rfl, rfl⟩

end Update

/-! ## Runs that change nothing -/

namespace Run

variable {r : Run} {v child : Value} {key : Key} {keys : List Key} {hits : List Value} {m n : Nat}

/-- A run that leaves the tree as it was and succeeds with a number of results. -/
def Rests (r : Run) (v : Value) (n : Nat) : Prop :=
  ∃ hits, r.Reads v (.ok hits) ∧ hits.length = n

theorem rests_found : (found v hits).Rests v hits.length :=
  ⟨hits, reads_found, rfl⟩

theorem Rests.within (h : r.Rests child n) (hchild : v.childAt key = some child) :
    (r.within v key).Rests v n := by
  obtain ⟨hits, hreads, hlength⟩ := h
  exact ⟨hits, hreads.within hchild, hlength⟩

theorem Rests.andThen {next : Value → Run} (h : r.Rests v m) (hnext : (next v).Rests v n) :
    (r.andThen next).Rests v (m + n) := by
  obtain ⟨hits, hreads, rfl⟩ := h
  obtain ⟨others, hothers, rfl⟩ := hnext
  exact ⟨hits ++ others, hreads.andThen hothers, List.length_append⟩

/-- Visits that each report again what was reported under their keys. -/
theorem rests_inTurn {u : Update} {visit : Key → Value → Run} {hits : Key → List Value}
    (h : ∀ key ∈ keys, (visit key v).Rests v (u.again (hits key).length)) :
    (inTurn visit keys v).Rests v (u.again (keys.flatMap hits).length) := by
  induction keys with
  | nil =>
    rw [List.flatMap_nil, List.length_nil, Update.again_zero]
    exact rests_found
  | cons key rest ih =>
    obtain ⟨hkey, hrest⟩ := List.forall_mem_cons.mp h
    rw [List.flatMap_cons, List.length_append, Update.again_add]
    exact hkey.andThen (ih hrest)

end Run

namespace Registry

open Run

variable {r : Registry} {u : Update} {source : String} {segment last : Segment}
  {path : List Segment} {keys : List Key} {key : Key} {v w tree : Value} {result : Run} {n : Nat}

/-- At a key where an idempotent update was done a second visit changes nothing. -/
theorem rests_visitLast (hu : u.Idempotent)
    (h : (r.visitLast none (some (u.operation, u.directive source)) key tree).failure = none)
    (hfound : w.child? key = .ok (w.childAt key))
    (hnext : w.childAt key = u.next? (tree.childAt key)) :
    (r.visitLast none (some (u.operation, u.directive source)) key w).Rests w
      (u.again
        (r.visitLast none (some (u.operation, u.directive source)) key tree).hits.length) := by
  obtain ⟨hthere, change, hchange⟩ := visitLast_failure h
  obtain ⟨after, hafter, hcontainer, hcount⟩ := Update.exists_operate_again hu hchange hfound hnext
  rw [visitLast_eq u.atomic_operation hthere hchange,
    visitLast_eq u.atomic_operation hfound hafter, hcontainer]
  simp only [found, List.length_map]
  rw [← hcount, ← List.length_map (f := Change.result)]
  exact rests_found

/-- By induction on the keys: the visit of one leaves the children under the others. -/
theorem rests_visits (hu : u.Idempotent) (hnodup : keys.Nodup)
    (h : (inTurn (r.visitLast none (some (u.operation, u.directive source))) keys tree).failure =
      none)
    (hw : ∀ key ∈ keys, w.child? key = .ok (w.childAt key) ∧
      w.childAt key = u.next? (tree.childAt key)) :
    (inTurn (r.visitLast none (some (u.operation, u.directive source))) keys w).Rests w
      (u.again (inTurn (r.visitLast none (some (u.operation, u.directive source))) keys
        tree).hits.length) := by
  induction keys generalizing tree with
  | nil =>
    rw [show (inTurn _ [] tree).hits.length = 0 from rfl, Update.again_zero]
    exact rests_found
  | cons key rest ih =>
    obtain ⟨hnotin, hrest⟩ := List.nodup_cons.mp hnodup
    obtain ⟨hfirst, hothers⟩ := andThen_failure.mp h
    obtain ⟨⟨hfound, hnext⟩, hw⟩ := List.forall_mem_cons.mp hw
    rw [inTurn, inTurn, andThen_hits hfirst, List.length_append, Update.again_add]
    refine (rests_visitLast hu hfirst hfound hnext).andThen ?_
    refine ih hrest hothers fun other hother => ?_
    have hsame := (updated_of_visitLast hfirst).kept other fun hmem =>
      hnotin (List.mem_singleton.mp hmem ▸ hother)
    rw [hsame]
    exact hw other hother

/-- A run below some keys is done again on the children that it left. -/
theorem rests_descended {sub : Value → Run} (h : Descended sub keys v result)
    (hsub : ∀ key ∈ keys, ∀ child, v.childAt key = some child →
      (sub (sub child).tree).Rests (sub child).tree (u.again (sub child).hits.length)) :
    (inTurn (descend sub) keys result.tree).Rests result.tree (u.again result.hits.length) := by
  rw [h.hits]
  refine rests_inTurn fun key hkey => ?_
  rcases h.child_cases hkey with ⟨hold, hnew⟩ | ⟨child, hold, hnew⟩
  · have hfound : result.tree.child? key = .ok (result.tree.childAt key) :=
      Value.child?_of_kind (h.found key hkey) h.kind (by simp [hold])
    rw [hnew] at hfound
    rw [descend_of_absent hfound, hold, Option.map_none, Option.getD_none, List.length_nil,
      Update.again_zero]
    exact rests_found
  · rw [descend_of_child hnew, hold, Option.map_some, Option.getD_some]
    exact (hsub key hkey child hold).within hnew

/-- An idempotent update that succeeded is done again without a change. -/
theorem rests_run (hfree : ∀ s ∈ path, s.predicate = none) (hdistinct : v.isDistinct)
    (hu : u.Idempotent) (h : (builtin.run ⟨path, some (u.directive source)⟩ v).failure = none) :
    (builtin.run ⟨path, some (u.directive source)⟩
        (builtin.run ⟨path, some (u.directive source)⟩ v).tree).Rests
      (builtin.run ⟨path, some (u.directive source)⟩ v).tree
      (u.again (builtin.run ⟨path, some (u.directive source)⟩ v).hits.length) := by
  have ho := u.operationFor_directive source
  induction path generalizing v with
  | nil => cases h
  | cons segment rest ih =>
    obtain ⟨hsegment, hrest⟩ := List.forall_mem_cons.mp hfree
    obtain ⟨hresolves, keys, hkeys⟩ := resolves_of_run h
    have hnodup := nodup_of_keysOf (Value.nodup_ownKeys hdistinct) hkeys
    cases rest with
    | nil =>
      rw [run_last ho hsegment hkeys] at h ⊢
      have hupdated := updated_of_failure hnodup h
      obtain ⟨hkeys', -⟩ := inserted_of_updated hkeys hupdated
      rw [run_last ho hsegment hkeys']
      refine rests_visits hu hnodup h fun key hkey => ⟨?_, hupdated.next key hkey⟩
      exact Value.child?_of_kind (hupdated.found key hkey) hupdated.kind (hupdated.stays key hkey)
    | cons next rest =>
      have hresolves' : builtin.Resolves (next :: rest) := hresolves
      rw [run_cons ho hresolves' hsegment hkeys] at h ⊢
      have hdescended := descended_of_failure hnodup h
      have hkeys' := keysOf_congr hdescended.kind hdescended.ownKeys hkeys
      rw [run_cons ho hresolves' hsegment hkeys']
      refine rests_descended hdescended fun key hkey child hchild => ?_
      exact ih hrest (Value.isDistinct_of_childAt hdistinct hchild)
        (hdescended.child key hkey child hchild).1

theorem executeCount_of_rests {c : Command} (h : (r.run c w).Rests w n) :
    r.executeCount c w = (w, .ok n) := by
  obtain ⟨hits, hreads, rfl⟩ := h
  rw [executeCount, hreads]
  rfl

/-- A command that sets, clears or adds what is absent, and that succeeded, succeeds again on the
tree that it left and changes nothing more, run by hand or from its text. Setting and clearing count
as many places as before, and where only what is absent is added there is none left. -/
theorem execute_again {text : String} (hpath : builtin.parsePath text = .ok path)
    (hfree : ∀ s ∈ path, s.predicate = none) (hdistinct : v.isDistinct) (hu : u.Idempotent)
    (hrun : builtin.executeCount ⟨path, some (u.directive source)⟩ v = (w, .ok n)) :
    builtin.executeCount ⟨path, some (u.directive source)⟩ w = (w, .ok (u.again n)) ∧
      ∀ operation, builtin.parseOperation operation = .ok (u.directive source) →
        builtin.onCommand (text ++ "!" ++ operation) builtin.executeCount v = (w, .ok n) ∧
          builtin.onCommand (text ++ "!" ++ operation) builtin.executeCount w =
            (w, .ok (u.again n)) := by
  obtain ⟨hfailure, rfl, rfl⟩ := executeCount_eq_ok hrun
  have hagain := executeCount_of_rests (rests_run hfree hdistinct hu hfailure)
  refine ⟨hagain, fun operation hoperation => ?_⟩
  simp only [onCommand, parseCommand_append hpath hoperation]
  exact ⟨hrun, hagain⟩

/-- The copy of a map is appended to one of two lists; it is found there the second time. -/
theorem execute_again_append :
    let path : List Segment :=
      [⟨⟨":each", some "each", .none⟩, none⟩, ⟨⟨"a", none, .key (.name "a")⟩, none⟩]
    let x : Value := .map [("k", .number (.ofInt 1))]
    let append : Directive :=
      Update.directive (.appendIfAbsent x) "appendIfAbsent(\x7b\"k\": 1\x7d)"
    let tree : Value :=
      .list [.map [("a", .list [x])], .map [("a", .list [.bool true])], .map []]
    let next : Value :=
      .list [.map [("a", .list [x])], .map [("a", .list [.bool true, x])], .map []]
    builtin.executeCount ⟨path, some append⟩ tree = (next, .ok 1) ∧
      builtin.executeCount ⟨path, some append⟩ next = (next, .ok 0) := by
  intro path x append tree next
  have hpath : builtin.parsePath "//:each/a" = .ok path := rfl
  have hrun : builtin.executeCount ⟨path, some append⟩ tree = (next, .ok 1) := rfl
  exact ⟨hrun, (execute_again hpath (by simp [path]) (by decide)
    (.appendIfAbsent x (by decide)) hrun).1⟩

end Registry

end TreePath
