import TreePath.Proofs.Value.Location
import TreePath.Run

/-!
# Commands that only read

A command without an operation takes the way of a command that changes the tree: it looks up the
select of its last segment first, and writes every child it went into back into its container. What
it writes back is what it found there, so it leaves the tree as it was, finds what a query of its
path finds, in the same order, and fails where the query fails, with the same error.
-/

namespace TreePath

namespace Run

variable {α : Type} {r : Run} {v child : Value} {key : Key} {hits : List Value}
  {result first second : Except Error (List Value)}

/-- A run that leaves the tree as it was and has a given result. -/
def Reads (r : Run) (v : Value) (result : Except Error (List Value)) : Prop :=
  r.outcome = (v, result)

theorem reads_found : (found v hits).Reads v (.ok hits) := rfl

theorem reads_needing {needed : Except Error α} {next : α → Run}
    {find : α → Except Error (List Value)}
    (h : ∀ a, needed = .ok a → (next a).Reads v (find a)) :
    (needing v needed next).Reads v (needed.bind find) := by
  cases needed with
  | error e => rfl
  | ok a => exact h a rfl

theorem Reads.failure (h : r.Reads v result) : r.failure = none ↔ ∃ hits, result = .ok hits := by
  obtain ⟨-, rfl⟩ := Prod.mk.inj h
  cases r.failure <;> simp

/-- Writing back a child that was only read leaves the container as it was. -/
theorem Reads.within (h : r.Reads child result) (hchild : v.childAt key = some child) :
    (r.within v key).Reads v result := by
  obtain ⟨htree, hresult⟩ := Prod.mk.inj h
  have hsame : v.replaceChild key r.tree = v := by
    rw [htree]
    exact Value.replaceChild_eq_self hchild
  exact Prod.ext hsame hresult

theorem Reads.andThen {next : Value → Run} (h : r.Reads v first)
    (hnext : (next v).Reads v second) :
    (r.andThen next).Reads v
      (first.bind fun here => second.map fun others => here ++ others) := by
  obtain ⟨tree, hits, failure⟩ := r
  obtain ⟨rfl, rfl⟩ := Prod.mk.inj h
  cases failure with
  | some e => rfl
  | none =>
    obtain ⟨htree, rfl⟩ := Prod.mk.inj hnext
    refine Prod.ext htree ?_
    simp only [Run.andThen, outcome]
    cases (next tree).failure <;> rfl

/-- Reading under some keys in turn finds what is found under each of them. -/
theorem reads_overKeys {visit : Key → Value → Run} {find : Key → Except Error (List Value)}
    {keys : List Key} (h : ∀ key ∈ keys, (visit key v).Reads v (find key)) :
    (overKeys visit keys v).Reads v (Registry.collect find keys) := by
  induction keys with
  | nil => exact reads_found
  | cons key rest ih =>
    obtain ⟨hkey, hrest⟩ := List.forall_mem_cons.mp h
    exact hkey.andThen (ih hrest)

end Run

namespace Registry

open Run

variable {r : Registry} {select : Select} {last : Segment} {path rest : List Segment} {v : Value}

/-- Going down a path and reading there finds what the query of the path and of what is read
finds. -/
theorem reads_walk {visit : Value → Run}
    (h : ∀ child, (visit child).Reads child (r.valuesAt rest child)) :
    (r.walk visit path v).Reads v (r.valuesAt (path ++ rest) v) := by
  induction path generalizing v with
  | nil => exact h v
  | cons segment path ih =>
    refine reads_needing fun keys _ => reads_overKeys fun key _ =>
      reads_needing fun found hfound => ?_
    cases found with
    | none => exact reads_found
    | some child =>
      refine reads_needing fun kept _ => ?_
      cases kept with
      | false => exact reads_found
      | true => exact ih.within (Value.childAt_of_child? hfound)

/-- At the last segment a child is looked up twice, with the predicate in between. -/
theorem reads_visitLast {key : Key} :
    (r.visitLast last.predicate none key v).Reads v
      ((v.child? key).bind fun
        | none => .ok []
        | some child =>
          (r.accepts last.predicate child).bind fun kept =>
            if kept then .ok [child] else .ok []) := by
  refine reads_needing fun found _ => ?_
  cases found with
  | none => exact reads_found
  | some child =>
    refine reads_needing fun kept _ => ?_
    cases kept <;> exact reads_found

theorem reads_applyLast (hselect : r.selectFor last.select = .ok select) :
    (r.applyLast select last none v).Reads v (r.valuesAt [last] v) := by
  have hkeys : r.keysOf last.select v =
      v.ensureContainer.bind fun _ => select.keys last.select v := by
    rw [keysOf, hselect]
    rfl
  rw [valuesAt, hkeys]
  cases hcontainer : v.ensureContainer with
  | error e => simp [applyLast, hcontainer, needing, failed, Reads, outcome, Except.bind]
  | ok _ =>
    rw [applyLast, hcontainer]
    exact reads_needing fun keys _ => reads_overKeys fun key _ => reads_visitLast

/-- A command without an operation reads what the query of its path finds. -/
theorem reads_run (hlast : path.getLast? = some last)
    (hselect : r.selectFor last.select = .ok select) :
    (r.run ⟨path, none⟩ v).Reads v (r.selectValues path v) := by
  have hne : path.isEmpty = false := by
    cases path with
    | nil => cases hlast
    | cons segment rest => rfl
  have hpath : path.dropLast ++ [last] = path := List.dropLast_append_getLast? last hlast
  simp only [run, hlast, hselect, operationOf, needing, selectValues, hne, Bool.false_eq_true,
    if_false]
  rw [← congrArg (fun p => r.valuesAt p v) hpath]
  exact reads_walk fun child => reads_applyLast hselect

/-- A command without an operation and a query of its path have the same result, and the tree is
left as it was. -/
theorem execute_read (hlast : path.getLast? = some last)
    (hselect : r.selectFor last.select = .ok select) :
    r.executeResult ⟨path, none⟩ v = (v, r.selectValues path v) ∧
      r.executeCount ⟨path, none⟩ v = (v, (r.selectValues path v).map List.length) := by
  have hresult : r.executeResult ⟨path, none⟩ v = (v, r.selectValues path v) :=
    reads_run hlast hselect
  refine ⟨hresult, ?_⟩
  rw [executeResult] at hresult
  rw [executeCount, hresult]

/-- The second map fails the predicate of the first segment, and the third child, which is no
container, cannot be tested: command and query end there with the same error. -/
theorem execute_read_not_empty :
    let path : List Segment :=
      [⟨⟨":each", some "each", .none⟩, some ⟨"~isEmpty", some "~isEmpty", .none⟩⟩,
        ⟨⟨"a", none, .key (.name "a")⟩, none⟩]
    let tree : Value := .list [.map [("a", .bool true)], .map [], .string "x"]
    builtin.executeResult ⟨path, none⟩ tree = (tree, builtin.selectValues path tree) ∧
      builtin.executeCount ⟨path, none⟩ tree =
        (tree, (builtin.selectValues path tree).map List.length) ∧
      builtin.selectValues path tree =
        .error (.mismatch (.handler .predicate "isEmpty") .container (.kind .string)) := by
  intro path tree
  have hlast : path.getLast? = some ⟨⟨"a", none, .key (.name "a")⟩, none⟩ := rfl
  have hselect : builtin.selectFor ⟨"a", none, .key (.name "a")⟩ = .ok .literal := rfl
  obtain ⟨hresult, hcount⟩ := execute_read (v := tree) hlast hselect
  exact ⟨hresult, hcount, rfl⟩

end Registry

end TreePath
