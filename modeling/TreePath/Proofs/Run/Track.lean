import TreePath.Proofs.Handler.Effect
import TreePath.Proofs.Run.Visit

/-!
# Following a run from visit to visit

What holds of each visit of a run holds of the whole run, whether it ends well or at a failure, if
it is said by a relation between the tree before, what is reported and the tree after that can be
put together: of one run after the other, and of a run on a child seen from the container.
-/

namespace TreePath

namespace Run

/-- A relation between a tree, what is reported of it and the tree that it becomes, which goes
along with runs. -/
structure Composes (R : Value → List Value → Value → Prop) : Prop where
  refl : ∀ v, R v [] v
  trans : ∀ {u v w hits others}, R u hits v → R v others w → R u (hits ++ others) w
  below : ∀ {v key child hits next}, Value.childAt v key = some child → R child hits next →
    R v hits (v.replaceChild key next)

variable {α : Type} {R : Value → List Value → Value → Prop} {r : Run} {v child : Value} {key : Key}

/-- A run on a tree is related to it. -/
def Tracks (r : Run) (R : Value → List Value → Value → Prop) (v : Value) : Prop :=
  R v r.hits r.tree

theorem tracks_found (h : Composes R) : (found v []).Tracks R v :=
  h.refl v

theorem tracks_failed {e : Error} (h : Composes R) : (failed v e).Tracks R v :=
  h.refl v

theorem tracks_needing {needed : Except Error α} {next : α → Run} (h : Composes R)
    (hnext : ∀ a, needed = .ok a → (next a).Tracks R v) : (needing v needed next).Tracks R v := by
  cases needed with
  | error e => exact tracks_failed h
  | ok a => exact hnext a rfl

theorem Tracks.within (hr : r.Tracks R child) (h : Composes R)
    (hchild : v.childAt key = some child) : (r.within v key).Tracks R v :=
  h.below hchild hr

theorem Tracks.andThen {next : Value → Run} (hr : r.Tracks R v) (h : Composes R)
    (hnext : (next r.tree).Tracks R r.tree) : (r.andThen next).Tracks R v := by
  cases hfailure : r.failure with
  | some e =>
    rw [Run.andThen, hfailure]
    exact hr
  | none =>
    rw [andThen_eq hfailure]
    exact h.trans hr hnext

/-- Steps that are each related to their trees are so in turn. -/
theorem tracks_inTurn {visit : α → Value → Run} {members : List α} (h : Composes R)
    (hvisit : ∀ a ∈ members, ∀ v, (visit a v).Tracks R v) :
    (inTurn visit members v).Tracks R v := by
  induction members generalizing v with
  | nil => exact tracks_found h
  | cons a rest ih =>
    obtain ⟨hfirst, hrest⟩ := List.forall_mem_cons.mp hvisit
    exact (hfirst v).andThen h (ih hrest)

theorem tracks_descend {sub : Value → Run} (h : Composes R)
    (hsub : ∀ child, (sub child).Tracks R child) : (descend sub key v).Tracks R v := by
  refine tracks_needing h fun found hfound => ?_
  cases found with
  | none => exact tracks_found h
  | some child => exact (hsub child).within h (Value.childAt_of_child? hfound)

end Run

namespace Registry

open Run

variable {R : Value → List Value → Value → Prop} {r : Registry} {v : Value}

theorem tracks_walk {visit : Value → Run} {path : List Segment} (h : Composes R)
    (hvisit : ∀ v, (visit v).Tracks R v) : (r.walk visit path v).Tracks R v := by
  induction path generalizing v with
  | nil => exact hvisit v
  | cons segment rest ih =>
    rw [walk_cons]
    refine tracks_needing h fun keys _ => tracks_inTurn h fun key _ v =>
      tracks_descend h fun child => tracks_needing h fun kept _ => ?_
    cases kept with
    | false => exact tracks_found h
    | true => exact ih

/-- A command is related to the tree it runs on if what is done at its last segment is, at every
node. -/
theorem tracks_run_getLast? {c : Command} (h : Composes R)
    (hlast : ∀ last, c.path.getLast? = some last →
      ∀ operation, r.operationOf c.operation = .ok operation →
        ∀ v keys, r.keysOf last.select v = .ok keys →
          (inTurn (r.visitLast last.predicate operation) keys v).Tracks R v) :
    (r.run c v).Tracks R v := by
  rw [run]
  split
  · exact tracks_failed h
  · next last hpath =>
    refine tracks_needing h fun select hselect => tracks_needing h fun operation hoperation =>
      tracks_walk h fun v => ?_
    rw [applyLast_eq hselect]
    exact tracks_needing h fun keys hkeys => hlast last hpath operation hoperation v keys hkeys

theorem tracks_run {c : Command} (h : Composes R)
    (hlast : ∀ last ∈ c.path, ∀ operation, r.operationOf c.operation = .ok operation →
      ∀ v keys, r.keysOf last.select v = .ok keys →
        (inTurn (r.visitLast last.predicate operation) keys v).Tracks R v) :
    (r.run c v).Tracks R v :=
  tracks_run_getLast? h fun last hpath => hlast last (List.mem_of_getLast? hpath)

theorem operationOf_eq_some {operation : Option Directive} {o : Operation} {d : Directive} :
    r.operationOf operation = .ok (some (o, d)) ↔
      operation = some d ∧ r.operationFor d = .ok o := by
  cases operation <;> simp [operationOf, map_eq_ok, and_comm]
  grind

/-- A visit of a key finds what is there, or makes the change of an operation, or does nothing. -/
theorem tracks_visitLast {predicate operation : Option Directive}
    {resolved : Option (Operation × Directive)} {key : Key} (h : Composes R)
    (hresolved : builtin.operationOf operation = .ok resolved)
    (hread : operation = none → ∀ hits, R v hits v)
    (hchange : ∀ d, operation = some d → ∀ c, Effect d v key c → R v [c.result] c.container) :
    (builtin.visitLast predicate resolved key v).Tracks R v := by
  refine tracks_needing h fun present hpresent => tracks_needing h fun kept _ => ?_
  cases kept with
  | false => exact tracks_found h
  | true =>
    cases resolved with
    | none =>
      refine hread ?_ present.toList
      cases operation with
      | none => rfl
      | some d => simp [operationOf, map_eq_ok] at hresolved
    | some resolved =>
      obtain ⟨o, d⟩ := resolved
      obtain ⟨hd, ho⟩ := operationOf_eq_some.mp hresolved
      obtain ⟨hlibrary, -⟩ := Operation.library_of_operationFor ho
      show (operated (o.act d v key)).Tracks R v
      rw [operated_act (Operation.atomic_of_library hlibrary)]
      refine tracks_needing h fun change hoperate => ?_
      cases change with
      | none => exact tracks_found h
      | some c => exact hchange d hd c (Operation.effect_of_operate ho hpresent hoperate)

end Registry

end TreePath
