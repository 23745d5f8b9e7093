import TreePath.Proofs.Handler.Service
import TreePath.Proofs.Run.Track

/-!
# Where the failures of a run come from

A run and a query fail where a handler is not found, where a handler fails, or where a container has
not the child that is looked for. If all these failures are of some kind, then so is every failure
of the run and of the query. Keys are looked up in containers that may have been changed since the
keys were given; what makes them fit has to be kept by all that is done in between.
-/

namespace TreePath

variable {α : Type} {P : Error → Prop} {v child : Value} {key : Key} {Fits : Value → Key → Prop}

namespace Run

variable {r : Run}

/-- If a run failed, it did so with an error of some kind. -/
def StopsIn (P : Error → Prop) (r : Run) : Prop := ∀ e, r.failure = some e → P e

theorem stopsIn_found {hits : List Value} : (found v hits).StopsIn P := nofun

theorem stopsIn_operated {done : Value × Except Error (Option Value)} (h : FailsIn P done.2) :
    (operated done).StopsIn P := by
  obtain ⟨left, outcome⟩ := done
  cases outcome with
  | error e =>
    intro e' he'
    obtain rfl := Option.some.inj he'
    exact failsIn_error.mp h
  | ok result => exact stopsIn_found

theorem stopsIn_needing {needed : Except Error α} {next : α → Run} (h : FailsIn P needed)
    (hnext : ∀ a, needed = .ok a → (next a).StopsIn P) : (needing v needed next).StopsIn P := by
  cases needed with
  | error e =>
    intro e' he'
    obtain rfl := Option.some.inj he'
    exact failsIn_error.mp h
  | ok a => exact hnext a rfl

theorem StopsIn.andThen {next : Value → Run} (h : r.StopsIn P) (hnext : (next r.tree).StopsIn P) :
    (r.andThen next).StopsIn P := by
  cases hfailure : r.failure with
  | some e =>
    rw [Run.andThen, hfailure]
    exact h
  | none =>
    rw [andThen_eq hfailure]
    exact hnext

/-- By induction on the members: the first one leaves a tree that the others fit. -/
theorem stopsIn_inTurn (Fits : Value → α → Prop) {visit : α → Value → Run} {members : List α}
    (hvisit : ∀ a ∈ members, ∀ v, Fits v a → (visit a v).StopsIn P)
    (hkeeps : members.Pairwise fun a b => ∀ v, Fits v a → Fits v b → Fits (visit a v).tree b)
    (hfits : ∀ a ∈ members, Fits v a) : (inTurn visit members v).StopsIn P := by
  induction members generalizing v with
  | nil => exact stopsIn_found
  | cons a rest ih =>
    obtain ⟨hfirst, hothers⟩ := List.forall_mem_cons.mp hvisit
    obtain ⟨hkept, hkeeps⟩ := List.pairwise_cons.mp hkeeps
    obtain ⟨ha, hrest⟩ := List.forall_mem_cons.mp hfits
    exact (hfirst v ha).andThen (ih hothers hkeeps fun b hb => hkept b hb v ha (hrest b hb))

theorem stopsIn_descend {sub : Value → Run} (hfound : FailsIn P (v.child? key))
    (h : ∀ child, (sub child).StopsIn P) : (descend sub key v).StopsIn P := by
  refine stopsIn_needing hfound fun present _ => ?_
  cases present with
  | none => exact stopsIn_found
  | some child => exact h child

/-- Keys that fit are looked up but for errors of some kind, and go on fitting whatever is done to
the child under a key. -/
structure LooksUp (P : Error → Prop) (Fits : Value → Key → Prop) : Prop where
  found : ∀ {v key}, Fits v key → FailsIn P (v.child? key)
  descend : ∀ {sub key v other}, Fits v other → Fits (Run.descend sub key v).tree other

/-- Where no kind of look-up is ruled out, all keys fit. -/
theorem looksUp_of_native (hnative : ∀ e, e.isForeign = false → P e) :
    LooksUp P fun _ _ => True :=
  ⟨fun _ => native_child?.mono hnative, id⟩

end Run

namespace Registry

open Run

variable {r : Registry} {path : List Segment} {c : Command}

/-- The handlers of a segment are found, and do their work, but for errors of some kind. -/
structure Handles (r : Registry) (P : Error → Prop) (s : Segment) : Prop where
  select : FailsIn P (r.selectFor s.select)
  keys : ∀ v, FailsIn P (r.keysOf s.select v)
  accepts : ∀ child, FailsIn P (r.accepts s.predicate child)

/-- The keys that a segment gives fit the container they come from. -/
def GivesFitting (r : Registry) (Fits : Value → Key → Prop) (s : Segment) : Prop :=
  ∀ v keys, r.keysOf s.select v = .ok keys → ∀ key ∈ keys, Fits v key

theorem stopsIn_walk {visit : Value → Run} (hlook : LooksUp P Fits)
    (hpath : ∀ s ∈ path, r.Handles P s ∧ r.GivesFitting Fits s)
    (hvisit : ∀ v, (visit v).StopsIn P) : (r.walk visit path v).StopsIn P := by
  induction path generalizing v with
  | nil => exact hvisit v
  | cons s rest ih =>
    obtain ⟨⟨hs, hgives⟩, hrest⟩ := List.forall_mem_cons.mp hpath
    rw [walk_cons]
    refine stopsIn_needing (hs.keys v) fun keys hkeys => stopsIn_inTurn Fits ?_
      (List.pairwise_of_forall fun _ _ _ _ => hlook.descend) (hgives v keys hkeys)
    refine fun key _ v hkey => stopsIn_descend (hlook.found hkey) fun child =>
      stopsIn_needing (hs.accepts child) fun kept _ => ?_
    cases kept with
    | false => exact stopsIn_found
    | true => exact ih hrest

theorem stopsIn_visitLast {predicate : Option Directive}
    {operation : Option (Operation × Directive)} (hfound : FailsIn P (v.child? key))
    (hpredicate : ∀ child, FailsIn P (r.accepts predicate child))
    (hoperation : ∀ o d, operation = some (o, d) → FailsIn P (o.act d v key).2) :
    (r.visitLast predicate operation key v).StopsIn P := by
  refine stopsIn_needing hfound fun present _ => stopsIn_needing ?_ ?_
  · cases present with
    | none => exact failsIn_ok
    | some child => exact hpredicate child
  · intro kept _
    cases kept with
    | false => exact stopsIn_found
    | true =>
      cases operation with
      | none => exact stopsIn_found
      | some operation =>
        obtain ⟨o, d⟩ := operation
        exact stopsIn_operated (hoperation o d rfl)

/-- A run stops with such errors alone if its segments are handled, its operation is found, and the
visits of the keys of its last segment stop with such errors, in whatever container. -/
theorem stopsIn_run_getLast? (hlook : LooksUp P Fits) (hne : c.path ≠ [])
    (hpath : ∀ s ∈ c.path, r.Handles P s ∧ r.GivesFitting Fits s)
    (hfound : FailsIn P (r.operationOf c.operation))
    (hlast : ∀ last, c.path.getLast? = some last →
      ∀ operation, r.operationOf c.operation = .ok operation →
        ∀ v keys, r.keysOf last.select v = .ok keys →
          (inTurn (r.visitLast last.predicate operation) keys v).StopsIn P) :
    (r.run c v).StopsIn P := by
  obtain ⟨last, hpathLast⟩ := Option.ne_none_iff_exists'.mp (mt List.getLast?_eq_none_iff.mp hne)
  obtain ⟨hhandled, -⟩ := hpath last (List.mem_of_getLast? hpathLast)
  rw [run, hpathLast]
  refine stopsIn_needing hhandled.select fun select hselect => stopsIn_needing hfound
    fun operation hresolved => stopsIn_walk hlook
      (fun s hs => hpath s (List.dropLast_subset _ hs)) fun v => ?_
  rw [applyLast_eq hselect]
  exact stopsIn_needing (hhandled.keys v) fun keys hkeys =>
    hlast last hpathLast operation hresolved v keys hkeys

/-- Where no kind of look-up is ruled out, the operation of a run has to act on all keys. -/
theorem stopsIn_run (hnative : ∀ e, e.isForeign = false → P e) (hne : c.path ≠ [])
    (hpath : ∀ s ∈ c.path, r.Handles P s)
    (hoperation : ∀ d, c.operation = some d →
      ∃ o, r.operationFor d = .ok o ∧ ∀ v key, Native (o.act d v key).2) :
    (r.run c v).StopsIn P := by
  have hfound : FailsIn P (r.operationOf c.operation) := by
    cases hd : c.operation with
    | none => exact failsIn_ok
    | some d =>
      obtain ⟨o, ho, -⟩ := hoperation d hd
      rw [operationOf, ho]
      exact failsIn_ok
  have hlook := looksUp_of_native hnative
  refine stopsIn_run_getLast? hlook hne (fun s hs => ⟨hpath s hs, fun _ _ _ _ _ => trivial⟩) hfound
    fun last hlast operation hresolved v keys _ => ?_
  have hhandled := hpath last (List.mem_of_getLast? hlast)
  refine stopsIn_inTurn (fun _ _ => True) (fun key _ v _ =>
      stopsIn_visitLast (hlook.found trivial) hhandled.accepts ?_)
    (List.pairwise_of_forall fun _ _ _ _ _ => trivial) fun _ _ => trivial
  rintro o d rfl
  obtain ⟨hd, ho⟩ := operationOf_eq_some.mp hresolved
  obtain ⟨o', ho', hacts⟩ := hoperation d hd
  obtain rfl := Except.ok.inj (ho'.symm.trans ho)
  exact (hacts v key).mono hnative

/-! ## Queries -/

theorem failsIn_collect {visit : Key → Except Error (List Value)} {keys : List Key}
    (h : ∀ key ∈ keys, FailsIn P (visit key)) : FailsIn P (collect visit keys) := by
  induction keys with
  | nil => exact failsIn_ok
  | cons key rest ih =>
    obtain ⟨hkey, hrest⟩ := List.forall_mem_cons.mp h
    exact hkey.bind fun _ _ => (ih hrest).map

theorem failsIn_valuesAt (hlook : LooksUp P Fits)
    (hpath : ∀ s ∈ path, r.Handles P s ∧ r.GivesFitting Fits s) :
    FailsIn P (r.valuesAt path v) := by
  induction path generalizing v with
  | nil => exact failsIn_ok
  | cons s rest ih =>
    obtain ⟨⟨hs, hgives⟩, hrest⟩ := List.forall_mem_cons.mp hpath
    refine (hs.keys v).bind fun keys hkeys => failsIn_collect fun key hkey =>
      (hlook.found (hgives v keys hkeys key hkey)).bind fun present _ => ?_
    cases present with
    | none => exact failsIn_ok
    | some child =>
      refine (hs.accepts child).bind fun kept _ => ?_
      cases kept with
      | false => exact failsIn_ok
      | true => exact ih hrest

theorem failsIn_selectValues (hlook : LooksUp P Fits) (hempty : P (.grammar .emptyPath "//"))
    (hpath : ∀ s ∈ path, r.Handles P s ∧ r.GivesFitting Fits s) :
    FailsIn P (r.selectValues path v) := by
  rw [selectValues]
  split
  · exact failsIn_error.mpr hempty
  · exact failsIn_valuesAt hlook hpath

end Registry

end TreePath
