import TreePath.Proofs.Handler.Service
import TreePath.Proofs.Value.Location

/-!
# Operations that do nothing by halves

An operation acts on its container in place, so that nothing forbids it to write and then to fail,
or to write and then to say that there was nothing to do. The seven operations of the library do
neither: unless there is a result, the container is left as it was. What they do can therefore be
told from what they report.
-/

namespace TreePath

variable {α : Type} {v child : Value} {key : Key} {d : Directive}
  {done : Value × Except Error (Option Value)} {change : Option Change}

/-! ## Reports -/

namespace Change

@[simp] theorem reported_error {e : Error} : reported (v, .error e) = .error e := rfl

@[simp] theorem reported_none : reported (v, .ok none) = .ok none := rfl

@[simp] theorem reported_some {result : Value} :
    reported (v, .ok (some result)) = .ok (some ⟨v, result⟩) := rfl

theorem reported_eq_some {c : Change} :
    reported done = .ok (some c) ↔ done = (c.container, .ok (some c.result)) := by
  obtain ⟨left, outcome⟩ := done
  obtain ⟨container, result⟩ := c
  rcases outcome with e | _ | found <;> simp

theorem reported_needing {needed : Except Error α} {next : α → Value × Except Error (Option Value)} :
    reported (Operation.needing v needed next) = needed.bind fun a => reported (next a) := by
  cases needed <;> rfl

theorem reported_needing_eq_ok {needed : Except Error α}
    {next : α → Value × Except Error (Option Value)} :
    reported (Operation.needing v needed next) = .ok change ↔
      ∃ a, needed = .ok a ∧ reported (next a) = .ok change := by
  rw [reported_needing, bind_eq_ok]

end Change

/-! ## Atomic operations -/

namespace Operation

/-- What is done in place leaves a value as it was, unless there is a result. -/
def Spares (v : Value) (done : Value × Except Error (Option Value)) : Prop :=
  (∀ result, done.2 ≠ .ok (some result)) → done.1 = v

/-- An operation that leaves its container as it was wherever it fails or has no result. -/
def Atomic (o : Operation) : Prop := ∀ d v key, Spares v (o.act d v key)

theorem spares_self {outcome : Except Error (Option Value)} : Spares v (v, outcome) := fun _ => rfl

theorem spares_some {next result : Value} : Spares v (next, .ok (some result)) :=
  fun h => absurd rfl (h result)

theorem spares_needing {needed : Except Error α} {next : α → Value × Except Error (Option Value)}
    (h : ∀ a, needed = .ok a → Spares v (next a)) : Spares v (needing v needed next) := by
  cases needed with
  | error e => exact spares_self
  | ok a => exact h a rfl

/-- Where nothing was written into the child, putting it back changes nothing. -/
theorem spares_onChild {f : Value → Value × Except Error (Option Value)}
    (h : ∀ child, Spares child (f child)) : Spares v (onChild v key f) := by
  refine spares_needing fun found hfound => ?_
  cases found with
  | none => exact spares_self
  | some child =>
    intro hnone
    have hleft : (f child).1 = child := h child hnone
    show v.replaceChild key (f child).1 = v
    rw [hleft, Value.replaceChild_eq_self (Value.childAt_of_child? hfound)]

/-- Storing fails before anything is written. -/
theorem store_of_error {new : Value} {e : Error} (h : (store v key new).2 = .error e) :
    (store v key new).1 = v := by
  cases v <;> cases key
  case list.index items i =>
    simp only [store] at h ⊢
    split at h
    · cases h
    · next hend => rw [if_neg hend]
  case map.name => cases h
  all_goals rfl

theorem spares_storeValue : Spares v (storeValue d v key) := by
  refine spares_needing fun new _ hnone => ?_
  cases hstore : (store v key new).2 with
  | error e => exact store_of_error hstore
  | ok stored => exact absurd (congrArg (Except.map fun _ => some new) hstore) (hnone new)

theorem atomic_set : Atomic set := fun _ _ _ => spares_storeValue

theorem atomic_setIfAbsent : Atomic setIfAbsent := by
  refine fun d v key => spares_needing fun child _ => ?_
  split
  · exact spares_self
  · exact spares_storeValue

/-- A name that is not there is taken out of a map without a trace. -/
theorem atomic_unset : Atomic unset := by
  intro d v key
  cases v <;> cases key
  case map.name entries text =>
    intro hnone
    have habsent : Dict.get? text entries = none :=
      Option.eq_none_iff_forall_ne_some.mpr fun result hresult =>
        hnone result (congrArg Except.ok (Dict.take_fst.trans hresult))
    exact congrArg Value.map (Dict.erase_of_absent habsent)
  case list.index items i =>
    simp only [unset]
    split
    · exact spares_some
    · exact spares_self
  all_goals exact spares_self

theorem atomic_append : Atomic append := by
  refine fun d v key => spares_needing fun new _ => spares_onChild fun child => ?_
  split
  · exact spares_some
  · exact spares_self

theorem atomic_appendIfAbsent : Atomic appendIfAbsent := by
  refine fun d v key => spares_needing fun new _ => spares_onChild fun child => ?_
  split
  · split
    · exact spares_self
    · exact spares_some
  · exact spares_self

theorem atomic_clear : Atomic clear := by
  refine fun d v key => spares_onChild fun child => ?_
  split
  · exact spares_some
  · exact spares_some
  · exact spares_self

theorem atomic_times : Atomic times := by
  refine fun d v key => spares_needing fun factor _ => spares_onChild fun child => ?_
  split
  · exact spares_some
  · exact spares_self

theorem atomic_of_library {o : Operation} (ho : o ∈ library) : o.Atomic := by
  rcases mem_library.mp ho with rfl | rfl | rfl | rfl | rfl | rfl | rfl
  · exact atomic_set
  · exact atomic_setIfAbsent
  · exact atomic_unset
  · exact atomic_append
  · exact atomic_appendIfAbsent
  · exact atomic_clear
  · exact atomic_times

end Operation

/-! ## Runs of one operation -/

namespace Run

variable {o : Operation}

@[simp] theorem tree_operated : (operated done).tree = done.1 := by
  obtain ⟨left, outcome⟩ := done
  cases outcome <;> rfl

theorem operated_failure :
    (operated done).failure = none ↔ ∃ change, Change.reported done = .ok change := by
  obtain ⟨left, outcome⟩ := done
  rcases outcome with e | _ | result <;> simp [operated, failed, found]

/-- A run of an atomic operation follows its report. -/
theorem operated_act (ho : o.Atomic) :
    operated (o.act d v key) =
      needing v (o.operate d v key) fun
        | some change => found change.container [change.result]
        | none => found v [] := by
  have hspares := ho d v key
  rw [Operation.operate]
  generalize o.act d v key = done at hspares
  obtain ⟨left, outcome⟩ := done
  rcases outcome with e | _ | result
  · obtain rfl : left = v := hspares nofun
    rfl
  · obtain rfl : left = v := hspares nofun
    rfl
  · rfl

end Run

end TreePath
