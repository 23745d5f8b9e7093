import TreePath.Proofs.Handler.Select
import TreePath.Proofs.Handler.Update
import TreePath.Proofs.Value.Sound

/-!
# What an operation writes

A built-in operation that changes a container puts its operand in, takes a child out, adds its
operand to a list, empties a child or multiplies a number. Whatever holds of a tree after an
operation is seen from these five changes and not from the code of the seven operations.
-/

namespace TreePath

open Value

/-- The change that an operation of a directive makes at a key of a container. -/
inductive Effect (d : Directive) (v : Value) (key : Key) : Change → Prop
  | put {new : Value} (hname : d.name ≠ some "times") (hoperand : d.value = .ok new) :
      Effect d v key ⟨v.putChild key new, new⟩
  | removed {child : Value} (hname : d.name ≠ some "times") (hchild : v.childAt key = some child) :
      Effect d v key ⟨v.removeChild key, child⟩
  | appended {items : List Value} {new : Value} (hname : d.name ≠ some "times")
      (hoperand : d.value = .ok new) (hchild : v.childAt key = some (.list items)) :
      Effect d v key ⟨v.replaceChild key (.list (items ++ [new])), new⟩
  | cleared {child empty : Value} (hname : d.name ≠ some "times")
      (hempty : empty = .list [] ∨ empty = .map []) (hchild : v.childAt key = some child) :
      Effect d v key ⟨v.replaceChild key empty, empty⟩
  | multiplied {n : Number} {factor : Binary .double} (hname : d.name = some "times")
      (hfactor : d.number = .ok factor) (hchild : v.childAt key = some (.number n)) :
      Effect d v key ⟨v.replaceChild key (.number (n.times factor)), .number (n.times factor)⟩

variable {d : Directive} {v found : Value} {key : Key} {c : Change}

namespace Operation

theorem effect_of_storeValue {present : Option Value} (hname : d.name ≠ some "times")
    (hfound : v.child? key = .ok present)
    (h : Change.reported (storeValue d v key) = .ok (some c)) : Effect d v key c := by
  rw [reported_storeValue hfound] at h
  obtain ⟨changed, hchanged, hc⟩ := map_eq_ok.mp h
  obtain ⟨new, hnew, rfl⟩ := map_eq_ok.mp hchanged
  obtain rfl : putting v key ⟨new, new⟩ = c := Option.some.inj hc
  exact .put hname hnew

theorem effect_of_unset (hname : d.name ≠ some "times") (h : unset.operate d v key = .ok (some c)) :
    Effect d v key c := by
  obtain ⟨container, result⟩ := c
  have hact : unset.act d v key = (container, .ok (some result)) := Change.reported_eq_some.mp h
  simp only [unset] at hact
  split at hact
  · next entries text =>
    obtain ⟨rfl, htaken⟩ := Prod.ext_iff.mp hact
    exact .removed hname (Dict.take_fst.symm.trans (Except.ok.inj htaken))
  · next items i =>
    split at hact
    · next child hchild =>
      cases hact
      exact .removed hname hchild
    · cases hact
  · cases hact

/-- A change of a child that is there, and what it made of the child. -/
theorem child_of_onChild {f : Value → Value × Except Error (Option Value)}
    (h : Change.reported (onChild v key f) = .ok (some c)) :
    ∃ child next result, v.childAt key = some child ∧ f child = (next, .ok (some result)) ∧
      c = ⟨v.replaceChild key next, result⟩ := by
  rcases reported_onChild_eq_ok.mp h with ⟨-, hnone⟩ | ⟨child, changed, hfound, hchanged, hc⟩
  · cases hnone
  · obtain ⟨⟨next, result⟩, rfl, rfl⟩ := Option.map_eq_some_iff.mp hc.symm
    exact ⟨child, next, result, childAt_of_child? hfound, Change.reported_eq_some.mp hchanged, rfl⟩

/-- A built-in operation that changes a container makes one of the five changes. -/
theorem effect_of_operate {o : Operation} {present : Option Value}
    (ho : Registry.builtin.operationFor d = .ok o) (hfound : v.child? key = .ok present)
    (h : o.operate d v key = .ok (some c)) : Effect d v key c := by
  have hother {name : String} (hname : d.name.getD "" = name) (hne : name ≠ "times") :
      d.name ≠ some "times" := by
    intro htimes
    rw [htimes] at hname
    exact hne hname.symm
  have hmem := Registry.operationFor_builtin ho
  simp only [List.mem_cons, Prod.mk.injEq, List.not_mem_nil, or_false] at hmem
  rcases hmem with ⟨hname, rfl⟩ | ⟨hname, rfl⟩ | ⟨hname, rfl⟩ | ⟨hname, rfl⟩ | ⟨hname, rfl⟩ |
    ⟨hname, rfl⟩ | ⟨hname, rfl⟩
  · exact effect_of_storeValue (hother hname (by decide)) hfound h
  · obtain ⟨child, -, h⟩ := Change.reported_needing_eq_ok.mp h
    split at h
    · cases h
    · exact effect_of_storeValue (hother hname (by decide)) hfound h
  · exact effect_of_unset (hother hname (by decide)) h
  · obtain ⟨new, hnew, h⟩ := Change.reported_needing_eq_ok.mp h
    obtain ⟨child, next, result, hchild, hchanged, rfl⟩ := child_of_onChild h
    split at hchanged
    · cases hchanged
      exact .appended (hother hname (by decide)) hnew hchild
    · cases hchanged
  · obtain ⟨new, hnew, h⟩ := Change.reported_needing_eq_ok.mp h
    obtain ⟨child, next, result, hchild, hchanged, rfl⟩ := child_of_onChild h
    split at hchanged
    · split at hchanged
      · cases hchanged
      · cases hchanged
        exact .appended (hother hname (by decide)) hnew hchild
    · cases hchanged
  · obtain ⟨child, next, result, hchild, hchanged, rfl⟩ := child_of_onChild h
    split at hchanged
    · cases hchanged
      exact .cleared (hother hname (by decide)) (.inl rfl) hchild
    · cases hchanged
      exact .cleared (hother hname (by decide)) (.inr rfl) hchild
    · cases hchanged
  · obtain ⟨factor, hfactor, h⟩ := Change.reported_needing_eq_ok.mp h
    obtain ⟨child, next, result, hchild, hchanged, rfl⟩ := child_of_onChild h
    have htimes : d.name = some "times" := by
      cases hd : d.name with
      | none => simp [hd] at hname
      | some name => exact congrArg some (by simpa [hd] using hname)
    split at hchanged
    · cases hchanged
      exact .multiplied htimes hfactor hchild
    · cases hchanged

end Operation

/-- What a change leaves of a sound container is sound, if the operand of the operation is and the
product of a multiplication passes the test. -/
theorem Effect.sound {p : Number → Bool} (h : Effect d v key c) (hv : Sound p v)
    (hkey : key.isBlank = false) (hoperand : ∀ new, d.value = .ok new → Sound p new)
    (hproduct : d.name = some "times" → c.result.allNumbers p) : Sound p c.container := by
  cases h with
  | put _ hnew => exact hv.putChild (hoperand _ hnew) hkey
  | removed _ _ => exact hv.removeChild
  | appended _ hnew hchild =>
    refine hv.replaceChild ((hv.childAt hchild).append_list fun w hw => ?_)
    rw [List.mem_singleton.mp hw]
    exact hoperand _ hnew
  | cleared _ hempty _ =>
    refine hv.replaceChild ?_
    rcases hempty with rfl | rfl
    · exact sound_list.mpr (List.forall_mem_nil _)
    · exact sound_map.mpr .nil
  | multiplied hname _ _ => exact hv.replaceChild (sound_number.mpr (hproduct hname))

end TreePath
