import TreePath.Proofs.Handler.Select
import TreePath.Proofs.Value.Removal

/-!
# Keys that fit their containers

A key fits a container if it is of the sort that the container takes and if it is not a position
past the end of a list, unless these may come up as well. No look-up and no operation fails because
of a key that fits, and no select fails for want of a container on a value that is one.
-/

namespace TreePath

/-- The error of a key that is of another sort than its container takes, or of a select of children
on a value that has none. -/
def Error.isMisfit : Error → Bool
  | .value (.typeMismatch (.lookup _) _ _) => true
  | .value (.typeMismatch (.store _) _ _) => true
  | .value (.typeMismatch (.unset _) _ _) => true
  | .value (.typeMismatch (.handler .select _) .container _) => true
  | _ => false

/-- An error that comes up although all keys fit. -/
structure Error.Allowed (past : Prop) (e : Error) : Prop where
  isMisfit : e.isMisfit = false
  isOutOfBounds : e.isOutOfBounds → past

variable {α : Type} {past : Prop} {d : Directive} {v w child : Value} {key other : Key}
  {items : List Value} {i : Nat} {e : Error}

/-- What is no misfit and no position past the end may always come up. -/
theorem Error.allowed (hmisfit : e.isMisfit = false) (hbounds : e.isOutOfBounds = false) :
    e.Allowed past :=
  ⟨hmisfit, fun h => by rw [hbounds] at h; cases h⟩

theorem failsIn_allowed (hmisfit : e.isMisfit = false) (hbounds : e.isOutOfBounds = false) :
    FailsIn (Error.Allowed past) (.error e : Except Error α) :=
  failsIn_error.mpr (Error.allowed hmisfit hbounds)

namespace Value

/-- A key of the sort that a value takes. A position is that of an element, unless those past the
end may come up as well. -/
structure Fits (past : Prop) (v : Value) (key : Key) : Prop where
  suits : v.suits key
  inside : past ∨ v.kind = .map ∨ key ∈ v.ownKeys

/-- Values that a key suits are of one kind. -/
theorem kind_eq_of_suits (hv : v.suits key) (hw : w.suits key) : w.kind = v.kind := by
  cases v <;> cases key <;> cases w <;> simp_all [suits, kind]

/-- A container of the same kind that has kept a key takes the key as well. -/
theorem Fits.mono (h : v.Fits past key) (hkind : w.kind = v.kind)
    (hown : key ∈ v.ownKeys → key ∈ w.ownKeys) : w.Fits past key :=
  ⟨by rw [suits_congr hkind]; exact h.suits, h.inside.imp_right (Or.imp hkind.trans hown)⟩

theorem mem_ownKeys_putChild (h : other ∈ v.ownKeys) : other ∈ (v.putChild key child).ownKeys := by
  by_cases heq : other = key
  · subst heq
    obtain ⟨old, hold⟩ := mem_ownKeys_iff.mp h
    rwa [putChild_eq_replaceChild hold, ownKeys_replaceChild]
  · rw [mem_ownKeys_iff] at h ⊢
    rwa [childAt_putChild_of_ne heq]

theorem Fits.putChild (h : v.Fits past other) : (v.putChild key child).Fits past other :=
  h.mono kind_putChild mem_ownKeys_putChild

/-- A position is kept if an element behind it is taken out, a name in any case. -/
theorem Fits.removeChild (h : v.Fits past other) (hchild : v.childAt key = some child)
    (hclears : past ∨ v.kind = .map ∨ key.Clears other) : (v.removeChild key).Fits past other := by
  have hkind : (v.removeChild key).kind = v.kind := by cases v <;> cases key <;> rfl
  have hsuits : (v.removeChild key).suits other := by rw [suits_congr hkind]; exact h.suits
  rcases hclears with hpast | hmap | hclears
  · exact ⟨hsuits, .inl hpast⟩
  · exact ⟨hsuits, .inr (.inl (hkind.trans hmap))⟩
  · refine h.mono hkind fun hmem => ?_
    rw [mem_ownKeys_iff] at hmem ⊢
    rwa [childAt_congr (child?_removeChild hclears hchild)]

/-- Past the end of a list there is a key that fits only if such keys may come up. -/
theorem Fits.failsIn_outOfBounds (h : (list items).Fits past (.index i)) (hend : items[i]? = none) :
    FailsIn (Error.Allowed past) (.error (.outOfBounds i items.length) : Except Error α) := by
  refine failsIn_error.mpr ⟨rfl, fun _ => ?_⟩
  rcases h.inside with hpast | hmap | hown
  · exact hpast
  · cases hmap
  · obtain ⟨child, hchild⟩ := mem_ownKeys_iff.mp hown
    cases hend.symm.trans hchild

theorem Fits.failsIn_child? (h : v.Fits past key) :
    FailsIn (Error.Allowed past) (v.child? key) := by
  cases v <;> cases key
  case list.index items i =>
    rw [child?]
    split
    · exact failsIn_ok
    · next hend => exact h.failsIn_outOfBounds hend
  case map.name => exact failsIn_ok
  all_goals cases h.suits

end Value

namespace Directive

/-- The errors of asking a directive for a payload that it does not carry are of some kind. -/
structure LacksIn (P : Error → Prop) (d : Directive) : Prop where
  key : FailsIn P d.key
  pattern : FailsIn P d.pattern
  value : FailsIn P d.value
  number : FailsIn P d.number
  text : FailsIn P d.text
  pair : FailsIn P d.pair

theorem lacksIn {P : Error → Prop} (h : P d.missingPayload) : d.LacksIn P := by
  constructor
  all_goals
    simp only [key, pattern, value, number, text, pair]
    split
    · exact failsIn_ok
    · exact failsIn_error.mpr h

theorem lacksIn_allowed : d.LacksIn (Error.Allowed past) :=
  lacksIn (Error.allowed rfl rfl)

end Directive

/-! ## Selects and predicates -/

theorem Select.failsIn_allKeys {name : String} (hv : v.isContainer) :
    FailsIn (Error.Allowed past) (allKeys name v) := by
  cases v with
  | list items => exact failsIn_ok
  | map entries => exact failsIn_ok
  | _ => cases hv

/-- On a container a select of the library fails for other reasons than that it needs one. -/
theorem Select.failsIn_keys {s : Select} (hs : s ∈ library) (hv : v.isContainer) :
    FailsIn (Error.Allowed past) (s.keys d v) := by
  rcases mem_library.mp hs with rfl | rfl | rfl | rfl | rfl
  · refine d.lacksIn_allowed.key.bind fun key _ => ?_
    cases v <;> cases key
    case list.index => exact failsIn_ok
    case list.name => exact failsIn_allowed rfl rfl
    case map.index => exact failsIn_allowed rfl rfl
    case map.name => exact failsIn_ok
    all_goals cases hv
  · simp only [last]
    split
    · exact failsIn_ok
    · exact failsIn_ok
    · exact failsIn_allowed rfl rfl
  · exact failsIn_allKeys hv
  · simp only [eachReversed]
    split
    · exact failsIn_ok
    · exact failsIn_allKeys hv
  · refine d.lacksIn_allowed.pattern.bind fun p _ => ?_
    split
    · exact failsIn_ok
    · exact failsIn_allowed rfl rfl

namespace Predicate

theorem failsIn_leafMatches {name text : String} :
    FailsIn (Error.Allowed past) (leafMatches name v text) := by
  rw [leafMatches]
  split
  · exact failsIn_allowed rfl rfl
  · exact failsIn_ok

theorem failsIn_anyLeafMatches {name text : String} :
    FailsIn (Error.Allowed past) (anyLeafMatches name text items) := by
  induction items with
  | nil => exact failsIn_ok
  | cons v rest ih =>
    refine failsIn_leafMatches.bind fun found _ => ?_
    cases found with
    | false => exact ih
    | true => exact failsIn_ok

/-- Predicates look up no keys. -/
theorem Library.failsIn_accepts {p : Predicate} (h : p.Library) :
    FailsIn (Error.Allowed past) (p.accepts d v) := by
  induction h with
  | containsKey =>
    refine d.lacksIn_allowed.text.bind fun name _ => ?_
    split
    · exact failsIn_ok
    · exact failsIn_allowed rfl rfl
  | containsValue =>
    refine d.lacksIn_allowed.text.bind fun text _ => ?_
    split
    · exact failsIn_anyLeafMatches
    · exact failsIn_anyLeafMatches
    · exact failsIn_allowed rfl rfl
  | isEmpty =>
    simp only [Predicate.isEmpty]
    split
    · exact failsIn_ok
    · exact failsIn_allowed rfl rfl
  | equalTo =>
    refine d.lacksIn_allowed.pair.bind fun pair _ => ?_
    dsimp only
    split
    · split
      · exact failsIn_leafMatches
      · exact failsIn_ok
    · exact failsIn_allowed rfl rfl
  | negation _ ih => exact ih.map

end Predicate

/-! ## Operations -/

namespace Operation

theorem failsIn_store {new : Value} (h : v.Fits past key) :
    FailsIn (Error.Allowed past) (store v key new).2 := by
  cases v <;> cases key
  case list.index items i =>
    rw [store]
    split
    · exact failsIn_ok
    · next hend => exact h.failsIn_outOfBounds (List.getElem?_eq_none (Nat.le_of_not_lt hend))
  case map.name => exact failsIn_ok
  all_goals cases h.suits

theorem failsIn_unset (h : v.Fits past key) :
    FailsIn (Error.Allowed past) (unset.act d v key).2 := by
  cases v <;> cases key
  case list.index items i =>
    simp only [unset]
    split
    · exact failsIn_ok
    · next hend => exact h.failsIn_outOfBounds hend
  case map.name => exact failsIn_ok
  all_goals cases h.suits

/-- At a key that fits, an operation of the library fails for other reasons than the key. -/
theorem failsIn_act {o : Operation} (ho : o ∈ library) (h : v.Fits past key) :
    FailsIn (Error.Allowed past) (o.act d v key).2 := by
  have hfound := h.failsIn_child?
  have hvalue : FailsIn (Error.Allowed past) d.value := d.lacksIn_allowed.value
  rcases mem_library.mp ho with rfl | rfl | rfl | rfl | rfl | rfl | rfl
  · exact failsIn_storeValue hvalue fun _ => failsIn_store h
  · refine failsIn_needing hfound fun child _ => ?_
    split
    · exact failsIn_ok
    · exact failsIn_storeValue hvalue fun _ => failsIn_store h
  · exact failsIn_unset h
  · refine failsIn_needing hvalue fun new _ => failsIn_onChild hfound fun child => ?_
    split
    · exact failsIn_ok
    · exact failsIn_allowed rfl rfl
  · refine failsIn_needing hvalue fun new _ => failsIn_onChild hfound fun child => ?_
    split
    · split <;> exact failsIn_ok
    · exact failsIn_allowed rfl rfl
  · refine failsIn_onChild hfound fun child => ?_
    split
    · exact failsIn_ok
    · exact failsIn_ok
    · exact failsIn_allowed rfl rfl
  · refine failsIn_needing d.lacksIn_allowed.number fun factor _ =>
      failsIn_onChild hfound fun child => ?_
    split
    · exact failsIn_ok
    · exact failsIn_allowed rfl rfl

end Operation

end TreePath
