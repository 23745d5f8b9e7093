import TreePath.Proofs.Dict
import TreePath.Proofs.Handler.Service
import TreePath.Registry

/-!
# Registries of library handlers

A registry is assembled from handlers by any number of registrations, of which a later one may
replace what an earlier one put in. If all handlers are from the library, whatever the registry
finds under a name is a handler of the library that has this name itself.
-/

namespace TreePath

namespace Dict

variable {α : Type} {P : α → Prop} {nameOf : α → String} {entries : Dict α} {value : α}

/-- All that is found under a name has this name itself and some property. -/
def Named (P : α → Prop) (nameOf : α → String) (entries : Dict α) : Prop :=
  ∀ name value, get? name entries = some value → P value ∧ nameOf value = name

theorem named_nil : Named P nameOf [] := nofun

theorem Named.insert (h : Named P nameOf entries) (hvalue : P value) :
    Named P nameOf (insert (nameOf value) value entries) := by
  intro name found hfound
  by_cases hname : name = nameOf value
  · subst hname
    obtain rfl := Option.some.inj (get?_insert_self.symm.trans hfound)
    exact ⟨hvalue, rfl⟩
  · exact h name found ((get?_insert_of_ne hname).symm.trans hfound)

end Dict

namespace Registry

variable {r : Registry} {s : Select} {p : Predicate} {o : Operation}

/-- What can be made of the registry without handlers by registering handlers of the library. -/
inductive Assembled : Registry → Prop
  | empty : Assembled .empty
  | withDefaultSelect {r : Registry} {s : Select} (h : Assembled r) (hs : s ∈ Select.library) :
      Assembled (r.withDefaultSelect s)
  | withSelect {r : Registry} {s : Select} (h : Assembled r) (hs : s ∈ Select.library) :
      Assembled (r.withSelect s)
  | withPredicateOnly {r : Registry} {p : Predicate} (h : Assembled r) (hp : p.Library) :
      Assembled (r.withPredicateOnly p)
  | withPredicate {r : Registry} {p : Predicate} (h : Assembled r) (hp : p.Library) :
      Assembled (r.withPredicate p)
  | withOperation {r : Registry} {o : Operation} (h : Assembled r) (ho : o ∈ Operation.library) :
      Assembled (r.withOperation o)

/-- A registry that finds only handlers of the library, each under its own name. -/
structure Stocked (r : Registry) : Prop where
  default : r.defaultSelect ∈ Select.library
  selects : Dict.Named (· ∈ Select.library) Select.name r.selects
  predicates : Dict.Named Predicate.Library Predicate.name r.predicates
  operations : Dict.Named (· ∈ Operation.library) Operation.name r.operations

theorem Stocked.withPredicateOnly (h : r.Stocked) (hp : p.Library) :
    (r.withPredicateOnly p).Stocked :=
  { h with predicates := h.predicates.insert hp }

theorem Assembled.stocked (h : r.Assembled) : r.Stocked := by
  induction h with
  | empty => exact ⟨List.mem_cons_self, Dict.named_nil, Dict.named_nil, Dict.named_nil⟩
  | withDefaultSelect _ hs ih => exact { ih with default := hs }
  | withSelect _ hs ih => exact { ih with selects := ih.selects.insert hs }
  | withPredicateOnly _ hp ih => exact ih.withPredicateOnly hp
  | withPredicate _ hp ih => exact (ih.withPredicateOnly hp.negation).withPredicateOnly hp
  | withOperation _ ho ih => exact { ih with operations := ih.operations.insert ho }

/-- Registering a list of handlers one after the other, from a registry that was assembled. -/
theorem Assembled.foldl {α : Type} {register : Registry → α → Registry} {handlers : List α}
    (h : r.Assembled) (hregister : ∀ r a, a ∈ handlers → Assembled r → Assembled (register r a)) :
    (handlers.foldl register r).Assembled := by
  induction handlers generalizing r with
  | nil => exact h
  | cons a rest ih =>
    exact ih (hregister r a List.mem_cons_self h)
      fun r b hb => hregister r b (List.mem_cons_of_mem _ hb)

theorem assembled_builtin : builtin.Assembled := by
  refine (Assembled.foldl (Assembled.foldl .empty ?_) ?_).foldl ?_
  · intro r s hs h
    refine h.withSelect ?_
    exact List.mem_cons_of_mem _ hs
  · intro r p hp h
    refine h.withPredicate ?_
    simp only [List.mem_cons, List.not_mem_nil, or_false] at hp
    rcases hp with rfl | rfl | rfl | rfl
    · exact .containsKey
    · exact .containsValue
    · exact .isEmpty
    · exact .equalTo
  · intro r o ho h
    exact h.withOperation ho

end Registry

end TreePath
