import TreePath.Proofs.Canonical

/-!
# Values as data

A value can be handed over as data itself: numbers as data of their classes, lists as sequences and
maps as maps with texts for keys. What is made of it is the value again, its numbers in their
classes and its entries in their order, if its numbers are finite and none of its keys is blank.
Otherwise the value is refused.
-/

namespace TreePath.Canonical

open Value

variable {v : Value} {items : List Value} {entries : Dict Value}

/-- A result that there is if something holds, and that is refused for a number that is not finite
if it does not. -/
structure FiniteResult {α : Type} (P : Prop) (a : α) (x : Except Error α) : Prop where
  ok : P → x = .ok a
  refused : ¬ P → ∃ text, x = .error (.notAllowed (.nonFinite text))

theorem FiniteResult.map {α β : Type} {P : Prop} {a : α} {x : Except Error α}
    (h : FiniteResult P a x) (f : α → β) : FiniteResult P (f a) (x.map f) where
  ok hP := by rw [h.ok hP, Except.map]
  refused hP := by
    obtain ⟨text, hx⟩ := h.refused hP
    exact ⟨text, by rw [hx, Except.map]⟩

/-- Of two steps the first one that meets a number that is not finite refuses it. -/
theorem FiniteResult.bind {α β : Type} {P Q : Prop} {a : α} {b : β} {x : Except Error α}
    {f : α → Except Error β} (h : FiniteResult P a x) (hf : FiniteResult Q b (f a)) :
    FiniteResult (P ∧ Q) b (x.bind f) where
  ok hand := by rw [h.ok hand.1, Except.bind, hf.ok hand.2]
  refused hand := by
    by_cases hP : P
    · rw [h.ok hP, Except.bind]
      exact hf.refused fun hQ => hand ⟨hP, hQ⟩
    · obtain ⟨text, hx⟩ := h.refused hP
      exact ⟨text, by rw [hx, Except.bind]⟩

theorem FiniteResult.congr {α : Type} {P Q : Prop} {a : α} {x : Except Error α}
    (h : FiniteResult P a x) (hiff : P ↔ Q) : FiniteResult Q a x := by
  rwa [← hiff]

namespace Data

theorem lower_ofNumber (n : Number) :
    FiniteResult n.isFinite (some (.number n)) (ofNumber n).lower := by
  cases n with
  | int w z => exact ⟨fun _ => rfl, fun h => absurd rfl h⟩
  | float p x =>
    refine FiniteResult.map ⟨fun h => if_pos h, fun h => ⟨_, if_neg h⟩⟩ some

/-- The elements of a list are made the list of them. -/
theorem lowerItems_ofItems
    (h : ∀ v ∈ items, FiniteResult (v.allNumbers Number.isFinite) (some v) (ofValue v).lower) :
    FiniteResult (allNumbersItems Number.isFinite items) items (lowerItems (ofItems items)) := by
  induction items with
  | nil => exact ⟨fun _ => rfl, fun h => absurd rfl h⟩
  | cons v rest ih =>
    obtain ⟨hv, hrest⟩ := List.forall_mem_cons.mp h
    have hpresent : FiniteResult (allNumbersItems Number.isFinite rest) (v :: rest)
        ((required "list element" (some v)).bind fun v =>
          (lowerItems (ofItems rest)).map fun vs => v :: vs) := (ih hrest).map (v :: ·)
    have hiff : v.allNumbers Number.isFinite ∧ allNumbersItems Number.isFinite rest ↔
        allNumbersItems Number.isFinite (v :: rest) := by
      rw [allNumbersItems, Bool.and_eq_true]
    exact (hv.bind hpresent).congr hiff

/-- The entries of a map whose keys are new are put behind those already there. -/
theorem lowerEntries_ofEntries (done : Dict Value)
    (hnodup : (Dict.keys (done ++ entries)).Nodup)
    (h : ∀ entry ∈ entries,
      FiniteResult (entry.2.allNumbers Number.isFinite) (some entry.2) (ofValue entry.2).lower) :
    FiniteResult (allNumbersEntries Number.isFinite entries) (done ++ entries)
      (lowerEntries done (ofEntries entries)) := by
  induction entries generalizing done with
  | nil =>
    rw [List.append_nil]
    exact ⟨fun _ => rfl, fun h => absurd rfl h⟩
  | cons entry rest ih =>
    obtain ⟨key, v⟩ := entry
    obtain ⟨hv, hrest⟩ := List.forall_mem_cons.mp h
    have hnew : key ∉ Dict.keys done := by
      intro hmem
      rw [Dict.keys_append, Dict.keys_cons, List.nodup_middle, List.nodup_cons] at hnodup
      exact hnodup.1 (List.mem_append_left _ hmem)
    have hput : insertPresent key (some v) done = done ++ [(key, v)] :=
      Dict.insert_of_notMem hnew
    have hshift : done ++ [(key, v)] ++ rest = done ++ (key, v) :: rest := by simp
    have htail : FiniteResult (allNumbersEntries Number.isFinite rest) (done ++ (key, v) :: rest)
        (lowerEntries (insertPresent key (some v) done) (ofEntries rest)) := by
      rw [hput, ← hshift]
      exact ih _ (by rwa [hshift]) hrest
    have hiff : v.allNumbers Number.isFinite ∧ allNumbersEntries Number.isFinite rest ↔
        allNumbersEntries Number.isFinite ((key, v) :: rest) := by
      rw [allNumbersEntries, Bool.and_eq_true]
    exact (hv.bind htail).congr hiff

/-- A value with distinct keys is made of itself, if its numbers are finite. -/
theorem lower_ofValue (h : v.isDistinct) :
    FiniteResult (v.allNumbers Number.isFinite) (some v) (ofValue v).lower := by
  induction v using Value.induction_on_children with
  | bool b => exact ⟨fun _ => rfl, fun h => absurd rfl h⟩
  | number n => exact lower_ofNumber n
  | string s => exact ⟨fun _ => rfl, fun h => absurd rfl h⟩
  | list items ih =>
    have hitems := distinctItems_iff.mp h
    have hmade := lowerItems_ofItems fun v hv => ih v hv (hitems v hv)
    exact hmade.map fun vs => some (Value.list vs)
  | map entries ih =>
    obtain ⟨hnodup, hentries⟩ := isDistinct_map.mp h
    have hmade := lowerEntries_ofEntries [] (by simpa using hnodup) fun entry hentry =>
      ih entry hentry (hentries entry hentry)
    exact hmade.map fun es => some (Value.map es)

/-- A value handed over as data is made the same value exactly if none of its keys is blank and its
numbers are finite. Otherwise it is not allowed. -/
theorem toCanonical_ofValue (h : v.isDistinct) :
    ((ofValue v).toCanonical = .ok v ↔
      v.validate = .ok () ∧ v.allNumbers Number.isFinite) ∧
    (¬ (v.validate = .ok () ∧ v.allNumbers Number.isFinite) →
      ∃ refusal, (ofValue v).toCanonical = .error (.notAllowed refusal)) := by
  have hlower := lower_ofValue h
  have hne (e : Error) : Except.error e ≠ Except.ok v := by
    intro heq
    cases heq
  by_cases hfinite : v.allNumbers Number.isFinite
  · have hmade : (ofValue v).toCanonical = v.validate.map fun _ => v := by
      rw [toCanonical, hlower.ok hfinite, Except.bind]
    by_cases hvalid : v.isValid
    · have hvalidate := validate_eq_ok.mpr hvalid
      rw [hmade, hvalidate]
      exact ⟨iff_of_true rfl ⟨rfl, hfinite⟩, fun hnot => absurd ⟨rfl, hfinite⟩ hnot⟩
    · have hvalidate : v.validate = .error (.notAllowed .blankKey) := if_neg hvalid
      rw [hmade, hvalidate]
      have hnot : ¬ ((Except.error (.notAllowed .blankKey) : Except Error Unit) = .ok () ∧
          v.allNumbers Number.isFinite) := by
        intro hand
        cases hand.1
      exact ⟨iff_of_false (hne _) hnot, fun _ => ⟨.blankKey, rfl⟩⟩
  · obtain ⟨text, hrefused⟩ := hlower.refused hfinite
    have hmade : (ofValue v).toCanonical = .error (.notAllowed (.nonFinite text)) := by
      rw [toCanonical, hrefused, Except.bind]
    rw [hmade]
    exact ⟨iff_of_false (hne _) fun hand => hfinite hand.2, fun _ => ⟨.nonFinite text, rfl⟩⟩

/-- Numbers of several classes under keys that are not in the order of the alphabet. -/
theorem toCanonical_ofValue_classes :
    let v : Value := .map [("b", .list [.number (.int .w8 ⟨-5, by decide, by decide⟩),
        .number (.float .single (.ofBits 0x3FC00000))]),
      ("a", .map [("z", .number (.float .double (.ofBits 0x7FEFFFFFFFFFFFFF))), ("y", .list [])])]
    v.isDistinct ∧ v.validate = .ok () ∧ v.allNumbers Number.isFinite ∧
      (ofValue v).toCanonical = .ok v := by
  intro v
  have hdistinct : v.isDistinct := by decide
  have hfinite : v.allNumbers Number.isFinite := by decide +kernel
  exact ⟨hdistinct, rfl, hfinite, (toCanonical_ofValue hdistinct).1.mpr ⟨rfl, hfinite⟩⟩

end Data

end TreePath.Canonical
