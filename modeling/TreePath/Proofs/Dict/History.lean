import TreePath.Proofs.Dict
import Mathlib.Data.Set.Card

/-!
# Dictionaries in use

A dictionary is used step by step: it is collected from pairs, and values are put in, taken out and
written in place. Whatever the steps are, it answers each of them as the finite map does that the
same steps make of nothing, and its entries stand in the order in which their keys were put in, of
several times the first one since the key was last taken out.
-/

namespace TreePath.Dict

variable {α : Type} {key : String} {value : α} {entries : Dict α} {contents : String → Option α}

/-- A step in the use of a dictionary. Collecting starts anew. Writing under a key goes through a
reference to the value that is there, and overwriting through references to all of them. -/
inductive Step (α : Type) where
  | collect (pairs : List (String × α))
  | insert (key : String) (value : α)
  | remove (key : String)
  | clear
  | write (key : String) (value : α)
  | overwrite (renew : String → α → α)

/-- Takes steps one after the other; the answers stand in order. -/
def runAll {σ : Type} (take : Step α → σ → Option α × σ) (state : σ) :
    List (Step α) → List (Option α) × σ
  | [] => ([], state)
  | step :: rest =>
    let now := take step state
    let later := runAll take now.2 rest
    (now.1 :: later.1, later.2)

namespace Step

/-- What a step answers, the value that was under its key before, and what is left. -/
def take : Step α → Dict α → Option α × Dict α
  | .collect pairs, _ => (none, ofPairs pairs)
  | .insert key value, entries => put key value entries
  | .remove key, entries => Dict.take key entries
  | .clear, _ => (none, [])
  | .write key value, entries => (get? key entries, replace key value entries)
  | .overwrite renew, entries => (none, Dict.overwrite renew entries)

/-- The same step on a finite map. -/
def takeMap : Step α → (String → Option α) → Option α × (String → Option α)
  | .collect pairs, _ => (none, fun key => pairs.reverse.lookup key)
  | .insert key value, contents => (contents key, Function.update contents key (some value))
  | .remove key, contents => (contents key, Function.update contents key none)
  | .clear, _ => (none, fun _ => none)
  | .write key value, contents =>
    (contents key, Function.update contents key ((contents key).map fun _ => value))
  | .overwrite renew, contents => (none, fun key => (contents key).map (renew key))

end Step

/-! ## Answers and contents -/

/-- A dictionary with distinct keys that holds the contents of a finite map. -/
structure Represents (entries : Dict α) (contents : String → Option α) : Prop where
  nodup : (keys entries).Nodup
  get?_eq : ∀ key, get? key entries = contents key

theorem represents_nil : Represents ([] : Dict α) fun _ => none :=
  ⟨List.nodup_nil, fun _ => rfl⟩

theorem get?_eq_lookup : get? key entries = entries.lookup key := by
  induction entries with
  | nil => rfl
  | cons entry rest ih =>
    obtain ⟨k, value⟩ := entry
    rw [get?_cons, List.lookup_cons, ih]
    by_cases heq : k = key
    · simp [heq]
    · have hne : (key == k) = false := beq_eq_false_iff_ne.mpr (Ne.symm heq)
      rw [if_neg heq, hne]

theorem put_fst : (put key value entries).1 = get? key entries := by
  induction entries with
  | nil => rfl
  | cons entry rest ih =>
    rw [put, get?_cons]
    split
    · rfl
    · exact ih

theorem keys_erase : keys (erase key entries) = (keys entries).erase key := by
  induction entries with
  | nil => rfl
  | cons entry rest ih =>
    rw [erase_cons, keys_cons, List.erase_cons]
    by_cases heq : entry.1 = key
    · simp [heq]
    · simp [heq, ih]

theorem get?_erase_self (h : (keys entries).Nodup) : get? key (erase key entries) = none := by
  rw [get?_eq_none_iff, keys_erase]
  exact h.not_mem_erase

@[simp] theorem keys_overwrite {renew : String → α → α} :
    keys (overwrite renew entries) = keys entries := by
  simp [keys, overwrite, Function.comp_def]

theorem get?_overwrite {renew : String → α → α} :
    get? key (overwrite renew entries) = (get? key entries).map (renew key) := by
  induction entries with
  | nil => rfl
  | cons entry rest ih =>
    rw [overwrite, List.map_cons, get?_cons, get?_cons, ← overwrite, ih]
    split
    · next heq => rw [heq, Option.map_some]
    · rfl

/-- A step answers as it does on a finite map, and what is left holds what is left of the map. -/
theorem Represents.step (h : Represents entries contents) (step : Step α) :
    (step.take entries).1 = (step.takeMap contents).1 ∧
      Represents (step.take entries).2 (step.takeMap contents).2 := by
  obtain ⟨hnodup, hget⟩ := h
  cases step with
  | collect pairs =>
    refine ⟨rfl, nodup_keys_ofPairs, fun key => ?_⟩
    exact (collects_ofPairs.last key).trans get?_eq_lookup
  | insert key value =>
    refine ⟨put_fst.trans (hget key), nodup_keys_insert hnodup, fun other => ?_⟩
    by_cases heq : other = key
    · subst heq
      exact get?_insert_self.trans (Function.update_self other (some value) contents).symm
    · have hother : get? other (insert key value entries) = contents other :=
        (get?_insert_of_ne heq).trans (hget other)
      have hmap : Function.update contents key (some value) other = contents other :=
        Function.update_of_ne heq _ _
      exact hother.trans hmap.symm
  | remove key =>
    refine ⟨take_fst.trans (hget key), ?_, fun other => ?_⟩
    · exact hnodup.sublist (sublist_erase.map Prod.fst)
    · by_cases heq : other = key
      · subst heq
        exact (get?_erase_self hnodup).trans (Function.update_self other none contents).symm
      · have hother : get? other (erase key entries) = contents other :=
          (get?_erase_of_ne heq).trans (hget other)
        have hmap : Function.update contents key none other = contents other :=
          Function.update_of_ne heq _ _
        exact hother.trans hmap.symm
  | clear => exact ⟨rfl, represents_nil⟩
  | write key value =>
    refine ⟨hget key, by rw [Step.take, keys_replace]; exact hnodup, fun other => ?_⟩
    simp only [Step.take, Step.takeMap, get?_replace, Function.update_apply, hget]
    by_cases heq : other = key
    · subst heq
      have hmem : other ∈ keys entries ↔ (contents other).isSome := by rw [mem_keys_iff, hget]
      cases hcontents : contents other <;> simp [hmem, hcontents]
    · simp [heq]
  | overwrite renew =>
    refine ⟨rfl, by rw [Step.take, keys_overwrite]; exact hnodup, fun key => ?_⟩
    simp only [Step.take, Step.takeMap, get?_overwrite, hget]

/-- A run gives the answers that it gives on a finite map, and what is left holds what is left of
the map. -/
theorem Represents.runAll (h : Represents entries contents) (steps : List (Step α)) :
    (runAll Step.take entries steps).1 = (runAll Step.takeMap contents steps).1 ∧
      Represents (runAll Step.take entries steps).2 (runAll Step.takeMap contents steps).2 := by
  induction steps generalizing entries contents with
  | nil => exact ⟨rfl, h⟩
  | cons step rest ih =>
    obtain ⟨hanswer, hnext⟩ := h.step step
    obtain ⟨hanswers, hlast⟩ := ih hnext
    refine ⟨?_, hlast⟩
    rw [Dict.runAll, Dict.runAll, hanswer, hanswers]

/-! ## The order of the keys -/

/-- What happens to the keys of a dictionary. -/
inductive Event where
  | put (key : String)
  | remove (key : String)
  | clear

/-- What a step does to the keys, one after the other. Writing in place does nothing to them. -/
def Step.events : Step α → List Event
  | .collect pairs => .clear :: pairs.map fun (key, _) => .put key
  | .insert key _ => [.put key]
  | .remove key => [.remove key]
  | .clear => [.clear]
  | .write _ _ | .overwrite _ => []

namespace Event

/-- Whether a key is not there any more. -/
def removes (key : String) : Event → Bool
  | .put _ => false
  | .remove k => k == key
  | .clear => true

/-- The keys after an event, as a dictionary keeps them. -/
def onKeys (ks : List String) : Event → List String
  | .put key => if key ∈ ks then ks else ks ++ [key]
  | .remove key => ks.erase key
  | .clear => []

end Event

/-- The keys that were put in, each time that no later removal of the key or clearing undid. -/
def lasting : List Event → List String
  | [] => []
  | .put key :: later =>
    if later.any (Event.removes key) then lasting later else key :: lasting later
  | .remove _ :: later | .clear :: later => lasting later

theorem lasting_append_put {history : List Event} :
    lasting (history ++ [.put key]) = lasting history ++ [key] := by
  induction history with
  | nil => rfl
  | cons event later ih =>
    cases event with
    | put k =>
      rw [List.cons_append, lasting, lasting, List.any_append, ih]
      by_cases hlost : later.any (Event.removes k) <;> simp [hlost, Event.removes]
    | remove k => exact ih
    | clear => exact ih

theorem lasting_append_remove {history : List Event} :
    lasting (history ++ [.remove key]) = (lasting history).filter (· != key) := by
  induction history with
  | nil => rfl
  | cons event later ih =>
    cases event with
    | put k =>
      rw [List.cons_append, lasting, lasting, List.any_append, ih]
      by_cases hlost : later.any (Event.removes k)
      · simp [hlost]
      · by_cases heq : k = key
        · subst heq
          have hnow : Event.removes k (.remove k) = true := beq_iff_eq.mpr rfl
          simp [hlost, hnow]
        · have hnow : Event.removes k (.remove key) = false := beq_eq_false_iff_ne.mpr (Ne.symm heq)
          simp [hlost, hnow, heq]
    | remove k => exact ih
    | clear => exact ih

theorem lasting_append_clear {history : List Event} : lasting (history ++ [.clear]) = [] := by
  induction history with
  | nil => rfl
  | cons event later ih =>
    cases event with
    | put k => simp [lasting, ih, Event.removes]
    | remove k => exact ih
    | clear => exact ih

theorem eraseDups_filter {ks : List String} {p : String → Bool} :
    (ks.filter p).eraseDups = ks.eraseDups.filter p := by
  induction ks using List.reverseRecOn with
  | nil => rfl
  | append_singleton ks k ih =>
    rw [List.filter_append, List.eraseDups_append, List.eraseDups_append, ih, List.filter_append]
    by_cases hp : p k <;> by_cases hk : k ∈ ks <;>
      simp [List.removeAll, List.eraseDups_cons, hp, hk]

/-- One more event does to the keys that are listed in order what it does to those of a
dictionary. -/
theorem eraseDups_lasting_append {history : List Event} {event : Event}
    (hnodup : (lasting history).eraseDups.Nodup) :
    (lasting (history ++ [event])).eraseDups = event.onKeys (lasting history).eraseDups := by
  cases event with
  | put key =>
    rw [lasting_append_put, List.eraseDups_append, Event.onKeys]
    by_cases hkey : key ∈ lasting history <;>
      simp [List.removeAll, List.eraseDups_cons, hkey]
  | remove key =>
    rw [lasting_append_remove, eraseDups_filter, Event.onKeys, hnodup.erase_eq_filter]
  | clear => rw [lasting_append_clear, List.eraseDups_nil, Event.onKeys]

theorem Event.nodup_onKeys {ks : List String} {event : Event} (h : ks.Nodup) :
    (event.onKeys ks).Nodup := by
  cases event with
  | put key =>
    rw [onKeys]
    split
    · exact h
    · next hnew => exact List.nodup_append.mpr ⟨h, List.nodup_singleton key, by grind⟩
  | remove key => exact h.sublist List.erase_sublist
  | clear => exact List.nodup_nil

/-- After any events the keys stand in the order in which they were put in to last. -/
theorem foldl_onKeys (history events : List Event)
    (hnodup : (lasting history).eraseDups.Nodup) :
    events.foldl Event.onKeys (lasting history).eraseDups =
      (lasting (history ++ events)).eraseDups := by
  induction events generalizing history with
  | nil => rw [List.append_nil, List.foldl_nil]
  | cons event later ih =>
    have happend : (lasting (history ++ [event])).eraseDups =
        event.onKeys (lasting history).eraseDups := eraseDups_lasting_append hnodup
    have hnext : (lasting (history ++ [event])).eraseDups.Nodup := by
      rw [happend]
      exact Event.nodup_onKeys hnodup
    rw [List.foldl_cons, ← happend, ih _ hnext, List.append_assoc, List.singleton_append]

theorem keys_foldl_insert {pairs : List (String × α)} :
    keys (pairs.foldl (fun entries (k, v) => insert k v entries) entries) =
      (pairs.map fun (k, _) => Event.put k).foldl Event.onKeys (keys entries) := by
  induction pairs generalizing entries with
  | nil => rfl
  | cons pair rest ih =>
    rw [List.foldl_cons, ih, List.map_cons, List.foldl_cons, keys_insert, Event.onKeys]

/-- A step does to the keys what its events do to them. -/
theorem keys_step (step : Step α) (entries : Dict α) :
    keys (step.take entries).2 = step.events.foldl Event.onKeys (keys entries) := by
  cases step with
  | collect pairs => exact keys_foldl_insert
  | insert key value => exact keys_insert
  | remove key => exact keys_erase
  | clear => rfl
  | write key value => exact keys_replace
  | overwrite renew => exact keys_overwrite

theorem keys_runAll (steps : List (Step α)) (entries : Dict α) :
    keys (runAll Step.take entries steps).2 =
      (steps.flatMap Step.events).foldl Event.onKeys (keys entries) := by
  induction steps generalizing entries with
  | nil => rfl
  | cons step rest ih =>
    show keys (runAll Step.take (step.take entries).2 rest).2 = _
    rw [ih, keys_step, List.flatMap_cons, List.foldl_append]

/-! ## Listing -/

theorem contains_eq_isSome (h : Represents entries contents) :
    contains key entries = (contents key).isSome := by
  rw [contains, h.get?_eq]

/-- As many entries as the finite map has keys. -/
theorem Represents.length_eq (h : Represents entries contents) :
    {key | (contents key).isSome}.encard = entries.length := by
  have hset : {key | (contents key).isSome} = (keys entries).toFinset := by
    ext key
    rw [Set.mem_ofPred_eq, ← h.get?_eq, ← mem_keys_iff, Finset.mem_coe, List.mem_toFinset]
  rw [hset, Set.encard_coe_eq_coe_finsetCard, List.toFinset_card_of_nodup h.nodup, keys,
    List.length_map]

/-- The entries stand in the order of the keys. -/
theorem Represents.entries_eq (h : Represents entries contents) :
    entries = (keys entries).filterMap fun key => (contents key).map (key, ·) := by
  have hentry : ∀ entry ∈ entries, (contents entry.1).map (entry.1, ·) = some entry := by
    intro entry hmem
    have hget : get? entry.1 entries = some entry.2 := (get?_eq_some_iff_mem h.nodup).mpr hmem
    rw [← h.get?_eq, hget, Option.map_some]
  have hall : entries.filterMap (fun entry => (contents entry.1).map (entry.1, ·)) = entries := by
    rw [List.filterMap_congr hentry, List.filterMap_some]
  rw [keys, List.filterMap_map]
  exact hall.symm

theorem Represents.values_eq (h : Represents entries contents) :
    values entries = (keys entries).filterMap contents := by
  have hvalues := congrArg values h.entries_eq
  rw [hvalues, values, List.map_filterMap]
  congr 1
  funext key
  cases contents key <;> rfl

/-- However a dictionary was used, its keys are distinct, every answer is that of the finite map
that the same steps make, and the entries are listed in the order in which their keys were first
put in after they were last taken out. -/
theorem runAll_insertionOrdered (steps : List (Step α)) :
    let concrete := runAll Step.take [] steps
    let abstract := runAll Step.takeMap (fun _ => none) steps
    let listed := (lasting (steps.flatMap Step.events)).eraseDups
    (keys concrete.2).Nodup ∧
      concrete.1 = abstract.1 ∧
      (∀ key, get? key concrete.2 = abstract.2 key) ∧
      (∀ key, contains key concrete.2 = (abstract.2 key).isSome) ∧
      {key | (abstract.2 key).isSome}.encard = concrete.2.length ∧
      keys concrete.2 = listed ∧
      values concrete.2 = listed.filterMap abstract.2 ∧
      concrete.2 = listed.filterMap fun key => (abstract.2 key).map (key, ·) := by
  intro concrete abstract listed
  obtain ⟨hanswers, hheld⟩ := represents_nil.runAll steps
  have hkeys : keys concrete.2 = listed :=
    (keys_runAll steps []).trans (foldl_onKeys [] _ List.nodup_nil)
  refine ⟨hheld.nodup, hanswers, hheld.get?_eq, fun key => contains_eq_isSome hheld,
    hheld.length_eq, hkeys, ?_, ?_⟩
  · rw [← hkeys]
    exact hheld.values_eq
  · rw [← hkeys]
    exact hheld.entries_eq

/-- A key that was taken out and put in again stands at the end. -/
example : keys (runAll Step.take [] [.collect [("a", 1), ("b", 2)], .insert "a" 3, .remove "a",
    .insert "c" 4, .insert "a" 5]).2 = ["b", "c", "a"] := by decide

end TreePath.Dict
