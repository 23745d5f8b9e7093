import TreePath.Pattern
import Mathlib.Data.List.Basic

/-!
# What a pattern matches

A node matches parts of a text, from one position to another; for each kind of node a rule says
which. The positions that the search for matches computes are those of the rules, and a node that
stands between the conditions for the start and the end of the text is found exactly where it
matches the whole text.
-/

namespace TreePath.Pattern

/-! ## Steps -/

/-- A number of steps of a relation, one after the other. -/
def Steps (step : Nat → Nat → Prop) : Nat → Nat → Nat → Prop
  | 0, i, j => i = j
  | n + 1, i, j => ∃ k, step i k ∧ Steps step n k j

section Steps

variable {step : Nat → Nat → Prop} {next : Nat → List Nat} {here : List Nat}
  {size n m i j k : Nat}

theorem steps_add : Steps step (m + n) i j ↔ ∃ k, Steps step m i k ∧ Steps step n k j := by
  induction m generalizing i with
  | zero => simp [Steps]
  | succ m ih =>
    simp only [Nat.add_right_comm m 1 n, Steps, ih]
    grind

theorem Steps.le (hle : ∀ i j, step i j → i ≤ j) (h : Steps step n i j) : i ≤ j := by
  induction n generalizing i with
  | zero => exact Nat.le_of_eq h
  | succ n ih =>
    obtain ⟨k, hfirst, hrest⟩ := h
    exact Nat.le_trans (hle i k hfirst) (ih hrest)

theorem Steps.within (hwithin : ∀ i ≤ size, ∀ j, step i j → j ≤ size) (hi : i ≤ size)
    (h : Steps step n i j) : j ≤ size := by
  induction n generalizing i with
  | zero => exact h ▸ hi
  | succ n ih =>
    obtain ⟨k, hfirst, hrest⟩ := h
    exact ih (hwithin i hi k hfirst) hrest

/-- Steps that stay where they are can be left out: no more are needed than there are positions on
the way. -/
theorem Steps.few (hle : ∀ i j, step i j → i ≤ j) (h : Steps step n i j) :
    ∃ m ≤ j - i, Steps step m i j := by
  induction n generalizing i with
  | zero => exact ⟨0, Nat.zero_le _, h⟩
  | succ n ih =>
    obtain ⟨k, hfirst, hrest⟩ := h
    obtain ⟨m, hm, hsteps⟩ := ih hrest
    rcases Nat.eq_or_lt_of_le (hle i k hfirst) with rfl | hlt
    · exact ⟨m, hm, hsteps⟩
    · have hkj : k ≤ j := hsteps.le hle
      exact ⟨m + 1, by omega, k, hfirst, hsteps⟩

theorem mem_positions {found : List Nat} : j ∈ positions size found ↔ j ≤ size ∧ j ∈ found := by
  simp only [positions, List.mem_filter, List.mem_range, List.contains_eq_mem, decide_eq_true_iff,
    Nat.lt_succ_iff]

/-- That the search stops at a set that a step does not change makes no difference. -/
theorem stepsExactly_succ :
    stepsExactly size next (n + 1) here = stepsExactly size next n (stepFrom size next here) := by
  rw [stepsExactly]
  split
  · next hsame =>
    rw [hsame]
    cases n with
    | zero => rfl
    | succ n => rw [stepsExactly, if_pos hsame]
  · rfl

theorem stepsAtMost_succ :
    stepsAtMost size next (n + 1) here =
      stepsAtMost size next n (positions size (here ++ here.flatMap next)) := by
  rw [stepsAtMost]
  split
  · next hsame =>
    rw [hsame]
    cases n with
    | zero => rfl
    | succ n => rw [stepsAtMost, if_pos hsame]
  · rfl

variable (hnext : ∀ i ≤ size, ∀ j, j ∈ next i ↔ step i j)
  (hwithin : ∀ i ≤ size, ∀ j, step i j → j ≤ size)

include hnext hwithin

theorem mem_stepFrom (hhere : ∀ i ∈ here, i ≤ size) :
    j ∈ stepFrom size next here ↔ ∃ i ∈ here, step i j := by
  rw [stepFrom, mem_positions, List.mem_flatMap]
  constructor
  · rintro ⟨-, i, hi, hj⟩
    exact ⟨i, hi, (hnext i (hhere i hi) j).mp hj⟩
  · rintro ⟨i, hi, hstep⟩
    exact ⟨hwithin i (hhere i hi) j hstep, i, hi, (hnext i (hhere i hi) j).mpr hstep⟩

theorem mem_stepsExactly (hhere : ∀ i ∈ here, i ≤ size) :
    j ∈ stepsExactly size next n here ↔ ∃ i ∈ here, Steps step n i j := by
  induction n generalizing here with
  | zero => simp [stepsExactly, Steps]
  | succ n ih =>
    have hthere : ∀ k ∈ stepFrom size next here, k ≤ size := by
      intro k hk
      exact (mem_positions.mp hk).1
    rw [stepsExactly_succ, ih hthere]
    simp only [mem_stepFrom hnext hwithin hhere, Steps]
    grind

theorem mem_stepsAtMost (hhere : ∀ i ∈ here, i ≤ size) :
    j ∈ stepsAtMost size next n here ↔ ∃ i ∈ here, ∃ m ≤ n, Steps step m i j := by
  induction n generalizing here with
  | zero => simp [stepsAtMost, Steps]
  | succ n ih =>
    have hthere : ∀ k ∈ positions size (here ++ here.flatMap next), k ≤ size := by
      intro k hk
      exact (mem_positions.mp hk).1
    have hmem (k : Nat) : k ∈ positions size (here ++ here.flatMap next) ↔
        k ∈ here ∨ ∃ i ∈ here, step i k := by
      rw [mem_positions, List.mem_append, and_or_left, ← mem_stepFrom hnext hwithin hhere,
        stepFrom, mem_positions]
      exact or_congr_left (and_iff_right_of_imp (hhere k))
    rw [stepsAtMost_succ, ih hthere]
    simp only [hmem]
    constructor
    · rintro ⟨k, hk | ⟨i, hi, hfirst⟩, m, hm, hrest⟩
      · exact ⟨k, hk, m, by omega, hrest⟩
      · exact ⟨i, hi, m + 1, by omega, k, hfirst, hrest⟩
    · rintro ⟨i, hi, m, hm, hsteps⟩
      cases m with
      | zero => exact ⟨i, .inl hi, 0, Nat.zero_le _, hsteps⟩
      | succ m =>
        obtain ⟨k, hfirst, hrest⟩ := hsteps
        exact ⟨k, .inr ⟨i, hi, hfirst⟩, m, by omega, hrest⟩

end Steps

/-! ## Rules of matching -/

/-- A node matches the part of a text from one position to another. A repetition matches at least
the least number of parts that follow each other, and no more than the greatest if there is one. -/
def Node.Spans (text : List Char) : Node → Nat → Nat → Prop
  | .empty, i, j => i = j
  | .chars set, i, j => j = i + 1 ∧ ∃ c ∈ text[i]?, set.contains c
  | .look place word, i, j => i = j ∧ place.holds word text i
  | .seq a b, i, j => ∃ k, a.Spans text i k ∧ b.Spans text k j
  | .either a b, i, j => a.Spans text i j ∨ b.Spans text i j
  | .times a least most, i, j =>
    ∃ more, (∀ m ∈ most, more ≤ m - least) ∧ Steps (a.Spans text) (least + more) i j

namespace Node

variable {text : List Char} {node : Node} {i j : Nat}

theorem Spans.le (h : node.Spans text i j) : i ≤ j := by
  induction node generalizing i j with
  | empty => exact Nat.le_of_eq h
  | chars set => exact h.1 ▸ Nat.le_succ i
  | look place word => exact Nat.le_of_eq h.1
  | seq a b iha ihb =>
    obtain ⟨k, ha, hb⟩ := h
    exact Nat.le_trans (iha ha) (ihb hb)
  | either a b iha ihb => exact h.elim iha ihb
  | times a least most ih =>
    obtain ⟨more, -, hsteps⟩ := h
    exact hsteps.le fun _ _ => ih

theorem Spans.within (hi : i ≤ text.length) (h : node.Spans text i j) : j ≤ text.length := by
  induction node generalizing i j with
  | empty => exact h ▸ hi
  | chars set =>
    obtain ⟨rfl, c, hc, -⟩ := h
    exact (List.getElem?_eq_some_iff.mp hc).1
  | look place word => exact h.1 ▸ hi
  | seq a b iha ihb =>
    obtain ⟨k, ha, hb⟩ := h
    exact ihb (iha hi ha) hb
  | either a b iha ihb => exact h.elim (iha hi) (ihb hi)
  | times a least most ih =>
    obtain ⟨more, -, hsteps⟩ := h
    exact hsteps.within (fun _ hk _ => ih hk) hi

/-- The repetitions that are allowed after the least number of them. -/
theorem exists_more_iff {step : Nat → Nat → Prop} {most : Option Nat} {least size k : Nat}
    (hle : ∀ i j, step i j → i ≤ j) (hj : j ≤ size) :
    (∃ more ≤ (match most with | some m => m - least | none => size), Steps step more k j) ↔
      ∃ more, (∀ m ∈ most, more ≤ m - least) ∧ Steps step more k j := by
  cases most with
  | some m => simp
  | none =>
    constructor
    · rintro ⟨more, -, hsteps⟩
      exact ⟨more, by simp, hsteps⟩
    · rintro ⟨more, -, hsteps⟩
      obtain ⟨fewer, hfewer, hsteps⟩ := hsteps.few hle
      exact ⟨fewer, by dsimp only; omega, hsteps⟩

/-- The search finds the ends of matches that the rules say. -/
theorem mem_ends_iff (hi : i ≤ text.length) : j ∈ node.ends text i ↔ node.Spans text i j := by
  induction node generalizing i j with
  | empty => simp [ends, Spans, eq_comm]
  | chars set =>
    rw [ends, holdsAfter, Spans]
    cases text[i]? with
    | none => simp
    | some c => by_cases hc : set.contains c <;> simp [hc]
  | look place word =>
    rw [ends, Spans]
    by_cases hholds : place.holds word text i <;> simp [hholds, eq_comm]
  | seq a b iha ihb =>
    rw [ends, mem_positions, List.mem_flatMap, Spans]
    constructor
    · rintro ⟨-, k, ha, hb⟩
      have hspan : a.Spans text i k := (iha hi).mp ha
      exact ⟨k, hspan, (ihb (hspan.within hi)).mp hb⟩
    · rintro ⟨k, ha, hb⟩
      have hk : k ≤ text.length := ha.within hi
      exact ⟨hb.within hk, k, (iha hi).mpr ha, (ihb hk).mpr hb⟩
  | either a b iha ihb =>
    rw [ends, mem_positions, List.mem_append, iha hi, ihb hi, Spans]
    exact and_iff_right_of_imp fun h => h.elim (Spans.within hi) (Spans.within hi)
  | times a least most ih =>
    have hnext : ∀ i ≤ text.length, ∀ j, j ∈ a.ends text i ↔ a.Spans text i j :=
      fun _ hi _ => ih hi
    have hwithin : ∀ i ≤ text.length, ∀ j, a.Spans text i j → j ≤ text.length :=
      fun _ hi _ => Spans.within hi
    have hleast (k : Nat) : k ∈ stepsExactly text.length (a.ends text) least [i] ↔
        Steps (a.Spans text) least i k := by
      rw [mem_stepsExactly hnext hwithin (by simpa using hi)]
      simp
    have hhere : ∀ k ∈ stepsExactly text.length (a.ends text) least [i], k ≤ text.length := by
      intro k hk
      exact ((hleast k).mp hk).within hwithin hi
    unfold ends
    rw [mem_stepsAtMost hnext hwithin hhere, Spans]
    simp only [hleast, steps_add]
    constructor
    · rintro ⟨k, hfirst, hmore⟩
      have hj : j ≤ text.length := by
        obtain ⟨more, -, hsteps⟩ := hmore
        exact hsteps.within hwithin (hfirst.within hwithin hi)
      obtain ⟨more, hmost, hsteps⟩ := (exists_more_iff (fun _ _ => Spans.le) hj).mp hmore
      exact ⟨more, hmost, k, hfirst, hsteps⟩
    · rintro ⟨more, hmost, k, hfirst, hsteps⟩
      have hj : j ≤ text.length := hsteps.within hwithin (hfirst.within hwithin hi)
      exact ⟨k, hfirst, (exists_more_iff (fun _ _ => Spans.le) hj).mpr ⟨more, hmost, hsteps⟩⟩

theorem foundIn_iff : node.foundIn text ↔ ∃ i ≤ text.length, ∃ j, node.Spans text i j := by
  have hmatch (i : Nat) (hi : i ≤ text.length) :
      (!(node.ends text i).isEmpty) = true ↔ ∃ j, node.Spans text i j := by
    simp only [← mem_ends_iff hi, Bool.not_eq_true', List.isEmpty_eq_false_iff_exists_mem]
  rw [foundIn, List.any_eq_true]
  constructor
  · rintro ⟨i, hi, hfound⟩
    have hle : i ≤ text.length := Nat.lt_succ_iff.mp (List.mem_range.mp hi)
    exact ⟨i, hle, (hmatch i hle).mp hfound⟩
  · rintro ⟨i, hle, hspan⟩
    exact ⟨i, List.mem_range.mpr (Nat.lt_succ_iff.mpr hle), (hmatch i hle).mpr hspan⟩

/-- Between the start and the end of a text a node matches the whole of it. -/
theorem anchored_foundIn_iff {word : CharSet} :
    (seq (look .textStart word) (seq node (look .textEnd word))).foundIn text ↔
      node.Spans text 0 text.length := by
  rw [foundIn_iff]
  constructor
  · rintro ⟨i, -, j, k, ⟨rfl, hstart⟩, l, hspan, rfl, hend⟩
    have hi : i = 0 := beq_iff_eq.mp hstart
    have hl : l = text.length := beq_iff_eq.mp hend
    rwa [hi, hl] at hspan
  · intro hspan
    exact ⟨0, Nat.zero_le _, text.length, 0, ⟨rfl, beq_self_eq_true 0⟩, text.length, hspan, rfl,
      beq_self_eq_true text.length⟩

end Node

/-- A pattern matches the whole of a text. -/
def MatchesWhole (p : Pattern) (text : String) : Prop :=
  p.node.Spans text.toList 0 text.toList.length

instance (p : Pattern) (text : String) : Decidable (p.MatchesWhole text) :=
  decidable_of_iff _ (Node.mem_ends_iff (Nat.zero_le _))

end TreePath.Pattern
