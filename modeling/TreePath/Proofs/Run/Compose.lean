import TreePath.Proofs.Run.Places
import Mathlib.Data.List.Forall2

/-!
# Paths one after the other

A query of two paths put together is a query of the first one, and of the second one from each node
that the first one finds. The failures of the two queries come in another order, as the second path
is followed below a node before the first one has found the next; but together they succeed exactly
if each of them does.
-/

namespace TreePath.Registry

variable {r : Registry} {path rest : List Segment} {segment : Segment} {v : Value}
  {nodes others found : List Value} {key : Key} {keys : List Key}

/-- What a path finds from some nodes on is found for each of them in turn. -/
def FindsFrom (r : Registry) (path : List Segment) (nodes found : List Value) : Prop :=
  ∃ parts, List.Forall₂ (fun node part => r.valuesAt path node = .ok part) nodes parts ∧
    parts.flatten = found

theorem findsFrom_nil : r.FindsFrom path [] found ↔ found = [] := by
  constructor
  · rintro ⟨parts, hparts, rfl⟩
    cases hparts
    rfl
  · rintro rfl
    exact ⟨[], .nil, rfl⟩

theorem findsFrom_cons :
    r.FindsFrom path (v :: nodes) found ↔
      ∃ first more, r.valuesAt path v = .ok first ∧ r.FindsFrom path nodes more ∧
        found = first ++ more := by
  constructor
  · rintro ⟨parts, hparts, rfl⟩
    cases hparts with
    | cons hfirst hmore => exact ⟨_, _, hfirst, ⟨_, hmore, rfl⟩, List.flatten_cons⟩
  · rintro ⟨first, more, hfirst, ⟨parts, hparts, rfl⟩, rfl⟩
    exact ⟨first :: parts, .cons hfirst hparts, List.flatten_cons⟩

theorem findsFrom_singleton : r.FindsFrom path [v] found ↔ r.valuesAt path v = .ok found := by
  rw [findsFrom_cons]
  constructor
  · rintro ⟨first, more, hfirst, hmore, rfl⟩
    rw [findsFrom_nil.mp hmore, List.append_nil]
    exact hfirst
  · intro h
    exact ⟨found, [], h, findsFrom_nil.mpr rfl, (List.append_nil found).symm⟩

theorem findsFrom_append :
    r.FindsFrom path (nodes ++ others) found ↔
      ∃ first more, r.FindsFrom path nodes first ∧ r.FindsFrom path others more ∧
        found = first ++ more := by
  induction nodes generalizing found with
  | nil => simp [findsFrom_nil]
  | cons v nodes ih =>
    rw [List.cons_append, findsFrom_cons]
    constructor
    · rintro ⟨here, below, hhere, hbelow, rfl⟩
      obtain ⟨first, more, hfirst, hmore, rfl⟩ := ih.mp hbelow
      exact ⟨here ++ first, more, findsFrom_cons.mpr ⟨here, first, hhere, hfirst, rfl⟩, hmore,
        (List.append_assoc here first more).symm⟩
    · rintro ⟨front, more, hfront, hmore, rfl⟩
      obtain ⟨here, first, hhere, hfirst, rfl⟩ := findsFrom_cons.mp hfront
      exact ⟨here, first ++ more, hhere, ih.mpr ⟨first, more, hfirst, hmore, rfl⟩,
        List.append_assoc here first more⟩

/-- Something is found from some nodes on exactly if something is found from each of them on. -/
theorem exists_findsFrom_iff :
    (∃ found, r.FindsFrom path nodes found) ↔
      ∀ node ∈ nodes, ∃ part, r.valuesAt path node = .ok part := by
  induction nodes with
  | nil => simp [findsFrom_nil]
  | cons v nodes ih =>
    rw [List.forall_mem_cons, ← ih]
    constructor
    · rintro ⟨found, hfound⟩
      obtain ⟨first, more, hfirst, hmore, -⟩ := findsFrom_cons.mp hfound
      exact ⟨⟨first, hfirst⟩, more, hmore⟩
    · rintro ⟨⟨first, hfirst⟩, more, hmore⟩
      exact ⟨first ++ more, findsFrom_cons.mpr ⟨first, more, hfirst, hmore, rfl⟩⟩

/-- Going on from what lies below a key is going on below it. -/
theorem valuesUnder_append
    (h : ∀ child found, r.valuesAt (path ++ rest) child = .ok found ↔
      ∃ nodes, r.valuesAt path child = .ok nodes ∧ r.FindsFrom rest nodes found) :
    r.valuesUnder segment (path ++ rest) v key = .ok found ↔
      ∃ nodes, r.valuesUnder segment path v key = .ok nodes ∧ r.FindsFrom rest nodes found := by
  simp only [valuesUnder, kept]
  cases v.child? key with
  | error e => simp [Except.bind]
  | ok present =>
    cases present with
    | none => simp [Except.bind, findsFrom_nil, eq_comm]
    | some child =>
      simp only [Except.bind]
      cases r.accepts segment.predicate child with
      | error e => simp
      | ok kept =>
        cases kept with
        | false => simp [findsFrom_nil, eq_comm]
        | true => exact h child found

/-- Going on from what is found under some keys is going on under each of them. -/
theorem gather_findsFrom {find findAll : Key → Except Error (List Value)}
    (h : ∀ key found, findAll key = .ok found ↔
      ∃ nodes, find key = .ok nodes ∧ r.FindsFrom rest nodes found) :
    gather findAll keys = .ok found ↔
      ∃ nodes, gather find keys = .ok nodes ∧ r.FindsFrom rest nodes found := by
  induction keys generalizing found with
  | nil => simp [gather, findsFrom_nil, eq_comm]
  | cons key keys ih =>
    rw [gather_cons_eq_ok]
    constructor
    · rintro ⟨here, more, hhere, hmore, rfl⟩
      obtain ⟨nodes, hnodes, hfrom⟩ := (h key here).mp hhere
      obtain ⟨others, hothers, hrest⟩ := ih.mp hmore
      exact ⟨nodes ++ others, gather_cons_eq_ok.mpr ⟨nodes, others, hnodes, hothers, rfl⟩,
        findsFrom_append.mpr ⟨here, more, hfrom, hrest, rfl⟩⟩
    · rintro ⟨all, hall, hfrom⟩
      obtain ⟨nodes, others, hnodes, hothers, rfl⟩ := gather_cons_eq_ok.mp hall
      obtain ⟨here, more, hhere, hmore, rfl⟩ := findsFrom_append.mp hfrom
      exact ⟨here, more, (h key here).mpr ⟨nodes, hnodes, hhere⟩,
        ih.mpr ⟨others, hothers, hmore⟩, rfl⟩

/-- By induction on the first path: its first segment is common to both sides, and below each child
that this segment keeps the two sides agree. -/
theorem valuesAt_append :
    r.valuesAt (path ++ rest) v = .ok found ↔
      ∃ nodes, r.valuesAt path v = .ok nodes ∧ r.FindsFrom rest nodes found := by
  induction path generalizing v found with
  | nil =>
    rw [List.nil_append, valuesAt]
    simp only [Except.ok.injEq, exists_eq_left', findsFrom_singleton]
  | cons segment path ih =>
    rw [List.cons_append, valuesAt_cons, valuesAt_cons]
    cases r.keysOf segment.select v with
    | error e => simp [Except.bind]
    | ok keys =>
      apply gather_findsFrom
      intro key found
      exact valuesUnder_append fun child found => ih

theorem selectValues_of_ne_nil (h : path ≠ []) : r.selectValues path v = r.valuesAt path v := by
  rw [selectValues, List.isEmpty_eq_false_iff.mpr h]
  rfl

/-- A path put together of two selects values exactly if the first one does and the second one does
from each value that the first one selects; it selects what the second one selects from there on,
one after the other. -/
theorem selectValues_append (hpath : path ≠ []) (hrest : rest ≠ []) :
    ((∃ found, r.selectValues (path ++ rest) v = .ok found) ↔
      ∃ nodes, r.selectValues path v = .ok nodes ∧
        ∀ node ∈ nodes, ∃ part, r.selectValues rest node = .ok part) ∧
    ∀ nodes parts, r.selectValues path v = .ok nodes →
      List.Forall₂ (fun node part => r.selectValues rest node = .ok part) nodes parts →
        r.selectValues (path ++ rest) v = .ok parts.flatten := by
  have hboth : path ++ rest ≠ [] := List.append_ne_nil_of_left_ne_nil hpath rest
  simp only [selectValues_of_ne_nil hpath, selectValues_of_ne_nil hrest,
    selectValues_of_ne_nil hboth]
  constructor
  · constructor
    · rintro ⟨found, hfound⟩
      obtain ⟨nodes, hnodes, hfrom⟩ := valuesAt_append.mp hfound
      exact ⟨nodes, hnodes, exists_findsFrom_iff.mp ⟨found, hfrom⟩⟩
    · rintro ⟨nodes, hnodes, hall⟩
      obtain ⟨found, hfrom⟩ := exists_findsFrom_iff.mpr hall
      exact ⟨found, valuesAt_append.mpr ⟨nodes, hnodes, hfrom⟩⟩
  · intro nodes parts hnodes hparts
    exact valuesAt_append.mpr ⟨nodes, hnodes, parts, hparts, rfl⟩

/-- The first path keeps two of three maps; the second one finds two values in the first of them
and none in the other. In a list that the first path keeps, the second one looks for a name and
fails. -/
theorem selectValues_append_each :
    let path : List Segment := [⟨⟨":each", some "each", .none⟩,
      some ⟨"~isEmpty", some "~isEmpty", .none⟩⟩]
    let rest : List Segment := [⟨⟨"a", none, .key (.name "a")⟩, none⟩,
      ⟨⟨":eachr", some "eachr", .none⟩, none⟩]
    let tree : Value := .list [.map [("a", .list [.bool true, .bool false])], .map [],
      .map [("b", .bool true)]]
    let other : Value := .list [.map [("a", .list [])], .list [.bool true]]
    path ≠ [] ∧ rest ≠ [] ∧
      builtin.selectValues path tree =
        .ok [.map [("a", .list [.bool true, .bool false])], .map [("b", .bool true)]] ∧
      builtin.selectValues (path ++ rest) tree = .ok [.bool false, .bool true] ∧
      ¬ ∃ found, builtin.selectValues (path ++ rest) other = .ok found := by
  intro path rest tree other
  have hpath : path ≠ [] := List.cons_ne_nil _ _
  have hrest : rest ≠ [] := List.cons_ne_nil _ _
  have hnodes : builtin.selectValues path tree =
      .ok [.map [("a", .list [.bool true, .bool false])], .map [("b", .bool true)]] := rfl
  refine ⟨hpath, hrest, hnodes, ?_, ?_⟩
  · exact (selectValues_append hpath hrest).2 _ [[.bool false, .bool true], []] hnodes
      (.cons rfl (.cons rfl .nil))
  · rw [(selectValues_append hpath hrest).1]
    rintro ⟨nodes, hother, hall⟩
    cases hother
    obtain ⟨part, hpart⟩ := hall (.list [.bool true]) (by simp)
    cases hpart

end TreePath.Registry
