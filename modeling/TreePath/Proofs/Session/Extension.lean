import TreePath.Proofs.Grammar.Operand
import TreePath.Proofs.Merge.Conflict
import TreePath.Proofs.Run.Track
import TreePath.Proofs.Session.Basic
import TreePath.Proofs.Value.Extension

/-!
# Sessions that only add

A merge and a multiplication leave a tree that extends the one before them, also where they stop
halfway: what was there keeps its place, its kind and the class of its numbers, and what is new
comes behind it. So does a session of such steps.
-/

namespace TreePath

open Value

variable {tree target overlay v : Value} {entries : Dict Value} {path : List String}
  {steps : List Step} {step : Step}

/-! ## Merges -/

namespace Merge

/-- Entries are merged into a map that they extend if each of their values is merged so. -/
theorem extends_entriesInto {incoming : List (String × Value)}
    (hvalues : ∀ entry ∈ incoming, ∀ path (v : Value), v.Extends (valueOnto path v entry.2).1) :
    (map entries).Extends (map (entriesInto path entries incoming).1) := by
  induction incoming generalizing entries with
  | nil => exact .refl _
  | cons entry rest ih =>
    obtain ⟨key, w⟩ := entry
    obtain ⟨hvalue, hothers⟩ := List.forall_mem_cons.mp hvalues
    cases hv : Dict.get? key entries with
    | none =>
      rw [entriesInto_of_absent hv]
      exact (extends_insert hv).trans (ih hothers)
    | some v =>
      have hnext := hvalue (path ++ [key]) v
      cases hwritten : valueOnto (path ++ [key]) v w with
      | mk next written =>
        rw [hwritten] at hnext
        have hreplaced : (map entries).Extends ((map entries).replaceChild (.name key) next) :=
          extends_replaceChild hv hnext
        cases written with
        | error c =>
          rw [entriesInto_of_error hv hwritten]
          exact hreplaced
        | ok count =>
          rw [entriesInto_of_ok hv hwritten]
          exact hreplaced.trans (ih hothers)

/-- A value is extended by what is merged onto it, as far as it can be. -/
theorem extends_valueOnto : target.Extends (valueOnto path target overlay).1 := by
  induction overlay using induction_on_entries generalizing target path with
  | other overlay hkind =>
    by_cases heq : target.kind = overlay.kind
    · rw [(valueOnto_of_notMap hkind).1 heq]
      cases target <;> cases overlay <;> simp only [Value.kind, reduceCtorEq] at heq
      case bool.bool => exact extends_of_leaf rfl rfl fun h => by cases h
      case number.number => exact extends_number.mpr Number.kind_coerceTo
      case string.string => exact extends_of_leaf rfl rfl fun h => by cases h
      case list.list => exact extends_append
      case map.map => exact absurd rfl hkind
    · rw [valueOnto_of_kind_ne heq]
      exact .refl target
  | map incoming ih =>
    by_cases heq : target.kind = .map
    · cases target <;> simp only [Value.kind, reduceCtorEq] at heq
      exact extends_entriesInto fun entry hentry path v => ih entry hentry
    · rw [valueOnto_of_kind_ne heq]
      exact .refl target

/-- A merge leaves a tree that extends the target, whether it succeeds or not. -/
theorem extends_apply : target.Extends (apply target overlay).1 := by
  rcases @apply_cases target overlay with ⟨_, hrefused, -⟩ | ⟨-, -, hmerged⟩
  · rw [hrefused]
    exact .refl target
  · rw [hmerged]
    exact extends_valueOnto

end Merge

/-! ## Multiplications -/

theorem Value.composes_extends : Run.Composes fun v _ w => v.Extends w where
  refl := .refl
  trans := .trans
  below := extends_replaceChild

/-- A multiplication leaves a tree that extends the one it is run on. -/
theorem Registry.extends_run {c : Command}
    (hname : c.operation.bind Directive.name = some "times") :
    v.Extends (builtin.run c v).tree := by
  refine tracks_run (R := fun v _ w => v.Extends w) composes_extends
    fun last _ operation hoperation v keys _ => Run.tracks_inTurn composes_extends fun key _ v =>
      tracks_visitLast composes_extends hoperation ?_ ?_
  · intro _ _
    exact .refl v
  · intro d hd change hchange
    rw [hd, Option.bind_some] at hname
    cases hchange with
    | put hother => exact absurd hname hother
    | removed hother => exact absurd hname hother
    | appended hother => exact absurd hname hother
    | cleared hother => exact absurd hname hother
    | multiplied _ _ hchild =>
      exact extends_replaceChild hchild (extends_number.mpr Number.kind_times)

/-! ## Steps and sessions -/

/-- A text that multiplies at the places where a path leads, if it is that of a command. -/
def Multiplies (text : String) : Prop :=
  ∀ c, Registry.builtin.parseCommand text = .ok c →
    c.operation.bind Directive.name = some "times"

/-- Behind every path `times` multiplies, by whatever is in its brackets. -/
theorem multiplies_times {path factor : String} {segments : List Segment}
    (hpath : Registry.builtin.parsePath path = .ok segments) :
    Multiplies (path ++ "!times(" ++ factor ++ ")") := by
  have htext : path ++ "!times(" ++ factor ++ ")" =
      path ++ "!" ++ ("times" ++ "(" ++ factor ++ ")") := by
    simp [← String.toList_inj]
  intro c hc
  rw [htext] at hc
  obtain ⟨d, hd, rfl⟩ := Registry.operation_of_parseCommand hpath hc
  exact Registry.name_of_parseOperation ⟨nofun, List.all_eq_true.mp rfl⟩ hd

namespace Step

/-- A step that is a merge or the text of a multiplication. -/
def Adds : Step → Prop
  | count text | results text => Multiplies text
  | change _ _ => False
  | merge _ => True

theorem extends_onto_count {text : String} (h : (count text).Adds) :
    tree.Extends ((count text).onto tree) := by
  simp only [onto, Registry.onCommand]
  cases hread : Registry.builtin.parseCommand text with
  | error e => exact .refl tree
  | ok c => exact Registry.extends_run (h c hread)

theorem Adds.extends_onto (h : step.Adds) : tree.Extends (step.onto tree) := by
  cases step with
  | count text => exact extends_onto_count h
  | results text =>
    rw [onto_results]
    exact extends_onto_count h
  | change => cases h
  | merge overlay => exact Merge.extends_apply

end Step

namespace Session

/-- Merges and multiplications leave a tree that extends the one they start from, however many of
them there are and wherever each of them stops. -/
theorem extends_after (hsteps : ∀ step ∈ steps, step.Adds) : tree.Extends (after steps tree) := by
  induction steps generalizing tree with
  | nil => exact .refl tree
  | cons step rest ih =>
    obtain ⟨hstep, hrest⟩ := List.forall_mem_cons.mp hsteps
    exact hstep.extends_onto.trans (ih hrest)

/-- A merge, a product held to its width, a multiplication that fails at a text, and a merge that
ends in a conflict. -/
theorem extends_after_failures :
    let tree : Value := .map [("n", .number (.fromInt 100 (.int .w8))),
      ("l", .list [.bool true, .string "x"])]
    let steps : List Step := [.merge (.map [("l", .list [.bool false]), ("m", .map [])]),
      .count "//n!times(3)", .results "//l/:each!times(2)",
      .merge (.map [("z", .bool true), ("n", .string "y"), ("m", .bool true)])]
    let last : Value := .map [("n", .number (.fromInt 127 (.int .w8))),
      ("l", .list [.bool true, .string "x", .bool false]), ("m", .map []), ("z", .bool true)]
    (∀ step ∈ steps, step.Adds) ∧ (after steps tree).equals last ∧
      tree.Extends (after steps tree) := by
  intro tree steps last
  have hnumber : Multiplies ("//n" ++ "!times(" ++ "3" ++ ")") := multiplies_times rfl
  have htexts : Multiplies ("//l/:each" ++ "!times(" ++ "2" ++ ")") := multiplies_times rfl
  have hsteps : ∀ step ∈ steps, step.Adds :=
    List.forall_mem_cons.mpr ⟨trivial, List.forall_mem_cons.mpr ⟨hnumber,
      List.forall_mem_cons.mpr ⟨htexts, List.forall_mem_singleton.mpr trivial⟩⟩⟩
  exact ⟨hsteps, by decide +kernel, extends_after hsteps⟩

end Session

end TreePath
