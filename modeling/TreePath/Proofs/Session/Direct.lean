import TreePath.Proofs.Grammar.Operand
import TreePath.Proofs.Grammar.Parts
import TreePath.Proofs.Session.Basic

/-!
# Direct changes and the texts of commands

A direct change is given its path as a text and its operand as a value; the text of a command has
the operand as a literal in brackets. Both run the same operation along the same path, and as a run
sees no more of a directive than its name and its operand, both leave the same tree and report the
same, also where they fail halfway.
-/

namespace TreePath

open Value

/-! ## What a run sees of an operation -/

namespace Registry

variable {r : Registry} {path : List Segment} {d d' : Directive} {v : Value}

/-- A run does not depend on the directive of its operation but for the handler that is found by it
and for what this handler does by it. -/
theorem run_congr (hpath : path ≠ []) (hfound : r.operationFor d = r.operationFor d')
    (hdo : ∀ o, r.operationFor d' = .ok o → o.act d = o.act d') :
    r.run ⟨path, some d⟩ v = r.run ⟨path, some d'⟩ v := by
  have hlast : path.getLast? = some (path.getLast hpath) := List.getLast?_eq_getLast_of_ne_nil hpath
  simp only [run, hlast, operationOf, hfound]
  cases ho : r.operationFor d' with
  | error e => rfl
  | ok o =>
    have hvisit (predicate : Option Directive) :
        r.visitLast predicate (some (o, d)) = r.visitLast predicate (some (o, d')) := by
      funext key container
      simp only [visitLast, hdo o ho]
    have happly (s : Select) (last : Segment) :
        r.applyLast s last (some (o, d)) = r.applyLast s last (some (o, d')) := by
      funext container
      simp only [applyLast, hvisit]
    simp only [Except.map, Run.needing, happly]

end Registry

/-! ## The two ways to make a change -/

namespace Mutator

variable {m : Mutator} {path argument : String} {segments : List Segment} {tree v : Value}

/-- The name of the operation that makes a change. -/
def operation : Mutator → String
  | set _ => "set"
  | setIfAbsent _ => "setIfAbsent"
  | append _ => "append"
  | appendIfAbsent _ => "appendIfAbsent"
  | unset => "unset"
  | clear => "clear"

/-- The text of the operation, with a literal for the operand if there is one. -/
def text (argument : String) (m : Mutator) : String :=
  match m.operand? with
  | some _ => m.operation ++ "(" ++ argument ++ ")"
  | none => m.operation

/-- The directive of the operation, whatever text it came from. -/
def directive (source : String) (m : Mutator) : Directive where
  source := source
  name := some m.operation
  payload := match m.operand? with
    | some v => .value v
    | none => .none

theorem perform_eq :
    m.perform path tree = Registry.builtin.executeWith m.operation m.operand? path tree := by
  cases m <;> rfl

/-- The text is read as the directive, if the literal stands for the operand. -/
theorem parseOperation_text (h : ∀ v, m.operand? = some v → Literal.StandsFor argument v) :
    Registry.builtin.parseOperation (m.text argument) = .ok (m.directive (m.text argument)) := by
  cases m with
  | set v => exact Registry.parseOperation_writing "set" (by decide) (h v rfl)
  | setIfAbsent v => exact Registry.parseOperation_writing "setIfAbsent" (by decide) (h v rfl)
  | append v => exact Registry.parseOperation_writing "append" (by decide) (h v rfl)
  | appendIfAbsent v => exact Registry.parseOperation_writing "appendIfAbsent" (by decide) (h v rfl)
  | unset => exact Registry.parseOperation_bare "unset" (by decide)
  | clear => exact Registry.parseOperation_bare "clear" (by decide)

/-- The operation of a change does the same whatever text its directive came from. -/
theorem act_directive {source other : String} {o : Operation}
    (ho : Registry.builtin.operationFor (m.directive other) = .ok o) :
    o.act (m.directive source) = o.act (m.directive other) := by
  cases m <;> cases ho <;> rfl

/-- With an operand that has no blank key a change runs its operation along the path. -/
theorem perform_of_parsePath (hpath : Registry.builtin.parsePath path = .ok segments)
    (hvalid : ∀ v, m.operand? = some v → v.isValid) :
    m.perform path tree =
      Registry.builtin.executeCount ⟨segments, some (m.directive m.operation)⟩ tree := by
  simp only [perform_eq, Registry.executeWith, directive, hpath]
  cases hoperand : m.operand? with
  | none => rfl
  | some v => simp only [validate_eq_ok.mpr (hvalid v hoperand), Except.map, Except.bind]

/-- A change along a path that is read, and the command of this path and of the operation that
makes the change, with a literal that stands for the operand, report the same count or the same
error and leave the same tree. -/
theorem perform_eq_onCommand (hpath : Registry.builtin.parsePath path = .ok segments)
    (hargument : ∀ v, m.operand? = some v → Literal.StandsFor argument v) :
    m.perform path tree = Registry.builtin.onCommand (path ++ "!" ++ m.text argument)
      Registry.builtin.executeCount tree := by
  have hvalid (v : Value) (hv : m.operand? = some v) : v.isValid := by
    have hread : Number.Read fun _ => true := ⟨fun _ _ _ => rfl, fun _ _ _ => rfl⟩
    exact (Literal.sound_of_decode hread (hargument v hv).decoded).isValid
  have hcommand := parseCommand_append hpath (parseOperation_text hargument)
  have hne : segments ≠ [] := (Registry.readsSegments_of_readPath hpath).1
  have hrun : Registry.builtin.run ⟨segments, some (m.directive m.operation)⟩ tree =
      Registry.builtin.run ⟨segments, some (m.directive (m.text argument))⟩ tree :=
    Registry.run_congr hne rfl fun _ ho => act_directive ho
  rw [perform_of_parsePath hpath hvalid, Registry.onCommand, hcommand]
  simp only [Registry.executeCount, hrun]

/-- A literal with a bracket in quotes, and a run that fails at the second of two places. -/
theorem perform_eq_onCommand_failed :
    let tree : Value := .map [("a", .list [.list [], .bool true])]
    let operand : Value := .list [.number (.ofInt 1), .string ")"]
    let argument := " [1, \")\"]"
    (∀ v, (append operand).operand? = some v → Literal.StandsFor argument v) ∧
      (append operand).perform "//a/:each" tree =
        Registry.builtin.onCommand ("//a/:each" ++ "!" ++ (append operand).text argument)
          Registry.builtin.executeCount tree ∧
      (append operand).text argument = "append( [1, \")\"])" ∧
      (append operand).perform "//a/:each" tree =
        (.map [("a", .list [.list [operand], .bool true])],
          .error (Operation.unsuitedChild "append" .list (.bool true))) := by
  intro tree operand argument
  have hpath : Registry.builtin.parsePath "//a/:each" = .ok [⟨⟨"a", none, .key (.name "a")⟩, none⟩,
      ⟨⟨":each", some "each", .none⟩, none⟩] := rfl
  have hdecoded : Literal.decode argument = .ok operand := by
    have htrimmed : Text.trim " [1, \")\"]".toList = "[1, \")\"]".toList := by decide +kernel
    have hread : Literal.decodeTrimmed "[1, \")\"]".toList = .ok operand := by
      with_unfolding_all rfl
    exact (congrArg Literal.decodeTrimmed htrimmed).trans hread
  have hargument : ∀ v, (append operand).operand? = some v → Literal.StandsFor argument v := by
    rintro v ⟨⟩
    exact ⟨by decide, by decide, hdecoded⟩
  refine ⟨hargument, perform_eq_onCommand hpath hargument, rfl, ?_⟩
  rw [perform_of_parsePath hpath]
  · rfl
  · rintro v ⟨⟩
    rfl

end Mutator

end TreePath
