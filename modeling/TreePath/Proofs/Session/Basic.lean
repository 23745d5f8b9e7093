import TreePath.Proofs.Merge.Sound
import TreePath.Proofs.Run.Sound

/-!
# Sessions

A session is a list of steps on one tree, each of which may fail or stop halfway: commands given as
texts, direct changes, and merges. Each step keeps a sound tree sound, if what it brings in is sound
and the products that it makes pass the test of the numbers, and so a session does.
-/

namespace TreePath

open Value

/-- The direct changes of a tree at the places where a path leads. -/
inductive Mutator where
  | set (v : Value)
  | setIfAbsent (v : Value)
  | append (v : Value)
  | appendIfAbsent (v : Value)
  | unset
  | clear

namespace Mutator

/-- The value that a change puts in. -/
def operand? : Mutator → Option Value
  | set v | setIfAbsent v | append v | appendIfAbsent v => some v
  | unset | clear => none

def perform (path : String) (tree : Value) : Mutator → Value × Except Error Nat
  | set v => Registry.builtin.setValues path v tree
  | setIfAbsent v => Registry.builtin.setValuesIfAbsent path v tree
  | append v => Registry.builtin.appendValues path v tree
  | appendIfAbsent v => Registry.builtin.appendValuesIfAbsent path v tree
  | unset => Registry.builtin.unsetValues path tree
  | clear => Registry.builtin.clearContainers path tree

end Mutator

/-- One step of a session: a command of which the count or the results are asked for, a direct
change, or a merge. -/
inductive Step where
  | count (command : String)
  | results (command : String)
  | change (mutator : Mutator) (path : String)
  | merge (overlay : Value)

namespace Step

/-- The tree that a step leaves, however it ends. -/
def onto (tree : Value) : Step → Value
  | count text => (Registry.builtin.onCommand text Registry.builtin.executeCount tree).1
  | results text => (Registry.builtin.onCommand text Registry.builtin.executeResult tree).1
  | change mutator path => (mutator.perform path tree).1
  | merge overlay => (Merge.apply tree overlay).1

/-- The products that a step makes, also those before a failure. -/
def products (tree : Value) : Step → List Value
  | count text | results text =>
    match Registry.builtin.parseCommand text with
    | .ok c => c.products (Registry.builtin.run c tree).hits
    | .error _ => []
  | change _ _ | merge _ => []

/-- The value that a step brings in, other than by the text of a command. -/
def incoming? : Step → Option Value
  | count _ | results _ => none
  | change mutator _ => mutator.operand?
  | merge overlay => some overlay

end Step

namespace Session

/-- The tree after some steps. -/
def after (steps : List Step) (tree : Value) : Value :=
  steps.foldl Step.onto tree

/-- The products made in some steps. -/
def products : List Step → Value → List Value
  | [], _ => []
  | step :: rest, tree => step.products tree ++ products rest (step.onto tree)

end Session

variable {p : Number → Bool} {tree : Value} {step : Step} {steps others : List Step}
  {text path : String}

/-! ## What a step keeps -/

namespace Registry

theorem tree_executeCount {c : Command} :
    (builtin.executeCount c tree).1 = (builtin.run c tree).tree := rfl

/-- A direct change brings in no product, and its operand is checked for blank keys. -/
theorem sound_executeWith {operation : String} {operand : Option Value}
    (hname : operation ≠ "times")
    (hoperand : ∀ v, operand = some v → v.isDistinct ∧ v.allNumbers p) (h : Sound p tree) :
    Sound p (builtin.executeWith operation operand path tree).1 := by
  simp only [executeWith]
  split
  · next c hc =>
    obtain ⟨payload, hpayload, hc⟩ := bind_eq_ok.mp hc
    obtain ⟨segments, hsegments, rfl⟩ := map_eq_ok.mp hc
    rw [tree_executeCount]
    refine sound_run ⟨namesNoBlank_of_parsePath hsegments, ?_⟩ h ?_
    · intro d hd v hv
      cases hd
      cases operand with
      | none =>
        cases hpayload
        cases hv
      | some w =>
        obtain ⟨_, hvalid, rfl⟩ := map_eq_ok.mp hpayload
        cases hv
        obtain ⟨hdistinct, hnumbers⟩ := hoperand v rfl
        exact ⟨hdistinct, validate_eq_ok.mp hvalid, hnumbers⟩
    · simp [Command.products, hname]
  · exact h

end Registry

namespace Step

/-- A command leaves the same tree whether its count or its results are asked for. -/
theorem onto_results : (results text).onto tree = (count text).onto tree := by
  simp only [onto, Registry.onCommand]
  cases Registry.builtin.parseCommand text <;> rfl

theorem sound_onto_count (hp : Number.Read p)
    (hproducts : ∀ product ∈ (count text).products tree, product.allNumbers p) (h : Sound p tree) :
    Sound p ((count text).onto tree) := by
  simp only [products, onto, Registry.onCommand] at hproducts ⊢
  cases hread : Registry.builtin.parseCommand text with
  | error e => exact h
  | ok c =>
    rw [hread] at hproducts
    exact Registry.sound_run (Registry.sound_of_parseCommand hp hread) h hproducts

/-- A step keeps a sound tree sound. -/
theorem sound_onto (hp : Number.Read p) (hcoerce : ∀ n k, p n → p (n.coerceTo k))
    (hincoming : ∀ v, step.incoming? = some v → v.isDistinct ∧ v.allNumbers p)
    (hproducts : ∀ product ∈ step.products tree, product.allNumbers p) (h : Sound p tree) :
    Sound p (step.onto tree) := by
  cases step with
  | count text => exact sound_onto_count hp hproducts h
  | results text =>
    rw [onto_results]
    exact sound_onto_count hp hproducts h
  | change mutator path =>
    have hperform {name : String} (hname : name ≠ "times") :
        Sound p (Registry.builtin.executeWith name mutator.operand? path tree).1 :=
      Registry.sound_executeWith hname hincoming h
    cases mutator <;> exact hperform (by decide)
  | merge overlay =>
    obtain ⟨hdistinct, hnumbers⟩ := hincoming overlay rfl
    exact Merge.sound_apply hcoerce h hdistinct hnumbers

end Step

/-! ## What a session keeps -/

namespace Session

theorem products_append : products (steps ++ others) tree =
    products steps tree ++ products others (after steps tree) := by
  induction steps generalizing tree with
  | nil => rfl
  | cons step rest ih => rw [List.cons_append, products, products, ih, List.append_assoc]; rfl

/-- A session keeps a sound tree sound. -/
theorem sound_after (hp : Number.Read p) (hcoerce : ∀ n k, p n → p (n.coerceTo k))
    (hincoming : ∀ step ∈ steps, ∀ v, step.incoming? = some v → v.isDistinct ∧ v.allNumbers p)
    (hproducts : ∀ product ∈ products steps tree, product.allNumbers p) (h : Sound p tree) :
    Sound p (after steps tree) := by
  induction steps generalizing tree with
  | nil => exact h
  | cons step rest ih =>
    obtain ⟨hstep, hrest⟩ := List.forall_mem_cons.mp hincoming
    obtain ⟨hfirst, hothers⟩ := List.forall_mem_append.mp hproducts
    exact ih hrest hothers (Step.sound_onto hp hcoerce hstep hfirst h)

end Session

end TreePath
