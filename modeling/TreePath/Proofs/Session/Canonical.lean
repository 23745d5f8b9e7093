import TreePath.Proofs.Canonical
import TreePath.Proofs.Session.Basic

/-!
# Keys stay in order

Wherever a session begins and whatever its steps do, succeed or fail, no map in the tree ever has
a blank key or a key twice.
-/

namespace TreePath.Session

open Value

variable {tree : Value} {steps : List Step}

/-- The trees a session may begin with: what a document was decoded to, what data was made into,
or any tree that has been checked and whose maps have distinct keys. -/
inductive Begins (tree : Value) : Prop
  | decoded {document : String} (h : Json.decode document = .ok tree)
  | lowered {d : Canonical.Data} (h : d.toCanonical = .ok tree)
  | checked (hvalid : tree.validate = .ok ()) (hdistinct : tree.isDistinct)

theorem Begins.sound (h : Begins tree) : Sound (fun _ => true) tree := by
  cases h with
  | decoded h => exact (Json.fits_of_decode (fun _ _ _ => rfl) h).sound
  | lowered h => exact Canonical.Data.sound_of_toCanonical h
  | checked hvalid hdistinct => exact sound_iff.mpr ⟨hdistinct, validate_eq_ok.mp hvalid⟩

/-- After every step of a session the tree validates and all its maps have distinct keys. -/
theorem valid_distinct_after (hbegin : Begins tree)
    (hincoming : ∀ step ∈ steps, ∀ v, step.incoming? = some v → v.isDistinct) (n : Nat) :
    (after (steps.take n) tree).validate = .ok () ∧ (after (steps.take n) tree).isDistinct := by
  have hnumbers : Number.Read fun _ => true := ⟨fun _ _ _ => rfl, fun _ _ _ => rfl⟩
  have hsteps : ∀ step ∈ steps.take n, ∀ v, step.incoming? = some v →
      v.isDistinct ∧ v.allNumbers fun _ => true := fun step hstep v hv =>
    ⟨hincoming step (List.mem_of_mem_take hstep) v hv, allNumbers_true⟩
  have hsound : Sound (fun _ => true) (after (steps.take n) tree) :=
    sound_after hnumbers (fun _ _ h => h) hsteps (fun _ _ => allNumbers_true) hbegin.sound
  exact ⟨validate_eq_ok.mpr hsound.isValid, hsound.isDistinct⟩

/-- A document, a command that puts in a new name, one that fails at the second of two places, a
change with a blank key in its operand, and a merge that ends in a conflict. -/
theorem valid_distinct_after_failures :
    let tree : Value := .map [("a", .list [.list [], .bool true])]
    let steps : List Step := [.count "//b!set(\x7b\"x\": 1\x7d)", .results "//a/:each!append(2)",
      .change (.set (.map [(" ", .bool true)])) "//c",
      .merge (.map [("b", .map [("y", .bool true)]), ("a", .map []), ("d", .bool true)])]
    let last : Value := .map [("a", .list [.list [.number (.ofInt 2)], .bool true]),
      ("b", .map [("x", .number (.ofInt 1)), ("y", .bool true)])]
    Begins tree ∧ (∀ step ∈ steps, ∀ v, step.incoming? = some v → v.isDistinct) ∧
      after steps tree = last ∧ last.validate = .ok () ∧ last.isDistinct := by
  intro tree steps last
  have hdecoded : Json.decode "\x7b\"a\": [[], true]\x7d" = .ok tree := by with_unfolding_all rfl
  have hincoming : ∀ step ∈ steps, ∀ v, step.incoming? = some v → v.isDistinct := by
    intro step hstep v hv
    simp only [steps, List.mem_cons, List.not_mem_nil, or_false] at hstep
    rcases hstep with rfl | rfl | rfl | rfl <;> cases hv <;> decide
  -- The tree is worked out after each step, the third of which leaves it alone.
  have hfirst : Step.onto tree (.count "//b!set(\x7b\"x\": 1\x7d)") =
      .map [("a", .list [.list [], .bool true]), ("b", .map [("x", .number (.ofInt 1))])] := by
    with_unfolding_all rfl
  have hsecond : Step.onto
      (.map [("a", .list [.list [], .bool true]), ("b", .map [("x", .number (.ofInt 1))])])
      (.results "//a/:each!append(2)") =
      .map [("a", .list [.list [.number (.ofInt 2)], .bool true]),
        ("b", .map [("x", .number (.ofInt 1))])] := by
    with_unfolding_all rfl
  have hafter : after steps tree = last := by
    simp only [steps, after, List.foldl, hfirst, hsecond]
    rfl
  have hlast := valid_distinct_after (.decoded hdecoded) hincoming 4
  rw [List.take_of_length_le (Nat.le_refl 4), hafter] at hlast
  exact ⟨.decoded hdecoded, hincoming, hafter, hlast⟩

end TreePath.Session
