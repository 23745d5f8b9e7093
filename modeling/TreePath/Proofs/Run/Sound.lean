import TreePath.Proofs.Grammar.Sound
import TreePath.Proofs.Run.Track

/-!
# Runs on sound trees

A command that was read keeps a sound tree sound, also where it fails on the way. If the numbers of
the tree have to pass a test, the products that the command makes have to pass it too.
-/

namespace TreePath

open Value Run

/-- Of what a command reports the products, if it multiplies. -/
def Command.products (c : Command) (hits : List Value) : List Value :=
  if c.operation.bind Directive.name = some "times" then hits else []

variable {p : Number → Bool} {c : Command} {v : Value} {d : Directive} {key : Key} {keys : List Key}

theorem Command.products_append {hits others : List Value} :
    c.products (hits ++ others) = c.products hits ++ c.products others := by
  simp only [products]
  split <;> rfl

theorem Command.products_of_name {hits : List Value} (hd : c.operation = some d)
    (hname : d.name = some "times") : c.products hits = hits := by
  rw [products, if_pos (by rw [hd, Option.bind_some, hname])]

/-- A sound tree is left sound, if all products on the way pass the test. -/
def Keeps (p : Number → Bool) (c : Command) (v : Value) (hits : List Value) (w : Value) : Prop :=
  (∀ product ∈ c.products hits, product.allNumbers p) → Sound p v → Sound p w

theorem composes_keeps : Composes (Keeps p c) where
  refl _ := fun _ h => h
  trans first others := by
    intro hproducts hsound
    rw [Command.products_append] at hproducts
    obtain ⟨hhits, hothers⟩ := List.forall_mem_append.mp hproducts
    exact others hothers (first hhits hsound)
  below hchild hkeeps := fun hproducts hsound =>
    hsound.replaceChild (hkeeps hproducts (hsound.childAt hchild))

namespace Registry

/-- Of the keys that a segment gives in a sound container none is blank. -/
theorem isBlank_of_keysOf (hname : ∀ key, d.key = .ok key → key.isBlank = false) (hv : Sound p v)
    (h : builtin.keysOf d v = .ok keys) : ∀ key ∈ keys, key.isBlank = false := by
  obtain ⟨-, s, hs, h⟩ := keysOf_eq_ok.mp h
  intro key hkey
  rcases selectFor_builtin hs with rfl | hnamed
  · obtain ⟨key', hkey', -, rfl⟩ := Select.literalKeys_eq_ok.mp h
    obtain rfl := List.mem_singleton.mp hkey
    exact hname key hkey'
  · rcases Select.sublist_of_keys hnamed h with hsub | hsub
    · exact hv.isBlank_of_mem_ownKeys (hsub.subset hkey)
    · exact hv.isBlank_of_mem_ownKeys (List.mem_reverse.mp (hsub.subset hkey))

/-- A command keeps a sound tree sound, wherever it ends. -/
theorem sound_run (hc : c.Sound p) (hv : Sound p v)
    (hproducts : ∀ product ∈ c.products (builtin.run c v).hits, product.allNumbers p) :
    Sound p (builtin.run c v).tree := by
  have hrun : (builtin.run c v).Tracks (Keeps p c) v := by
    refine tracks_run composes_keeps fun last hlast operation hoperation v keys hkeys => ?_
    intro hproducts hv
    have hblank := isBlank_of_keysOf (hc.names last hlast) hv hkeys
    refine tracks_inTurn composes_keeps (fun key hkey v => ?_) hproducts hv
    refine tracks_visitLast composes_keeps hoperation (fun _ _ _ h => h) fun d hd change heffect
      hproducts hv => ?_
    refine heffect.sound hv (hblank key hkey) (hc.operand d hd) fun hname => ?_
    rw [Command.products_of_name hd hname] at hproducts
    exact hproducts _ (List.mem_singleton_self _)
  exact hrun hproducts hv

end Registry

end TreePath
