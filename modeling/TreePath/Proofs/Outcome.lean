/-!
# Results that may fail

When a chain of steps that may fail gives a result. The lemmas take such chains apart in proofs
about readers and runs.
-/

namespace TreePath

variable {ε α β : Type}

theorem bind_eq_ok {x : Except ε α} {f : α → Except ε β} {b : β} :
    x.bind f = .ok b ↔ ∃ a, x = .ok a ∧ f a = .ok b := by
  cases x <;> simp [Except.bind]

theorem seq_eq_ok {x : Except ε α} {f : α → Except ε β} {b : β} :
    (x >>= f) = .ok b ↔ ∃ a, x = .ok a ∧ f a = .ok b := by
  cases x <;> simp [bind, Except.bind]

theorem bind_bind {γ : Type} {x : Except ε α} {f : α → Except ε β} {g : β → Except ε γ} :
    (x.bind f).bind g = x.bind fun a => (f a).bind g := by
  cases x <;> rfl

theorem map_bind {γ : Type} {x : Except ε α} {f : α → Except ε β} {g : β → γ} :
    (x.bind f).map g = x.bind fun a => (f a).map g := by
  cases x <;> rfl

theorem map_eq_ok {x : Except ε α} {f : α → β} {b : β} :
    x.map f = .ok b ↔ ∃ a, x = .ok a ∧ f a = b := by
  cases x <;> simp [Except.map]

theorem toOption_bind {x : Except ε α} {f : α → Except ε β} :
    (x.bind f).toOption = x.toOption.bind fun a => (f a).toOption := by
  cases x <;> rfl

theorem toOption_map {x : Except ε α} {f : α → β} :
    (x.map f).toOption = x.toOption.map f := by
  cases x <;> rfl

theorem toOption_eq_some {x : Except ε α} {a : α} : x.toOption = some a ↔ x = .ok a := by
  cases x <;> simp [Except.toOption]

theorem pure_eq_ok {a b : α} : (pure a : Except ε α) = .ok b ↔ a = b := by
  simp [pure, Except.pure]

/-! ## Failures -/

/-- A result that is an error. -/
def Fails (x : Except ε α) : Prop := ∃ e, x = .error e

@[simp] theorem fails_error {e : ε} : Fails (.error e : Except ε α) := ⟨e, rfl⟩

@[simp] theorem not_fails_ok {a : α} : ¬ Fails (.ok a : Except ε α) := nofun

@[simp] theorem fails_map {x : Except ε α} {f : α → β} : Fails (x.map f) ↔ Fails x := by
  cases x <;> simp [Except.map]

theorem fails_iff_ne_ok {x : Except ε α} : Fails x ↔ ∀ a, x ≠ .ok a := by
  cases x <;> simp

/-- Of two steps one fails, if the second one fails or not whatever the first one gives. -/
theorem fails_bind {x : Except ε α} {f : α → Except ε β} {P : Prop} (h : ∀ a, Fails (f a) ↔ P) :
    Fails (x.bind f) ↔ Fails x ∨ P := by
  cases x with
  | error e => simp [Except.bind]
  | ok a => simp [Except.bind, h a]

end TreePath
