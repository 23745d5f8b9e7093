import TreePath.Proofs.Grammar.Complete
import TreePath.Proofs.Json.Document
import TreePath.Proofs.Value.Sound

/-!
# What texts give is sound

The trees of documents and the values of literals are sound, for every test of numbers that all
numbers pass that are read from texts. The names in a path that was read are not blank, so a command
that was read can only put sound values under such names.
-/

namespace TreePath

open Value

/-- A test of numbers that every number passes which is read from a document or a literal. -/
structure Number.Read (p : Number → Bool) : Prop where
  document : ∀ numeral n, Json.Numeral.value numeral = .ok n → p n
  literal : ∀ text n, Literal.finiteNumber? text = some n → p n

variable {p : Number → Bool} {v : Value} {d : Directive}

theorem Json.Fits.sound {room : Nat} (h : Json.Fits p room v) : Sound p v :=
  ⟨h.isDistinct, h.isValid, h.allNumbers⟩

namespace Literal

theorem sound_of_decodeTrimmed {text : List Char} (hp : Number.Read p)
    (h : decodeTrimmed text = .ok v) : Sound p v := by
  rw [decodeTrimmed] at h
  split at h
  · exact (Json.fits_of_decode hp.document h).sound
  · split at h
    · cases h
      exact ⟨rfl, rfl, rfl⟩
    · split at h
      · cases h
        exact ⟨rfl, rfl, rfl⟩
      · split at h
        · cases h
          exact ⟨rfl, rfl, rfl⟩
        · split at h
          · next n hn =>
            cases h
            exact sound_number.mpr (hp.literal _ n hn)
          · cases h
            exact ⟨rfl, rfl, rfl⟩

theorem sound_of_decode {text : String} (hp : Number.Read p) (h : decode text = .ok v) :
    Sound p v :=
  sound_of_decodeTrimmed hp h

end Literal

/-! ## Directives -/

/-- The key of a bare segment is a position or a name that is not blank. -/
theorem Select.isBlank_of_literalKey? {source : String} {key : Key}
    (h : literalKey? source = some key) : key.isBlank = false := by
  rw [literalKey?] at h
  split at h
  · cases h
    rfl
  · split at h
    · next hname =>
      cases h
      have hblank : Text.isBlank (source.toList ++ []) = false :=
        (isIdentifier_iff.mp hname).isWord.not_isBlank
      rwa [List.append_nil] at hblank
    · cases h

/-- The only key that a select is read with is that of a bare segment. -/
theorem isBlank_of_readAs {form : Grammar.SelectForm} {key : Key}
    (h : form.ReadAs Registry.builtin d) (hkey : d.key = .ok key) : key.isBlank = false := by
  cases form with
  | bare text =>
    obtain h : Select.readLiteral (String.ofList text) none = .ok d := h
    rw [Select.readLiteral, if_neg (by decide)] at h
    split at h
    · next key' hliteral =>
      cases h
      cases hkey
      exact Select.isBlank_of_literalKey? hliteral
    · cases h
  | named call =>
    have hbare {name source : String} (h : Handler.readBare name source
        (call.arguments.map String.ofList) = .ok d) : key.isBlank = false := by
      obtain ⟨-, rfl⟩ := readBare_eq_ok.mp h
      cases hkey
    obtain ⟨s, hs, h⟩ := h
    have hmem := Registry.select?_builtin.mp hs
    simp only [List.mem_cons, Prod.mk.injEq, List.not_mem_nil, or_false] at hmem
    rcases hmem with ⟨-, rfl⟩ | ⟨-, rfl⟩ | ⟨-, rfl⟩ | ⟨-, rfl⟩
    · exact hbare h
    · exact hbare h
    · exact hbare h
    · obtain ⟨text, -, h⟩ := bind_eq_ok.mp h
      split at h <;> cases h
      cases hkey

/-- A value that an operation is read with is that of a literal. -/
theorem sound_of_readAsOperation {call : Grammar.Call} (hp : Number.Read p)
    (h : call.ReadAsOperation Registry.builtin d) (hv : d.value = .ok v) : Sound p v := by
  have hbare {name source : String} (h : Handler.readBare name source
      (call.arguments.map String.ofList) = .ok d) : Sound p v := by
    obtain ⟨-, rfl⟩ := readBare_eq_ok.mp h
    cases hv
  have hliteral {name source : String} (h : Operation.readLiteral name source
      (call.arguments.map String.ofList) = .ok d) : Sound p v := by
    obtain ⟨text, -, h⟩ := bind_eq_ok.mp h
    obtain ⟨w, hw, rfl⟩ := map_eq_ok.mp h
    cases hv
    exact Literal.sound_of_decode hp hw
  obtain ⟨o, ho, h⟩ := h
  have hmem := Registry.operation?_builtin.mp ho
  simp only [List.mem_cons, Prod.mk.injEq, List.not_mem_nil, or_false] at hmem
  rcases hmem with ⟨-, rfl⟩ | ⟨-, rfl⟩ | ⟨-, rfl⟩ | ⟨-, rfl⟩ | ⟨-, rfl⟩ | ⟨-, rfl⟩ | ⟨-, rfl⟩
  · exact hliteral h
  · exact hliteral h
  · exact hbare h
  · exact hliteral h
  · exact hliteral h
  · exact hbare h
  · obtain ⟨text, -, h⟩ := bind_eq_ok.mp h
    split at h <;> cases h
    cases hv

/-! ## Commands -/

/-- A path that names no child by a blank name. -/
def NamesNoBlank (path : List Segment) : Prop :=
  ∀ s ∈ path, ∀ key, s.select.key = .ok key → key.isBlank = false

/-- A command that names no child by a blank name and whose operand, if it has one, is sound. -/
structure Command.Sound (p : Number → Bool) (c : Command) : Prop where
  names : NamesNoBlank c.path
  operand : ∀ d, c.operation = some d → ∀ v, d.value = .ok v → v.Sound p

theorem namesNoBlank_of_readAs {forms : List Grammar.SegmentForm} {path : List Segment}
    (h : List.Forall₂ (Grammar.SegmentForm.ReadAs Registry.builtin) forms path) :
    NamesNoBlank path := by
  intro s hs key hkey
  induction h with
  | nil => cases hs
  | cons hform _ ih =>
    rcases List.mem_cons.mp hs with rfl | hs
    · exact isBlank_of_readAs hform.select hkey
    · exact ih hs

namespace Registry

theorem namesNoBlank_of_parsePath {text : String} {path : List Segment}
    (h : builtin.parsePath text = .ok path) : NamesNoBlank path := by
  obtain ⟨_, _, _, hreads, _⟩ := forms_of_readPath rfl h
  exact namesNoBlank_of_readAs hreads

/-- Every command that was read is sound. -/
theorem sound_of_parseCommand {text : String} {c : Command} (hp : Number.Read p)
    (h : builtin.parseCommand text = .ok c) : c.Sound p := by
  obtain ⟨form, _, _, hread, _⟩ := form_of_readCommand rfl h
  refine ⟨namesNoBlank_of_readAs hread.path, fun d hd v hv => ?_⟩
  have hoperation := hread.operation
  rw [hd] at hoperation
  generalize form.operation = call at hoperation
  cases hoperation with
  | some hcall => exact sound_of_readAsOperation hp hcall hv

end Registry

end TreePath
