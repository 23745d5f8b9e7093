import TreePath.Handler.Operation
import TreePath.Handler.Predicate
import TreePath.Handler.Select
import TreePath.Proofs.Outcome
import TreePath.Run

/-!
# Directives in the hands of their handlers

A directive is foreign where its handler is not registered or where its payload is not of the kind
that its handler needs. A handler that comes with the library puts its own name into every directive
that it reads, and no directive with the payload of one it read is foreign to it. The exception is
the select of bare segments, whose directives have no name.
-/

namespace TreePath

/-- The error of a directive that came from somewhere else: nothing is registered under its name, or
it has not the payload that its handler needs. -/
def Error.isForeign (e : Error) : Bool := e.isUnknownDirective || e.isMissingPayload

/-- All errors that a result can be are of some kind. -/
def FailsIn {α : Type} (P : Error → Prop) (x : Except Error α) : Prop :=
  ∀ e, x = .error e → P e

section FailsIn

variable {α β : Type} {P Q : Error → Prop} {x : Except Error α} {a : α} {e : Error}

theorem failsIn_ok : FailsIn P (.ok a : Except Error α) := nofun

theorem failsIn_error : FailsIn P (.error e : Except Error α) ↔ P e :=
  ⟨fun h => h e rfl, fun h e' he => by cases he; exact h⟩

theorem FailsIn.mono (h : FailsIn P x) (hP : ∀ e, P e → Q e) : FailsIn Q x :=
  fun e he => hP e (h e he)

theorem FailsIn.bind {f : α → Except Error β} (h : FailsIn P x)
    (hf : ∀ a, x = .ok a → FailsIn P (f a)) : FailsIn P (x.bind f) := by
  cases x with
  | error e => exact failsIn_error.mpr (failsIn_error.mp h)
  | ok a => exact hf a rfl

theorem FailsIn.map {f : α → β} (h : FailsIn P x) : FailsIn P (x.map f) := by
  cases x with
  | error e => exact failsIn_error.mpr (failsIn_error.mp h)
  | ok a => exact failsIn_ok

end FailsIn

/-- A result that is no error of a foreign directive. -/
abbrev Native {α : Type} (x : Except Error α) : Prop := FailsIn (fun e => e.isForeign = false) x

namespace Handler

/-- A handler of some name gives this name to the directives it reads, and it acts on every
directive with such a payload. -/
def Serves (name : String) (read : ReadDirective) (Acts : Directive → Prop) : Prop :=
  ∀ source arguments d, read source arguments = .ok d →
    d.name = some name ∧ ∀ d' : Directive, d'.payload = d.payload → Acts d'

variable {name : String} {Acts : Directive → Prop}

theorem serves_readBare (h : ∀ d, Acts d) : Serves name (readBare name) Acts := by
  intro source arguments d hd
  obtain ⟨_, -, rfl⟩ := map_eq_ok.mp hd
  exact ⟨rfl, fun d' _ => h d'⟩

end Handler

open Handler

variable {d : Directive} {v : Value} {key : Key}

theorem native_ensureContainer : Native v.ensureContainer := by
  rw [Value.ensureContainer]
  split
  · exact failsIn_error.mpr rfl
  · exact failsIn_ok

theorem native_child? : Native (v.child? key) := by
  cases v <;> cases key <;> simp only [Value.child?]
  case list.index items i =>
    split
    · exact failsIn_ok
    · exact failsIn_error.mpr rfl
  case map.name => exact failsIn_ok
  all_goals exact failsIn_error.mpr rfl

/-! ## Selects -/

namespace Select

/-- The selects of the library. -/
def library : List Select := [.literal, .last, .each, .eachReversed, .matching]

theorem mem_library {s : Select} :
    s ∈ library ↔
      s = literal ∨ s = last ∨ s = each ∨ s = eachReversed ∨ s = matching := by
  simp only [library, List.mem_cons, List.not_mem_nil, or_false]

theorem native_allKeys {name : String} : Native (allKeys name v) := by
  cases v with
  | list items => exact failsIn_ok
  | map entries => exact failsIn_ok
  | _ => exact failsIn_error.mpr rfl

theorem native_literalKeys (hkey : d.key = .ok key) : Native (literalKeys d v) := by
  rw [literalKeys, hkey]
  refine failsIn_ok.bind fun k _ => ?_
  split
  · exact failsIn_ok
  · exact failsIn_ok
  all_goals exact failsIn_error.mpr rfl

/-- A bare segment is read as a directive without a name. -/
theorem serves_literal {source : String} {arguments : Option String}
    (h : literal.read source arguments = .ok d) :
    d.name = none ∧ ∀ v, Native (literal.keys d v) := by
  obtain h : readLiteral source arguments = .ok d := h
  rw [readLiteral] at h
  split at h
  · cases h
  · split at h
    · cases h
      exact ⟨rfl, fun v => native_literalKeys (d := ⟨source, none, .key _⟩) rfl⟩
    · cases h

/-- A bare segment does not start with a colon. -/
theorem literal_read_colon {rest : List Char} {arguments : Option String} :
    literal.read (String.ofList (':' :: rest)) arguments ≠ .ok d := by
  intro h
  obtain h : readLiteral _ _ = .ok d := h
  simp [readLiteral, literalKey?, Text.naturalBelow?, Text.natural?, isIdentifier] at h
  split at h
  · cases h
  · cases h

theorem serves_named {s : Select} (hs : s ∈ library) (hne : s ≠ .literal) :
    Serves s.name s.read fun d => ∀ v, Native (s.keys d v) := by
  rcases mem_library.mp hs with rfl | rfl | rfl | rfl | rfl
  · exact absurd rfl hne
  · refine serves_readBare fun _ v => ?_
    simp only [last]
    split
    · exact failsIn_ok
    · exact failsIn_ok
    · exact failsIn_error.mpr rfl
  · exact serves_readBare fun _ _ => native_allKeys
  · refine serves_readBare fun _ v => ?_
    simp only [eachReversed]
    split
    · exact failsIn_ok
    · exact native_allKeys
  · intro source arguments d hd
    obtain ⟨text, -, hd⟩ := bind_eq_ok.mp hd
    split at hd <;> cases hd
    refine ⟨rfl, fun d' hd' v => ?_⟩
    simp only [matching, Directive.pattern, hd']
    refine failsIn_ok.bind fun p _ => ?_
    split
    · exact failsIn_ok
    · exact failsIn_error.mpr rfl

/-- No two selects of the library have one name. -/
theorem eq_of_name {s t : Select} (hs : s ∈ library) (ht : t ∈ library) (h : s.name = t.name) :
    s = t := by
  rcases mem_library.mp hs with rfl | rfl | rfl | rfl | rfl <;>
    rcases mem_library.mp ht with rfl | rfl | rfl | rfl | rfl <;>
    simp_all [literal, last, each, eachReversed, matching]

end Select

/-! ## Predicates -/

namespace Predicate

/-- The predicates of the library, and what negates one of them. -/
inductive Library : Predicate → Prop
  | containsKey : Library .containsKey
  | containsValue : Library .containsValue
  | isEmpty : Library .isEmpty
  | equalTo : Library .equalTo
  | negation {p : Predicate} (h : Library p) : Library p.negation

theorem native_leafMatches {name text : String} : Native (leafMatches name v text) := by
  rw [leafMatches]
  split
  · exact failsIn_error.mpr rfl
  · exact failsIn_ok

theorem native_anyLeafMatches {name text : String} {items : List Value} :
    Native (anyLeafMatches name text items) := by
  induction items with
  | nil => exact failsIn_ok
  | cons v rest ih =>
    refine native_leafMatches.bind fun found _ => ?_
    cases found with
    | false => exact ih
    | true => exact failsIn_ok

theorem serves_readText {name what : String} {Acts : Directive → Prop}
    (h : ∀ d text, d.payload = .text text → Acts d) : Serves name (readText name what) Acts := by
  intro source arguments d hd
  obtain ⟨text, -, rfl⟩ := map_eq_ok.mp hd
  exact ⟨rfl, fun d' hd' => h d' _ hd'⟩

theorem serves_of_library {p : Predicate} (h : p.Library) :
    Serves p.name p.read fun d => ∀ v, Native (p.accepts d v) := by
  induction h with
  | containsKey =>
    refine serves_readText fun d text hd v => ?_
    simp only [containsKey, Directive.text, hd]
    refine failsIn_ok.bind fun key _ => ?_
    split
    · exact failsIn_ok
    · exact failsIn_error.mpr rfl
  | containsValue =>
    refine serves_readText fun d text hd v => ?_
    simp only [containsValue, Directive.text, hd]
    refine failsIn_ok.bind fun key _ => ?_
    split
    · exact native_anyLeafMatches
    · exact native_anyLeafMatches
    · exact failsIn_error.mpr rfl
  | isEmpty =>
    refine serves_readBare fun d v => ?_
    simp only [isEmpty]
    split
    · exact failsIn_ok
    · exact failsIn_error.mpr rfl
  | equalTo =>
    intro source arguments d hd
    obtain ⟨text, -, hd⟩ := bind_eq_ok.mp hd
    dsimp only at hd
    split at hd <;> cases hd
    refine ⟨rfl, fun d' hd' v => ?_⟩
    simp only [equalTo, Directive.pair, hd']
    refine failsIn_ok.bind fun pair _ => ?_
    split
    · split
      · exact native_leafMatches
      · exact failsIn_ok
    · exact failsIn_error.mpr rfl
  | @negation p _ ih =>
    intro source arguments d hd
    -- The directive of the negation differs from the one that was read in its name alone.
    obtain ⟨inner, hinner, rfl⟩ := map_eq_ok.mp hd
    exact ⟨rfl, fun d' hd' v => ((ih source arguments inner hinner).2 d' hd' v).map⟩

end Predicate

/-! ## Operations -/

namespace Operation

/-- The operations of the library. -/
def library : List Operation :=
  [.set, .setIfAbsent, .unset, .append, .appendIfAbsent, .clear, .times]

theorem mem_library {o : Operation} :
    o ∈ library ↔ o = set ∨ o = setIfAbsent ∨ o = unset ∨ o = append ∨ o = appendIfAbsent ∨
      o = clear ∨ o = times := by
  simp only [library, List.mem_cons, List.not_mem_nil, or_false]

theorem failsIn_needing {α : Type} {P : Error → Prop} {needed : Except Error α}
    {next : α → Value × Except Error (Option Value)} (h : FailsIn P needed)
    (hnext : ∀ a, needed = .ok a → FailsIn P (next a).2) : FailsIn P (needing v needed next).2 := by
  cases needed with
  | error e => exact failsIn_error.mpr (failsIn_error.mp h)
  | ok a => exact hnext a rfl

theorem failsIn_onChild {P : Error → Prop} {f : Value → Value × Except Error (Option Value)}
    (hfound : FailsIn P (v.child? key)) (h : ∀ child, FailsIn P (f child).2) :
    FailsIn P (onChild v key f).2 := by
  refine failsIn_needing hfound fun found _ => ?_
  cases found with
  | none => exact failsIn_ok
  | some child => exact h child

theorem failsIn_storeValue {P : Error → Prop} (hoperand : FailsIn P d.value)
    (hstore : ∀ new, FailsIn P (store v key new).2) : FailsIn P (storeValue d v key).2 :=
  failsIn_needing hoperand fun new _ => (hstore new).map

theorem native_store {new : Value} : Native (store v key new).2 := by
  cases v <;> cases key <;> simp only [store]
  case list.index items i =>
    split
    · exact failsIn_ok
    · exact failsIn_error.mpr rfl
  case map.name => exact failsIn_ok
  all_goals exact failsIn_error.mpr rfl

theorem native_value {new : Value} (hd : d.payload = .value new) : Native d.value := by
  simp only [Directive.value, hd]
  exact failsIn_ok

theorem serves_readLiteral {name : String} {Acts : Directive → Prop}
    (h : ∀ d new, d.payload = .value new → Acts d) : Serves name (readLiteral name) Acts := by
  intro source arguments d hd
  obtain ⟨text, -, hd⟩ := bind_eq_ok.mp hd
  obtain ⟨new, -, rfl⟩ := map_eq_ok.mp hd
  exact ⟨rfl, fun d' hd' => h d' new hd'⟩

/-- The operations of the library act by the directives they read, on whatever container. -/
theorem serves_of_library {o : Operation} (ho : o ∈ library) :
    Serves o.name o.read fun d => ∀ v key, Native (o.act d v key).2 := by
  rcases mem_library.mp ho with rfl | rfl | rfl | rfl | rfl | rfl | rfl
  · exact serves_readLiteral fun d new hd v key =>
      failsIn_storeValue (native_value hd) fun _ => native_store
  · refine serves_readLiteral fun d new hd v key => failsIn_needing native_child? fun child _ => ?_
    split
    · exact failsIn_ok
    · exact failsIn_storeValue (native_value hd) fun _ => native_store
  · refine serves_readBare fun d v key => ?_
    simp only [unset]
    split
    · exact failsIn_ok
    · split
      · exact failsIn_ok
      · exact failsIn_error.mpr rfl
    · exact failsIn_error.mpr rfl
  · refine serves_readLiteral fun d new hd v key => failsIn_needing (native_value hd) fun _ _ =>
      failsIn_onChild native_child? fun child => ?_
    split
    · exact failsIn_ok
    · exact failsIn_error.mpr rfl
  · refine serves_readLiteral fun d new hd v key => failsIn_needing (native_value hd) fun _ _ =>
      failsIn_onChild native_child? fun child => ?_
    split
    · split <;> exact failsIn_ok
    · exact failsIn_error.mpr rfl
  · refine serves_readBare fun d v key => failsIn_onChild native_child? fun child => ?_
    split
    · exact failsIn_ok
    · exact failsIn_ok
    · exact failsIn_error.mpr rfl
  · intro source arguments d hd
    obtain ⟨text, -, hd⟩ := bind_eq_ok.mp hd
    split at hd <;> cases hd
    refine ⟨rfl, fun d' hd' v key => failsIn_needing ?_ fun factor _ =>
      failsIn_onChild native_child? fun child => ?_⟩
    · simp only [Directive.number, hd']
      exact failsIn_ok
    · split
      · exact failsIn_ok
      · exact failsIn_error.mpr rfl

end Operation

end TreePath
