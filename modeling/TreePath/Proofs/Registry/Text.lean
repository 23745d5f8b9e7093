import TreePath.Proofs.Grammar.Reading
import TreePath.Proofs.Registry.Assembled

/-!
# Commands and their texts

The text of a command is put together of pieces that its directives have kept. Every handler of the
library keeps the piece that it is handed, whatever it makes of the arguments, and a negation leaves
it to the predicate that it negates. So a command that was read has the text that it was read from,
and no two texts are read as one command.
-/

namespace TreePath

open Grammar

variable {d : Directive}

namespace Handler

/-- A handler keeps the text that it is handed in the directives that it reads. -/
def KeepsSource (read : ReadDirective) : Prop :=
  ∀ source arguments d, read source arguments = .ok d → d.source = source

theorem keepsSource_readBare {name : String} : KeepsSource (readBare name) := by
  intro source arguments d hd
  obtain ⟨_, -, rfl⟩ := map_eq_ok.mp hd
  rfl

end Handler

open Handler

theorem Select.keepsSource_of_library {s : Select} (hs : s ∈ library) : KeepsSource s.read := by
  rcases mem_library.mp hs with rfl | rfl | rfl | rfl | rfl
  · intro source arguments d hd
    obtain hd : readLiteral source arguments = .ok d := hd
    rw [readLiteral] at hd
    split at hd
    · cases hd
    · split at hd
      · cases hd
        rfl
      · cases hd
  · exact keepsSource_readBare
  · exact keepsSource_readBare
  · exact keepsSource_readBare
  · intro source arguments d hd
    obtain ⟨text, -, hd⟩ := bind_eq_ok.mp hd
    split at hd
    · cases hd
      rfl
    · cases hd

theorem Predicate.keepsSource_readText {name what : String} : KeepsSource (readText name what) := by
  intro source arguments d hd
  obtain ⟨text, -, rfl⟩ := map_eq_ok.mp hd
  rfl

/-- By induction on the negations, which change the name of a directive alone. -/
theorem Predicate.Library.keepsSource {p : Predicate} (hp : p.Library) : KeepsSource p.read := by
  induction hp with
  | containsKey => exact keepsSource_readText
  | containsValue => exact keepsSource_readText
  | isEmpty => exact keepsSource_readBare
  | equalTo =>
    intro source arguments d hd
    obtain ⟨text, -, hd⟩ := bind_eq_ok.mp hd
    dsimp only at hd
    split at hd
    · cases hd
      rfl
    · cases hd
  | negation _ ih =>
    intro source arguments d hd
    obtain ⟨inner, hinner, rfl⟩ := map_eq_ok.mp hd
    exact ih source arguments inner hinner

theorem Operation.keepsSource_readLiteral {name : String} : KeepsSource (readLiteral name) := by
  intro source arguments d hd
  obtain ⟨text, -, hd⟩ := bind_eq_ok.mp hd
  obtain ⟨v, -, rfl⟩ := map_eq_ok.mp hd
  rfl

theorem Operation.keepsSource_of_library {o : Operation} (ho : o ∈ library) :
    KeepsSource o.read := by
  rcases mem_library.mp ho with rfl | rfl | rfl | rfl | rfl | rfl | rfl
  · exact keepsSource_readLiteral
  · exact keepsSource_readLiteral
  · exact keepsSource_readBare
  · exact keepsSource_readLiteral
  · exact keepsSource_readLiteral
  · exact keepsSource_readBare
  · intro source arguments d hd
    obtain ⟨text, -, hd⟩ := bind_eq_ok.mp hd
    split at hd
    · cases hd
      rfl
    · cases hd

namespace Registry

variable {r : Registry}

/-! ## Pieces -/

theorem Stocked.source_of_readSelect (h : r.Stocked) {form : SelectForm}
    (hd : form.ReadAs r d) : d.source.toList = form.text := by
  cases form with
  | bare key =>
    rw [Select.keepsSource_of_library h.default _ _ d hd]
    exact String.toList_ofList
  | named call =>
    obtain ⟨s, hs, hread⟩ := hd
    rw [Select.keepsSource_of_library (h.selects _ s hs).1 _ _ d hread]
    exact String.toList_ofList

theorem Stocked.source_of_readPredicate (h : r.Stocked) {form : PredicateForm}
    (hd : form.ReadAs r d) : d.source.toList = form.text := by
  obtain ⟨p, hp, hread⟩ := hd
  rw [(h.predicates _ p hp).1.keepsSource _ _ d hread]
  exact String.toList_ofList

theorem Stocked.source_of_readOperation (h : r.Stocked) {call : Call}
    (hd : call.ReadAsOperation r d) : d.source.toList = call.text := by
  obtain ⟨o, ho, hread⟩ := hd
  rw [Operation.keepsSource_of_library (h.operations _ o ho).1 _ _ d hread]
  exact String.toList_ofList

theorem Stocked.text_of_readSegment (h : r.Stocked) {form : SegmentForm} {s : Segment}
    (hs : form.ReadAs r s) : s.text.toList = form.text := by
  obtain ⟨select, predicate⟩ := form
  obtain ⟨selectDirective, predicateDirective⟩ := s
  have hselect : selectDirective.source.toList = select.text := h.source_of_readSelect hs.select
  have hpredicate := hs.predicate
  cases hpredicate with
  | none => simp [Segment.text, SegmentForm.text, hselect]
  | some hp => simp [Segment.text, SegmentForm.text, hselect, h.source_of_readPredicate hp]

theorem Stocked.pathText_of_readAs (h : r.Stocked) {forms : List SegmentForm} {path : List Segment}
    (hpath : List.Forall₂ (SegmentForm.ReadAs r) forms path) :
    (pathText path).toList = '/' :: forms.flatMap fun s => '/' :: s.text := by
  have hjoin : (String.join (path.map fun s => "/" ++ s.text)).toList =
      forms.flatMap fun s => '/' :: s.text := by
    induction hpath with
    | nil => rfl
    | cons hs _ ih => simp [ih, h.text_of_readSegment hs]
  simp [pathText, hjoin]

/-- A command has the text of every form that is read as it. -/
theorem Stocked.text_of_readAs (h : r.Stocked) {form : CommandForm} {c : Command}
    (hc : form.ReadAs r c) : c.text.toList = form.text := by
  obtain ⟨segments, operation⟩ := form
  obtain ⟨path, operationDirective⟩ := c
  have hpath := h.pathText_of_readAs hc.path
  have hoperation := hc.operation
  cases hoperation with
  | none => simp [Command.text, CommandForm.text, CommandForm.pathText, hpath]
  | some ho =>
    simp [Command.text, CommandForm.text, CommandForm.pathText, hpath, h.source_of_readOperation ho]

/-! ## Whole texts -/

theorem Assembled.text_of_parsePath (h : r.Assembled) (hdefault : r.defaultSelect = .literal)
    {text : String} {path : List Segment} (hpath : r.parsePath text = .ok path) :
    pathText path = text := by
  obtain ⟨forms, -, htext, hreads, -⟩ := forms_of_readPath hdefault hpath
  apply String.toList_inj.mp
  rw [h.stocked.pathText_of_readAs hreads]
  simpa [CommandForm.pathText] using htext

theorem Assembled.text_of_readCommand (h : r.Assembled) (hdefault : r.defaultSelect = .literal)
    {text : String} {c : Command} (hc : r.parseCommand text = .ok c) : c.text = text := by
  obtain ⟨form, htext, -, hread, -⟩ := form_of_readCommand hdefault hc
  apply String.toList_inj.mp
  rw [h.stocked.text_of_readAs hread, htext]

/-- A command that was read has the text that it was read from and is read from it again, so that
commands from different texts have different texts. -/
theorem Assembled.text_of_parseCommand (h : r.Assembled) (hdefault : r.defaultSelect = .literal) :
    (∀ text c, r.parseCommand text = .ok c → c.text = text ∧ r.parseCommand c.text = .ok c) ∧
    ∀ text text' c c', r.parseCommand text = .ok c → r.parseCommand text' = .ok c' →
      text ≠ text' → c.text ≠ c'.text := by
  constructor
  · intro text c hc
    have htext : c.text = text := h.text_of_readCommand hdefault hc
    exact ⟨htext, htext.symm ▸ hc⟩
  · intro text text' c c' hc hc' hne heq
    rw [h.text_of_readCommand hdefault hc, h.text_of_readCommand hdefault hc'] at heq
    exact hne heq

/-- Blanks around an argument, a quoted bracket, an escaped quote, a letter that is not ASCII, marks
of the grammar inside arguments and a negated predicate; a position is written with a sign and
zeros. -/
theorem text_of_parseCommand_negated :
    let text := "//+07#~eq( é/!# ,\")\\\"\" )/:each( )!set( \"/#!)\" )"
    ∃ c, builtin.parseCommand text = .ok c ∧ c.text = text ∧
      builtin.parseCommand c.text = .ok c := by
  intro text
  have hread : (builtin.parseCommand text).isOk := by decide +kernel
  cases hc : builtin.parseCommand text with
  | error e =>
    rw [hc] at hread
    cases hread
  | ok c => exact ⟨c, rfl, (assembled_builtin.text_of_parseCommand rfl).1 text c hc⟩

end Registry

end TreePath
