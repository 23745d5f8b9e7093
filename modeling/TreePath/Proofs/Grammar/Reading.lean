import TreePath.Grammar.Command
import TreePath.Proofs.Handler.Reading

/-!
# Commands are read by their grammar

A text is read as a command exactly if it is the text of an accepted form, and each handler is
handed its piece of the text and its arguments as they stand in it. A rescan of a part agrees with
the scan of the whole because the parts of a form are texts in which nothing separates.
-/

namespace TreePath

open Grammar

theorem scanned_eq_ok {α : Type} {text : List Char} {result : Except GrammarFault α} {a : α} :
    scanned text result = .ok a ↔ result = .ok a := by
  cases result <;> simp [scanned]

/-! ## What is read has a form -/

namespace Grammar

/-- The arguments of a call are balanced. -/
def Call.Enclosed (c : Call) : Prop := ∀ arguments ∈ c.arguments, Balanced arguments

def SelectForm.Enclosed : SelectForm → Prop
  | .bare _ => True
  | .named call => call.Enclosed

structure SegmentForm.Enclosed (s : SegmentForm) : Prop where
  select : s.select.Enclosed
  predicate : ∀ p ∈ s.predicate, p.call.Enclosed

/-- A tilde in front of a predicate's name is read as a negation and not as part of the name. -/
def SegmentForm.TildeFree (s : SegmentForm) : Prop :=
  ∀ p ∈ s.predicate, p.negated = false → p.call.name.head? ≠ some '~'

structure CommandForm.Enclosed (c : CommandForm) : Prop where
  segments : ∀ s ∈ c.segments, s.Enclosed
  operation : ∀ o ∈ c.operation, o.Enclosed

end Grammar

namespace Registry

variable {r : Registry}

theorem form_of_readSelect (hr : r.defaultSelect = .literal) {segment text : List Char}
    {d : Directive} (h : r.readSelect segment text = .ok d) :
    ∃ form : SelectForm, form.text = text ∧ form.ReadAs r d ∧ form.Enclosed := by
  simp only [readSelect, seq_eq_ok, scanned_eq_ok] at h
  obtain ⟨⟨name, arguments⟩, hcall, h⟩ := h
  obtain ⟨rfl, henclosed⟩ := text_of_splitCall hcall
  split at h
  · next name' hname =>
    obtain rfl : name = ':' :: name' := hname
    split at h
    · next s hs => exact ⟨.named ⟨name', arguments⟩, rfl, ⟨s, hs, h⟩, henclosed⟩
    · cases h
  · cases arguments with
    | some arguments => simp [hr, Select.literal, Select.readLiteral] at h
    | none => exact ⟨.bare name, by simp [SelectForm.text, Call.text], h, trivial⟩

theorem form_of_readPredicate {segment text : List Char} {d : Directive}
    (h : r.readPredicate segment text = .ok d) :
    ∃ form : PredicateForm, form.text = text ∧ form.ReadAs r d ∧ form.call.Enclosed ∧
      (form.negated = false → form.call.name.head? ≠ some '~') := by
  simp only [readPredicate, seq_eq_ok, scanned_eq_ok] at h
  obtain ⟨⟨name, arguments⟩, hcall, h⟩ := h
  obtain ⟨rfl, henclosed⟩ := text_of_splitCall hcall
  split at h
  · cases h
  split at h
  · next p hp =>
    by_cases htilde : ∃ rest, name = '~' :: rest
    · obtain ⟨rest, rfl⟩ := htilde
      exact ⟨⟨true, ⟨rest, arguments⟩⟩, rfl, ⟨p, hp, h⟩, henclosed, by simp⟩
    · refine ⟨⟨false, ⟨name, arguments⟩⟩, rfl, ⟨p, hp, h⟩, henclosed, fun _ hhead => ?_⟩
      obtain ⟨rest, hrest⟩ := List.head?_eq_some_iff.mp hhead
      exact htilde ⟨rest, hrest⟩
  · cases h

theorem form_of_readSegment (hr : r.defaultSelect = .literal) {segment : List Char} {s : Segment}
    (h : r.readSegment segment = .ok s) :
    ∃ form : SegmentForm, form.text = segment ∧ form.ReadAs r s ∧ form.Enclosed ∧
      form.TildeFree := by
  simp only [readSegment, seq_eq_ok, scanned_eq_ok] at h
  obtain ⟨⟨select, others⟩, hsplit, d, hselect, h⟩ := h
  obtain ⟨form, hform, hread, henclosed⟩ := form_of_readSelect hr hselect
  have htext := eq_joined_of_splitFrom hsplit
  simp only [joined] at htext
  cases others with
  | nil =>
    simp only [List.isEmpty_nil, if_true, pure_eq_ok] at h
    subst h
    refine ⟨⟨form, none⟩, ?_, ⟨hread, .none⟩, ⟨henclosed, by simp⟩, by simp [SegmentForm.TildeFree]⟩
    simp [SegmentForm.text, htext, hform]
  | cons next rest =>
    simp only [List.isEmpty_cons, Bool.false_eq_true, if_false, seq_eq_ok, pure_eq_ok] at h
    obtain ⟨d', hpredicate, rfl⟩ := h
    obtain ⟨p, hp, hread', henclosed', htilde⟩ := form_of_readPredicate hpredicate
    refine ⟨⟨form, some p⟩, ?_, ⟨hread, .some hread'⟩, ⟨henclosed, ?_⟩, ?_⟩
    · simp [SegmentForm.text, hp, hform, htext]
    · rintro q ⟨⟩
      exact henclosed'
    · rintro q ⟨⟩
      exact htilde

theorem forms_of_readSegments (hr : r.defaultSelect = .literal) {texts : List (List Char)}
    {path : List Segment} (h : r.readSegments texts = .ok path) :
    ∃ forms : List SegmentForm, forms.map SegmentForm.text = texts ∧
      List.Forall₂ (SegmentForm.ReadAs r) forms path ∧
      ∀ form ∈ forms, form.Enclosed ∧ form.TildeFree := by
  induction texts generalizing path with
  | nil =>
    cases h
    exact ⟨[], rfl, .nil, by simp⟩
  | cons text rest ih =>
    simp only [readSegments, seq_eq_ok, pure_eq_ok] at h
    obtain ⟨s, hs, others, hothers, rfl⟩ := h
    obtain ⟨form, htext, hread, hform⟩ := form_of_readSegment hr hs
    obtain ⟨forms, htexts, hreads, hforms⟩ := ih hothers
    exact ⟨form :: forms, by simp [htext, htexts], .cons hread hreads,
      List.forall_mem_cons.mpr ⟨hform, hforms⟩⟩

theorem forms_of_readPath (hr : r.defaultSelect = .literal) {text : List Char}
    {path : List Segment} (h : r.readPath text = .ok path) :
    ∃ forms : List SegmentForm, forms ≠ [] ∧ CommandForm.pathText ⟨forms, none⟩ = text ∧
      List.Forall₂ (SegmentForm.ReadAs r) forms path ∧
      ∀ form ∈ forms, form.Enclosed ∧ form.TildeFree := by
  simp only [readPath] at h
  split at h
  · next body =>
    simp only [seq_eq_ok, scanned_eq_ok] at h
    obtain ⟨_, _, h⟩ := h
    split at h
    · cases h
    · simp only [seq_eq_ok, scanned_eq_ok] at h
      obtain ⟨⟨first, others⟩, hsplit, h⟩ := h
      split at h
      · cases h
      · obtain ⟨forms, htexts, hreads, hforms⟩ := forms_of_readSegments hr h
        refine ⟨forms, ?_, ?_, hreads, hforms⟩
        · rintro rfl
          cases htexts
        · have hbody := eq_joined_of_splitFrom hsplit
          have hjoin : forms.flatMap (fun s => '/' :: s.text) =
              (first :: others).flatMap ('/' :: ·) := by
            rw [← htexts, List.flatMap_map]
          simp [CommandForm.pathText, hjoin, hbody, joined]
  · cases h

theorem call_of_readOperation {text : List Char} {d : Directive}
    (h : r.readOperation text = .ok d) :
    ∃ call : Call, call.text = text ∧ call.ReadAsOperation r d ∧ call.Enclosed := by
  simp only [readOperation] at h
  split at h
  · cases h
  · simp only [seq_eq_ok, scanned_eq_ok] at h
    obtain ⟨call, hcall, h⟩ := h
    obtain ⟨rfl, henclosed⟩ := text_of_splitCall hcall
    split at h
    · next o ho => exact ⟨call, rfl, ⟨o, ho, h⟩, henclosed⟩
    · cases h

/-- A text that is read as a command is the text of a form that is read as the command. -/
theorem form_of_readCommand (hr : r.defaultSelect = .literal) {text : List Char} {c : Command}
    (h : r.readCommand text = .ok c) :
    ∃ form : CommandForm, form.text = text ∧ form.segments ≠ [] ∧ form.ReadAs r c ∧
      form.Enclosed ∧ ∀ s ∈ form.segments, s.TildeFree := by
  simp only [readCommand, seq_eq_ok, scanned_eq_ok] at h
  obtain ⟨⟨pathText, parts⟩, hsplit, h⟩ := h
  have htext := eq_joined_of_splitFrom hsplit
  split at h
  · next hparts =>
    cases hparts
    simp only [seq_eq_ok, pure_eq_ok] at h
    obtain ⟨path, hpath, rfl⟩ := h
    obtain ⟨forms, hne, hforms, hreads, hall⟩ := forms_of_readPath hr hpath
    refine ⟨⟨forms, none⟩, ?_, hne, ⟨hreads, .none⟩, ⟨fun s hs => (hall s hs).1, by simp⟩,
      fun s hs => (hall s hs).2⟩
    simp [CommandForm.text, htext, joined, ← hforms, CommandForm.pathText]
  · next operation hparts =>
    cases hparts
    simp only [seq_eq_ok, pure_eq_ok] at h
    obtain ⟨d, hd, path, hpath, rfl⟩ := h
    obtain ⟨call, hcall, hreadCall, henclosed⟩ := call_of_readOperation hd
    obtain ⟨forms, hne, hforms, hreads, hall⟩ := forms_of_readPath hr hpath
    refine ⟨⟨forms, some call⟩, ?_, hne, ⟨hreads, .some hreadCall⟩,
      ⟨fun s hs => (hall s hs).1, ?_⟩, fun s hs => (hall s hs).2⟩
    · simp [CommandForm.text, htext, joined, ← hforms, hcall, CommandForm.pathText]
    · rintro o ⟨⟩
      exact henclosed
  · cases h

end Registry

end TreePath
