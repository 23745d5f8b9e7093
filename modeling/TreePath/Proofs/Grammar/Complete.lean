import TreePath.Proofs.Grammar.Reading

/-!
# The text of every accepted form is read

The pieces of an accepted form are texts in which no separator separates, so cutting the text of
the form gives the pieces back, and each of them is read as the form says. With the converse this
makes the built-in registry read exactly the texts of accepted forms.
-/

namespace TreePath

namespace Grammar

open Scan

/-! ## Words -/

/-- The characters of names, of bare keys and of positions. -/
def isWordChar (c : Char) : Bool := c.isAlphanum || c == '_' || c == '+'

/-- A text of word characters, at least one. -/
def IsWord (text : List Char) : Prop := text ≠ [] ∧ ∀ c ∈ text, isWordChar c

theorem ne_of_isWordChar {c d : Char} (h : isWordChar c) (hd : isWordChar d = false) : c ≠ d := by
  rintro rfl
  simp [h] at hd

theorem step_of_isWordChar {c : Char} (h : isWordChar c) : start.step c = some .start := by
  have hne (d : Char) (hd : isWordChar d = false) : c ≠ d := ne_of_isWordChar h hd
  simp [step, start, hne '\\' rfl, hne '"' rfl, hne '(' rfl, hne ')' rfl]

theorem val_of_isAlphanum {c : Char} (h : c.isAlphanum) : '0'.val ≤ c.val ∧ c.val ≤ 'z'.val := by
  rcases Bool.or_eq_true_iff.mp h with hletter | hdigit
  · rcases Bool.or_eq_true_iff.mp hletter with hupper | hlower
    · obtain ⟨hlow, hhigh⟩ := of_decide_eq_true hupper
      exact ⟨UInt32.le_trans (by decide) hlow, UInt32.le_trans hhigh (by decide)⟩
    · obtain ⟨hlow, hhigh⟩ := Bool.and_eq_true_iff.mp hlower
      exact ⟨UInt32.le_trans (by decide) (of_decide_eq_true hlow), of_decide_eq_true hhigh⟩
  · obtain ⟨hlow, hhigh⟩ := Bool.and_eq_true_iff.mp hdigit
    exact ⟨of_decide_eq_true hlow, UInt32.le_trans (of_decide_eq_true hhigh) (by decide)⟩

theorem isBlankChar_of_isWordChar {c : Char} (h : isWordChar c) : Text.isBlankChar c = false := by
  have hrange : 0x2B ≤ c.toNat ∧ c.toNat ≤ 0x7A := by
    simp only [isWordChar, Bool.or_eq_true, beq_iff_eq] at h
    rcases h with (h | rfl) | rfl
    · obtain ⟨hlow, hhigh⟩ := val_of_isAlphanum h
      exact ⟨Nat.le_trans (by decide) hlow, hhigh⟩
    · decide
    · decide
  simp [Text.isBlankChar, Text.spaceTable, Text.CodeTable.contains]
  omega

/-- Nothing separates in a word. -/
theorem IsWord.through {separator : Char} {text : List Char} (h : IsWord text)
    (hsep : isWordChar separator = false) : start.through separator text = some .start := by
  have hchars := h.2
  clear h
  induction text with
  | nil => rfl
  | cons c rest ih =>
    obtain ⟨hc, hrest⟩ := List.forall_mem_cons.mp hchars
    have hcut : start.separates separator c = false := by
      simp [separates, ne_of_isWordChar hc hsep]
    simp [Scan.through, hcut, step_of_isWordChar hc, ih hrest]

theorem IsWord.not_isBlank {text tail : List Char} (h : IsWord text) :
    Text.isBlank (text ++ tail) = false := by
  obtain ⟨hne, hchars⟩ := h
  obtain ⟨c, rest, rfl⟩ := List.exists_cons_of_ne_nil hne
  simp [Text.isBlank, isBlankChar_of_isWordChar (hchars c List.mem_cons_self)]

theorem IsPosition.isWord {text : List Char} (h : IsPosition text) : IsWord text := by
  obtain ⟨digits, htext, hne, hdigits, -⟩ := h
  have hword (c : Char) (hc : c ∈ digits) : isWordChar c := by
    simp [isWordChar, Char.isAlphanum, hdigits c hc]
  rcases htext with rfl | rfl
  · exact ⟨hne, hword⟩
  · exact ⟨List.cons_ne_nil _ _, List.forall_mem_cons.mpr ⟨rfl, hword⟩⟩

theorem IsName.isWord {text : List Char} (h : IsName text) : IsWord text := by
  obtain ⟨c, rest, rfl, hc, hrest⟩ := h
  refine ⟨List.cons_ne_nil _ _, List.forall_mem_cons.mpr ⟨?_, fun d hd => ?_⟩⟩
  · simp only [isWordChar, Char.isAlphanum]
    grind
  · simp only [isWordChar]
    grind

/-- The names of handlers are words. -/
theorem Takes.isWord {role : Role} {name : List Char} {arguments : Option (List Char)}
    (h : Takes role (String.ofList name) arguments) : IsWord name := by
  have hnames : String.ofList name ∈ ["last", "each", "eachr", "match", "isEmpty", "containsKey",
      "containsValue", "eq", "unset", "clear", "set", "setIfAbsent", "append", "appendIfAbsent",
      "times"] := by
    generalize String.ofList name = s at h
    cases h <;> simp_all <;> grind
  simp only [List.mem_cons, List.not_mem_nil, or_false, ofList_eq_iff] at hnames
  have hword (s : String) (hne : s.toList ≠ []) (hchars : s.toList.all isWordChar) :
      IsWord s.toList := ⟨hne, List.all_eq_true.mp hchars⟩
  rcases hnames with rfl | rfl | rfl | rfl | rfl | rfl | rfl | rfl | rfl | rfl | rfl | rfl | rfl |
    rfl | rfl <;> exact hword _ (by decide) rfl

/-! ## Cutting -/

theorem split_of_through {separator : Char} {text : List Char}
    (h : start.through separator text = some .start) : split separator text = .ok (text, []) := by
  rw [split, splitFrom_of_through h]
  rfl

/-- Parts in which nothing separates are the parts of the text they are joined to. -/
theorem split_joined {separator : Char} (hclose : separator ≠ ')')
    (hstep : start.step separator = some .start) {part : List Char} {parts : List (List Char)}
    (h : ∀ p ∈ part :: parts, start.through separator p = some .start) :
    split separator (joined separator (part, parts)) = .ok (part, parts) := by
  induction parts generalizing part with
  | nil => simpa [joined] using split_of_through (h part List.mem_cons_self)
  | cons next parts ih =>
    obtain ⟨hpart, hparts⟩ := List.forall_mem_cons.mp h
    have htext : joined separator (part, next :: parts) =
        part ++ separator :: joined separator (next, parts) := by
      simp [joined]
    rw [htext, split_append hclose hstep hpart, ← split, ih hparts]
    rfl

/-! ## The pieces of a form -/

/-- The characters at which a command, a path and a segment are cut. -/
def separators : List Char := ['!', '/', '#']

/-- Texts in which none of some separators separates. -/
def Whole (seps : List Char) (text : List Char) : Prop :=
  ∀ separator ∈ seps, start.through separator text = some .start

theorem Whole.append {seps a b : List Char} (ha : Whole seps a) (hb : Whole seps b) :
    Whole seps (a ++ b) := by
  intro separator hsep
  rw [through_append, ha separator hsep]
  exact hb separator hsep

/-- A character that is passed over at the top level does not count where others are cut at. -/
theorem Whole.cons {seps text : List Char} {c : Char} (hc : c ∉ seps)
    (hstep : start.step c = some .start) (h : Whole seps text) : Whole seps (c :: text) := by
  intro separator hsep
  have hne : c ≠ separator := fun heq => hc (heq ▸ hsep)
  have hcut : start.separates separator c = false := by simp [separates, hne]
  simp only [through, hcut, hstep, Option.bind_some]
  exact h separator hsep

theorem IsWord.whole {seps text : List Char} (h : IsWord text)
    (hseps : seps.all fun c => !isWordChar c) : Whole seps text := fun separator hsep => by
  have hchar := List.all_eq_true.mp hseps separator hsep
  exact h.through (by simpa using hchar)

theorem Call.whole_text {role : Role} {c : Call} (h : c.Accepted role) :
    Whole separators c.text := by
  obtain ⟨name, arguments⟩ := c
  refine (h.1.isWord.whole rfl).append fun separator hsep => ?_
  cases arguments with
  | none => rfl
  | some arguments =>
    have hne : '(' ≠ separator ∧ ')' ≠ separator := by
      simp only [separators, List.mem_cons, List.not_mem_nil, or_false] at hsep
      rcases hsep with rfl | rfl | rfl <;> decide
    have hafter := (balanced_iff_after arguments).mp (h.2 arguments rfl)
    simp [through, through_append, through_deeper hafter, separates, hne.1, hne.2, step_open,
      step_close]

/-- The text of a call is taken apart into the call. -/
theorem splitCall_text {c : Call} (hname : Whole ['('] c.name) (henclosed : c.Enclosed) :
    splitCall c.text = .ok c := by
  obtain ⟨name, arguments⟩ := c
  have hthrough := hname '(' List.mem_cons_self
  cases arguments with
  | none => simp [splitCall, Call.text, split_of_through hthrough, Except.bind]
  | some arguments => exact splitCall_of_balanced hthrough (henclosed arguments rfl)

theorem SelectForm.whole_text {form : SelectForm} (h : form.Accepted) :
    Whole separators form.text := by
  cases form with
  | bare key => exact (h.elim IsPosition.isWord IsName.isWord).whole rfl
  | named call => exact (Call.whole_text h).cons (by decide) rfl

theorem PredicateForm.whole_text {form : PredicateForm} (h : form.Accepted) :
    Whole separators form.text := by
  obtain ⟨negated, call⟩ := form
  cases negated with
  | false => exact Call.whole_text h
  | true => exact (Call.whole_text h).cons (by decide) rfl

theorem Whole.mono {seps others text : List Char} (h : Whole seps text)
    (hsub : ∀ c ∈ others, c ∈ seps) : Whole others text :=
  fun separator hsep => h separator (hsub separator hsep)

theorem SegmentForm.whole_text {form : SegmentForm} (h : form.Accepted) :
    Whole ['!', '/'] form.text := by
  obtain ⟨select, predicate⟩ := form
  refine ((SelectForm.whole_text h.1).mono (by simp [separators])).append ?_
  cases predicate with
  | none => exact fun _ _ => rfl
  | some p =>
    have hwhole : Whole ['!', '/'] p.text :=
      (PredicateForm.whole_text (h.2 p rfl)).mono (by simp [separators])
    exact hwhole.cons (by decide) rfl

theorem CommandForm.whole_pathText {form : CommandForm} (h : form.Accepted) :
    Whole ['!'] form.pathText := by
  have hsegments (segments : List SegmentForm) (hall : ∀ s ∈ segments, s.Accepted) :
      Whole ['!'] (segments.flatMap fun s => '/' :: s.text) := by
    induction segments with
    | nil => exact fun _ _ => rfl
    | cons s rest ih =>
      obtain ⟨hs, hrest⟩ := List.forall_mem_cons.mp hall
      exact (((SegmentForm.whole_text hs).mono (by simp)).cons (by decide) rfl).append (ih hrest)
  exact (hsegments _ h.segments).cons (by decide) rfl

theorem SegmentForm.not_isBlank_text {form : SegmentForm} (h : form.Accepted) :
    Text.isBlank form.text = false := by
  obtain ⟨select, predicate⟩ := form
  cases select with
  | bare key => exact (h.1.elim IsPosition.isWord IsName.isWord).not_isBlank
  | named call =>
    have hcolon : Text.isBlankChar ':' = false := by decide
    simp [SegmentForm.text, SelectForm.text, Text.isBlank, hcolon]

end Grammar

/-! ## Forms are read as they say -/

namespace Registry

open Grammar

variable {r : Registry}

theorem readSelect_text {form : SelectForm} {d : Directive} {segment : List Char}
    (h : form.Accepted) (hread : form.ReadAs r d) : r.readSelect segment form.text = .ok d := by
  simp only [readSelect, seq_eq_ok, scanned_eq_ok]
  cases form with
  | bare key =>
    have hword : IsWord key := h.elim IsPosition.isWord IsName.isWord
    have hcall := splitCall_text (c := ⟨key, none⟩) (hword.whole rfl) (by rintro _ ⟨⟩)
    refine ⟨⟨key, none⟩, by simpa [SelectForm.text, Call.text] using hcall, ?_⟩
    split
    · next rest heq =>
      obtain rfl : key = ':' :: rest := heq
      exact absurd (hword.2 ':' List.mem_cons_self) (by decide : ¬ isWordChar ':')
    · exact hread
  | named call =>
    obtain ⟨s, hs, hd⟩ := hread
    have hname : Whole ['('] (':' :: call.name) :=
      (h.1.isWord.whole rfl).cons (by decide) rfl
    have hcall := splitCall_text (c := ⟨':' :: call.name, call.arguments⟩) hname h.2
    exact ⟨⟨':' :: call.name, call.arguments⟩, hcall, by simpa only [hs] using hd⟩

theorem readPredicate_text {form : PredicateForm} {d : Directive} {segment : List Char}
    (h : form.Accepted) (hread : form.ReadAs r d) : r.readPredicate segment form.text = .ok d := by
  simp only [readPredicate, seq_eq_ok, scanned_eq_ok]
  obtain ⟨p, hp, hd⟩ := hread
  have hword := h.1.isWord
  have hname : Whole ['('] form.name ∧ form.name ≠ [] := by
    simp only [PredicateForm.name]
    split
    · exact ⟨(hword.whole rfl).cons (by decide) rfl, List.cons_ne_nil _ _⟩
    · exact ⟨hword.whole rfl, hword.1⟩
  have htext : form.text = Call.text ⟨form.name, form.call.arguments⟩ := by
    simp only [PredicateForm.text, PredicateForm.name, Call.text]
    split <;> rfl
  refine ⟨⟨form.name, form.call.arguments⟩, htext ▸ splitCall_text hname.1 h.2, ?_⟩
  rw [if_neg (by simpa using hname.2)]
  simpa only [hp] using hd

theorem readSegment_text {form : SegmentForm} {s : Segment} (h : form.Accepted)
    (hread : form.ReadAs r s) : r.readSegment form.text = .ok s := by
  obtain ⟨select, predicate⟩ := form
  obtain ⟨d, predicateDirective⟩ := s
  obtain ⟨hselect, hpredicate⟩ := hread
  have hwhole := SelectForm.whole_text h.1 '#' (by decide)
  simp only [readSegment, seq_eq_ok, scanned_eq_ok]
  cases hpredicate with
  | none =>
    refine ⟨(select.text, []), ?_, d, readSelect_text h.1 hselect, by simp [pure_eq_ok]⟩
    simpa [SegmentForm.text] using split_of_through hwhole
  | @some p d' hp =>
    have haccepted := h.2 p rfl
    have hcut : Grammar.split '#' (joined '#' (select.text, [p.text])) =
        .ok (select.text, [p.text]) := by
      refine split_joined (by decide) rfl (List.forall_mem_cons.mpr ⟨hwhole, ?_⟩)
      exact List.forall_mem_singleton.mpr (PredicateForm.whole_text haccepted '#' (by decide))
    refine ⟨(select.text, [p.text]), ?_, d, readSelect_text h.1 hselect, ?_⟩
    · simpa [joined, SegmentForm.text] using hcut
    · have hdrop : (SegmentForm.text ⟨select, some p⟩).drop (select.text.length + 1) = p.text := by
        simp [SegmentForm.text]
      simp [hdrop, readPredicate_text haccepted hp, bind, Except.bind, pure, Except.pure]

theorem readSegments_text {forms : List SegmentForm} {path : List Segment}
    (h : ∀ s ∈ forms, s.Accepted) (hread : List.Forall₂ (SegmentForm.ReadAs r) forms path) :
    r.readSegments (forms.map SegmentForm.text) = .ok path := by
  induction hread with
  | nil => rfl
  | cons hfirst _ ih =>
    obtain ⟨hform, hforms⟩ := List.forall_mem_cons.mp h
    simp only [List.map_cons, readSegments, seq_eq_ok, pure_eq_ok]
    exact ⟨_, readSegment_text hform hfirst, _, ih hforms, rfl⟩

theorem readPath_text {form : CommandForm} {path : List Segment} (h : form.Accepted)
    (hread : List.Forall₂ (SegmentForm.ReadAs r) form.segments path) :
    r.readPath form.pathText = .ok path := by
  have hwhole := CommandForm.whole_pathText h '!' List.mem_cons_self
  obtain ⟨first, rest, hsegments⟩ := List.exists_cons_of_ne_nil h.nonempty
  have haccepted := h.segments
  rw [hsegments] at hread haccepted
  have hbody : form.pathText = '/' :: '/' ::
      joined '/' (first.text, rest.map SegmentForm.text) := by
    simp [CommandForm.pathText, hsegments, joined, List.flatMap_map]
  have hcut : Grammar.split '/' (joined '/' (first.text, rest.map SegmentForm.text)) =
      .ok (first.text, rest.map SegmentForm.text) := by
    refine split_joined (by decide) rfl ?_
    rw [← List.map_cons, List.forall_mem_map]
    exact fun s hs => SegmentForm.whole_text (haccepted s hs) '/' (by decide)
  have hpresent : (first.text :: rest.map SegmentForm.text).any Text.isBlank = false := by
    rw [← List.map_cons, List.any_map, List.any_eq_false]
    intro s hs
    simp [SegmentForm.not_isBlank_text (haccepted s hs)]
  rw [hbody] at hwhole ⊢
  simp only [readPath, seq_eq_ok, scanned_eq_ok]
  refine ⟨_, split_of_through hwhole, ?_⟩
  simp only [List.isEmpty_nil, Bool.not_true, Bool.false_eq_true, if_false, seq_eq_ok,
    scanned_eq_ok]
  refine ⟨_, hcut, ?_⟩
  simp only [hpresent, Bool.false_eq_true, if_false]
  exact readSegments_text haccepted hread

theorem readOperation_text {call : Call} {d : Directive} (h : call.Accepted .operation)
    (hread : call.ReadAsOperation r d) : r.readOperation call.text = .ok d := by
  obtain ⟨o, ho, hd⟩ := hread
  have hword := h.1.isWord
  rw [readOperation, if_neg (by simp [Call.text, hword.not_isBlank])]
  simp only [seq_eq_ok, scanned_eq_ok]
  exact ⟨call, splitCall_text (hword.whole rfl) h.2, by simpa only [ho] using hd⟩

/-- The text of an accepted form is read as the form says. -/
theorem readCommand_text {form : CommandForm} {c : Command} (h : form.Accepted)
    (hread : form.ReadAs r c) : r.readCommand form.text = .ok c := by
  obtain ⟨path, operation⟩ := c
  obtain ⟨hpath, hoperation⟩ := hread
  have hwhole := CommandForm.whole_pathText h '!' List.mem_cons_self
  have hreadPath := readPath_text h hpath
  obtain ⟨segments, call⟩ := form
  simp only [readCommand, seq_eq_ok, scanned_eq_ok]
  cases hoperation with
  | none =>
    refine ⟨(CommandForm.pathText ⟨segments, none⟩, []), ?_, ?_⟩
    · simpa [CommandForm.text] using split_of_through hwhole
    · simp [hreadPath, bind, Except.bind, pure, Except.pure]
  | @some call d hcall =>
    have haccepted := h.operation call rfl
    have hcut : Grammar.split '!' (joined '!' (CommandForm.pathText ⟨segments, some call⟩,
        [call.text])) = .ok (CommandForm.pathText ⟨segments, some call⟩, [call.text]) := by
      refine split_joined (by decide) rfl (List.forall_mem_cons.mpr ⟨hwhole, ?_⟩)
      exact List.forall_mem_singleton.mpr (Call.whole_text haccepted '!' (by decide))
    refine ⟨(CommandForm.pathText ⟨segments, some call⟩, [call.text]), ?_, ?_⟩
    · simpa [joined, CommandForm.text] using hcut
    · simp [readOperation_text haccepted hcall, hreadPath, bind, Except.bind, pure, Except.pure]

/-- A text that is read as a path is read as the command of that path that only reads. -/
theorem readCommand_of_readPath {text : List Char} {path : List Segment}
    (h : r.readPath text = .ok path) : r.readCommand text = .ok ⟨path, none⟩ := by
  have hpath := h
  simp only [readPath] at h
  split at h
  · simp only [seq_eq_ok, scanned_eq_ok] at h
    obtain ⟨⟨first, operations⟩, hsplit, h⟩ := h
    split at h
    · cases h
    · next hnone =>
      obtain rfl : operations = [] := by simpa using hnone
      have htext := eq_joined_of_splitFrom hsplit
      simp only [joined, List.flatMap_nil, List.append_nil] at htext
      simp only [readCommand, seq_eq_ok, scanned_eq_ok]
      refine ⟨_, hsplit, ?_⟩
      simp [← htext, hpath, bind, Except.bind, pure, Except.pure]
  · cases h

/-- A text that is read as a command is read as its path if there is no operation; if there is one,
the text does not follow the grammar of paths. -/
theorem readPath_of_readCommand {text : List Char} {c : Command} (h : r.readCommand text = .ok c) :
    r.readPath text = .ok c.path ∨
      ∃ fault, r.readPath text = .error (.grammar fault (String.ofList text)) := by
  simp only [readCommand, seq_eq_ok, scanned_eq_ok] at h
  obtain ⟨⟨first, operations⟩, hsplit, h⟩ := h
  cases operations with
  | nil =>
    have htext := eq_joined_of_splitFrom hsplit
    simp only [joined, List.flatMap_nil, List.append_nil] at htext
    obtain ⟨path, hpath, h⟩ := seq_eq_ok.mp h
    obtain rfl := pure_eq_ok.mp h
    exact .inl (htext ▸ hpath)
  | cons operation others =>
    right
    simp only [readPath]
    split
    · next body =>
      exact ⟨.operationInPath, by simp [hsplit, scanned, bind, Except.bind]⟩
    · exact ⟨.missingRoot, rfl⟩

end Registry

/-! ## The built-in registry -/

namespace Grammar

theorem SelectForm.accepted_iff {form : SelectForm} :
    form.Accepted ↔ form.Enclosed ∧ ∃ d, form.ReadAs .builtin d := by
  cases form with
  | bare key =>
    have hread := @Select.readLiteral_isOk key
    exact ⟨fun h => ⟨trivial, hread.mpr h⟩, fun h => hread.mp h.2⟩
  | named call =>
    have htakes := @takes_select_iff call.arguments (String.ofList call.name)
      (String.ofList (SelectForm.named call).text)
    constructor
    · rintro ⟨h, henclosed⟩
      obtain ⟨s, d, hs, hd⟩ := htakes.mp h
      exact ⟨henclosed, d, s, hs, hd⟩
    · rintro ⟨henclosed, d, s, hs, hd⟩
      exact ⟨htakes.mpr ⟨s, d, hs, hd⟩, henclosed⟩

theorem PredicateForm.accepted_iff {form : PredicateForm}
    (htilde : form.negated = false → form.call.name.head? ≠ some '~') :
    form.Accepted ↔ form.call.Enclosed ∧ ∃ d, form.ReadAs .builtin d := by
  have htakes := @takes_predicate_iff form.call.arguments (String.ofList form.text) _ _ htilde
  constructor
  · rintro ⟨h, henclosed⟩
    obtain ⟨p, d, hp, hd⟩ := htakes.mp h
    exact ⟨henclosed, d, p, hp, hd⟩
  · rintro ⟨henclosed, d, p, hp, hd⟩
    exact ⟨htakes.mpr ⟨p, d, hp, hd⟩, henclosed⟩

theorem Call.accepted_operation_iff {call : Call} :
    call.Accepted .operation ↔ call.Enclosed ∧ ∃ d, call.ReadAsOperation .builtin d := by
  have htakes := @takes_operation_iff call.arguments (String.ofList call.name)
    (String.ofList call.text)
  constructor
  · rintro ⟨h, henclosed⟩
    obtain ⟨o, d, ho, hd⟩ := htakes.mp h
    exact ⟨henclosed, d, o, ho, hd⟩
  · rintro ⟨henclosed, d, o, ho, hd⟩
    exact ⟨htakes.mpr ⟨o, d, ho, hd⟩, henclosed⟩

theorem SegmentForm.accepted_of_readAs {form : SegmentForm} {s : Segment}
    (hread : form.ReadAs .builtin s) (henclosed : form.Enclosed) (htilde : form.TildeFree) :
    form.Accepted := by
  refine ⟨SelectForm.accepted_iff.mpr ⟨henclosed.select, s.select, hread.select⟩, fun p hp => ?_⟩
  obtain ⟨select, predicate⟩ := form
  obtain ⟨d, predicateDirective⟩ := s
  obtain ⟨-, hrel⟩ := hread
  cases hrel with
  | none => cases hp
  | some hd =>
    cases hp
    exact (PredicateForm.accepted_iff (htilde _ rfl)).mpr ⟨henclosed.predicate _ rfl, _, hd⟩

theorem SegmentForm.exists_readAs {form : SegmentForm} (h : form.Accepted) :
    ∃ s, form.ReadAs .builtin s := by
  obtain ⟨select, predicate⟩ := form
  obtain ⟨-, d, hd⟩ := SelectForm.accepted_iff.mp h.1
  cases predicate with
  | none => exact ⟨⟨d, none⟩, hd, .none⟩
  | some p =>
    have haccepted := h.2 p rfl
    have htilde : p.call.name.head? ≠ some '~' := by
      intro hhead
      have hmem := haccepted.1.isWord.2 '~' (List.mem_of_head? hhead)
      exact absurd hmem (by decide : ¬ isWordChar '~')
    obtain ⟨-, d', hd'⟩ := (PredicateForm.accepted_iff fun _ => htilde).mp haccepted
    exact ⟨⟨d, some d'⟩, hd, .some hd'⟩

theorem CommandForm.accepted_of_readAs {form : CommandForm} {c : Command}
    (hread : form.ReadAs .builtin c) (hne : form.segments ≠ []) (henclosed : form.Enclosed)
    (htilde : ∀ s ∈ form.segments, s.TildeFree) : form.Accepted := by
  obtain ⟨hpath, hrel⟩ := hread
  refine ⟨hne, fun s hs => ?_, fun call hcall => ?_⟩
  · obtain ⟨i, hi, rfl⟩ := List.getElem_of_mem hs
    have hsegment := hpath.get hi (hpath.length_eq ▸ hi)
    exact SegmentForm.accepted_of_readAs hsegment (henclosed.segments _ hs) (htilde _ hs)
  · obtain ⟨segments, operation⟩ := form
    obtain ⟨path, d⟩ := c
    cases hrel with
    | none => cases hcall
    | some hd =>
      cases hcall
      exact Call.accepted_operation_iff.mpr ⟨henclosed.operation _ rfl, _, hd⟩

theorem CommandForm.exists_readAs {form : CommandForm} (h : form.Accepted) :
    ∃ c, form.ReadAs .builtin c := by
  have hpath (segments : List SegmentForm) (hall : ∀ s ∈ segments, s.Accepted) :
      ∃ path, List.Forall₂ (SegmentForm.ReadAs .builtin) segments path := by
    induction segments with
    | nil => exact ⟨[], .nil⟩
    | cons s rest ih =>
      obtain ⟨hs, hrest⟩ := List.forall_mem_cons.mp hall
      obtain ⟨segment, hsegment⟩ := SegmentForm.exists_readAs hs
      obtain ⟨path, hpath⟩ := ih hrest
      exact ⟨segment :: path, .cons hsegment hpath⟩
  obtain ⟨path, hpath⟩ := hpath _ h.segments
  obtain ⟨segments, operation⟩ := form
  cases operation with
  | none => exact ⟨⟨path, none⟩, hpath, .none⟩
  | some call =>
    obtain ⟨-, d, hd⟩ := Call.accepted_operation_iff.mp (h.operation call rfl)
    exact ⟨⟨path, some d⟩, hpath, .some hd⟩

end Grammar

open Grammar

/-- The built-in registry reads exactly the texts of accepted forms. Whatever accepted form a text
is the text of, each handler is handed its own piece of the text and the text between the brackets
of its call as it stands. -/
theorem parseCommand_builtin_iff_accepted (text : String) :
    ((∃ c, Registry.builtin.parseCommand text = .ok c) ↔
      ∃ form : CommandForm, form.Accepted ∧ form.text = text.toList) ∧
    ∀ form : CommandForm, form.Accepted ∧ form.text = text.toList →
      ∃ c, Registry.builtin.parseCommand text = .ok c ∧ form.ReadAs .builtin c := by
  have hcomplete (form : CommandForm) (h : form.Accepted ∧ form.text = text.toList) :
      ∃ c, Registry.builtin.parseCommand text = .ok c ∧ form.ReadAs .builtin c := by
    obtain ⟨haccepted, htext⟩ := h
    obtain ⟨c, hread⟩ := CommandForm.exists_readAs haccepted
    refine ⟨c, ?_, hread⟩
    rw [Registry.parseCommand, ← htext]
    exact Registry.readCommand_text haccepted hread
  refine ⟨⟨?_, ?_⟩, hcomplete⟩
  · rintro ⟨c, hc⟩
    obtain ⟨form, htext, hne, hread, henclosed, htilde⟩ := Registry.form_of_readCommand rfl hc
    exact ⟨form, CommandForm.accepted_of_readAs hread hne henclosed htilde, htext⟩
  · rintro ⟨form, h⟩
    obtain ⟨c, hc, -⟩ := hcomplete form h
    exact ⟨c, hc⟩

/-- The text of a path, an exclamation mark and the text of an operation are read as the command
of that path and that operation. -/
theorem parseCommand_append {path operation : String} {segments : List Segment} {d : Directive}
    (hpath : Registry.builtin.parsePath path = .ok segments)
    (hoperation : Registry.builtin.parseOperation operation = .ok d) :
    Registry.builtin.parseCommand (path ++ "!" ++ operation) = .ok ⟨segments, some d⟩ := by
  obtain ⟨forms, hne, hpathText, hreads, hforms⟩ := Registry.forms_of_readPath rfl hpath
  obtain ⟨call, hcallText, hcall, henclosed⟩ := Registry.call_of_readOperation hoperation
  have hread : CommandForm.ReadAs .builtin ⟨forms, some call⟩ ⟨segments, some d⟩ :=
    ⟨hreads, .some hcall⟩
  have haccepted : CommandForm.Accepted ⟨forms, some call⟩ := by
    refine CommandForm.accepted_of_readAs hread hne ⟨fun s hs => (hforms s hs).1, ?_⟩
      fun s hs => (hforms s hs).2
    rintro o ⟨⟩
    exact henclosed
  have htext : (path ++ "!" ++ operation).toList = CommandForm.text ⟨forms, some call⟩ := by
    simp [CommandForm.text, hcallText, ← hpathText, CommandForm.pathText]
  rw [Registry.parseCommand, htext]
  exact Registry.readCommand_text haccepted hread

end TreePath
