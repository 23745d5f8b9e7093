import TreePath.Proofs.Grammar.Operand

/-!
# Paths and what is written behind them

Further segments behind the text of a path are read exactly if they are read as a path of their
own, and a predicate behind a path whose last segment has none becomes the predicate of that
segment. A tilde in front of a predicate turns what it accepts into what it rejects and leaves its
failures.
-/

namespace TreePath

open Grammar

/-! ## Segments as they are written -/

namespace Grammar

/-- The text of some segments, each behind a slash. -/
def segmentsText (forms : List SegmentForm) : List Char :=
  forms.flatMap fun s => '/' :: s.text

variable {forms others : List SegmentForm} {form : SegmentForm} {rest : List Char}

theorem segmentsText_cons :
    segmentsText (form :: forms) = '/' :: (form.text ++ segmentsText forms) :=
  List.flatMap_cons

theorem segmentsText_append :
    segmentsText (forms ++ others) = segmentsText forms ++ segmentsText others :=
  List.flatMap_append

/-- A slash behind some segments: the text starts with a slash, whether there are segments or
not. -/
theorem exists_segmentsText_slash : ∃ tail, segmentsText forms ++ '/' :: rest = '/' :: tail := by
  cases forms with
  | nil => exact ⟨rest, rfl⟩
  | cons form forms => exact ⟨_, by rw [segmentsText_cons, List.cons_append]⟩

/-- Behind the text of some segments the text of more segments goes on with the segments that are
left. -/
theorem segmentsText_drop (hforms : ∀ s ∈ forms, s.Accepted)
    (hothers : ∀ s ∈ others, s.Accepted)
    (h : segmentsText forms ++ '/' :: rest = segmentsText others) :
    segmentsText (others.drop forms.length) = '/' :: rest := by
  induction forms generalizing others with
  | nil => exact h.symm
  | cons form forms ih =>
    cases others with
    | nil => simp [segmentsText] at h
    | cons other others =>
      obtain ⟨hform, hforms⟩ := List.forall_mem_cons.mp hforms
      rw [segmentsText_cons, segmentsText_cons, List.cons_append, List.cons.injEq] at h
      obtain ⟨-, h⟩ := h
      rw [List.append_assoc] at h
      have hcut : Grammar.split '/' (joined '/' (other.text, others.map SegmentForm.text)) =
          .ok (other.text, others.map SegmentForm.text) := by
        refine split_joined (by decide) rfl ?_
        rw [← List.map_cons, List.forall_mem_map]
        exact fun s hs => SegmentForm.whole_text (hothers s hs) '/' (by decide)
      have hjoined : joined '/' (other.text, others.map SegmentForm.text) =
          other.text ++ segmentsText others := by
        rw [joined, segmentsText, List.flatMap_map]
      -- Both texts are cut at their first slash, so their first segments are one.
      obtain ⟨tail, htail⟩ : ∃ tail, segmentsText forms ++ '/' :: rest = '/' :: tail :=
        exists_segmentsText_slash
      rw [hjoined, ← h, htail] at hcut
      obtain ⟨hfirst, -⟩ := split_append_separator (by decide) rfl
        (SegmentForm.whole_text hform '/' (by decide)) hcut
      rw [hfirst] at h
      exact ih hforms (List.forall_mem_cons.mp hothers).2 (List.append_cancel_left h)

end Grammar

/-! ## Predicates under another text -/

namespace Predicate

variable {p : Predicate} {source other : String} {arguments : Option String} {d d' : Directive}
  {v : Value}

/-- What a predicate makes of its arguments does not depend on the text that it is part of. -/
theorem Library.payload_read (h : p.Library) :
    (p.read source arguments).toOption.map Directive.payload =
      (p.read other arguments).toOption.map Directive.payload := by
  induction h with
  | containsKey =>
    simp only [Predicate.containsKey, readText, Handler.requireArguments]
    cases Handler.presentArguments? arguments <;> rfl
  | containsValue =>
    simp only [Predicate.containsValue, readText, Handler.requireArguments]
    cases Handler.presentArguments? arguments <;> rfl
  | isEmpty =>
    simp only [Predicate.isEmpty, Handler.readBare, Handler.rejectArguments]
    cases Handler.presentArguments? arguments <;> rfl
  | equalTo =>
    simp only [Predicate.equalTo, readPair, Handler.requireArguments]
    cases Handler.presentArguments? arguments with
    | none => rfl
    | some text =>
      simp only [Except.bind]
      split <;> rfl
  | @negation p _ ih =>
    simp only [Predicate.negation, toOption_map, Option.map_map, Directive.renamed,
      Function.comp_def]
    exact ih

/-- A directive that was read says by its payload alone what is accepted. -/
theorem Library.accepts_congr (h : p.Library) (hd : p.read source arguments = .ok d)
    (hpayload : d'.payload = d.payload) : p.accepts d' v = p.accepts d v := by
  induction h generalizing d d' with
  | containsKey =>
    obtain ⟨_, -, rfl⟩ := map_eq_ok.mp hd
    simp only [Predicate.containsKey, Directive.text, hpayload]
  | containsValue =>
    obtain ⟨_, -, rfl⟩ := map_eq_ok.mp hd
    simp only [Predicate.containsValue, Directive.text, hpayload]
  | isEmpty => rfl
  | equalTo =>
    obtain ⟨_, -, hd⟩ := bind_eq_ok.mp hd
    dsimp only at hd
    split at hd <;> cases hd
    simp only [Predicate.equalTo, Directive.pair, hpayload]
  | @negation p _ ih =>
    obtain ⟨inner, hinner, rfl⟩ := map_eq_ok.mp hd
    have hsame (e : Directive) (he : e.payload = inner.payload) :
        p.accepts e v = p.accepts inner v := ih hinner he
    simp only [Predicate.negation, hsame d' hpayload, hsame (inner.renamed _) rfl]

/-- Under a tilde a predicate that was read is read too, and rejects what it accepts. -/
theorem Library.exists_negation (h : p.Library) (hd : p.read source arguments = .ok d)
    (other : String) :
    ∃ d', p.negation.read other arguments = .ok d' ∧
      ∀ v, p.negation.accepts d' v = (p.accepts d v).map (!·) := by
  have hpayload : (p.read source arguments).toOption.map Directive.payload =
      (p.read other arguments).toOption.map Directive.payload := h.payload_read
  rw [hd] at hpayload
  obtain ⟨inner, hinner, hsame⟩ := Option.map_eq_some_iff.mp hpayload.symm
  refine ⟨inner.renamed p.negation.name, ?_, fun v => ?_⟩
  · simp only [Predicate.negation, toOption_eq_some.mp hinner, Except.map]
  · have haccepts : p.accepts (inner.renamed p.negation.name) v = p.accepts d v :=
      h.accepts_congr hd hsame
    exact congrArg (Except.map (!·)) haccepts

end Predicate

namespace Registry

variable {text rest : String} {forms : List SegmentForm} {path segments : List Segment}

/-- The segments of a text as they are written, with what they are read as. -/
structure Written (text : String) (forms : List SegmentForm) (path : List Segment) : Prop where
  text : text.toList = '/' :: segmentsText forms
  ne_nil : forms ≠ []
  accepted : ∀ s ∈ forms, s.Accepted
  read : List.Forall₂ (SegmentForm.ReadAs builtin) forms path

theorem Written.parsePath (h : Written text forms path) : builtin.parsePath text = .ok path := by
  have hform : CommandForm.Accepted ⟨forms, none⟩ := ⟨h.ne_nil, h.accepted, nofun⟩
  rw [Registry.parsePath, h.text]
  exact readPath_text hform h.read

theorem exists_written (h : builtin.parsePath text = .ok path) :
    ∃ forms, Written text forms path := by
  obtain ⟨forms, hne, htext, hreads, hforms⟩ := forms_of_readPath rfl h
  have haccepted : CommandForm.Accepted ⟨forms, none⟩ :=
    CommandForm.accepted_of_readAs (c := ⟨path, none⟩) ⟨hreads, .none⟩ hne
      ⟨fun s hs => (hforms s hs).1, nofun⟩ fun s hs => (hforms s hs).2
  exact ⟨forms, htext.symm, hne, haccepted.segments, hreads⟩

/-- Segments behind a path are read as they are read by themselves. -/
theorem parsePath_append_iff (hpath : builtin.parsePath text = .ok path) :
    builtin.parsePath (text ++ "/" ++ rest) = .ok segments ↔
      ∃ others, builtin.parsePath ("//" ++ rest) = .ok others ∧ segments = path ++ others := by
  obtain ⟨forms, hwritten⟩ := exists_written hpath
  have happend {others : List Segment} (h : builtin.parsePath ("//" ++ rest) = .ok others) :
      builtin.parsePath (text ++ "/" ++ rest) = .ok (path ++ others) := by
    obtain ⟨more, hmore⟩ := exists_written h
    have hrest : '/' :: rest.toList = segmentsText more := by
      simpa using hmore.text
    have hboth : Written (text ++ "/" ++ rest) (forms ++ more) (path ++ others) := by
      refine ⟨?_, List.append_ne_nil_of_left_ne_nil hwritten.ne_nil _, ?_, ?_⟩
      · simp [hwritten.text, segmentsText_append, ← hrest]
      · exact List.forall_mem_append.mpr ⟨hwritten.accepted, hmore.accepted⟩
      · exact List.rel_append hwritten.read hmore.read
    exact hboth.parsePath
  constructor
  · intro h
    obtain ⟨all, hall⟩ := exists_written h
    have htext : segmentsText forms ++ '/' :: rest.toList = segmentsText all := by
      simpa [hwritten.text] using hall.text
    have hdrop := segmentsText_drop hwritten.accepted hall.accepted htext
    have hothers : Written ("//" ++ rest) (all.drop forms.length)
        (segments.drop forms.length) := by
      refine ⟨?_, ?_, ?_, ?_⟩
      · simp [hdrop]
      · intro hnil
        rw [hnil] at hdrop
        cases hdrop
      · exact fun s hs => hall.accepted s (List.mem_of_mem_drop hs)
      · exact List.forall₂_drop forms.length hall.read
    exact ⟨_, hothers.parsePath, Except.ok.inj (h.symm.trans (happend hothers.parsePath))⟩
  · rintro ⟨others, hothers, rfl⟩
    exact happend hothers

/-- What stands behind the text of a path, nothing or a slash and more segments, may stand behind
that of any other path. -/
theorem exists_parsePath_suffix {suffix : String} (hpath : builtin.parsePath text = .ok path)
    (hsuffix : suffix = "" ∨ ∃ rest, suffix = "/" ++ rest)
    (h : builtin.parsePath (text ++ suffix) = .ok segments) :
    ∃ others, ∀ other front, builtin.parsePath other = .ok front →
      builtin.parsePath (other ++ suffix) = .ok (front ++ others) := by
  rcases hsuffix with rfl | ⟨rest, rfl⟩
  · refine ⟨[], fun other front hfront => ?_⟩
    rwa [String.append_empty, List.append_nil]
  · rw [← String.append_assoc] at h
    obtain ⟨others, hothers, -⟩ := (parsePath_append_iff hpath).mp h
    refine ⟨others, fun other front hfront => ?_⟩
    rw [← String.append_assoc]
    exact (parsePath_append_iff hfront).mpr ⟨others, hothers, rfl⟩

/-! ## Predicates -/

variable {front : List Segment} {select d : Directive} {segment : List Char} {predicate : String}
  {v : Value}

theorem exists_predicateForm {text : List Char} (h : builtin.readPredicate segment text = .ok d) :
    ∃ form : PredicateForm, form.text = text ∧ form.Accepted ∧ form.ReadAs builtin d := by
  obtain ⟨form, htext, hread, henclosed, htilde⟩ := form_of_readPredicate h
  exact ⟨form, htext, (PredicateForm.accepted_iff htilde).mpr ⟨henclosed, d, hread⟩, hread⟩

/-- A predicate behind a path is that of the last segment, if this has none. -/
theorem parsePath_predicate (hpath : builtin.parsePath text = .ok (front ++ [⟨select, none⟩]))
    (h : builtin.readPredicate segment predicate.toList = .ok d) :
    builtin.parsePath (text ++ "#" ++ predicate) = .ok (front ++ [⟨select, some d⟩]) := by
  obtain ⟨forms, hwritten⟩ := exists_written hpath
  obtain ⟨p, hp, haccepted, hread⟩ := exists_predicateForm h
  have hbefore := List.forall₂_take_append _ _ _ hwritten.read
  have hlast := List.forall₂_drop_append _ _ _ hwritten.read
  have hforms := (List.take_append_drop front.length forms).symm
  generalize forms.take front.length = before at hbefore hforms
  generalize forms.drop front.length = last at hlast hforms
  match last, hlast with
  | [⟨form, _⟩], .cons ⟨hselect, .none⟩ .nil =>
    subst hforms
    obtain ⟨hall, hform⟩ := List.forall_mem_append.mp hwritten.accepted
    obtain ⟨hform, -⟩ := List.forall_mem_singleton.mp hform
    have hadded : Written (text ++ "#" ++ predicate) (before ++ [⟨form, some p⟩])
        (front ++ [⟨select, some d⟩]) := by
      refine ⟨?_, List.append_ne_nil_of_right_ne_nil _ (List.cons_ne_nil _ _), ?_, ?_⟩
      · simp [hwritten.text, segmentsText, SegmentForm.text, hp]
      · refine List.forall_mem_append.mpr ⟨hall, List.forall_mem_singleton.mpr ⟨hform, ?_⟩⟩
        exact fun q hq => Option.some.inj hq ▸ haccepted
      · exact List.rel_append hbefore (.cons ⟨hselect, .some hread⟩ .nil)
    exact hadded.parsePath

theorem library_of_mem {name : String} {p : Predicate}
    (h : (name, p) ∈ [("containsKey", Predicate.containsKey), ("containsValue", .containsValue),
      ("isEmpty", .isEmpty), ("eq", .equalTo)]) : p.Library ∧ p.name = name := by
  simp only [List.mem_cons, Prod.mk.injEq, List.not_mem_nil, or_false] at h
  rcases h with ⟨rfl, rfl⟩ | ⟨rfl, rfl⟩ | ⟨rfl, rfl⟩ | ⟨rfl, rfl⟩
  · exact ⟨.containsKey, rfl⟩
  · exact ⟨.containsValue, rfl⟩
  · exact ⟨.isEmpty, rfl⟩
  · exact ⟨.equalTo, rfl⟩

/-- A directive that a predicate read is a matter of this predicate, if it is found by its name. -/
theorem accepts_of_read {p : Predicate} {source : String} {arguments : Option String}
    (hp : builtin.predicate? p.name = some p) (h : p.Library)
    (hd : p.read source arguments = .ok d) : builtin.accepts (some d) v = p.accepts d v := by
  have hname := (Predicate.serves_of_library h source arguments d hd).1
  simp only [accepts, predicateFor, hname, Option.getD_some, hp, Except.bind]

/-- A tilde in front of a predicate that has none turns what is kept of the children. -/
theorem exists_readPredicate_tilde (h : builtin.readPredicate segment predicate.toList = .ok d)
    (htilde : predicate.toList.head? ≠ some '~') :
    ∃ d', builtin.readPredicate segment ("~" ++ predicate).toList = .ok d' ∧
      ∀ v, builtin.accepts (some d') v = (builtin.accepts (some d) v).map (!·) := by
  obtain ⟨⟨negated, call⟩, htext, haccepted, p, hp, hd⟩ := exists_predicateForm h
  cases negated with
  | true =>
    rw [← htext] at htilde
    exact absurd rfl htilde
  | false =>
    have hhead : call.name.head? ≠ some '~' := by
      intro hhead
      have hword := haccepted.1.isWord.2 '~' (List.mem_of_head? hhead)
      exact absurd hword (by decide : ¬ isWordChar '~')
    obtain ⟨q, heq, hq⟩ := (@predicate?_builtin false _ (fun _ => hhead) _).mp hp
    obtain rfl : p = q := heq
    obtain ⟨hlibrary, hname⟩ := library_of_mem hq
    obtain ⟨d', hd', hopposite⟩ := hlibrary.exists_negation hd
      (String.ofList (PredicateForm.text ⟨true, call⟩))
    have hfind : builtin.predicate? (String.ofList ('~' :: call.name)) = some p.negation :=
      (@predicate?_builtin true _ nofun _).mpr ⟨p, rfl, hq⟩
    refine ⟨d', ?_, fun v => ?_⟩
    · have htilded : ("~" ++ predicate).toList = PredicateForm.text ⟨true, call⟩ := by
        simp [PredicateForm.text, ← htext]
      rw [htilded]
      exact readPredicate_text haccepted ⟨p.negation, hfind, hd'⟩
    · rw [accepts_of_read (hname ▸ hp) hlibrary hd, ← hopposite v]
      refine accepts_of_read ?_ hlibrary.negation hd'
      have hnegation : p.negation.name = String.ofList ('~' :: call.name) := by
        simp [Predicate.negation, hname]
      rw [hnegation, hfind]

end Registry

end TreePath
