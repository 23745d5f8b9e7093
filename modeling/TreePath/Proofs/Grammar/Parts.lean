import TreePath.Proofs.Grammar.Reading

/-!
# What the parts of a command were read by

Whatever the handlers of a registry are, each directive of a command that it reads comes from one of
them: a select from the default one or from the one that is registered under the name behind the
colon, a predicate or an operation from the one that is registered under its name. A command has at
least one segment.
-/

namespace TreePath

open Grammar

namespace Registry

variable {r : Registry} {segment text : List Char} {d : Directive} {s : Segment}
  {path : List Segment} {c : Command}

/-- A directive that the default select reads, or a registered one behind a colon. -/
def ReadsSelect (r : Registry) (d : Directive) : Prop :=
  (∃ source arguments, r.defaultSelect.read source arguments = .ok d) ∨
    ∃ name s rest arguments, r.select? name = some s ∧
      s.read (String.ofList (':' :: rest)) arguments = .ok d

/-- A directive that a registered predicate reads. -/
def ReadsPredicate (r : Registry) (d : Directive) : Prop :=
  ∃ name p source arguments, r.predicate? name = some p ∧ p.read source arguments = .ok d

/-- A directive that a registered operation reads. -/
def ReadsOperation (r : Registry) (d : Directive) : Prop :=
  ∃ name o source arguments, r.operation? name = some o ∧ o.read source arguments = .ok d

/-- A segment of directives that the handlers of a registry read. -/
structure ReadsSegment (r : Registry) (s : Segment) : Prop where
  select : r.ReadsSelect s.select
  predicate : ∀ d, s.predicate = some d → r.ReadsPredicate d

/-- A command of at least one segment, of directives that the handlers of a registry read. -/
structure ReadsCommand (r : Registry) (c : Command) : Prop where
  path_ne_nil : c.path ≠ []
  path : ∀ s ∈ c.path, r.ReadsSegment s
  operation : ∀ d, c.operation = some d → r.ReadsOperation d

theorem readsSelect_of_readSelect (h : r.readSelect segment text = .ok d) : r.ReadsSelect d := by
  obtain ⟨⟨name, arguments⟩, hcall, h⟩ := seq_eq_ok.mp h
  rw [scanned_eq_ok] at hcall
  obtain ⟨rfl, -⟩ := text_of_splitCall hcall
  split at h
  · next rest hname =>
    obtain rfl : name = ':' :: rest := hname
    split at h
    · next s hs => exact .inr ⟨_, s, _, _, hs, h⟩
    · cases h
  · exact .inl ⟨_, _, h⟩

theorem readsPredicate_of_readPredicate (h : r.readPredicate segment text = .ok d) :
    r.ReadsPredicate d := by
  obtain ⟨call, -, h⟩ := seq_eq_ok.mp h
  split at h
  · cases h
  · split at h
    · next p hp => exact ⟨_, p, _, _, hp, h⟩
    · cases h

theorem readsOperation_of_readOperation (h : r.readOperation text = .ok d) :
    r.ReadsOperation d := by
  rw [readOperation] at h
  split at h
  · cases h
  · obtain ⟨call, -, h⟩ := seq_eq_ok.mp h
    split at h
    · next o ho => exact ⟨_, o, _, _, ho, h⟩
    · cases h

theorem readsSegment_of_readSegment (h : r.readSegment segment = .ok s) : r.ReadsSegment s := by
  obtain ⟨⟨select, others⟩, -, h⟩ := seq_eq_ok.mp h
  obtain ⟨d, hselect, h⟩ := seq_eq_ok.mp h
  have hreads := readsSelect_of_readSelect hselect
  split at h
  · obtain rfl := pure_eq_ok.mp h
    exact ⟨hreads, nofun⟩
  · obtain ⟨d', hpredicate, h⟩ := seq_eq_ok.mp h
    obtain rfl := pure_eq_ok.mp h
    refine ⟨hreads, fun d'' hd'' => ?_⟩
    obtain rfl := Option.some.inj hd''
    exact readsPredicate_of_readPredicate hpredicate

/-- As many segments are read as there are texts of segments. -/
theorem readsSegments_of_readSegments {texts : List (List Char)}
    (h : r.readSegments texts = .ok path) :
    path.length = texts.length ∧ ∀ s ∈ path, r.ReadsSegment s := by
  induction texts generalizing path with
  | nil =>
    cases h
    exact ⟨rfl, List.forall_mem_nil _⟩
  | cons text rest ih =>
    obtain ⟨first, hfirst, h⟩ := seq_eq_ok.mp h
    obtain ⟨others, hothers, h⟩ := seq_eq_ok.mp h
    obtain rfl := pure_eq_ok.mp h
    obtain ⟨hlength, hreads⟩ := ih hothers
    exact ⟨congrArg (· + 1) hlength,
      List.forall_mem_cons.mpr ⟨readsSegment_of_readSegment hfirst, hreads⟩⟩

theorem readsSegments_of_readPath (h : r.readPath text = .ok path) :
    path ≠ [] ∧ ∀ s ∈ path, r.ReadsSegment s := by
  simp only [readPath] at h
  split at h
  · simp only [seq_eq_ok] at h
    obtain ⟨_, -, h⟩ := h
    split at h
    · cases h
    · obtain ⟨⟨first, others⟩, -, h⟩ := seq_eq_ok.mp h
      split at h
      · cases h
      · obtain ⟨hlength, hreads⟩ := readsSegments_of_readSegments h
        refine ⟨?_, hreads⟩
        rintro rfl
        cases hlength
  · cases h

/-- Each part of a command that was read was read by a handler. -/
theorem readsCommand_of_readCommand (h : r.readCommand text = .ok c) : r.ReadsCommand c := by
  obtain ⟨parts, -, h⟩ := seq_eq_ok.mp h
  split at h
  · obtain ⟨path, hpath, h⟩ := seq_eq_ok.mp h
    obtain rfl := pure_eq_ok.mp h
    obtain ⟨hne, hreads⟩ := readsSegments_of_readPath hpath
    exact ⟨hne, hreads, nofun⟩
  · obtain ⟨d, hoperation, h⟩ := seq_eq_ok.mp h
    obtain ⟨path, hpath, h⟩ := seq_eq_ok.mp h
    obtain rfl := pure_eq_ok.mp h
    obtain ⟨hne, hreads⟩ := readsSegments_of_readPath hpath
    refine ⟨hne, hreads, fun d' hd' => ?_⟩
    obtain rfl := Option.some.inj hd'
    exact readsOperation_of_readOperation hoperation
  · cases h

end Registry

end TreePath
