import TreePath.Proofs.Grammar.Complete
import TreePath.Proofs.Grammar.Parts
import TreePath.Proofs.Registry.Assembled
import TreePath.Proofs.Run.Failure

/-!
# Commands and the registry that read them

A registry of library handlers looks up the handlers of a command twice, by what stands in the text
and by the names in the directives, and meets the same handlers but in one case. The default select
reads bare segments without being asked for by name; if it is another one than that of the library,
it gives its own name to what it reads, and this name need not be registered.
-/

namespace TreePath.Registry

open Grammar Run

variable {r : Registry} {s : Segment} {d : Directive} {c : Command} {tree : Value} {e : Error}

/-- The default select gives no name to what it reads, or it is registered under its name. -/
def FindsDefault (r : Registry) : Prop :=
  r.defaultSelect = .literal ∨ r.select? r.defaultSelect.name = some r.defaultSelect

/-- An error that is not that of a foreign directive, unless the default select is not found. -/
def Expects (r : Registry) (e : Error) : Prop :=
  e.isForeign = false ∨ ¬ r.FindsDefault ∧ e = unknown .select r.defaultSelect.name

/-- A command ends with an error where its count or its results are asked for, or the query of its
path does. -/
def EndsWith (r : Registry) (c : Command) (tree : Value) (e : Error) : Prop :=
  (r.executeCount c tree).2 = .error e ∨ (r.executeResult c tree).2 = .error e ∨
    r.selectValues c.path tree = .error e

/-! ## Handlers that are found again -/

/-- Nothing else than the default select is registered under its name. -/
theorem Stocked.select?_default (h : r.Stocked) :
    r.select? r.defaultSelect.name = none ∨
      r.select? r.defaultSelect.name = some r.defaultSelect := by
  cases hfound : r.select? r.defaultSelect.name with
  | none => exact .inl rfl
  | some s =>
    obtain ⟨hlibrary, hname⟩ := h.selects _ s hfound
    exact .inr (congrArg some (Select.eq_of_name hlibrary h.default hname))

/-- A directive that a select read has a select that is found and acts on it, or it is one of a
default select that is not found. -/
theorem Stocked.select_found (h : r.Stocked) (hd : r.ReadsSelect d) :
    (∃ s, r.selectFor d = .ok s ∧ ∀ v, Native (s.keys d v)) ∨
      ¬ r.FindsDefault ∧ r.selectFor d = .error (unknown .select r.defaultSelect.name) := by
  rcases hd with ⟨source, arguments, hread⟩ | ⟨name, s, rest, arguments, hs, hread⟩
  -- What the default select reads has no name, or its own name, which is looked up again.
  · by_cases hliteral : r.defaultSelect = .literal
    · rw [hliteral] at hread
      obtain ⟨hname, hkeys⟩ := Select.serves_literal hread
      refine .inl ⟨.literal, ?_, hkeys⟩
      simp only [selectFor, hname, hliteral]
    · obtain ⟨hname, hacts⟩ := Select.serves_named h.default hliteral source arguments d hread
      rcases h.select?_default with hnone | hsome
      · refine .inr ⟨?_, by simp only [selectFor, hname, hnone]⟩
        rintro (heq | hregistered)
        · exact hliteral heq
        · cases hnone.symm.trans hregistered
      · exact .inl ⟨_, by simp only [selectFor, hname, hsome], hacts d rfl⟩
  -- The select of bare segments may be registered too, but reads nothing behind a colon.
  · obtain ⟨hlibrary, rfl⟩ := h.selects name s hs
    have hne : s ≠ .literal := by
      rintro rfl
      exact Select.literal_read_colon hread
    obtain ⟨hname, hacts⟩ := Select.serves_named hlibrary hne _ _ d hread
    exact .inl ⟨s, by simp only [selectFor, hname, hs], hacts d rfl⟩

theorem Stocked.predicate_found (h : r.Stocked) (hd : r.ReadsPredicate d) :
    ∃ p, r.predicateFor d = .ok p ∧ ∀ v, Native (p.accepts d v) := by
  obtain ⟨name, p, source, arguments, hp, hread⟩ := hd
  obtain ⟨hlibrary, rfl⟩ := h.predicates name p hp
  obtain ⟨hname, hacts⟩ := Predicate.serves_of_library hlibrary _ _ d hread
  exact ⟨p, by simp only [predicateFor, hname, Option.getD_some, hp], hacts d rfl⟩

theorem Stocked.operation_found (h : r.Stocked) (hd : r.ReadsOperation d) :
    ∃ o, r.operationFor d = .ok o ∧ ∀ v key, Native (o.act d v key).2 := by
  obtain ⟨name, o, source, arguments, ho, hread⟩ := hd
  obtain ⟨hlibrary, rfl⟩ := h.operations name o ho
  obtain ⟨hname, hacts⟩ := Operation.serves_of_library hlibrary _ _ d hread
  exact ⟨o, by simp only [operationFor, hname, Option.getD_some, ho], hacts d rfl⟩

theorem Stocked.handles (h : r.Stocked) (hs : r.ReadsSegment s) : r.Handles r.Expects s := by
  have hselect : FailsIn r.Expects (r.selectFor s.select) := by
    rcases h.select_found hs.select with ⟨t, ht, -⟩ | ⟨hdefault, hunknown⟩
    · rw [ht]
      exact failsIn_ok
    · rw [hunknown]
      exact failsIn_error.mpr (.inr ⟨hdefault, rfl⟩)
  refine ⟨hselect, fun v => ?_, fun child => ?_⟩
  · refine (native_ensureContainer.mono fun _ => .inl).bind fun _ _ => hselect.bind fun t ht => ?_
    rcases h.select_found hs.select with ⟨t', ht', hkeys⟩ | ⟨-, hunknown⟩
    · obtain rfl := Except.ok.inj (ht'.symm.trans ht)
      exact (hkeys v).mono fun _ => .inl
    · cases hunknown.symm.trans ht
  · cases hd : s.predicate with
    | none => exact failsIn_ok
    | some d =>
      obtain ⟨p, hp, haccepts⟩ := h.predicate_found (hs.predicate d hd)
      rw [accepts, hp]
      exact (haccepts child).mono fun _ => .inl

/-! ## Commands that were read -/

/-- A command that was read ends with no error of a foreign directive, unless the default select is
not found. -/
theorem Stocked.expects (h : r.Stocked) (hc : r.ReadsCommand c) (hend : r.EndsWith c tree e) :
    r.Expects e := by
  have hhandles : ∀ s ∈ c.path, r.Handles r.Expects s := fun s hs => h.handles (hc.path s hs)
  have hrun : (r.run c tree).StopsIn r.Expects :=
    stopsIn_run (fun _ => .inl) hc.path_ne_nil hhandles fun d hd =>
      h.operation_found (hc.operation d hd)
  rcases hend with hcount | hresult | hquery
  · exact hrun e (executeCount_eq_error.mp hcount)
  · exact hrun e (executeResult_eq_error.mp hresult)
  · have hlook := looksUp_of_native (P := r.Expects) fun _ => .inl
    exact failsIn_selectValues hlook (.inl rfl)
      (fun s hs => ⟨hhandles s hs, fun _ _ _ _ _ => trivial⟩) e hquery

/-! ## A default select that is not found -/

/-- A path of one segment without a colon and a predicate is what the default select reads. -/
theorem parseCommand_default {text : List Char} {call : Call} (hwhole : Whole separators text)
    (hpresent : Text.isBlank text = false) (hcall : splitCall text = .ok call)
    (hcolon : call.name.head? ≠ some ':')
    (hread : r.defaultSelect.read (String.ofList call.name) (call.arguments.map String.ofList) =
      .ok d) :
    r.parseCommand (String.ofList ('/' :: '/' :: text)) = .ok ⟨[⟨d, none⟩], none⟩ := by
  have hcut (separator : Char) (hmem : separator ∈ separators) :
      Grammar.split separator text = .ok (text, []) :=
    split_of_through (hwhole separator hmem)
  have hselect : r.readSelect text text = .ok d := by
    simp only [readSelect, seq_eq_ok, scanned_eq_ok]
    refine ⟨call, hcall, ?_⟩
    split
    · next rest hname => exact absurd (congrArg List.head? hname) hcolon
    · exact hread
  have hsegment : r.readSegment text = .ok ⟨d, none⟩ := by
    simp only [readSegment, seq_eq_ok, scanned_eq_ok]
    exact ⟨(text, []), hcut '#' (by decide), d, hselect, rfl⟩
  have hpath : r.readPath ('/' :: '/' :: text) = .ok [⟨d, none⟩] := by
    have hslashes : Whole ['!'] ('/' :: '/' :: text) :=
      ((hwhole.mono (by simp [separators])).cons (by decide) rfl).cons (by decide) rfl
    simp only [readPath, seq_eq_ok, scanned_eq_ok]
    refine ⟨_, split_of_through (hslashes '!' List.mem_cons_self), ?_⟩
    simp only [List.isEmpty_nil, Bool.not_true, Bool.false_eq_true, if_false, seq_eq_ok,
      scanned_eq_ok]
    refine ⟨(text, []), hcut '/' (by decide), ?_⟩
    simp only [List.any_cons, List.any_nil, hpresent, Bool.or_self, Bool.false_eq_true, if_false]
    simp only [readSegments, seq_eq_ok]
    exact ⟨_, hsegment, [], rfl, rfl⟩
  rw [parseCommand, String.toList_ofList]
  exact readCommand_of_readPath hpath

/-- Where the default select is not found, a command can be read that fails for this reason on
every tree. -/
theorem Stocked.exists_unknown (h : r.Stocked) (hdefault : ¬ r.FindsDefault) :
    ∃ text c, r.parseCommand text = .ok c ∧
      ∀ tree, r.EndsWith c tree (unknown .select r.defaultSelect.name) := by
  obtain ⟨hliteral, hregistered⟩ := not_or.mp hdefault
  -- The select by a pattern needs an argument, the others take none.
  have hread : ∃ arguments ∈ [none, some ['a']], ∃ d,
      r.defaultSelect.read "a" (arguments.map String.ofList) = .ok d := by
    rcases Select.mem_library.mp h.default with heq | heq | heq | heq | heq <;> rw [heq]
    · exact absurd heq hliteral
    · exact ⟨none, by decide, _, rfl⟩
    · exact ⟨none, by decide, _, rfl⟩
    · exact ⟨none, by decide, _, rfl⟩
    · exact ⟨some ['a'], by decide, _, rfl⟩
  obtain ⟨arguments, harguments, d, hd⟩ := hread
  have hcall : (∀ separator ∈ separators,
        Scan.start.through separator (Call.text ⟨['a'], arguments⟩) = some .start) ∧
      Text.isBlank (Call.text ⟨['a'], arguments⟩) = false ∧
      splitCall (Call.text ⟨['a'], arguments⟩) = .ok ⟨['a'], arguments⟩ := by
    simp only [List.mem_cons, List.not_mem_nil, or_false] at harguments
    simp only [separators, List.forall_mem_cons]
    rcases harguments with rfl | rfl
    · exact ⟨⟨rfl, rfl, rfl, List.forall_mem_nil _⟩, by decide, rfl⟩
    · exact ⟨⟨rfl, rfl, rfl, List.forall_mem_nil _⟩, by decide, rfl⟩
  obtain ⟨hwhole, hpresent, hsplit⟩ := hcall
  have hc := parseCommand_default hwhole hpresent hsplit (show some 'a' ≠ some ':' by decide) hd
  obtain ⟨hname, -⟩ := Select.serves_named h.default hliteral _ _ d hd
  have hnone := h.select?_default.resolve_right hregistered
  refine ⟨_, _, hc, fun tree => .inr (.inl ?_)⟩
  rw [executeResult_eq_error, run]
  simp only [List.getLast?_singleton, selectFor, hname, hnone]
  rfl

/-- Whatever a registry of library handlers has read, it runs without missing a payload, and the
only handler that it may not find is its default select. It finds all handlers of all commands that
it reads exactly if the default select gives no name to what it reads or is registered under its
name. -/
theorem Assembled.executes (h : r.Assembled) :
    (∀ text c, r.parseCommand text = .ok c → ∀ tree e, r.EndsWith c tree e →
      e.isMissingPayload = false ∧
        (e.isUnknownDirective → e = unknown .select r.defaultSelect.name)) ∧
    ((∀ text c, r.parseCommand text = .ok c → ∀ tree e, r.EndsWith c tree e →
      e.isUnknownDirective = false) ↔ r.FindsDefault) := by
  have hexpects {text : String} {c : Command} (hc : r.parseCommand text = .ok c) {tree : Value}
      {e : Error} (hend : r.EndsWith c tree e) : r.Expects e :=
    h.stocked.expects (readsCommand_of_readCommand hc) hend
  refine ⟨fun text c hc tree e hend => ?_, fun hnever => ?_,
    fun hdefault text c hc tree e hend => ?_⟩
  · rcases hexpects hc hend with hnative | ⟨-, rfl⟩
    · obtain ⟨hknown, hpayload⟩ := Bool.or_eq_false_iff.mp hnative
      exact ⟨hpayload, fun hunknown => absurd hunknown (by rw [hknown]; decide)⟩
    · exact ⟨rfl, fun _ => rfl⟩
  · by_contra hdefault
    obtain ⟨text, c, hc, hfails⟩ := h.stocked.exists_unknown hdefault
    cases hnever text c hc (.bool true) _ (hfails _)
  · rcases hexpects hc hend with hnative | ⟨hmissing, -⟩
    · exact (Bool.or_eq_false_iff.mp hnative).1
    · exact absurd hdefault hmissing

/-- A default select that is also registered: bare segments are the same as `:each`. -/
theorem executes_registered_default :
    let r := (empty.withSelect .each).withDefaultSelect .each
    r.Assembled ∧ r.FindsDefault ∧ ∀ text c, r.parseCommand text = .ok c →
      ∀ tree e, r.EndsWith c tree e → e.isUnknownDirective = false := by
  intro r
  have hr : r.Assembled := (Assembled.empty.withSelect (by simp [Select.library])).withDefaultSelect
    (by simp [Select.library])
  have hdefault : r.FindsDefault := .inr rfl
  exact ⟨hr, hdefault, hr.executes.2.mpr hdefault⟩

/-- A default select that is not registered reads a bare segment and is not found when it is run. -/
theorem unknown_unregistered_default :
    let r := empty.withDefaultSelect .each
    let tree : Value := .list [.bool true]
    r.Assembled ∧ ∃ c, r.parseCommand "//a" = .ok c ∧
      r.executeCount c tree = (tree, .error (unknown .select "each")) := by
  intro r tree
  exact ⟨Assembled.empty.withDefaultSelect (by simp [Select.library]),
    ⟨[⟨⟨"a", some "each", .none⟩, none⟩], none⟩, rfl, rfl⟩

end TreePath.Registry
