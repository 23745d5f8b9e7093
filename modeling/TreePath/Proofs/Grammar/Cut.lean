import TreePath.Proofs.Grammar.Offset
import TreePath.Proofs.Grammar.Visible

/-!
# Texts are cut exactly

A text that can be scanned is cut at its separators at the top level and nowhere else. Each part can
be scanned by itself, since the scan of the text is back where it started in front of each part, and
this makes the parts the only ones. In the same way a call is taken apart into the only name and
arguments that it can consist of. What a text shows says when this succeeds.
-/

namespace TreePath.Grammar

open Scan

/-- The parts of a text, at least one. Joined, they give the text, and each of them stands by
itself: it can be scanned, and in it nothing separates. No part hides the separator behind it. -/
structure IsCut (separator : Char) (text : List Char) (parts : List (List Char)) : Prop where
  nonempty : parts ≠ []
  joins : [separator].intercalate parts = text
  scans : ∀ part ∈ parts, Scans part
  whole : ∀ part ∈ parts, ¬ OccursAtTop separator part
  undangling : ∀ part ∈ parts.dropLast, dangling part = false

variable {separator : Char} {text part next : List Char} {others : List (List Char)}

theorem isCut_singleton :
    IsCut separator text [part] ↔ text = part ∧ Scans part ∧ ¬ OccursAtTop separator part := by
  constructor
  · rintro ⟨-, hjoins, hscans, hwhole, -⟩
    rw [List.intercalate_singleton] at hjoins
    exact ⟨hjoins.symm, hscans part List.mem_cons_self, hwhole part List.mem_cons_self⟩
  · rintro ⟨rfl, hscans, hwhole⟩
    exact ⟨List.cons_ne_nil _ _, List.intercalate_singleton, List.forall_mem_singleton.mpr hscans,
      List.forall_mem_singleton.mpr hwhole, List.forall_mem_nil _⟩

theorem isCut_cons :
    IsCut separator text (part :: next :: others) ↔
      ∃ rest, text = part ++ separator :: rest ∧
        (Scans part ∧ dangling part = false ∧ ¬ OccursAtTop separator part) ∧
          IsCut separator rest (next :: others) := by
  constructor
  · rintro ⟨-, hjoins, hscans, hwhole, hundangling⟩
    obtain ⟨hpartScans, hscans⟩ := List.forall_mem_cons.mp hscans
    obtain ⟨hpartWhole, hwhole⟩ := List.forall_mem_cons.mp hwhole
    obtain ⟨hpartUndangling, hundangling⟩ := List.forall_mem_cons.mp hundangling
    rw [List.intercalate_cons_cons, List.append_assoc, List.singleton_append] at hjoins
    exact ⟨_, hjoins.symm, ⟨hpartScans, hpartUndangling, hpartWhole⟩,
      ⟨List.cons_ne_nil _ _, rfl, hscans, hwhole, hundangling⟩⟩
  · rintro ⟨rest, rfl, ⟨hpartScans, hpartUndangling, hpartWhole⟩,
      ⟨-, rfl, hscans, hwhole, hundangling⟩⟩
    refine ⟨List.cons_ne_nil _ _, ?_, List.forall_mem_cons.mpr ⟨hpartScans, hscans⟩,
      List.forall_mem_cons.mpr ⟨hpartWhole, hwhole⟩,
      List.forall_mem_cons.mpr ⟨hpartUndangling, hundangling⟩⟩
    rw [List.intercalate_cons_cons, List.append_assoc, List.singleton_append]

/-- A text is not cut if its scan does not come to an end. -/
theorem fails_splitFrom {s : Scan} :
    Fails (splitFrom separator s text) ↔ ¬ ∃ t, s.after text = some t ∧ t.finish = .ok () := by
  induction text generalizing s with
  | nil =>
    rw [splitFrom, fails_map]
    cases hfinish : s.finish <;> simp [after, hfinish]
  | cons c rest ih =>
    simp only [splitFrom, after]
    cases s.step c with
    | none => simp
    | some next => simpa using ih

theorem fails_split : Fails (split separator text) ↔ ¬ Scans text := by
  rw [split, fails_splitFrom, scans_iff_finish]

theorem split_eq_whole (hclose : separator ≠ ')') :
    split separator text = .ok (part, []) ↔
      text = part ∧ Scans part ∧ ¬ OccursAtTop separator part := by
  constructor
  · intro h
    obtain ⟨t, hthrough, rfl, hfinish⟩ := splitFrom_eq_ok h
    obtain ⟨hafter, hwhole⟩ := (through_start hclose).mp hthrough
    exact ⟨rfl, scans_iff_finish.mpr ⟨t, hafter, hfinish⟩, hwhole⟩
  · rintro ⟨rfl, hscans, hwhole⟩
    obtain ⟨t, hafter, hfinish⟩ := scans_iff_finish.mp hscans
    have hthrough := (through_start hclose).mpr ⟨hafter, hwhole⟩
    rw [split, splitFrom_of_through hthrough, hfinish]
    rfl

/-- What a text is cut into are its parts, and there are no others. -/
theorem split_eq_ok (hclose : separator ≠ ')') (hstep : start.step separator = some start) :
    split separator text = .ok (part, others) ↔ IsCut separator text (part :: others) := by
  induction others generalizing text part with
  | nil => rw [isCut_singleton, split_eq_whole hclose]
  | cons next others ih =>
    rw [isCut_cons]
    constructor
    · intro h
      obtain ⟨t, hthrough, u, rest, hsep, hstep', rfl, hrest⟩ := splitFrom_eq_ok h
      obtain ⟨rfl, -⟩ := eq_start_of_separates hclose hsep
      obtain rfl : start = u := Option.some.inj (hstep.symm.trans hstep')
      obtain ⟨hafter, hwhole⟩ := (through_start hclose).mp hthrough
      obtain ⟨hscans, hundangling⟩ := after_start_eq_start.mp hafter
      exact ⟨rest, rfl, ⟨hscans, hundangling, hwhole⟩, ih.mp hrest⟩
    · rintro ⟨rest, rfl, ⟨hscans, hundangling, hwhole⟩, hcut⟩
      have hthrough : start.through separator part = some start :=
        (through_start hclose).mpr ⟨after_start_eq_start.mpr ⟨hscans, hundangling⟩, hwhole⟩
      rw [split_append hclose hstep hthrough, ← split, ih.mpr hcut]
      rfl

theorem not_scans_iff : ¬ Scans text ↔
    (∃ before, before <+: text ∧ openings before < closings before) ∨ inQuotes text ∨
      closings text < openings text := by
  constructor
  · intro h
    by_contra hnone
    simp only [not_or, not_exists, not_and, Nat.not_lt, Bool.not_eq_true] at hnone
    obtain ⟨hbelow, hquotes, hopen⟩ := hnone
    exact h ⟨hbelow, Nat.le_antisymm hopen (NeverBelow.le hbelow), hquotes⟩
  · rintro (⟨before, hbefore, hlt⟩ | hquotes | hlt) ⟨hbelow, hclosed, hunquoted⟩
    · exact Nat.not_lt.mpr (hbelow before hbefore) hlt
    · simp [hunquoted] at hquotes
    · exact Nat.ne_of_gt hlt hclosed

/-- Cutting a text fails exactly if the text closes a bracket too many, ends inside quotes or ends
inside brackets. Otherwise the text is cut into its parts, and there are no others. They are slices
of the text, all of which exist. -/
theorem split_exact {separator : Char} (h : separator ∈ ['!', '/', '#']) (text : List Char) :
    (Fails (split separator text) ↔
      (∃ before, before <+: text ∧ openings before < closings before) ∨ inQuotes text ∨
        closings text < openings text) ∧
    (∀ parts, IsCut separator text parts ↔
      ∃ part others, parts = part :: others ∧ split separator text = .ok (part, others)) ∧
    sliceParts separator text =
      (split separator text).map fun (part, others) => some (part :: others) := by
  have hseparator : separator ≠ ')' ∧ start.step separator = some start := by
    simp only [List.mem_cons, List.not_mem_nil, or_false] at h
    rcases h with rfl | rfl | rfl <;> exact ⟨by decide, rfl⟩
  obtain ⟨hclose, hstep⟩ := hseparator
  refine ⟨fails_split.trans not_scans_iff, fun parts => ⟨fun hcut => ?_, ?_⟩,
    sliceParts_eq separator text⟩
  · obtain ⟨part, others, rfl⟩ := List.exists_cons_of_ne_nil hcut.nonempty
    exact ⟨part, others, rfl, (split_eq_ok hclose hstep).mpr hcut⟩
  · rintro ⟨part, others, rfl, hsplit⟩
    exact (split_eq_ok hclose hstep).mp hsplit

/-- A path is cut at its slashes alone: not at the escaped one, nor within brackets. -/
theorem split_exact_path :
    '/' ∈ ['!', '/', '#'] ∧
      IsCut '/' "é\\/a/:match(x/y)/b\\".toList
        ["é\\/a".toList, ":match(x/y)".toList, "b\\".toList] := by
  refine ⟨by decide, ((@split_exact '/' (by decide) _).2.1 _).mpr ?_⟩
  exact ⟨_, _, rfl, by decide⟩

/-! ## Calls -/

/-- A name and arguments of which a text is the call. The name shows no bracket and does not hide
the one behind it, and the arguments are balanced by themselves. -/
structure IsCall (text name arguments : List Char) : Prop where
  text : text = name ++ '(' :: (arguments ++ [')'])
  name_scans : Scans name
  name_bare : Bare name
  name_undangling : dangling name = false
  arguments_scans : Scans arguments
  arguments_undangling : dangling arguments = false

theorem through_open {name : List Char} :
    start.through '(' name = some start ↔
      Scans name ∧ Bare name ∧ dangling name = false := by
  rw [through_start (by decide), after_start_eq_start, and_assoc]
  refine and_congr_right fun hscans => ?_
  rw [bare_iff hscans.neverBelow, and_comm]

/-- The balanced texts, by what they show and how they end. -/
theorem balanced_iff_scans {arguments : List Char} :
    Balanced arguments ↔ Scans arguments ∧ dangling arguments = false := by
  rw [balanced_iff_after, after_start_eq_start]

theorem splitCall_eq_call {name arguments : List Char} :
    splitCall text = .ok ⟨name, some arguments⟩ ↔ IsCall text name arguments := by
  constructor
  · intro h
    obtain ⟨htext, hname, harguments⟩ := balanced_of_splitCall h
    obtain ⟨hscans, hbare, hundangling⟩ := through_open.mp hname
    obtain ⟨hscans', hundangling'⟩ := balanced_iff_scans.mp harguments
    exact ⟨htext, hscans, hbare, hundangling, hscans', hundangling'⟩
  · rintro ⟨rfl, hscans, hbare, hundangling, hscans', hundangling'⟩
    exact splitCall_of_balanced (through_open.mpr ⟨hscans, hbare, hundangling⟩)
      (balanced_iff_scans.mpr ⟨hscans', hundangling'⟩)

theorem splitCall_eq_name {name : List Char} :
    splitCall text = .ok ⟨name, none⟩ ↔ name = text ∧ Scans text ∧ Bare text := by
  have hsplit : (∃ first, split '(' text = .ok (first, [])) ↔ Scans text ∧ Bare text := by
    constructor
    · rintro ⟨first, h⟩
      obtain ⟨rfl, hscans, hwhole⟩ := (split_eq_whole (by decide)).mp h
      exact ⟨hscans, (bare_iff hscans.neverBelow).mpr hwhole⟩
    · rintro ⟨hscans, hbare⟩
      exact ⟨text, (split_eq_whole (by decide)).mpr
        ⟨rfl, hscans, (bare_iff hscans.neverBelow).mp hbare⟩⟩
  rw [← hsplit]
  constructor
  · intro h
    obtain ⟨rfl, hfirst⟩ := uncut_of_splitCall h
    exact ⟨rfl, hfirst⟩
  · rintro ⟨rfl, first, h⟩
    simp [splitCall, h, Except.bind]

/-- A text is taken apart into a name and arguments exactly if it is a call of them, and it is a
name without arguments exactly if it can be scanned and shows no bracket. Everything else fails.
The slices that are taken of the text always exist. -/
theorem splitCall_exact (text : List Char) :
    (∀ name arguments, splitCall text = .ok ⟨name, some arguments⟩ ↔ IsCall text name arguments) ∧
    (∀ name, splitCall text = .ok ⟨name, none⟩ ↔ name = text ∧ Scans text ∧ Bare text) ∧
    (Fails (splitCall text) ↔
      (¬ ∃ name arguments, IsCall text name arguments) ∧ ¬ (Scans text ∧ Bare text)) ∧
    sliceCall text = (splitCall text).map some := by
  refine ⟨fun _ _ => splitCall_eq_call, fun _ => splitCall_eq_name, ?_, sliceCall_eq text⟩
  rw [fails_iff_ne_ok]
  constructor
  · refine fun hfails => ⟨?_, fun hname => hfails _ (splitCall_eq_name.mpr ⟨rfl, hname⟩)⟩
    rintro ⟨name, arguments, hcall⟩
    exact hfails _ (splitCall_eq_call.mpr hcall)
  · rintro ⟨hnocall, hnoname⟩ ⟨name, arguments⟩ h
    cases arguments with
    | none => exact hnoname (splitCall_eq_name.mp h).2
    | some arguments => exact hnocall ⟨name, arguments, splitCall_eq_call.mp h⟩

/-- A hidden bracket does not open the arguments, and a quoted one does not close them. -/
example : splitCall "\\(é(\")\")".toList = .ok ⟨"\\(é".toList, some "\")\"".toList⟩ := by decide

end TreePath.Grammar
