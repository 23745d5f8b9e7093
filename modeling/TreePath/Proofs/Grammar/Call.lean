import TreePath.Proofs.Grammar.Scan

/-!
# Calls as they are written

A call is written as its name, and after it its arguments in brackets. `splitCall` takes apart
exactly the texts of this form whose arguments are balanced, and gives the arguments as they stand.
-/

namespace TreePath.Grammar

/-- The text of a call. -/
def Call.text (c : Call) : List Char :=
  c.name ++
    match c.arguments with
    | none => []
    | some arguments => '(' :: (arguments ++ [')'])

namespace Scan

/-- Where a bracket opens at the top level. -/
theorem start_separates {separator : Char} (hclose : separator ≠ ')') :
    start.separates separator separator := by
  simp [separates, start, hclose]

theorem step_open : start.step '(' = some start.deeper := rfl

theorem step_close : start.deeper.step ')' = some start := rfl

theorem deeper_separates_close : start.deeper.separates ')' ')' := rfl

/-- At the top level a closing bracket separates behind one open bracket alone. -/
theorem eq_deeper_of_separates {s : Scan} (h : s.separates ')' ')') : s = start.deeper := by
  obtain ⟨depth, quoted, escaped⟩ := s
  simp only [separates] at h
  grind [start, deeper]

end Scan

open Scan

/-- A text in which nothing separates is the first part of what it begins, up to a separator, and
behind the separator the cut goes on. -/
theorem split_append {separator : Char} {next : Scan} {part : List Char} (hclose : separator ≠ ')')
    (hstep : start.step separator = some next)
    (hpart : start.through separator part = some start) (rest : List Char) :
    split separator (part ++ separator :: rest) =
      (splitFrom separator next rest).map fun (first, others) => (part, first :: others) := by
  rw [split, splitFrom_append hpart, splitFrom_separator (start_separates hclose) hstep]
  cases splitFrom separator next rest <;> simp [Except.map]

/-- A name that holds no bracket, and balanced arguments behind it, are found again. -/
theorem splitCall_of_balanced {name arguments : List Char}
    (hname : Scan.start.through '(' name = some .start) (hargs : Balanced arguments) :
    splitCall (name ++ '(' :: (arguments ++ [')'])) = .ok ⟨name, some arguments⟩ := by
  have hafter := (balanced_iff_after arguments).mp hargs
  -- The cut at opening brackets: nothing separates behind the first one.
  have hopen : split '(' (name ++ '(' :: (arguments ++ [')'])) =
      .ok (name, [arguments ++ [')']]) := by
    have hrest : start.deeper.through '(' (arguments ++ [')']) = some start := by
      rw [through_append, through_deeper hafter]
      rfl
    rw [split_append (by decide) step_open hname, splitFrom_of_through hrest]
    rfl
  -- The cut at closing brackets: only the last one closes a group.
  have hclose : split ')' (name ++ '(' :: (arguments ++ [')'])) =
      .ok (name ++ '(' :: arguments, [[]]) := by
    have hbefore : start.through ')' (name ++ '(' :: arguments) = some start.deeper := by
      rw [through_append, (through_close_of_open rfl hname).1]
      exact through_deeper hafter
    have htext : name ++ '(' :: (arguments ++ [')']) = (name ++ '(' :: arguments) ++ [')'] := by
      simp
    rw [split, htext, splitFrom_append hbefore,
      splitFrom_separator deeper_separates_close step_close]
    simp [splitFrom, finish, start, Except.map]
  simp [splitCall, hopen, hclose, Except.bind]

/-- What an opening bracket at the top level opens is closed again. -/
theorem ne_nil_of_splitFrom_deeper {rest group : List Char} {parts : List (List Char)}
    (h : splitFrom '(' start.deeper rest = .ok (group, parts)) : rest ≠ [] := by
  rintro rfl
  simp [splitFrom, finish, start, deeper, Except.map] at h

/-- A call with arguments is a name that holds no bracket, and balanced arguments behind it. -/
theorem balanced_of_splitCall {text name arguments : List Char}
    (h : splitCall text = .ok ⟨name, some arguments⟩) :
    text = name ++ '(' :: (arguments ++ [')']) ∧ start.through '(' name = some start ∧
      Balanced arguments := by
  obtain ⟨⟨first, parts⟩, hopen, h⟩ := bind_eq_ok.mp h
  match parts, hopen, h with
  | [group], hopen, h =>
    obtain ⟨⟨inside, others⟩, hclose, h⟩ := bind_eq_ok.mp h
    match others, hclose, h with
    | [[]], hclose, h =>
      simp only [Except.ok.injEq, Call.mk.injEq, Option.some.injEq] at h
      obtain ⟨rfl, rfl⟩ := h
      obtain ⟨s, hname, u, rest, hsep, hstep, rfl, hgroup⟩ := splitFrom_eq_ok hopen
      obtain ⟨rfl, -⟩ := eq_start_of_separates (by decide) hsep
      obtain rfl : start.deeper = u := Option.some.inj hstep
      obtain ⟨t, hinside, v, tail, hsep', hstep', htext, htail⟩ := splitFrom_eq_ok hclose
      obtain rfl := eq_deeper_of_separates hsep'
      obtain rfl : tail = [] := eq_joined_of_splitFrom htail
      -- The text ends with the bracket that closes the group.
      obtain ⟨body, last, rfl⟩ : ∃ body last, rest = body ++ [last] :=
        ⟨_, _, (List.dropLast_concat_getLast (ne_nil_of_splitFrom_deeper hgroup)).symm⟩
      have hsplit : (first ++ '(' :: body) ++ [last] = inside ++ [')'] := by simpa using htext
      obtain ⟨rfl, hlast⟩ := List.append_inj' hsplit rfl
      obtain rfl : last = ')' := by simpa using hlast
      have hbody : start.deeper.through ')' body = some start.deeper := by
        rw [through_append, (through_close_of_open rfl hname).1] at hinside
        exact hinside
      obtain ⟨inner, hafter, hdeeper⟩ := after_of_through_deeper hbody
      obtain rfl : inner = start := by
        obtain ⟨depth, quoted, escaped⟩ := inner
        simpa [deeper, start, eq_comm] using hdeeper
      have hdrop : (first ++ '(' :: body).drop (first.length + 1) = body := by simp
      rw [hdrop]
      exact ⟨rfl, hname, (balanced_iff_after body).mpr hafter⟩
  | [], _, h => simp at h
  | _ :: _ :: _, _, h => simp at h

/-- A call without arguments is its name, and no bracket opens in it. -/
theorem uncut_of_splitCall {text name : List Char} (h : splitCall text = .ok ⟨name, none⟩) :
    text = name ∧ ∃ first, split '(' text = .ok (first, []) := by
  obtain ⟨⟨first, parts⟩, hopen, h⟩ := bind_eq_ok.mp h
  match parts, hopen, h with
  | [], hopen, h =>
    simp only [Except.ok.injEq, Call.mk.injEq] at h
    exact ⟨h.1, first, hopen⟩
  | [group], _, h =>
    obtain ⟨⟨inside, others⟩, hclose, h⟩ := bind_eq_ok.mp h
    match others, h with
    | [[]], h => simp at h
  | _ :: _ :: _, _, h => simp at h

/-- A text that is taken apart is the text of the call it is taken apart into. -/
theorem text_of_splitCall {text : List Char} {c : Call} (h : splitCall text = .ok c) :
    text = c.text ∧ ∀ arguments ∈ c.arguments, Balanced arguments := by
  obtain ⟨name, arguments⟩ := c
  cases arguments with
  | none =>
    rw [(uncut_of_splitCall h).1]
    simp [Call.text]
  | some arguments =>
    obtain ⟨rfl, -, hargs⟩ := balanced_of_splitCall h
    simp [Call.text, hargs]

end TreePath.Grammar
