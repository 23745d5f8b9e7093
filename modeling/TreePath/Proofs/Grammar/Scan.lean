import TreePath.Grammar.Scan
import TreePath.Proofs.Outcome

/-!
# What a scan finds in a text

A scan of a text is followed here from any state to the one behind the text. Cutting at separators
is put in terms of it: the parts are the runs of characters in which nothing separates. A text is
balanced if its brackets and quotes close within it; one more open bracket in front of a balanced
text hides every separator in it.
-/

namespace TreePath.Grammar

namespace Scan

/-- The state behind a text, if every closing bracket in it closes an open one. -/
def after (s : Scan) : List Char → Option Scan
  | [] => some s
  | c :: rest => (s.step c).bind fun next => next.after rest

/-- The state behind a text in which no character separates. -/
def through (separator : Char) (s : Scan) : List Char → Option Scan
  | [] => some s
  | c :: rest =>
    if s.separates separator c then none
    else (s.step c).bind fun next => next.through separator rest

/-- The state with one more open bracket. -/
def deeper (s : Scan) : Scan := { s with depth := s.depth + 1 }

theorem after_append (s : Scan) (a b : List Char) :
    s.after (a ++ b) = (s.after a).bind fun next => next.after b := by
  induction a generalizing s with
  | nil => rfl
  | cons c rest ih =>
    simp only [List.cons_append, after, ih]
    exact (Option.bind_assoc _ _ _).symm

theorem through_append (separator : Char) (s : Scan) (a b : List Char) :
    s.through separator (a ++ b) =
      (s.through separator a).bind fun next => next.through separator b := by
  induction a generalizing s with
  | nil => rfl
  | cons c rest ih =>
    simp only [List.cons_append, through]
    split
    · rfl
    · cases s.step c with
      | none => rfl
      | some next => exact ih next

/-- Only the separator itself separates. -/
theorem eq_of_separates {s : Scan} {separator c : Char} (h : s.separates separator c) :
    c = separator := by
  simp only [separates] at h
  grind

/-- Only at the top level do the separators of a path or a command count. -/
theorem eq_start_of_separates {s : Scan} {separator c : Char} (hclose : separator ≠ ')')
    (h : s.separates separator c) : s = .start ∧ c = separator := by
  obtain ⟨depth, quoted, escaped⟩ := s
  simp only [separates, hclose, if_false] at h
  grind [start]

theorem step_deeper {s next : Scan} {c : Char} (h : s.step c = some next) :
    s.deeper.step c = some next.deeper := by
  obtain ⟨depth, quoted, escaped⟩ := s
  simp only [step, deeper] at h ⊢
  grind

/-- One bracket further in, a step that closes no outer bracket is the same step. -/
theorem step_of_step_deeper {s next : Scan} {c : Char} (h : s.deeper.step c = some next)
    (hsep : s.deeper.separates ')' c = false) :
    ∃ inner, s.step c = some inner ∧ next = inner.deeper := by
  obtain ⟨depth, quoted, escaped⟩ := s
  simp only [step, deeper, separates] at h hsep ⊢
  grind

/-- Behind an open bracket nothing in a text that can be scanned separates. -/
theorem through_deeper {separator : Char} {s t : Scan} {text : List Char}
    (h : s.after text = some t) : s.deeper.through separator text = some t.deeper := by
  induction text generalizing s with
  | nil =>
    cases h
    rfl
  | cons c rest ih =>
    simp only [after] at h
    obtain ⟨next, hstep, hrest⟩ := Option.bind_eq_some_iff.mp h
    have hsep : s.deeper.separates separator c = false := by
      obtain ⟨depth, quoted, escaped⟩ := s
      simp only [step] at hstep
      simp only [separates, deeper]
      grind
    simp only [through, hsep, step_deeper hstep, Option.bind_some]
    exact ih hrest

/-- A text behind an open bracket that closes no outer one can be scanned without it. -/
theorem after_of_through_deeper {s t : Scan} {text : List Char}
    (h : s.deeper.through ')' text = some t) :
    ∃ inner, s.after text = some inner ∧ t = inner.deeper := by
  induction text generalizing s with
  | nil => exact ⟨s, rfl, (Option.some.inj h).symm⟩
  | cons c rest ih =>
    simp only [through] at h
    split at h
    · cases h
    · next hsep =>
      obtain ⟨next, hstep, hrest⟩ := Option.bind_eq_some_iff.mp h
      obtain ⟨inner, hinner, rfl⟩ := step_of_step_deeper hstep (by simpa using hsep)
      simp only [after, hinner, Option.bind_some]
      exact ih hrest

/-- At the top level a text with no opening bracket has no closing one either. -/
theorem through_close_of_open {s t : Scan} {text : List Char} (hs : s.depth = 0)
    (h : s.through '(' text = some t) : s.through ')' text = some t ∧ t.depth = 0 := by
  induction text generalizing s with
  | nil =>
    cases h
    exact ⟨rfl, hs⟩
  | cons c rest ih =>
    simp only [through] at h
    split at h
    · cases h
    · next hopen =>
      obtain ⟨next, hstep, hrest⟩ := Option.bind_eq_some_iff.mp h
      have hclose : s.separates ')' c = false := by simp [separates, hs]
      have hnext : next.depth = 0 := by
        obtain ⟨depth, quoted, escaped⟩ := s
        simp only [step] at hstep
        simp only [separates] at hopen hs
        grind
      simp only [through, hclose, hstep, Option.bind_some]
      exact ih hnext hrest

end Scan

/-! ## Cutting -/

/-- The text whose parts are given, with the separator between them. -/
def joined (separator : Char) (parts : List Char × List (List Char)) : List Char :=
  parts.1 ++ parts.2.flatMap (separator :: ·)

/-- A text in which nothing separates goes into the first part. -/
theorem splitFrom_append {separator : Char} {s t : Scan} {text : List Char}
    (h : s.through separator text = some t) (rest : List Char) :
    splitFrom separator s (text ++ rest) =
      (splitFrom separator t rest).map fun (part, parts) => (text ++ part, parts) := by
  induction text generalizing s with
  | nil =>
    cases h
    rw [List.nil_append]
    cases splitFrom separator t rest <;> rfl
  | cons c text ih =>
    simp only [Scan.through] at h
    split at h
    · cases h
    · next hsep =>
      obtain ⟨next, hstep, hrest⟩ := Option.bind_eq_some_iff.mp h
      simp only [List.cons_append, splitFrom, hstep, ih hrest]
      cases splitFrom separator t rest <;> simp [Except.map, hsep]

/-- A text in which nothing separates is its only part. -/
theorem splitFrom_of_through {separator : Char} {s t : Scan} {text : List Char}
    (h : s.through separator text = some t) :
    splitFrom separator s text = t.finish.map fun _ => (text, []) := by
  have hcut := splitFrom_append h []
  rw [List.append_nil] at hcut
  rw [hcut, splitFrom]
  cases t.finish <;> simp [Except.map]

/-- A separator ends the first part. -/
theorem splitFrom_separator {separator : Char} {s t : Scan} (hsep : s.separates separator separator)
    (hstep : s.step separator = some t) (rest : List Char) :
    splitFrom separator s (separator :: rest) =
      (splitFrom separator t rest).map fun (part, parts) => ([], part :: parts) := by
  simp only [splitFrom, hstep]
  cases splitFrom separator t rest <;> simp [Except.map, hsep]

/-- What a cut of a text consists of: the first part is the text up to the first separator, and
the others are the cut of what comes behind it. -/
theorem splitFrom_eq_ok {separator : Char} {s : Scan} {text part : List Char}
    {parts : List (List Char)} (h : splitFrom separator s text = .ok (part, parts)) :
    ∃ t, s.through separator part = some t ∧
      match parts with
      | [] => text = part ∧ t.finish = .ok ()
      | next :: others => ∃ u rest, t.separates separator separator ∧ t.step separator = some u ∧
          text = part ++ separator :: rest ∧ splitFrom separator u rest = .ok (next, others) := by
  induction text generalizing s part parts with
  | nil =>
    obtain ⟨_, hfinish, heq⟩ := map_eq_ok.mp h
    cases heq
    exact ⟨s, rfl, rfl, hfinish⟩
  | cons c rest ih =>
    simp only [splitFrom] at h
    cases hstep : s.step c with
    | none => simp [hstep] at h
    | some next =>
      simp only [hstep] at h
      obtain ⟨⟨first, others⟩, hrest, heq⟩ := map_eq_ok.mp h
      by_cases hsep : s.separates separator c
      · simp only [hsep, if_true] at heq
        cases heq
        obtain rfl := Scan.eq_of_separates hsep
        exact ⟨s, rfl, next, rest, hsep, hstep, rfl, hrest⟩
      · simp only [hsep] at heq
        cases heq
        obtain ⟨t, hthrough, htail⟩ := ih hrest
        refine ⟨t, by simpa [Scan.through, hsep, hstep] using hthrough, ?_⟩
        cases parts with
        | nil => exact ⟨by rw [htail.1], htail.2⟩
        | cons next others =>
          obtain ⟨u, rest', hsep', hstep', rfl, hrest'⟩ := htail
          exact ⟨u, rest', hsep', hstep', rfl, hrest'⟩

/-- The parts of a text, joined, give the text back. -/
theorem eq_joined_of_splitFrom {separator : Char} {s : Scan} {text : List Char}
    {parts : List Char × List (List Char)} (h : splitFrom separator s text = .ok parts) :
    text = joined separator parts := by
  obtain ⟨part, others⟩ := parts
  induction others generalizing s text part with
  | nil =>
    obtain ⟨_, _, rfl, _⟩ := splitFrom_eq_ok h
    simp [joined]
  | cons next others ih =>
    obtain ⟨_, _, _, rest, _, _, rfl, hrest⟩ := splitFrom_eq_ok h
    rw [ih _ hrest]
    simp [joined]

/-! ## Balanced texts -/

/-- Whether a text closes all brackets that are open before it and that it opens, ends outside
quotes, and ends on no backslash that would hide what comes next. -/
def balancedFrom (depth : Nat) (quoted : Bool) : List Char → Bool
  | [] => depth == 0 && !quoted
  | ['\\'] => false
  | '\\' :: _ :: rest => balancedFrom depth quoted rest
  | '"' :: rest => balancedFrom depth (!quoted) rest
  | c :: rest =>
    if quoted then balancedFrom depth quoted rest
    else if c = '(' then balancedFrom (depth + 1) quoted rest
    else if c = ')' then 0 < depth && balancedFrom (depth - 1) quoted rest
    else balancedFrom depth quoted rest

/-- A text with no bracket or quote that is open at its end or closed before it was opened. -/
def Balanced (text : List Char) : Prop := balancedFrom 0 false text

instance (text : List Char) : Decidable (Balanced text) :=
  inferInstanceAs (Decidable (_ = true))

/-- The patterns of a backslash, alone and with a character that it hides, exclude it as the first
character in the cases below them. -/
theorem ne_backslash {c : Char} {rest : List Char} (alone : c = '\\' → rest = [] → False)
    (escape : ∀ head tail, c = '\\' → rest = head :: tail → False) : c ≠ '\\' := by
  rintro rfl
  cases rest with
  | nil => exact alone rfl rfl
  | cons head tail => exact escape head tail rfl rfl

theorem balancedFrom_iff_after (depth : Nat) (quoted : Bool) (text : List Char) :
    balancedFrom depth quoted text ↔ (⟨depth, quoted, false⟩ : Scan).after text = some .start := by
  fun_induction balancedFrom depth quoted text with
  | case1 depth quoted => simp [Scan.after, Scan.start]
  | case2 depth quoted => simp [Scan.after, Scan.step, Scan.start]
  | case3 depth quoted c rest ih => simp [Scan.after, Scan.step, ih]
  | case4 depth quoted rest ih => simp [Scan.after, Scan.step, ih]
  | case5 depth c rest alone escape quote ih =>
    simp [Scan.after, Scan.step, ne_backslash alone escape, show c ≠ '"' from quote, ih]
  | case6 depth quoted rest unquoted _ _ _ ih =>
    obtain rfl := Bool.eq_false_iff.mpr unquoted
    simp [Scan.after, Scan.step, ih]
  | case7 depth quoted rest unquoted _ _ _ _ ih =>
    obtain rfl := Bool.eq_false_iff.mpr unquoted
    cases depth with
    | zero => simp [Scan.after, Scan.step]
    | succ depth => simpa [Scan.after, Scan.step] using ih
  | case8 depth quoted c rest alone escape quote unquoted opens closes ih =>
    obtain rfl := Bool.eq_false_iff.mpr unquoted
    simp [Scan.after, Scan.step, ne_backslash alone escape, show c ≠ '"' from quote, opens, closes,
      ih]

/-- A text is balanced if its scan ends where it started, at the top level. -/
theorem balanced_iff_after (text : List Char) :
    Balanced text ↔ Scan.start.after text = some .start :=
  balancedFrom_iff_after 0 false text

end TreePath.Grammar
