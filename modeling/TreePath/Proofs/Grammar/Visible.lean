import TreePath.Proofs.Grammar.Scan
import Mathlib.Data.List.Induction

/-!
# What a text shows

A backslash hides the character behind it, and of what is left the quotes hide what stands between
them. What is visible of a text, and how the text ends, is said here without a scan, and the scan is
determined by it: a text is scanned to its end if none of its prefixes shows more closing than
opening brackets, and the state behind it is the difference of their numbers and how the text ends.
-/

namespace TreePath.Grammar

/-- A text without its backslashes and the characters that they hide. -/
def unescaped : List Char → List Char
  | [] => []
  | ['\\'] => []
  | '\\' :: _ :: rest => unescaped rest
  | c :: rest => c :: unescaped rest

/-- Whether a text ends on a backslash that would hide what comes next. -/
def dangling : List Char → Bool
  | [] => false
  | ['\\'] => true
  | '\\' :: _ :: rest => dangling rest
  | _ :: rest => dangling rest

/-- Whether the number of quotes is odd. -/
def oddQuotes (text : List Char) : Bool := text.count '"' % 2 == 1

/-- The characters between no quotes, of a text that begins inside quotes or not. -/
def outside (inside : Bool) : List Char → List Char
  | [] => []
  | c :: rest =>
    if c = '"' then outside (!inside) rest
    else if inside then outside inside rest
    else c :: outside inside rest

/-- Whether a text ends inside quotes. -/
def inQuotes (text : List Char) : Bool := oddQuotes (unescaped text)

/-- The characters of a text outside quotes and escapes. -/
def visible (text : List Char) : List Char := outside false (unescaped text)

/-- How many brackets open in a text. -/
def openings (text : List Char) : Nat := (visible text).count '('

/-- How many brackets close in a text. -/
def closings (text : List Char) : Nat := (visible text).count ')'

/-- A text with no prefix that closes more brackets than it opens. -/
def NeverBelow (text : List Char) : Prop :=
  ∀ before, before <+: text → closings before ≤ openings before

/-- A text in which each bracket is closed behind the place where it opens, and quotes pair up. -/
structure Scans (text : List Char) : Prop where
  neverBelow : NeverBelow text
  closed : openings text = closings text
  unquoted : inQuotes text = false

/-- A text behind which a character counts: outside brackets, quotes and escapes. -/
structure AtTop (before : List Char) : Prop where
  closed : openings before = closings before
  unquoted : inQuotes before = false
  undangling : dangling before = false

/-- A character that stands outside brackets, quotes and escapes somewhere in a text. -/
def OccursAtTop (c : Char) (text : List Char) : Prop :=
  ∃ before rest, text = before ++ c :: rest ∧ AtTop before

/-- A text that shows no bracket. -/
def Bare (text : List Char) : Prop := '(' ∉ visible text ∧ ')' ∉ visible text

/-! ## One more character -/

theorem dangling_cons {c : Char} (h : c ≠ '\\') (rest : List Char) :
    dangling (c :: rest) = dangling rest := by
  simp [dangling, h]

theorem unescaped_cons {c : Char} (h : c ≠ '\\') (rest : List Char) :
    unescaped (c :: rest) = c :: unescaped rest := by
  simp [unescaped, h]

theorem dangling_concat (text : List Char) (c : Char) :
    dangling (text ++ [c]) = (!dangling text && c == '\\') := by
  fun_induction dangling text with
  | case1 => by_cases h : c = '\\' <;> simp [dangling, h]
  | case2 => simp [dangling]
  | case3 d rest ih => simpa [dangling] using ih
  | case4 d rest alone escape ih =>
    rw [List.cons_append, dangling_cons (ne_backslash alone escape), ih]

theorem unescaped_concat (text : List Char) (c : Char) :
    unescaped (text ++ [c]) =
      if dangling text || c == '\\' then unescaped text else unescaped text ++ [c] := by
  fun_induction dangling text with
  | case1 => by_cases h : c = '\\' <;> simp [unescaped, h]
  | case2 => simp [unescaped]
  | case3 d rest ih => simpa [unescaped] using ih
  | case4 d rest alone escape ih =>
    have hd := ne_backslash alone escape
    rw [List.cons_append, unescaped_cons hd, unescaped_cons hd, ih]
    split <;> rfl

theorem oddQuotes_cons (c : Char) (rest : List Char) :
    oddQuotes (c :: rest) = (c == '"' ^^ oddQuotes rest) := by
  rcases Nat.mod_two_eq_zero_or_one (rest.count '"') with h | h <;>
    by_cases hc : c = '"' <;> simp [oddQuotes, Nat.add_mod, h, hc]

theorem oddQuotes_append (a b : List Char) : oddQuotes (a ++ b) = (oddQuotes a ^^ oddQuotes b) := by
  induction a with
  | nil => simp [oddQuotes]
  | cons c rest ih => simp [oddQuotes_cons, ih]

theorem outside_append (inside : Bool) (a b : List Char) :
    outside inside (a ++ b) = outside inside a ++ outside (inside ^^ oddQuotes a) b := by
  induction a generalizing inside with
  | nil => simp [outside, oddQuotes]
  | cons c rest ih =>
    rw [oddQuotes_cons]
    by_cases hc : c = '"'
    · cases inside <;> simp [outside, hc, ih]
    · cases inside <;> simp [outside, hc, ih, beq_eq_false_iff_ne.mpr hc]

theorem inQuotes_concat (text : List Char) (c : Char) :
    inQuotes (text ++ [c]) = (inQuotes text ^^ (!dangling text && c == '"')) := by
  rw [inQuotes, inQuotes, unescaped_concat]
  cases dangling text <;> by_cases hc : c = '\\' <;>
    simp [hc, oddQuotes_append, oddQuotes_cons, show oddQuotes [] = false from rfl]

theorem visible_concat (text : List Char) (c : Char) :
    visible (text ++ [c]) = visible text ++
      if dangling text ∨ inQuotes text ∨ c = '\\' ∨ c = '"' then [] else [c] := by
  rw [visible, visible, unescaped_concat]
  cases dangling text <;> by_cases hc : c = '\\' <;> by_cases hq : c = '"' <;>
    simp [hc, hq, outside_append, outside, inQuotes]

theorem neverBelow_nil : NeverBelow [] := by
  rintro before hbefore
  rw [List.prefix_nil.mp hbefore]
  exact Nat.le_refl 0

theorem neverBelow_concat {text : List Char} {c : Char} :
    NeverBelow (text ++ [c]) ↔
      NeverBelow text ∧ closings (text ++ [c]) ≤ openings (text ++ [c]) := by
  simp only [NeverBelow, List.prefix_concat_iff, or_imp, forall_and, forall_eq, and_comm]

theorem NeverBelow.le {text : List Char} (h : NeverBelow text) : closings text ≤ openings text :=
  h text (List.prefix_refl text)

/-! ## Brackets -/

theorem visible_prefix_append (a b : List Char) : visible a <+: visible (a ++ b) := by
  induction b using List.reverseRecOn with
  | nil => simp
  | append_singleton b c ih =>
    rw [← List.append_assoc, visible_concat]
    exact ih.trans (List.prefix_append _ _)

/-- Where no bracket opens, none closes. -/
theorem NeverBelow.closings_eq_zero {text : List Char} (h : NeverBelow text)
    (hopen : '(' ∉ visible text) : closings text = 0 := by
  have hopenings : openings text = 0 := List.count_eq_zero.mpr hopen
  exact Nat.le_zero.mp (hopenings ▸ h.le)

/-- The first bracket that a text shows, if it opens, opens at the top level. -/
theorem occursAtTop_open {text : List Char} (h : NeverBelow text) :
    OccursAtTop '(' text ↔ '(' ∈ visible text := by
  constructor
  · rintro ⟨before, rest, rfl, -, hquotes, hdangling⟩
    have hmem : '(' ∈ visible (before ++ ['(']) := by
      simp [visible_concat, hquotes, hdangling]
    rw [← List.singleton_append, ← List.append_assoc]
    exact (visible_prefix_append _ rest).subset hmem
  · intro hmem
    induction text using List.reverseRecOn with
    | nil => cases hmem
    | append_singleton text c ih =>
      obtain ⟨hbelow, -⟩ := neverBelow_concat.mp h
      by_cases hfront : '(' ∈ visible text
      · obtain ⟨before, rest, rfl, htop⟩ := ih hbelow hfront
        exact ⟨before, rest ++ [c], by simp, htop⟩
      · rw [visible_concat, List.mem_append, or_iff_right hfront] at hmem
        split at hmem
        · cases hmem
        · next hshown =>
          obtain rfl := List.mem_singleton.mp hmem
          simp only [not_or, Bool.not_eq_true] at hshown
          have hlevel : openings text = closings text :=
            (List.count_eq_zero.mpr hfront).trans (hbelow.closings_eq_zero hfront).symm
          exact ⟨text, [], rfl, hlevel, hshown.2.1, hshown.1⟩

theorem bare_iff {text : List Char} (h : NeverBelow text) :
    Bare text ↔ ¬ OccursAtTop '(' text := by
  rw [occursAtTop_open h]
  exact ⟨And.left, fun hopen => ⟨hopen, List.count_eq_zero.mp (h.closings_eq_zero hopen)⟩⟩

/-! ## The scan -/

namespace Scan

/-- The state that the visible brackets and the end of a text call for. -/
def behind (text : List Char) : Scan :=
  ⟨openings text - closings text, inQuotes text, dangling text⟩

/-- A character is stepped over unless it closes a bracket too many. -/
theorem step_behind {text : List Char} (h : closings text ≤ openings text) {c : Char} {s : Scan} :
    (behind text).step c = some s ↔
      closings (text ++ [c]) ≤ openings (text ++ [c]) ∧ behind (text ++ [c]) = s := by
  simp only [openings, closings] at h
  simp only [behind, step, openings, closings, visible_concat, inQuotes_concat, dangling_concat]
  by_cases hescape : dangling text
  · simp [hescape, h]
  by_cases hbackslash : c = '\\'
  · simp [hescape, hbackslash, h]
  by_cases hquote : c = '"'
  · simp [hescape, hquote, h]
  by_cases hinside : inQuotes text
  · simp [hescape, hbackslash, hquote, hinside, h, beq_eq_false_iff_ne.mpr hbackslash,
      beq_eq_false_iff_ne.mpr hquote]
  -- The character is visible, and only here do brackets count.
  by_cases hopen : c = '('
  · grind
  by_cases hclose : c = ')'
  · grind
  · grind

/-- The scan of a text goes through if it never closes a bracket too many, and it leaves the state
that the text calls for. -/
theorem after_start {text : List Char} {s : Scan} :
    start.after text = some s ↔ NeverBelow text ∧ behind text = s := by
  induction text using List.reverseRecOn generalizing s with
  | nil => simp [after, start, neverBelow_nil, show behind [] = ⟨0, false, false⟩ from rfl]
  | append_singleton text c ih =>
    have hlast {u : Scan} : u.after [c] = u.step c := by simp [after]
    simp only [after_append, neverBelow_concat, Option.bind_eq_some_iff, ih, hlast]
    constructor
    · rintro ⟨_, ⟨hbelow, rfl⟩, hstep⟩
      obtain ⟨hlevel, hs⟩ := (step_behind hbelow.le).mp hstep
      exact ⟨⟨hbelow, hlevel⟩, hs⟩
    · rintro ⟨⟨hbelow, hlevel⟩, hs⟩
      exact ⟨_, ⟨hbelow, rfl⟩, (step_behind hbelow.le).mpr ⟨hlevel, hs⟩⟩

theorem finish_eq_ok {s : Scan} : s.finish = .ok () ↔ s.quoted = false ∧ s.depth = 0 := by
  obtain ⟨depth, quoted, escaped⟩ := s
  cases quoted <;> simp [finish]

/-- The texts that a scan may end behind. -/
theorem scans_iff_finish {text : List Char} :
    Scans text ↔ ∃ s, start.after text = some s ∧ s.finish = .ok () := by
  simp only [after_start, finish_eq_ok]
  constructor
  · rintro ⟨hbelow, hclosed, hquotes⟩
    exact ⟨_, ⟨hbelow, rfl⟩, hquotes, by simp [behind, hclosed]⟩
  · rintro ⟨_, ⟨hbelow, rfl⟩, hquotes, hdepth⟩
    exact ⟨hbelow, Nat.le_antisymm (Nat.le_of_sub_eq_zero hdepth) hbelow.le, hquotes⟩

/-- A scan is back where it started behind the texts that hide nothing of what comes next. -/
theorem after_start_eq_start {text : List Char} :
    start.after text = some start ↔ Scans text ∧ dangling text = false := by
  rw [after_start]
  constructor
  · rintro ⟨hbelow, hbehind⟩
    obtain ⟨hdepth, hquotes, hdangling⟩ := mk.inj hbehind
    exact ⟨⟨hbelow, Nat.le_antisymm (Nat.le_of_sub_eq_zero hdepth) hbelow.le, hquotes⟩, hdangling⟩
  · rintro ⟨⟨hbelow, hclosed, hquotes⟩, hdangling⟩
    exact ⟨hbelow, by simp [behind, start, hclosed, hquotes, hdangling]⟩

/-- What stands in front of a character of a text is empty, or it begins as the text does. -/
theorem forall_before_cons {P : List Char → Prop} {c d : Char} {text : List Char} :
    (∀ before rest, c :: text = before ++ d :: rest → P before) ↔
      (c = d → P []) ∧ ∀ before rest, text = before ++ d :: rest → P (c :: before) := by
  constructor
  · refine fun h => ⟨fun hc => h [] text (by rw [hc, List.nil_append]), fun before rest htext => ?_⟩
    exact h (c :: before) rest (by rw [htext, List.cons_append])
  · rintro ⟨hnil, hcons⟩ (_ | ⟨e, before⟩) rest heq
    · exact hnil (List.cons.inj heq).1
    · obtain ⟨rfl, htext⟩ := List.cons.inj heq
      exact hcons before rest htext

/-- Nothing separates in a text if no separator in it stands where one would count. -/
theorem through_eq_some {separator : Char} {s t : Scan} {text : List Char} :
    s.through separator text = some t ↔ s.after text = some t ∧
      ∀ before rest, text = before ++ separator :: rest →
        ∀ u, s.after before = some u → u.separates separator separator = false := by
  induction text generalizing s with
  | nil => simp [through, after]
  | cons c text ih =>
    have hfirst : s.separates separator c = false ↔
        (c = separator → s.separates separator separator = false) := by
      by_cases hc : c = separator <;> simp [hc, separates]
    rw [forall_before_cons]
    simp only [through, after, Option.some.injEq, forall_eq', ← hfirst]
    cases hsep : s.separates separator c with
    | true => simp
    | false =>
      cases hstep : s.step c with
      | none => simp
      | some next => simpa using ih

/-- A character separates where nothing in front of it keeps it from the top level. -/
theorem behind_separates {separator : Char} (hclose : separator ≠ ')') {before : List Char}
    (h : NeverBelow before) : (behind before).separates separator separator ↔ AtTop before := by
  simp only [behind, separates, hclose, if_false, beq_self_eq_true, Bool.true_and, Bool.and_eq_true,
    Bool.not_eq_true', beq_iff_eq]
  constructor
  · rintro ⟨⟨hquotes, hdangling⟩, hdepth⟩
    exact ⟨Nat.le_antisymm (Nat.le_of_sub_eq_zero hdepth) h.le, hquotes, hdangling⟩
  · rintro ⟨hclosed, hquotes, hdangling⟩
    exact ⟨⟨hquotes, hdangling⟩, Nat.sub_eq_zero_of_le (Nat.le_of_eq hclosed)⟩

/-- The texts without a separator at the top level. -/
theorem through_start {separator : Char} (hclose : separator ≠ ')') {text : List Char} {s : Scan} :
    start.through separator text = some s ↔
      start.after text = some s ∧ ¬ OccursAtTop separator text := by
  rw [through_eq_some]
  refine and_congr_right fun hafter => ?_
  have hbelow : NeverBelow text := (after_start.mp hafter).1
  simp only [after_start, OccursAtTop, not_exists, not_and]
  refine forall₂_congr fun before rest => forall_congr' fun htext => ?_
  have hbefore : NeverBelow before := fun front hfront =>
    hbelow front (hfront.trans (htext ▸ List.prefix_append before _))
  rw [← behind_separates hclose hbefore]
  simp [hbefore]

end Scan

end TreePath.Grammar
