import TreePath.Pattern
import TreePath.Proofs.Outcome
import Mathlib.Data.List.Infix

/-!
# Reading up to a closing bracket

A pattern that has to match a whole text is set in a group, so its text is read with a closing
bracket behind it. A reader is confined if it does not look behind that: where it leaves the
bracket and all behind it unread, it reads the same if the text ends before the bracket. Confined
readers are built from confined readers.
-/

namespace TreePath.Pattern

/-- What stands behind the text of a pattern that is set between a start and an end. -/
def closing : List Char := [')', '$']

variable {α β : Type} {flags : Flags} {size : Nat} {text rest : List Char} {a : α}

/-- No text that is shorter than the closing ends with it. -/
theorem not_append_closing_suffix (hlength : text.length < closing.length) :
    ¬ rest ++ closing <:+ text := by
  intro h
  have hle := h.length_le
  rw [List.length_append] at hle
  omega

/-- An end of a text that has the closing behind it, which is not within the closing, has the
closing behind it too. -/
theorem exists_append_closing {middle : List Char} (hrest : rest ++ closing <:+ middle)
    (hmiddle : middle <:+ text ++ closing) :
    ∃ before, middle = before ++ closing ∧ before <:+ text ∧ rest <:+ before := by
  obtain ⟨first, rfl⟩ := hrest
  obtain ⟨second, h⟩ := hmiddle
  rw [← List.append_assoc, ← List.append_assoc, List.append_left_inj] at h
  exact ⟨first ++ rest, (List.append_assoc ..).symm, ⟨second, by rw [← h, List.append_assoc]⟩,
    List.suffix_append first rest⟩

/-- A text that is cut before some character is cut there with the closing behind it, too. -/
theorem cut_append_closing {p : Char → Bool} (h : text.dropWhile p ≠ []) :
    (text ++ closing).takeWhile p = text.takeWhile p ∧
      (text ++ closing).dropWhile p = text.dropWhile p ++ closing := by
  have hlength := congrArg List.length (List.takeWhile_append_dropWhile (p := p) (l := text))
  have hdrop := List.length_pos_iff.mpr h
  rw [List.length_append] at hlength
  rw [List.takeWhile_append, List.dropWhile_append, if_neg (by omega),
    if_neg (by simpa using h)]
  exact ⟨rfl, rfl⟩

/-! ## Leaving out what does not count -/

theorem skipComment_suffix : skipComment text <:+ text := by
  induction text with
  | nil => exact List.suffix_refl _
  | cons c rest ih =>
    rw [skipComment]
    split
    · exact List.suffix_refl _
    · exact ih.trans (List.suffix_cons c rest)

theorem skipSpaced_suffix {fuel : Nat} : skipSpaced fuel text <:+ text := by
  fun_induction skipSpaced fuel text with
  | case1 text fuel rest hrest ih =>
    have hdrop : '#' :: rest <:+ text := hrest ▸ List.dropWhile_suffix _
    exact ih.trans (skipComment_suffix.trans ((List.suffix_cons '#' rest).trans hdrop))
  | case2 text => exact List.dropWhile_suffix _

theorem Flags.skip_suffix : flags.skip text <:+ text := by
  rw [Flags.skip]
  split
  · exact skipSpaced_suffix
  · exact List.suffix_refl _

theorem dropBlank_append_closing :
    (text ++ closing).dropWhile Text.isBlankChar =
      text.dropWhile Text.isBlankChar ++ closing := by
  induction text with
  | nil => rfl
  | cons c rest ih =>
    rw [List.cons_append, List.dropWhile_cons, List.dropWhile_cons, ih]
    split <;> rfl

/-- A comment that does not end before the closing has the closing in it. -/
theorem skipComment_append_closing (text : List Char) :
    skipComment (text ++ closing) = skipComment text ++ closing ∨
      skipComment (text ++ closing) = [] := by
  induction text with
  | nil => exact .inr rfl
  | cons c rest ih =>
    rw [List.cons_append, skipComment, skipComment]
    split
    · exact .inl rfl
    · exact ih

theorem skipSpaced_nil {fuel : Nat} : skipSpaced fuel [] = [] := by
  cases fuel <;> rfl

theorem skipSpaced_append_closing {fuel fuel' : Nat} (hfuel : text.length ≤ fuel)
    (hfuel' : text.length ≤ fuel') :
    skipSpaced fuel (text ++ closing) = skipSpaced fuel' text ++ closing ∨
      skipSpaced fuel (text ++ closing) = [] := by
  induction fuel generalizing fuel' text with
  | zero =>
    obtain rfl := List.length_eq_zero_iff.mp (Nat.le_zero.mp hfuel)
    rw [skipSpaced_nil]
    exact .inl rfl
  | succ fuel ih =>
    have hdrop := List.dropWhile_suffix Text.isBlankChar (l := text)
    cases fuel' with
    | zero =>
      obtain rfl := List.length_eq_zero_iff.mp (Nat.le_zero.mp hfuel')
      exact .inl rfl
    | succ fuel' =>
      unfold skipSpaced
      rw [dropBlank_append_closing]
      generalize text.dropWhile Text.isBlankChar = tail at hdrop
      have htail := hdrop.length_le
      match tail with
      | [] => exact .inl rfl
      | c :: rest =>
        by_cases hc : c = '#'
        · subst hc
          have hrest : (skipComment rest).length + 1 ≤ text.length :=
            (Nat.succ_le_succ skipComment_suffix.length_le).trans htail
          rcases skipComment_append_closing rest with hcomment | hcomment
          · simp only [List.cons_append, hcomment]
            exact ih (by omega) (by omega)
          · simp only [List.cons_append, hcomment, skipSpaced_nil]
            exact .inr trivial
        · simp [hc]

theorem Flags.skip_append_closing (flags : Flags) (text : List Char) :
    flags.skip (text ++ closing) = flags.skip text ++ closing ∨
      flags.skip (text ++ closing) = [] := by
  rw [Flags.skip, Flags.skip]
  split
  · exact skipSpaced_append_closing (by rw [List.length_append]; omega) (Nat.le_refl _)
  · exact .inl rfl

theorem Flags.skip_cons {c : Char} (hblank : Text.isBlankChar c = false) (hcomment : c ≠ '#') :
    flags.skip (c :: text) = c :: text := by
  rw [Flags.skip]
  split
  · unfold skipSpaced
    rw [List.dropWhile_cons_of_neg (Bool.eq_false_iff.mp hblank)]
    split
    · next heq =>
      cases heq
      exact absurd rfl hcomment
    · rfl
  · rfl

theorem Flags.skip_nil : flags.skip [] = [] := by
  rw [Flags.skip]
  split <;> rfl

/-- Something that does not count is left out at the start of a text, and if the closing is not
reached by that, the same is left out without the closing. -/
structure Trims (trim : List Char → List Char) : Prop where
  suffix : ∀ text, trim text <:+ text
  append_closing : ∀ text,
    trim (text ++ closing) = trim text ++ closing ∨ trim (text ++ closing) = []

theorem trims_id : Trims id :=
  ⟨List.suffix_refl, fun _ => .inl rfl⟩

theorem trims_skip (flags : Flags) : Trims flags.skip :=
  ⟨fun _ => Flags.skip_suffix, flags.skip_append_closing⟩

theorem trims_dropBlank : Trims (List.dropWhile Text.isBlankChar) :=
  ⟨fun _ => List.dropWhile_suffix _, fun _ => .inl dropBlank_append_closing⟩

theorem Trims.comp {first second : List Char → List Char} (hfirst : Trims first)
    (hsecond : Trims second) : Trims fun text => second (first text) := by
  constructor
  · intro text
    exact (hsecond.suffix _).trans (hfirst.suffix text)
  · intro text
    rcases hfirst.append_closing text with h | h
    · simp only [h]
      exact hsecond.append_closing _
    · simp only [h]
      exact .inr (List.suffix_nil.mp (hsecond.suffix []))

theorem Trims.nil {trim : List Char → List Char} (h : Trims trim) : trim [] = [] :=
  List.suffix_nil.mp (h.suffix [])

/-! ## Confined readers -/

/-- A reader leaves an end of its text, and where it leaves the closing, the second reader reads
the same from the text without it. The two are one, but for the number of steps they may take;
`size` bounds the length of the texts for which that is said. -/
structure Confined (size : Nat) (read alone : List Char → Except Fault (α × List Char)) :
    Prop where
  suffix : ∀ {text a rest}, read text = .ok (a, rest) → rest <:+ text
  alone : ∀ {text a rest}, text.length ≤ size →
    read (text ++ closing) = .ok (a, rest ++ closing) → alone text = .ok (a, rest)

/-- A reader that is confined with itself. -/
abbrev Local (size : Nat) (read : List Char → Except Fault (α × List Char)) : Prop :=
  Confined size read read

namespace Confined

variable {read alone : List Char → Except Fault (α × List Char)}

theorem mono {size' : Nat} {alone' : List Char → Except Fault (α × List Char)}
    (h : Confined size read alone) (hsize : size' ≤ size)
    (heq : ∀ text, text.length ≤ size' → alone text = alone' text) :
    Confined size' read alone' :=
  ⟨h.suffix, fun hlength hread =>
    (heq _ hlength).symm.trans (h.alone (Nat.le_trans hlength hsize) hread)⟩

theorem le {size' : Nat} (h : Confined size read alone) (hsize : size' ≤ size) :
    Confined size' read alone :=
  h.mono hsize fun _ _ => rfl

theorem of_error {e : Fault} : Confined size (fun _ => .error e) alone :=
  ⟨nofun, nofun⟩

theorem error {e : Fault} : Local size fun _ : List Char => (.error e : Except Fault (α × _)) :=
  of_error

theorem ok : Confined size (fun text => .ok (a, text)) fun text => .ok (a, text) := by
  constructor
  · intro text a rest h
    cases h
    exact List.suffix_refl _
  · intro text a rest _ h
    rw [Except.ok.injEq, Prod.mk.injEq, List.append_left_inj] at h
    rw [h.1, h.2]

/-- A check that does not read. -/
theorem check {found : Except Fault β} {make : β → α} :
    Confined size (fun text => found.map fun b => (make b, text))
      fun text => found.map fun b => (make b, text) := by
  cases found with
  | error e => exact error
  | ok b => exact ok

/-- A reader whose answer is made into another one. -/
theorem map {first firstAlone : List Char → Except Fault (β × List Char)} {make : β → α}
    (hfirst : Confined size first firstAlone) :
    Confined size (fun text => (first text).map fun (b, rest) => (make b, rest))
      fun text => (firstAlone text).map fun (b, rest) => (make b, rest) := by
  constructor
  · intro text a rest h
    obtain ⟨⟨b, middle⟩, hb, heq⟩ := map_eq_ok.mp h
    cases heq
    exact hfirst.suffix hb
  · intro text a rest hsize h
    obtain ⟨⟨b, middle⟩, hb, heq⟩ := map_eq_ok.mp h
    cases heq
    exact map_eq_ok.mpr ⟨(b, rest), hfirst.alone hsize hb, rfl⟩

/-- A reader behind a check that does not read. -/
theorem given {found : Except Fault β}
    {next nextAlone : β → List Char → Except Fault (α × List Char)}
    (hnext : ∀ b, Confined size (next b) (nextAlone b)) :
    Confined size (fun text => found.bind fun b => next b text)
      fun text => found.bind fun b => nextAlone b text := by
  cases found with
  | error e => exact error
  | ok b => exact hnext b

/-- One reader after the other. Where the first one gives what it would not give alone, the second
one refuses what is left. -/
theorem bind_unless (except : β → List Char → Prop)
    {first firstAlone : List Char → Except Fault (β × List Char)}
    {next nextAlone : β × List Char → Except Fault (α × List Char)}
    (hsuffix : ∀ {text b rest}, first text = .ok (b, rest) → rest <:+ text)
    (hfirst : ∀ {text b rest}, text.length ≤ size →
      first (text ++ closing) = .ok (b, rest ++ closing) →
        firstAlone text = .ok (b, rest) ∨ except b rest)
    (hnext : ∀ b, Confined size (fun text => next (b, text)) fun text => nextAlone (b, text))
    (hexcept : ∀ {b text a rest}, except b text →
      next (b, text ++ closing) ≠ .ok (a, rest ++ closing)) :
    Confined size (fun text => (first text).bind next)
      fun text => (firstAlone text).bind nextAlone := by
  constructor
  · intro text a rest h
    obtain ⟨⟨b, middle⟩, hb, ha⟩ := bind_eq_ok.mp h
    exact ((hnext b).suffix ha).trans (hsuffix hb)
  · intro text a rest hsize h
    obtain ⟨⟨b, middle⟩, hb, ha⟩ := bind_eq_ok.mp h
    obtain ⟨before, rfl, hbefore, -⟩ := exists_append_closing ((hnext b).suffix ha) (hsuffix hb)
    rcases hfirst hsize hb with halone | hb
    · have hlength : before.length ≤ size := Nat.le_trans hbefore.length_le hsize
      exact bind_eq_ok.mpr ⟨(b, before), halone, (hnext b).alone hlength ha⟩
    · exact absurd ha (hexcept hb)

/-- One reader after the other. -/
theorem bind {first firstAlone : List Char → Except Fault (β × List Char)}
    {next nextAlone : β × List Char → Except Fault (α × List Char)}
    (hfirst : Confined size first firstAlone)
    (hnext : ∀ b, Confined size (fun text => next (b, text)) fun text => nextAlone (b, text)) :
    Confined size (fun text => (first text).bind next)
      fun text => (firstAlone text).bind nextAlone :=
  bind_unless (fun _ _ => False) hfirst.suffix
    (fun hsize h => .inl (hfirst.alone hsize h)) hnext nofun

/-- A reader after one that does not fail. -/
theorem after (first : List Char → β × List Char) {firstAlone : List Char → β × List Char}
    (next nextAlone : β × List Char → Except Fault (α × List Char))
    (hfirst : Confined size (fun text => .ok (first text)) fun text => .ok (firstAlone text))
    (hread : ∀ text, read text = next (first text) ∧ alone text = nextAlone (firstAlone text))
    (hnext : ∀ b, Confined size (fun text => next (b, text)) fun text => nextAlone (b, text)) :
    Confined size read alone := by
  have hread' : read = fun text => (Except.ok (first text)).bind next :=
    funext fun text => (hread text).1
  have halone : alone = fun text => (Except.ok (firstAlone text)).bind nextAlone :=
    funext fun text => (hread text).2
  rw [hread', halone]
  exact hfirst.bind hnext

/-- A reader that tries another one first, which sees the end of its text. -/
theorem either (first : List Char → Option (β × List Char))
    {next nextAlone : β × List Char → Except Fault (α × List Char)} {other otherAlone}
    (hsuffix : ∀ {text b rest}, first text = some (b, rest) → rest <:+ text)
    (hfirst : ∀ text, first (text ++ closing) =
      (first text).map fun (b, rest) => (b, rest ++ closing))
    (hread : ∀ text, read text = (match first text with | some p => next p | none => other text) ∧
      alone text = match first text with | some p => nextAlone p | none => otherAlone text)
    (hnext : ∀ b, Confined size (fun text => next (b, text)) fun text => nextAlone (b, text))
    (hother : Confined size other otherAlone) : Confined size read alone := by
  constructor
  · intro text a rest h
    rw [(hread text).1] at h
    split at h
    · next p hp => exact ((hnext p.1).suffix h).trans (hsuffix hp)
    · exact hother.suffix h
  · intro text a rest hsize h
    rw [(hread _).1, hfirst] at h
    rw [(hread text).2]
    cases hp : first text with
    | none =>
      rw [hp] at h
      exact hother.alone hsize h
    | some p =>
      rw [hp] at h
      exact (hnext p.1).alone (Nat.le_trans (hsuffix hp).length_le hsize) h

/-- A reader after something that does not count is left out. -/
theorem trim {trim : List Char → List Char} {body bodyAlone} (htrim : Trims trim)
    (hread : ∀ text, read text = body (trim text) ∧ alone text = bodyAlone (trim text))
    (hbody : Confined size body bodyAlone) : Confined size read alone := by
  constructor
  · intro text a rest h
    rw [(hread text).1] at h
    exact (hbody.suffix h).trans (htrim.suffix text)
  · intro text a rest hsize h
    rw [(hread _).1] at h
    rw [(hread text).2]
    rcases htrim.append_closing text with htext | htext
    · rw [htext] at h
      exact hbody.alone (Nat.le_trans (htrim.suffix text).length_le hsize) h
    · rw [htext] at h
      exact absurd (hbody.suffix h) (not_append_closing_suffix (by decide))

theorem skip (flags : Flags) {body bodyAlone}
    (hread : ∀ text, read text = body (flags.skip text) ∧ alone text = bodyAlone (flags.skip text))
    (hbody : Confined size body bodyAlone) : Confined size read alone :=
  trim (trims_skip flags) hread hbody

/-- A reader that has to find a character, and goes on with what stands behind it. -/
theorem cons (hnil : ∀ x, read [] ≠ .ok x)
    (hcons : ∀ c,
      Confined (size - 1) (fun rest => read (c :: rest)) fun rest => alone (c :: rest)) :
    Confined size read alone := by
  constructor
  · intro text a rest h
    cases text with
    | nil => exact absurd h (hnil _)
    | cons c tail => exact ((hcons c).suffix h).trans (List.suffix_cons c tail)
  · intro text a rest hsize h
    cases text with
    | nil =>
      have hsuffix : rest ++ closing <:+ ['$'] := (hcons ')').suffix h
      exact absurd hsuffix (not_append_closing_suffix (by decide))
    | cons c tail => exact (hcons c).alone (Nat.le_sub_one_of_lt hsize) h

/-- A reader that takes steps, of which it needs none if there is no text. -/
theorem of_succ (alone : Nat → List Char → Except Fault (α × List Char))
    (hsucc : ∀ n ≤ size - 1, Confined (n + 1) read (alone (n + 1)))
    (hnil : alone 1 [] = alone 0 []) : Confined size read (alone size) := by
  cases size with
  | zero =>
    refine (hsucc 0 (Nat.le_refl 0)).mono (Nat.zero_le 1) fun text htext => ?_
    rw [List.length_eq_zero_iff.mp (Nat.le_zero.mp htext)]
    exact hnil
  | succ n => exact hsucc n (Nat.le_refl n)

/-- A reader that may take as many steps as its text has characters. -/
theorem own_length (read : Nat → List Char → Except Fault (α × List Char))
    (h : ∀ {fuel size}, size ≤ fuel → Confined size (read fuel) (read size)) :
    Confined size (fun text => read text.length text) fun text => read text.length text := by
  constructor
  · intro text a rest hread
    exact (h (Nat.zero_le text.length)).suffix hread
  · intro text a rest _ hread
    have hle : text.length ≤ (text ++ closing).length := by
      rw [List.length_append]
      exact Nat.le_add_right _ _
    exact (h hle).alone (Nat.le_refl _) hread

/-- A reader that goes on behind some characters, of which a closing bracket is none, and otherwise
is another reader. -/
theorem branch (takes : Char → Bool) {other otherAlone} (hclosing : takes ')' = false)
    (hother : Confined size other otherAlone)
    (hnil : read [] = other [] ∧ alone [] = otherAlone [])
    (hleaves : ∀ c rest, takes c = false →
      read (c :: rest) = other (c :: rest) ∧ alone (c :: rest) = otherAlone (c :: rest))
    (htakes : ∀ c, takes c = true →
      Confined (size - 1) (fun rest => read (c :: rest)) fun rest => alone (c :: rest)) :
    Confined size read alone := by
  constructor
  · intro text a rest h
    cases text with
    | nil => exact hother.suffix (hnil.1 ▸ h)
    | cons c tail =>
      cases hc : takes c with
      | true => exact ((htakes c hc).suffix h).trans (List.suffix_cons c tail)
      | false => exact hother.suffix ((hleaves c tail hc).1 ▸ h)
  · intro text a rest hsize h
    cases text with
    | nil =>
      rw [hnil.2]
      exact hother.alone (Nat.zero_le _) ((hleaves ')' ['$'] hclosing).1 ▸ h)
    | cons c tail =>
      cases hc : takes c with
      | true => exact (htakes c hc).alone (Nat.le_sub_one_of_lt hsize) h
      | false =>
        rw [(hleaves c tail hc).2]
        exact hother.alone hsize ((hleaves c (tail ++ closing) hc).1 ▸ h)

/-- A reader that goes on behind one character. -/
theorem on (d : Char) {other otherAlone} (hclosing : d ≠ ')')
    (hother : Confined size other otherAlone)
    (hnil : read [] = other [] ∧ alone [] = otherAlone [])
    (hleaves : ∀ c rest, c ≠ d →
      read (c :: rest) = other (c :: rest) ∧ alone (c :: rest) = otherAlone (c :: rest))
    (htakes : Confined (size - 1) (fun rest => read (d :: rest)) fun rest => alone (d :: rest)) :
    Confined size read alone := by
  refine branch (· == d) (by simpa using hclosing.symm) hother hnil ?_ ?_
  · intro c rest hc
    exact hleaves c rest (by simpa using hc)
  · intro c hc
    obtain rfl := beq_iff_eq.mp hc
    exact htakes

/-- A reader that takes all characters of one kind, one step each, and leaves something out before
or behind each of them. -/
theorem loop {σ : Type} {loop : Nat → σ → List Char → β × List Char} (takes : Char → Bool)
    (step : σ → Char → σ) (done : σ → β) {before behind : List Char → List Char}
    (hbefore : Trims before) (hbehind : Trims behind) (hclosing : takes ')' = false)
    (hzero : ∀ s text, loop 0 s text = (done s, before text))
    (hsucc : ∀ n s text, loop (n + 1) s text = match before text with
      | [] => (done s, [])
      | c :: rest => if takes c then loop n (step s c) (behind rest) else (done s, c :: rest))
    {fuel : Nat} {s : σ} (hfuel : size ≤ fuel) :
    Confined size (fun text => .ok (loop fuel s text)) fun text => .ok (loop size s text) := by
  induction fuel generalizing size s with
  | zero =>
    obtain rfl := Nat.le_zero.mp hfuel
    exact trim hbefore (fun text => by simp only [hzero]; exact ⟨rfl, rfl⟩) ok
  | succ fuel ih =>
    refine of_succ (fun n text => .ok (loop n s text)) (fun n hn => ?_) ?_
    · apply trim hbefore
      · intro text
        rw [hsucc, hsucc]
        generalize before text = u
        exact ⟨rfl, rfl⟩
      · refine branch takes hclosing (ok (a := done s)) ⟨rfl, rfl⟩ ?_ ?_
        · intro c rest hc
          simp [hc]
        · intro c hc
          simp only [hc, if_true]
          exact trim hbehind (fun text => ⟨rfl, rfl⟩) (ih (by omega))
    · rw [hsucc, hzero, hbefore.nil]

end Confined

end TreePath.Pattern
