import TreePath.Proofs.Pattern.Class

/-!
# Groups before a closing bracket

The branches of a group end before the bracket that closes it, or at the end of the text, and what
is read of them is the same.
-/

namespace TreePath.Pattern

variable {flags : Flags} {size : Nat} {text rest : List Char}

/-! ## Repetitions -/

theorem readCountDigits_confined {fuel : Nat} {digits : List Char} (hfuel : size ≤ fuel) :
    Confined size (fun text => .ok (readCountDigits flags fuel digits text))
      fun text => .ok (readCountDigits flags size digits text) := by
  refine .loop Char.isDigit (fun digits c => c :: digits) List.reverse trims_id (trims_skip flags)
    rfl (fun digits text => ?_) (fun n digits text => ?_) hfuel
  · rfl
  · rw [readCountDigits.eq_def]
    cases text <;> rfl

theorem readCount_confined : Local size (readCount flags) := by
  apply Confined.trim trims_dropBlank
  · intro text
    unfold readCount
    generalize text.dropWhile Text.isBlankChar = u
    exact ⟨rfl, rfl⟩
  apply Confined.after (fun text => readCountDigits flags text.length [] text) _ _
    (.own_length _ readCountDigits_confined)
  · intro text
    dsimp only
    generalize readCountDigits flags text.length [] text = found
    exact ⟨rfl, rfl⟩
  intro digits
  apply Confined.trim (trims_dropBlank.comp (trims_skip flags))
  · intro text
    dsimp only
    generalize flags.skip (text.dropWhile Text.isBlankChar) = u
    exact ⟨rfl, rfl⟩
  split
  · exact .ok
  · split
    · exact .ok
    · exact .error

theorem readMost_confined {least : Nat} : Local size (readMost flags least) := by
  refine .bind readCount_confined fun most => ?_
  cases most with
  | none => exact .error
  | some most =>
    refine .on '\x7d' (by decide) (.error (e := .badCount)) ⟨rfl, rfl⟩ (fun c rest hc => ?_) ?_
    · simp [hc]
    · simp only
      split
      · exact .ok
      · exact .error

theorem readBounds_confined : Local size (readBounds flags) := by
  apply Confined.skip flags
  · intro text
    unfold readBounds
    generalize flags.skip text = u
    exact ⟨rfl, rfl⟩
  refine .bind readCount_confined fun least => ?_
  cases least with
  | none => exact .error
  | some least =>
    refine .branch (fun c => c == '\x7d' || c == ',') rfl (.error (e := .badCount)) ⟨rfl, rfl⟩ ?_ ?_
    · intro c rest hc
      have hother : c ≠ '\x7d' ∧ c ≠ ',' := by simpa using hc
      simp [hother]
    · intro c hc
      by_cases hclose : c = '\x7d'
      · subst hclose
        exact .ok
      obtain rfl : c = ',' := by simpa [hclose] using hc
      apply Confined.skip flags
      · intro text
        simp only
        generalize flags.skip text = u
        exact ⟨rfl, rfl⟩
      refine .on '\x7d' (by decide) (readMost_confined : Local _ (readMost flags least)) ⟨rfl, rfl⟩
        (fun c rest hc => ?_) .ok
      simp [hc]

/-- The closing is no count. -/
theorem readBounds_closing (htext : flags.skip text = []) :
    readBounds flags (text ++ closing) = .error .badCount := by
  have hcount : ∃ rest, readCount flags (flags.skip (text ++ closing)) = .ok (none, rest) := by
    rcases flags.skip_append_closing text with hskip | hskip
    · rw [hskip, htext]
      exact ⟨_, rfl⟩
    · rw [hskip]
      exact ⟨_, rfl⟩
  obtain ⟨rest, hcount⟩ := hcount
  rw [readBounds, hcount]
  rfl

/-! ## The start of a group -/

theorem readGroupName_confined : Local size readGroupName := by
  constructor
  · intro text name rest h
    unfold readGroupName at h
    split at h
    · next c tail after htake hdrop =>
      have hafter : '>' :: after <:+ text := hdrop ▸ List.dropWhile_suffix _
      split at h
      · cases h
        exact (List.suffix_cons '>' rest).trans hafter
      · cases h
    · cases h
  · intro text name rest _ h
    unfold readGroupName at h ⊢
    cases hdrop : text.dropWhile (· != '>') with
    | nil =>
      rw [List.dropWhile_append, hdrop] at h
      split at h
      · next hcut => cases hcut
      · cases h
    | cons c tail =>
      obtain ⟨htake, hdrop'⟩ := cut_append_closing (hdrop ▸ List.cons_ne_nil c tail)
      rw [htake, hdrop', hdrop] at h
      by_cases hc : c = '>'
      · subst hc
        generalize text.takeWhile (· != '>') = front at h ⊢
        cases front with
        | nil => cases h
        | cons d front =>
          simp only [List.cons_append] at h ⊢
          split at h
          · next hname =>
            rw [Except.ok.injEq, Prod.mk.injEq, List.append_left_inj] at h
            rw [if_pos hname, h.1, h.2]
          · cases h
      · simp [hc] at h

variable {inner : Flags} {seen met : List Char} {c last : Char}

/-- A character among flags is wrong, ends them or is one of them, whatever stands behind it. -/
theorem readFlags_cons (flags : Flags) (seen : List Char) (c : Char) :
    (∃ e, ∀ text, readFlags flags seen (c :: text) = .error e) ∨
      (∀ text, readFlags flags seen (c :: text) = .ok (flags, seen, c, text)) ∨
      ∃ next, ∀ text, readFlags flags seen (c :: text) = readFlags next (c :: seen) text := by
  simp only [readFlags]
  split
  · split
    · exact .inl ⟨_, fun _ => rfl⟩
    · exact .inr (.inl fun _ => rfl)
  · split
    · exact .inl ⟨_, fun _ => rfl⟩
    · split
      · exact .inr (.inr ⟨flags, fun _ => rfl⟩)
      · cases flags.switch? (!seen.contains '-') c with
        | none => exact .inl ⟨_, fun _ => rfl⟩
        | some next => exact .inr (.inr ⟨next, fun _ => rfl⟩)

theorem readFlags_suffix (h : readFlags flags seen (c :: text) = .ok (inner, met, last, rest)) :
    rest <:+ text := by
  induction text generalizing flags seen c with
  | nil =>
    rcases readFlags_cons flags seen c with ⟨e, hwrong⟩ | hends | ⟨next, hnext⟩
    · cases (hwrong []).symm.trans h
    · cases (hends []).symm.trans h
      exact List.suffix_refl _
    · cases (hnext []).symm.trans h
  | cons d tail ih =>
    rcases readFlags_cons flags seen c with ⟨e, hwrong⟩ | hends | ⟨next, hnext⟩
    · cases (hwrong _).symm.trans h
    · cases (hends _).symm.trans h
      exact List.suffix_refl _
    · exact (ih ((hnext _).symm.trans h)).trans (List.suffix_cons d tail)

/-- The closing ends flags that nothing else ends, and is read then. -/
theorem readFlags_alone
    (h : readFlags flags seen (c :: (text ++ closing)) = .ok (inner, met, last, rest ++ closing)) :
    readFlags flags seen (c :: text) = .ok (inner, met, last, rest) := by
  induction text generalizing flags seen c with
  | nil =>
    rcases readFlags_cons flags seen c with ⟨e, hwrong⟩ | hends | ⟨next, hnext⟩
    · cases (hwrong _).symm.trans h
    · have hrest := (hends _).symm.trans h
      simp only [Except.ok.injEq, Prod.mk.injEq, List.append_left_inj] at hrest
      obtain ⟨rfl, rfl, rfl, rfl⟩ := hrest
      exact hends []
    · have hsuffix : rest ++ closing <:+ ['$'] := readFlags_suffix ((hnext _).symm.trans h)
      exact absurd hsuffix (not_append_closing_suffix (by decide))
  | cons d tail ih =>
    rcases readFlags_cons flags seen c with ⟨e, hwrong⟩ | hends | ⟨next, hnext⟩
    · cases (hwrong _).symm.trans h
    · have hrest := (hends _).symm.trans h
      simp only [Except.ok.injEq, Prod.mk.injEq, List.append_left_inj] at hrest
      obtain ⟨rfl, rfl, rfl, rfl⟩ := hrest
      exact hends _
    · exact (hnext _).trans (ih ((hnext _).symm.trans h))

theorem readGroupFlags_cons_confined (flags : Flags) (c : Char) :
    Local size fun rest => readGroupFlags flags (c :: rest) := by
  constructor
  · intro text start rest h
    obtain ⟨⟨inner, seen, last, tail⟩, hflags, h⟩ := bind_eq_ok.mp h
    dsimp only at h
    split at h
    · cases h
      exact readFlags_suffix hflags
    · split at h
      · cases h
      · cases h
        exact readFlags_suffix hflags
  · intro text start rest _ h
    obtain ⟨⟨inner, seen, last, tail⟩, hflags, h⟩ := bind_eq_ok.mp h
    dsimp only at h
    split at h
    · next hlast =>
      cases h
      exact bind_eq_ok.mpr ⟨_, readFlags_alone hflags, if_pos hlast⟩
    · next hlast =>
      split at h
      · cases h
      · next hseen =>
        cases h
        refine bind_eq_ok.mpr ⟨_, readFlags_alone hflags, ?_⟩
        dsimp only
        rw [if_neg hlast, if_neg hseen]

theorem readGroupFlags_confined (flags : Flags) : Local size (readGroupFlags flags) :=
  .cons nofun (readGroupFlags_cons_confined flags)

theorem openGroup_confined : Local size (openGroup flags) := by
  have hnamed (size : Nat) : Local size fun rest =>
      (readGroupName rest).map fun found => (GroupStart.name found.1, found.2) :=
    readGroupName_confined.map
  apply Confined.skip flags
  · intro text
    unfold openGroup
    generalize flags.skip text = u
    exact ⟨rfl, rfl⟩
  refine .on '?' (by decide) (.ok (a := .plain)) ⟨rfl, rfl⟩ (fun c rest hc => ?_) ?_
  · simp [hc]
  refine .branch (fun c => c == '=' || c == '!' || c == '<' || c == 'P') rfl
    (readGroupFlags_confined flags) ⟨rfl, rfl⟩ ?_ ?_
  · intro c rest hc
    have hother : ((c ≠ '=' ∧ c ≠ '!') ∧ c ≠ '<') ∧ c ≠ 'P' := by simpa using hc
    simp [hother]
  intro c hc
  by_cases hlook : c = '=' ∨ c = '!'
  · rcases hlook with rfl | rfl <;> exact .error
  by_cases hname : c = '<'
  · subst hname
    refine .branch (fun c => c == '=' || c == '!') rfl (hnamed _) ⟨rfl, rfl⟩ ?_ ?_
    · intro c rest hc
      have hother : c ≠ '=' ∧ c ≠ '!' := by simpa using hc
      simp [hother]
    · intro c hc
      obtain rfl | rfl : c = '=' ∨ c = '!' := by simpa using hc
      · exact .error
      · exact .error
  · obtain rfl : c = 'P' := by simpa [not_or.mp hlook, hname] using hc
    refine .on '<' (by decide) (readGroupFlags_cons_confined flags 'P') ⟨rfl, rfl⟩
      (fun c rest hc => ?_) (hnamed _)
    simp [hc]

/-! ## Items -/

variable {r : Reading} {least : Nat} {most : Option Nat} {more moreAlone : GroupReader}

theorem Reading.repeated_confined : Local size (r.repeated least most) := by
  unfold Reading.repeated
  cases repeatLast least most r.items with
  | error e => exact .error
  | ok items =>
    refine .on '?' (by decide) (.ok (a := { r with items := items })) ⟨rfl, rfl⟩
      (fun c rest hc => ?_) .ok
    simp [Except.map, hc]

/-- What is left of a group is read by confined readers, one for the text with the closing behind
it and one for the text alone. -/
def GroupReader.Confined (size : Nat) (more moreAlone : GroupReader) : Prop :=
  ∀ flags r, Pattern.Confined size (more flags r) (moreAlone flags r)

/-- An opening brace that has nothing but the closing behind it is refused. -/
def GroupReader.RefusesBrace (flags : Flags) (more : GroupReader) : Prop :=
  ∀ r tail x, flags.skip tail = [] → more flags r ('\x7b' :: (tail ++ closing)) ≠ .ok x

theorem readNodeItem_confined (hmore : more.Confined size moreAlone) {node : Except Fault Node} :
    Confined size (readNodeItem more flags r node) (readNodeItem moreAlone flags r node) :=
  .given fun _ => hmore flags _

theorem readGroup_confined (hmore : more.Confined size moreAlone) :
    Confined size (readGroup more flags r) (readGroup moreAlone flags r) := by
  refine .bind openGroup_confined fun start => ?_
  cases start
  case setFlags inner => exact hmore inner _
  -- In any other group the branches are read up to its closing bracket.
  all_goals
    refine .given fun inside => .bind (hmore inside.1 inside.2) fun group => ?_
    refine .cons nofun fun c => ?_
    by_cases hc : c = ')'
    · subst hc
      exact (hmore flags _).le (Nat.sub_le size 1)
    · simp only [List.cons.injEq, hc, false_and, imp_self, implies_true]
      exact .error

theorem readClassItem_confined (hmore : more.Confined size moreAlone) :
    Confined size (readClassItem more flags r) (readClassItem moreAlone flags r) := by
  refine .after _
    (fun opened =>
      (readClass opened.2.length.succ flags opened.1.1 none opened.1.2 opened.2).bind
        fun found => more flags (r.push ⟨.chars found.1.set, found.1.height, true⟩) found.2)
    (fun opened =>
      (readClass opened.2.length.succ flags opened.1.1 none opened.1.2 opened.2).bind
        fun found => moreAlone flags (r.push ⟨.chars found.1.set, found.1.height, true⟩) found.2)
    openClass_confined (fun _ => ⟨rfl, rfl⟩) fun start => ?_
  dsimp only
  refine .bind readClass_own_length_confined fun found => ?_
  dsimp only
  exact hmore flags _

theorem readRepeated_confined (hmore : more.Confined size moreAlone) :
    Confined size (readRepeated more flags r least most)
      (readRepeated moreAlone flags r least most) :=
  .bind Reading.repeated_confined fun r => hmore flags r

theorem readCounted_confined (hmore : more.Confined size moreAlone) :
    Confined size (readCounted more flags r) (readCounted moreAlone flags r) := by
  refine .bind readBounds_confined fun bounds => ?_
  exact .skip flags (fun _ => ⟨rfl, rfl⟩) (readRepeated_confined hmore)

/-- The brace behind a word boundary is left for what is read next. -/
theorem readEscaped_confined (hmore : more.Confined size moreAlone)
    (hbrace : more.RefusesBrace flags) :
    Confined size (readEscaped more flags r) (readEscaped moreAlone flags r) := by
  refine .bind_unless (HalfBoundary flags) readEscape_suffix (fun _ => readEscape_alone)
    (fun piece => .given fun item => hmore flags _) ?_
  rintro piece text a rest ⟨rfl, tail, rfl, htail⟩ h
  obtain ⟨item, -, h⟩ := bind_eq_ok.mp h
  exact hbrace _ _ _ htail h

theorem readItem_confined (hmore : more.Confined size moreAlone)
    (hbrace : more.RefusesBrace flags) (c : Char) :
    Confined size (readItem more flags r c) (readItem moreAlone flags r c) := by
  unfold readItem
  split
  · exact hmore flags _
  · exact readGroup_confined hmore
  · exact readClassItem_confined hmore
  · exact readRepeated_confined hmore
  · exact readRepeated_confined hmore
  · exact readRepeated_confined hmore
  · exact readCounted_confined hmore
  · exact readEscaped_confined hmore hbrace
  · exact readNodeItem_confined hmore
  · exact readNodeItem_confined hmore
  · exact readNodeItem_confined hmore
  · exact readNodeItem_confined hmore

/-! ## Branches -/

/-- An opening brace starts a count, which the closing is not. -/
theorem readBranches_refusesBrace {fuel : Nat} :
    GroupReader.RefusesBrace flags (readBranches fuel) := by
  intro r tail x htail
  cases fuel with
  | zero => nofun
  | succ fuel =>
    have hbrace : flags.skip ('\x7b' :: (tail ++ closing)) = '\x7b' :: (tail ++ closing) :=
      Flags.skip_cons rfl (by decide)
    intro h
    rw [readBranches, hbrace] at h
    change readCounted (readBranches fuel) flags r (tail ++ closing) = .ok x at h
    rw [readCounted, readBounds_closing htail] at h
    cases h

theorem readBranches_confined {fuel : Nat} :
    Confined size (readBranches fuel flags r) (readBranches (size + 1) flags r) := by
  induction fuel generalizing size flags r with
  | zero => exact .of_error
  | succ fuel ih =>
    refine .of_succ (fun n => readBranches (n + 1) flags r) (fun n _ => ?_) ?_
    · apply Confined.skip flags
      · intro text
        unfold readBranches
        generalize flags.skip text = u
        exact ⟨rfl, rfl⟩
      refine .branch (· != ')') rfl (.ok (a := r)) ⟨rfl, rfl⟩ ?_ fun c hc => ?_
      · intro c rest hc
        obtain rfl : c = ')' := by simpa using hc
        exact ⟨rfl, rfl⟩
      · have hclose : c ≠ ')' := by simpa using hc
        have hmore : GroupReader.Confined n (readBranches fuel) (readBranches (n + 1)) :=
          fun _ _ => ih
        rw [Nat.add_sub_cancel]
        simp only
        exact readItem_confined hmore readBranches_refusesBrace c
    · simp [readBranches, Flags.skip_nil]

end TreePath.Pattern
