import TreePath.Proofs.Pattern.Confined

/-!
# Escapes before a closing bracket

What is read of an escape does not depend on what stands behind the bracket that follows it. One
escape looks further: a word boundary with a brace behind it is refused if the text ends there, and
is read if a bracket follows.
-/

namespace TreePath.Pattern

variable {flags : Flags} {size : Nat} {text rest : List Char}

theorem readHexDigits_confined {count n : Nat} :
    Confined size (readHexDigits flags count n) (readHexDigits flags count n) := by
  induction count generalizing n size with
  | zero => exact .ok
  | succ count ih =>
    apply Confined.skip flags
    · -- With a variable for what the skipping leaves, what is done with it can be read off.
      intro text
      unfold readHexDigits
      generalize flags.skip text = u
      exact ⟨rfl, rfl⟩
    · refine .cons nofun fun c => ?_
      dsimp only
      split
      · exact ih
      · exact .error

theorem readHexBraced_confined {fuel : Nat} {digits : List Nat} :
    Confined size (readHexBraced flags fuel digits) (readHexBraced flags size digits) := by
  induction fuel generalizing size digits with
  | zero =>
    have hzero : readHexBraced flags 0 digits = fun _ => .error .badEscape := by
      funext text
      unfold readHexBraced
      cases flags.skip text <;> rfl
    rw [hzero]
    exact .of_error
  | succ fuel ih =>
    refine .of_succ (fun n => readHexBraced flags n digits) (fun n _ => ?_) ?_
    · apply Confined.skip flags
      · intro text
        unfold readHexBraced
        generalize flags.skip text = u
        exact ⟨rfl, rfl⟩
      · refine .cons nofun fun c => ?_
        dsimp only
        split
        · split
          · exact .error
          · exact .ok
        · split
          · exact ih
          · exact .error
    · simp [readHexBraced, Flags.skip_nil]

theorem readHex_confined {count : Nat} :
    Confined size (readHex flags count) (readHex flags count) := by
  apply Confined.skip flags
  · intro text
    unfold readHex
    generalize flags.skip text = u
    exact ⟨rfl, rfl⟩
  · have hdigits : Local size fun text => (readHexDigits flags count 0 text).bind fun found =>
        (charOfCode found.1).map fun c => (Piece.literal c (count == 2), found.2) := by
      refine .bind readHexDigits_confined fun n => ?_
      dsimp only
      exact .check
    refine .on '\x7b' (by decide) hdigits ⟨rfl, rfl⟩ (fun c rest hc => ?_) ?_
    · simp [hc]
    · exact .bind (.own_length _ fun _ => readHexBraced_confined) fun n => .check

theorem readBraced_confined {fuel : Nat} {name : List Char} :
    Confined size (readBraced flags fuel name) (readBraced flags size name) := by
  induction fuel generalizing size name with
  | zero =>
    have hzero : readBraced flags 0 name = fun _ => .error .badEscape := by
      funext text
      unfold readBraced
      cases flags.skip text <;> rfl
    rw [hzero]
    exact .of_error
  | succ fuel ih =>
    refine .of_succ (fun n => readBraced flags n name) (fun n _ => ?_) ?_
    · apply Confined.skip flags
      · intro text
        unfold readBraced
        generalize flags.skip text = u
        exact ⟨rfl, rfl⟩
      · refine .cons nofun fun c => ?_
        dsimp only
        split
        · exact .ok
        · exact ih
    · simp [readBraced, Flags.skip_nil]

theorem readProperty_confined {negated : Bool} : Local size (readProperty flags negated) := by
  apply Confined.skip flags
  · intro text
    unfold readProperty
    generalize flags.skip text = u
    exact ⟨rfl, rfl⟩
  · refine .cons nofun fun c => ?_
    by_cases hbrace : c = '\x7b'
    · subst hbrace
      exact .bind (.own_length _ fun _ => readBraced_confined) fun name => .check
    · by_cases hslash : c = '\\'
      · subst hslash
        exact .error
      · simp only
        exact .check

theorem readBoundaryName_confined {fuel : Nat} {name : List Char} (hfuel : size ≤ fuel) :
    Confined size (fun text => .ok (readBoundaryName flags fuel name text))
      fun text => .ok (readBoundaryName flags size name text) := by
  refine .loop isBoundaryChar (fun name c => c :: name) List.reverse (trims_skip flags) trims_id
    rfl (fun name text => ?_) (fun n name text => ?_) hfuel
  · rfl
  · rw [readBoundaryName.eq_def]
    cases flags.skip text <;> rfl

/-- A word boundary with an opening brace behind it and nothing that counts behind that: a text
that ends there is refused, as the brace may belong to the name of the boundary. -/
def HalfBoundary (flags : Flags) (piece : Piece) (rest : List Char) : Prop :=
  piece = .look .wordBoundary ∧ ∃ tail, rest = '\x7b' :: tail ∧ flags.skip tail = []

theorem readNamedBoundary_confined : Local size (readNamedBoundary flags) := by
  apply Confined.after (fun rest => readBoundaryName flags rest.length [] rest) _ _
    (.own_length _ readBoundaryName_confined)
  · intro rest
    unfold readNamedBoundary
    generalize readBoundaryName flags rest.length [] rest = found
    exact ⟨rfl, rfl⟩
  intro name
  refine .on '\x7d' (by decide) (.error (e := .badEscape)) ⟨rfl, rfl⟩ (fun c rest hc => ?_) .check
  simp [hc]

variable {piece : Piece}

theorem readBoundary_suffix (h : readBoundary flags text = .ok (piece, rest)) : rest <:+ text := by
  unfold readBoundary at h
  split at h
  · split at h
    · cases h
    · split at h
      · exact ((readNamedBoundary_confined : Local 0 _).suffix h).trans (List.suffix_cons _ _)
      · cases h
        exact List.suffix_refl _
  · cases h
    exact List.suffix_refl _

theorem readBoundary_alone
    (h : readBoundary flags (text ++ closing) = .ok (piece, rest ++ closing)) :
    readBoundary flags text = .ok (piece, rest) ∨ HalfBoundary flags piece rest := by
  have hplain (before : List Char)
      (h : Except.ok (Piece.look .wordBoundary, before ++ closing) =
        (.ok (piece, rest ++ closing) : Except Fault (Piece × List Char))) :
      piece = .look .wordBoundary ∧ before = rest := by
    rw [Except.ok.injEq, Prod.mk.injEq, List.append_left_inj] at h
    exact ⟨h.1.symm, h.2⟩
  match text with
  | [] =>
    obtain ⟨rfl, rfl⟩ := hplain [] h
    exact .inl rfl
  | c :: tail =>
    by_cases hc : c = '\x7b'
    · subst hc
      simp only [readBoundary, List.cons_append] at h ⊢
      rcases flags.skip_append_closing tail with hskip | hskip
      · rw [hskip] at h
        cases htail : flags.skip tail with
        | nil =>
          rw [htail] at h
          obtain ⟨rfl, rfl⟩ := hplain ('\x7b' :: tail) h
          exact .inr ⟨rfl, tail, rfl, htail⟩
        | cons d _ =>
          rw [htail] at h
          simp only [List.cons_append] at h ⊢
          by_cases hd : isBoundaryChar d
          · rw [if_pos hd] at h ⊢
            exact .inl (readNamedBoundary_confined.alone (Nat.le_refl _) h)
          · rw [if_neg hd] at h ⊢
            obtain ⟨rfl, rfl⟩ := hplain ('\x7b' :: tail) h
            exact .inl rfl
      · rw [hskip] at h
        cases h
    · have hother (rest : List Char) :
          readBoundary flags (c :: rest) = .ok (.look .wordBoundary, c :: rest) := by
        unfold readBoundary
        split
        · next heq =>
          cases heq
          exact absurd rfl hc
        · rfl
      rw [List.cons_append, hother] at h
      rw [hother]
      obtain ⟨rfl, rfl⟩ := hplain (c :: tail) h
      exact .inl rfl

/-- What stands behind a backslash, if it is not the letter of the word boundary. -/
theorem readEscape_confined {c : Char} (hc : c ≠ 'b') :
    Local size fun rest => readEscape flags (c :: rest) := by
  simp only [readEscape]
  split
  case h_1 | h_2 | h_3 => exact readHex_confined
  case h_4 | h_5 => exact readProperty_confined
  case h_14 => exact absurd rfl hc
  case h_18 =>
    split
    · exact .check
    · split
      · exact .ok
      · exact .error
  all_goals exact .ok

theorem readEscape_suffix (h : readEscape flags text = .ok (piece, rest)) : rest <:+ text := by
  match text with
  | [] => cases h
  | c :: tail =>
    have htail : rest <:+ tail := by
      by_cases hc : c = 'b'
      · subst hc
        exact readBoundary_suffix h
      · exact (readEscape_confined hc : Local 0 _).suffix h
    exact htail.trans (List.suffix_cons c tail)

theorem readEscape_alone (h : readEscape flags (text ++ closing) = .ok (piece, rest ++ closing)) :
    readEscape flags text = .ok (piece, rest) ∨ HalfBoundary flags piece rest := by
  match text with
  | [] =>
    have hsuffix := (readEscape_confined (by decide) : Local 0 _).suffix h
    exact absurd hsuffix (not_append_closing_suffix (by decide))
  | c :: tail =>
    by_cases hc : c = 'b'
    · subst hc
      exact readBoundary_alone h
    · exact .inl ((readEscape_confined hc).alone (Nat.le_refl _) h)

end TreePath.Pattern
