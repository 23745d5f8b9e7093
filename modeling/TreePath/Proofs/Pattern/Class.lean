import TreePath.Proofs.Pattern.Escape

/-!
# Classes before a closing bracket

What is read of a class does not depend on what stands behind the bracket that follows the class:
the text of a class has to end with a bracket of its own.
-/

namespace TreePath.Pattern

variable {flags : Flags} {size : Nat} {text rest : List Char} {c : Char} {piece : Piece}
  {item : Sized}

/-! ## Pieces and ranges -/

theorem readClassPiece_suffix (h : readClassPiece flags (c :: text) = .ok (piece, rest)) :
    rest <:+ text := by
  unfold readClassPiece at h
  split at h
  · next heq => cases heq
  · next heq =>
    cases heq
    exact readEscape_suffix h
  · next heq =>
    cases heq
    cases h
    exact List.suffix_refl _

theorem readClassPiece_alone
    (h : readClassPiece flags (c :: (text ++ closing)) = .ok (piece, rest ++ closing)) :
    readClassPiece flags (c :: text) = .ok (piece, rest) ∨ HalfBoundary flags piece rest := by
  by_cases hc : c = '\\'
  · subst hc
    exact readEscape_alone h
  · simp only [readClassPiece, Except.ok.injEq, Prod.mk.injEq, List.append_left_inj] at h ⊢
    exact .inl h

/-- Past the closing bracket it is not seen what the text before it cannot show. -/
theorem peekAfter_append_closing :
    peekAfter flags (text ++ closing) = (peekAfter flags text).or (some ')') := by
  have hhead (tail : List Char) : (tail ++ closing).head? = tail.head?.or (some ')') := by
    cases tail <;> rfl
  unfold peekAfter
  split
  · rw [dropBlank_append_closing]
    match text.dropWhile Text.isBlankChar with
    | [] => rfl
    | d :: tail =>
      by_cases hd : d = '#'
      · subst hd
        simp only [List.cons_append, dropBlank_append_closing, hhead]
      · simp [hd]
  · exact hhead text

theorem readRangeEnd_confined : Local size (readRangeEnd flags piece) := by
  apply Confined.skip flags
  · intro text
    unfold readRangeEnd
    generalize flags.skip text = u
    exact ⟨rfl, rfl⟩
  · refine .cons nofun fun c => ?_
    refine .bind_unless (HalfBoundary flags) readClassPiece_suffix
      (fun _ => readClassPiece_alone) (fun last => .check) ?_
    rintro last tail a rest ⟨rfl, -⟩ h
    obtain ⟨_, hrange, -⟩ := map_eq_ok.mp h
    obtain ⟨_, -, hlast⟩ := bind_eq_ok.mp hrange
    cases hlast

theorem readRangeFrom_suffix (h : readRangeFrom flags piece text = .ok (item, rest)) :
    rest <:+ text := by
  unfold readRangeFrom at h
  split at h
  · cases h
  · next after hskip =>
    have hafter : '-' :: after <:+ text := hskip ▸ Flags.skip_suffix
    dsimp only at h
    split at h
    · obtain ⟨_, -, heq⟩ := map_eq_ok.mp h
      cases heq
      exact hafter
    · have hrest : rest <:+ after := (readRangeEnd_confined : Local 0 _).suffix h
      exact hrest.trans ((List.suffix_cons '-' after).trans hafter)
  · obtain ⟨_, -, heq⟩ := map_eq_ok.mp h
    cases heq
    exact Flags.skip_suffix

/-- Of a class more has to follow; where the closing follows, the class is not closed before it. -/
theorem readRangeFrom_alone
    (h : readRangeFrom flags piece (text ++ closing) = .ok (item, rest ++ closing)) :
    readRangeFrom flags piece text = .ok (item, rest) ∨ rest = [] := by
  have hitem (before : List Char)
      (h : (classItem flags piece).map (fun item => (item, before ++ closing)) =
        .ok (item, rest ++ closing)) : classItem flags piece = .ok item ∧ before = rest := by
    obtain ⟨found, hfound, heq⟩ := map_eq_ok.mp h
    rw [Prod.mk.injEq, List.append_left_inj] at heq
    exact ⟨heq.1 ▸ hfound, heq.2⟩
  unfold readRangeFrom at h ⊢
  rcases flags.skip_append_closing text with hskip | hskip
  · rw [hskip] at h
    generalize flags.skip text = u at h
    cases u with
    | nil => exact .inr (hitem [] h).2.symm
    | cons c after =>
      by_cases hc : c = '-'
      · subst hc
        have hnext : ((peekAfter flags after).or (some ')') = some ']' ∨
            (peekAfter flags after).or (some ')') = some '-') ↔
            (peekAfter flags after = some ']' ∨ peekAfter flags after = some '-') := by
          cases peekAfter flags after <;> simp
        simp only [List.cons_append, peekAfter_append_closing, hnext] at h ⊢
        split at h
        · next hpeek =>
          obtain ⟨hfound, rfl⟩ := hitem ('-' :: after) h
          rw [if_pos hpeek, hfound]
          exact .inl rfl
        · next hpeek =>
          rw [if_neg hpeek]
          exact .inl (readRangeEnd_confined.alone (Nat.le_refl _) h)
      · split at h
        · next heq => cases heq
        · next heq =>
          cases heq
          exact absurd rfl hc
        · obtain ⟨hfound, rfl⟩ := hitem (c :: after) h
          split
          · next heq => cases heq
          · next heq =>
            cases heq
            exact absurd rfl hc
          · rw [hfound]
            exact .inl rfl
  · rw [hskip] at h
    cases h

/-- A condition on a position is no part of a class. -/
theorem readRangeFrom_look {place : Look} :
    readRangeFrom flags (.look place) text ≠ .ok (item, rest) := by
  intro h
  unfold readRangeFrom at h
  split at h
  · cases h
  · dsimp only at h
    split at h
    · cases h
    · unfold readRangeEnd at h
      split at h
      · cases h
      · obtain ⟨⟨last, tail⟩, -, h⟩ := bind_eq_ok.mp h
        cases h
  · cases h

theorem readClassRange_suffix (h : readClassRange flags (c :: text) = .ok (item, rest)) :
    rest <:+ text := by
  obtain ⟨⟨piece, tail⟩, hpiece, h⟩ := bind_eq_ok.mp h
  exact (readRangeFrom_suffix h).trans (readClassPiece_suffix hpiece)

theorem readClassRange_alone
    (h : readClassRange flags (c :: (text ++ closing)) = .ok (item, rest ++ closing)) :
    readClassRange flags (c :: text) = .ok (item, rest) ∨ rest = [] := by
  obtain ⟨⟨piece, tail⟩, hpiece, h⟩ := bind_eq_ok.mp h
  obtain ⟨before, rfl, -, -⟩ :=
    exists_append_closing (readRangeFrom_suffix h) (readClassPiece_suffix hpiece)
  rcases readClassPiece_alone hpiece with halone | ⟨rfl, -⟩
  · refine (readRangeFrom_alone h).imp_left fun hrange => ?_
    exact bind_eq_ok.mpr ⟨(piece, before), halone, hrange⟩
  · exact absurd h readRangeFrom_look

/-! ## Named sets -/

theorem namedClass?_suffix {negated : Bool}
    (h : namedClass? flags negated text = some (item, rest)) : rest <:+ text := by
  unfold namedClass? at h
  split at h
  · next tail heq =>
    obtain ⟨_, -, hrest⟩ := Option.map_eq_some_iff.mp h
    cases hrest
    have htail : ':' :: ']' :: rest <:+ text := heq ▸ List.dropWhile_suffix _
    exact ((List.suffix_cons ']' rest).trans (List.suffix_cons ':' _)).trans htail
  · cases h

/-- The name ends with a colon, which is not in the closing. -/
theorem namedClass?_append_closing (flags : Flags) (negated : Bool) (text : List Char) :
    namedClass? flags negated (text ++ closing) =
      (namedClass? flags negated text).map fun (item, rest) => (item, rest ++ closing) := by
  unfold namedClass?
  cases hdrop : text.dropWhile (· != ':') with
  | nil =>
    rw [List.dropWhile_append, hdrop]
    rfl
  | cons c tail =>
    obtain ⟨htake, hdrop'⟩ := cut_append_closing (hdrop ▸ List.cons_ne_nil c tail)
    rw [htake, hdrop', hdrop]
    match tail with
    | [] => by_cases hc : c = ':' <;> simp [closing, hc]
    | d :: rest =>
      by_cases hc : c = ':' <;> by_cases hd : d = ']' <;>
        simp [hc, hd, Option.map_map, Function.comp_def]

theorem asciiClass?_suffix (h : asciiClass? flags text = some (item, rest)) : rest <:+ text := by
  unfold asciiClass? at h
  split at h
  · exact (namedClass?_suffix h).trans
      ((List.suffix_cons _ _).trans (List.suffix_cons _ _))
  · exact (namedClass?_suffix h).trans (List.suffix_cons _ _)
  · cases h

theorem asciiClass?_append_closing :
    asciiClass? flags (text ++ closing) =
      (asciiClass? flags text).map fun (item, rest) => (item, rest ++ closing) := by
  match text with
  | [] => rfl
  | [c] =>
    by_cases hc : c = ':'
    · subst hc
      exact namedClass?_append_closing flags false []
    · simp [asciiClass?, hc]
  | c :: d :: tail =>
    by_cases hc : c = ':'
    · subst hc
      by_cases hd : d = '^'
      · subst hd
        exact namedClass?_append_closing flags true tail
      · simp [asciiClass?, hd]
        exact namedClass?_append_closing flags false (d :: tail)
    · simp [asciiClass?, hc]

/-! ## The start of a class -/

theorem leadingHyphens_confined {fuel : Nat} {items : List Sized} (hfuel : size ≤ fuel) :
    Confined size (fun text => .ok (leadingHyphens flags fuel items text))
      fun text => .ok (leadingHyphens flags size items text) := by
  refine .loop (· == '-') (fun items _ => ⟨.single '-', 0⟩ :: items) id (trims_skip flags)
    trims_id rfl (fun items text => ?_) (fun n items text => ?_) hfuel
  · rfl
  · rw [leadingHyphens.eq_def]
    match flags.skip text with
    | [] => rfl
    | c :: rest =>
      by_cases hc : c = '-'
      · subst hc
        rfl
      · simp [hc]

theorem openItems_confined : Local size fun text => .ok (openItems flags text) := by
  apply Confined.after (fun text => leadingHyphens flags text.length [] text) _ _
    (.own_length _ leadingHyphens_confined)
  · intro text
    unfold openItems
    generalize leadingHyphens flags text.length [] text = found
    exact ⟨rfl, rfl⟩
  intro items
  apply Confined.skip flags
  · intro text
    dsimp only
    generalize flags.skip text = u
    exact ⟨rfl, rfl⟩
  · cases items with
    | cons item items => exact .ok
    | nil =>
      refine .on ']' (by decide) (.ok (a := [])) ⟨rfl, rfl⟩ (fun c rest hc => ?_) .ok
      simp [hc]

theorem openClass_confined :
    Local size fun text => .ok (((openClass flags text).1, (openClass flags text).2.1),
      (openClass flags text).2.2) := by
  apply Confined.skip flags
  · intro text
    unfold openClass
    generalize flags.skip text = u
    exact ⟨rfl, rfl⟩
  · have hopened (negated : Bool) (size : Nat) : Local size fun text =>
        .ok ((negated, (openItems flags text).1), (openItems flags text).2) := by
      apply Confined.after (openItems flags) _ _ openItems_confined
      · intro text
        generalize openItems flags text = found
        exact ⟨rfl, rfl⟩
      · exact fun items => .ok (a := (negated, items))
    refine .on '^' (by decide) (hopened false size) ⟨rfl, rfl⟩ (fun c rest hc => ?_)
      (hopened true _)
    simp [hc]

/-! ## Whole classes -/

variable {negated : Bool} {pending : Option (SetOp × Sized)} {items : List Sized}

/-- A class takes at least the bracket that closes it. -/
theorem readClass_strict {fuel : Nat}
    (h : readClass fuel flags negated pending items text = .ok (item, rest)) :
    rest.length < text.length := by
  induction fuel generalizing negated pending items text item rest with
  | zero => cases h
  | succ fuel ih =>
    have hbelow {c : Char} {tail left : List Char} (hskip : flags.skip text = c :: tail)
        (hleft : left <:+ tail) : left.length < text.length := by
      have htail : c :: tail <:+ text := hskip ▸ Flags.skip_suffix
      exact Nat.lt_of_le_of_lt hleft.length_le htail.length_le
    unfold readClass at h
    split at h
    · cases h
    · next tail hskip =>
      split at h
      · next named left hnamed =>
        obtain ⟨_, -, h⟩ := bind_eq_ok.mp h
        exact (ih h).trans (hbelow hskip (asciiClass?_suffix hnamed))
      · dsimp only at h
        obtain ⟨⟨inner, left⟩, hinner, h⟩ := bind_eq_ok.mp h
        have hopened : (openClass flags tail).2.2 <:+ tail :=
          (openClass_confined : Local 0 _).suffix rfl
        exact (ih h).trans ((ih hinner).trans (hbelow hskip hopened))
    · next tail hskip =>
      obtain ⟨_, -, heq⟩ := map_eq_ok.mp h
      cases heq
      exact hbelow hskip (List.suffix_refl _)
    · next tail hskip => exact (ih h).trans (hbelow hskip (List.suffix_cons _ _))
    · next tail hskip => exact (ih h).trans (hbelow hskip (List.suffix_cons _ _))
    · next tail hskip => exact (ih h).trans (hbelow hskip (List.suffix_cons _ _))
    · obtain ⟨⟨first, left⟩, hfirst, h⟩ := bind_eq_ok.mp h
      cases hskip : flags.skip text with
      | nil =>
        rw [hskip] at hfirst
        cases hfirst
      | cons c tail =>
        rw [hskip] at hfirst
        exact (ih h).trans (hbelow hskip (readClassRange_suffix hfirst))

theorem readClass_confined {fuel : Nat} :
    Confined size (readClass fuel flags negated pending items)
      (readClass size flags negated pending items) := by
  induction fuel generalizing size negated pending items with
  | zero => exact .of_error
  | succ fuel ih =>
    have hrange (c : Char) (size : Nat) : Confined size
        (fun rest => (readClassRange flags (c :: rest)).bind fun (item, rest) =>
          readClass fuel flags negated pending (item :: items) rest)
        fun rest => (readClassRange flags (c :: rest)).bind fun (item, rest) =>
          readClass size flags negated pending (item :: items) rest := by
      refine .bind_unless (fun _ rest => rest = []) readClassRange_suffix
        (fun _ => readClassRange_alone) (fun item => ih) ?_
      rintro item text a rest rfl h
      have hlength := readClass_strict h
      rw [List.length_append] at hlength
      exact absurd hlength (Nat.not_lt.mpr (Nat.le_add_left _ _))
    refine .of_succ (fun n => readClass n flags negated pending items) (fun n _ => ?_) ?_
    · apply Confined.skip flags
      · intro text
        unfold readClass
        generalize flags.skip text = u
        exact ⟨rfl, rfl⟩
      · refine .cons nofun fun c => ?_
        rw [Nat.add_sub_cancel]
        by_cases hopen : c = '['
        · subst hopen
          apply Confined.either (asciiClass? flags) asciiClass?_suffix
            fun _ => asciiClass?_append_closing
          · intro text
            simp only
            cases asciiClass? flags text
            · exact ⟨rfl, rfl⟩
            · exact ⟨rfl, rfl⟩
          · intro item
            dsimp only
            exact .given fun item => ih
          · refine .after _ (fun ((innerNegated, innerItems), inner) =>
                (readClass fuel flags innerNegated none innerItems inner).bind fun (item, rest) =>
                  readClass fuel flags negated pending (item :: items) rest)
              (fun ((innerNegated, innerItems), inner) =>
                (readClass n flags innerNegated none innerItems inner).bind fun (item, rest) =>
                  readClass n flags negated pending (item :: items) rest)
              openClass_confined (fun _ => ⟨rfl, rfl⟩) fun start => ?_
            exact .bind ih fun item => @ih n negated pending (item :: items)
        by_cases hclose : c = ']'
        · subst hclose
          exact .check
        by_cases hop : c = '&' ∨ c = '-' ∨ c = '~'
        · -- Written twice, the character is an operation; once, it stands for itself.
          have hclosing : c ≠ ')' := by rcases hop with rfl | rfl | rfl <;> decide
          refine .on c hclosing (hrange c n) ?_ (fun d rest hd => ?_) ?_
          · rcases hop with rfl | rfl | rfl <;> exact ⟨rfl, rfl⟩
          · rcases hop with rfl | rfl | rfl <;> simp [hd]
          · rcases hop with rfl | rfl | rfl <;> exact ih.le (Nat.sub_le n 1)
        · obtain ⟨hand, hhyphen, htilde⟩ := by simpa only [not_or] using hop
          simp only [hopen, hclose, hand, hhyphen, htilde, List.cons.injEq, false_and, imp_self,
            implies_true]
          exact hrange c n
    · simp [readClass, Flags.skip_nil]

theorem readClass_own_length_confined :
    Local size fun text => readClass text.length.succ flags negated pending items text :=
  .own_length (fun n => readClass n.succ flags negated pending items)
    fun _ => readClass_confined.le (Nat.le_succ _)

end TreePath.Pattern
