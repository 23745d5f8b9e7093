import TreePath.Proofs.Handler.Reading
import TreePath.Proofs.Pattern.Group
import TreePath.Proofs.Pattern.Match

/-!
# Patterns that have to match whole names

To match whole names the text of a pattern is set in a group between the start and the end of the
name. If the text with its surroundings is a pattern, then the text by itself is one and matches
just the names that are found, unless it has a closing bracket for which it has no opening one:
that bracket closes the group.
-/

namespace TreePath

namespace Pattern

variable {text : List Char} {node : Node} {fuel : Nat}

/-- A text is a pattern if all of it is read and what it says is within the limits. -/
theorem readNode_eq_ok_iff :
    readNode text = .ok node ↔
      ∃ r, readBranches (text.length + 1) .initial ⟨[], [], []⟩ text = .ok (r, []) ∧
        r.finish.height ≤ heightLimit ∧ r.finish.node.Fits ∧ r.finish.node = node := by
  rw [readNode, bind_eq_ok]
  constructor
  · rintro ⟨⟨r, rest⟩, hread, h⟩
    dsimp only at h
    cases rest with
    | cons c rest => cases h
    | nil =>
      rw [if_neg (by decide)] at h
      by_cases hheight : heightLimit < r.finish.height
      · rw [if_pos hheight] at h
        cases h
      by_cases hfits : r.finish.node.Fits
      · rw [if_neg hheight, if_neg (not_not_intro hfits), Except.ok.injEq] at h
        exact ⟨r, hread, Nat.le_of_not_lt hheight, hfits, h⟩
      · rw [if_neg hheight, if_pos hfits] at h
        cases h
  · rintro ⟨r, hread, hheight, hfits, rfl⟩
    refine ⟨(r, []), hread, ?_⟩
    dsimp only
    rw [if_neg (by decide), if_neg (Nat.not_lt.mpr hheight), if_neg (not_not_intro hfits)]

/-- If a sequence is not too large, its two parts are not. -/
theorem Node.fits_of_seq {a b : Node} (h : Fits (.seq a b)) : a.Fits ∧ b.Fits :=
  ⟨Nat.le_trans (Nat.le_add_right _ _) h, Nat.le_trans (Nat.le_add_left _ _) h⟩

/-! ## Between a start and an end -/

/-- What stands in front of the text of a pattern that is set between a start and an end. -/
def opening : List Char := ['^', '(', '?', ':']

theorem toList_anchoredText {text : String} :
    (anchoredText text).toList = opening ++ (text.toList ++ closing) := by
  rw [anchoredText, String.toList_append, String.toList_append, List.append_assoc]
  rfl

/-- The group in which a pattern is set. -/
theorem readBranches_opening :
    readBranches (fuel + 2) .initial ⟨[], [], []⟩ (opening ++ text) =
      (readBranches fuel .initial ⟨[], [], []⟩ text).bind fun (group, rest) =>
        match rest with
        | ')' :: rest =>
          readBranches fuel .initial
            (Reading.afterGroup ⟨[], [⟨.look .textStart .word, 0, true⟩], []⟩ group) rest
        | _ => .error .unclosedGroup := by
  rfl

theorem readBranches_end {r : Reading} :
    readBranches (fuel + 2) .initial r ['$'] =
      .ok (r.push ⟨.look .textEnd .word, 0, true⟩, []) := by
  rfl

/-- A group between a start and an end is higher than the group by itself. -/
theorem finish_anchored {group : Reading} :
    (Reading.push (Reading.afterGroup ⟨[], [⟨.look .textStart .word, 0, true⟩], []⟩ group)
        ⟨.look .textEnd .word, 0, true⟩).finish =
      ⟨.seq (.look .textStart .word) (.seq group.finish.node (.look .textEnd .word)),
        group.finish.height + 2, true⟩ := by
  unfold Reading.afterGroup
  generalize group.finish = item
  simp [Reading.finish, Reading.push, sequenceOf, choiceOf, Node.ofSequence]
  omega

/-- A bracket that is left unread has the closing behind it or is its first character. -/
theorem exists_left_of_bracket {rest : List Char} (h : ')' :: rest <:+ text ++ closing) :
    ∃ left, ')' :: rest = left ++ closing := by
  rcases List.suffix_or_suffix_of_suffix h (List.suffix_append text closing) with hrest | hrest
  · refine ⟨[], ?_⟩
    rcases List.suffix_cons_iff.mp hrest with heq | hrest
    · exact heq
    · rcases List.suffix_cons_iff.mp hrest with heq | hrest
      · cases heq
      · cases List.suffix_nil.mp hrest
  · obtain ⟨left, hleft⟩ := hrest
    exact ⟨left, hleft.symm⟩

/-- The text of a pattern that can be set between a start and an end is a pattern by itself, or has
a closing bracket for which there is no opening one. -/
theorem readNode_of_anchored (h : readNode (opening ++ (text ++ closing)) = .ok node) :
    (∃ inner, readNode text = .ok inner ∧
        node = .seq (.look .textStart .word) (.seq inner (.look .textEnd .word))) ∨
      readNode text = .error .unopenedGroup := by
  obtain ⟨whole, hwhole, hheight, hfits, rfl⟩ := readNode_eq_ok_iff.mp h
  have hfuel : (opening ++ (text ++ closing)).length + 1 = (text.length + 5) + 2 := by
    simp [opening, closing]
  rw [hfuel, readBranches_opening] at hwhole
  obtain ⟨⟨group, rest⟩, hgroup, hwhole⟩ := bind_eq_ok.mp hwhole
  dsimp only at hwhole
  split at hwhole
  · next behind =>
    have hsuffix : ')' :: behind <:+ text ++ closing :=
      (readBranches_confined : Confined 0 _ _).suffix hgroup
    obtain ⟨left, hleft⟩ := exists_left_of_bracket hsuffix
    rw [hleft] at hgroup
    have halone : readBranches (text.length + 1) .initial ⟨[], [], []⟩ text = .ok (group, left) :=
      readBranches_confined.alone (Nat.le_refl _) hgroup
    cases left with
    | nil =>
      -- The group ends where the text does, and all that follows is the end.
      obtain rfl : behind = ['$'] := (List.cons.inj hleft).2
      rw [readBranches_end, Except.ok.injEq, Prod.mk.injEq] at hwhole
      rw [← hwhole.1, finish_anchored] at hheight hfits ⊢
      have hinner : group.finish.node.Fits := (Node.fits_of_seq (Node.fits_of_seq hfits).2).1
      have hlow : group.finish.height ≤ heightLimit :=
        Nat.le_trans (Nat.le_add_right _ 2) hheight
      exact .inl
        ⟨group.finish.node, readNode_eq_ok_iff.mpr ⟨group, halone, hlow, hinner, rfl⟩, rfl⟩
    | cons c left =>
      right
      rw [readNode, halone]
      rfl
  · cases hwhole

end Pattern

namespace Select

open Pattern

variable {source text : String} {d : Directive}

/-- What an accepted pattern selects. If its text by itself is a pattern, the names that it matches
from the first to the last character are selected, in order. That fails for no other reason than a
closing bracket in the text for which there is no opening one. -/
theorem matching_anchored_iff (h : matching.read source (some text) = .ok d) :
    (∃ p, ofText text = .ok p ∧ ∀ entries : Dict Value,
        matching.keys d (.map entries) =
          .ok (((Dict.keys entries).filter fun key => p.MatchesWhole key).map .name)) ↔
      ofText text ≠ .error .unopenedGroup := by
  constructor
  · rintro ⟨p, hp, -⟩ hfault
    cases hp.symm.trans hfault
  · intro hfault
    obtain ⟨given, hgiven, hread⟩ := bind_eq_ok.mp h
    obtain rfl : text = given := by
      have hread : Handler.requireArguments source ((some text.toList).map String.ofList)
          "a regex" = .ok given := by
        simpa using hgiven
      obtain ⟨inner, hinner, -, rfl⟩ := requireArguments_eq_ok.mp hread
      rw [← Option.some.inj hinner, String.ofList_toList]
    split at hread
    · next whole hwhole =>
      cases hread
      obtain ⟨node, hnode, rfl⟩ := map_eq_ok.mp hwhole
      rw [toList_anchoredText] at hnode
      rcases readNode_of_anchored hnode with ⟨inner, hinner, rfl⟩ | hunopened
      · refine ⟨⟨text, inner⟩, by rw [ofText, hinner]; rfl, fun entries => ?_⟩
        have hmatch (key : String) : foundIn ⟨anchoredText text,
            .seq (.look .textStart .word) (.seq inner (.look .textEnd .word))⟩ key =
              decide (MatchesWhole ⟨text, inner⟩ key) := by
          rw [Bool.eq_iff_iff, decide_eq_true_iff]
          exact Node.anchored_foundIn_iff
        show Except.ok (((Dict.keys entries).filter (foundIn _)).map Key.name) = _
        rw [funext hmatch]
      · exact absurd (by rw [ofText, hunopened]; rfl) hfault
    · cases hread

/-- A text with no bracket at all selects the names that it matches from end to end. -/
theorem matching_anchored_iff_hello :
    ∃ d, matching.read ":match(hel.*)" (some "hel.*") = .ok d ∧
      ∃ p, ofText "hel.*" = .ok p ∧ ∀ entries : Dict Value,
        matching.keys d (.map entries) =
          .ok (((Dict.keys entries).filter fun key => p.MatchesWhole key).map .name) := by
  have hread : ∃ d, matching.read ":match(hel.*)" (some "hel.*") = .ok d := ⟨_, rfl⟩
  have hpattern : ∃ p, ofText "hel.*" = .ok p := ⟨_, rfl⟩
  obtain ⟨d, hd⟩ := hread
  obtain ⟨p, hp⟩ := hpattern
  exact ⟨d, hd, (matching_anchored_iff hd).mpr (by rw [hp]; nofun)⟩

/-- The first closing bracket of the text closes the group it is set in, so a name is selected of
which the first characters match one part of the text. -/
theorem matching_half_anchored :
    ∃ d, matching.read ":match([(]a)|(?:b[)])" (some "[(]a)|(?:b[)]") = .ok d ∧
      ofText "[(]a)|(?:b[)]" = .error .unopenedGroup ∧
      matching.keys d (.map [("(axe", .bool true), ("axe", .bool false)]) =
        .ok [.name "(axe"] :=
  ⟨_, rfl, rfl, rfl⟩

end Select

end TreePath
