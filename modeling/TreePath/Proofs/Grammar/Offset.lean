import TreePath.Proofs.Grammar.Call

/-!
# Cutting by offsets

A text is kept as bytes, and its parts are named by offsets: a scan notes where separators stand,
and what stands between two of them is sliced out of the text. A slice exists only between offsets
within the text that do not fall inside of a character. Cutting and taking calls apart in this way
always finds the slices it asks for, and they are the parts and the call that are found without
offsets.
-/

namespace TreePath.Grammar

/-- The offsets of the separators in a text that begins at an offset, from a state on. -/
def offsetsFrom (separator : Char) (s : Scan) (offset : Nat) :
    List Char → Except GrammarFault (List Nat)
  | [] => s.finish.map fun _ => []
  | c :: rest =>
    match s.step c with
    | none => .error .unbalancedClose
    | some next =>
      (offsetsFrom separator next (offset + c.utf8Size) rest).map fun offsets =>
        if s.separates separator c then offset :: offsets else offsets

/-- The offsets of the top-level separators of a text. -/
def offsets (separator : Char) (text : List Char) : Except GrammarFault (List Nat) :=
  offsetsFrom separator .start 0 text

/-- What stands between two offsets of a text. Nothing does if one of them lies outside of the text
or inside of a character, or if they are not in order. -/
def slice? (text : List Char) (first last : Nat) : Option (List Char) := do
  let p ← (String.ofList text).pos? ⟨first⟩
  let q ← (String.ofList text).pos? ⟨last⟩
  let slice ← (String.ofList text).slice? p q
  return slice.copy.toList

/-- The slices of a text from an offset on, between separators of a width at some offsets. -/
def slicesFrom (text : List Char) (width first : Nat) : List Nat → Option (List (List Char))
  | [] => do
    let slice ← slice? text first (byteLength text)
    return [slice]
  | offset :: offsets => do
    let slice ← slice? text first offset
    let others ← slicesFrom text width (offset + width) offsets
    return slice :: others

/-- Cuts a text into slices, if they exist. -/
def sliceParts (separator : Char) (text : List Char) :
    Except GrammarFault (Option (List (List Char))) :=
  (offsets separator text).map (slicesFrom text separator.utf8Size 0)

/-- Takes a call apart into slices, if they exist. -/
def sliceCall (text : List Char) : Except GrammarFault (Option Call) :=
  (offsets '(' text).bind fun
    | [] => .ok (some ⟨text, none⟩)
    | [opening] =>
      (offsets ')' text).bind fun closings =>
        match byteLength text with
        | 0 => .ok none
        | last + 1 =>
          if closings.head? = some last then
            .ok do
              let name ← slice? text 0 opening
              let arguments ← slice? text (opening + 1) last
              return ⟨name, some arguments⟩
          else .error .unclosedArguments
    | _ :: second :: _ => .error (.textAfterArguments second)

/-! ## Lengths -/

theorem byteLength_nil : byteLength [] = 0 := rfl

theorem byteLength_cons (c : Char) (rest : List Char) :
    byteLength (c :: rest) = c.utf8Size + byteLength rest := rfl

theorem byteLength_append (a b : List Char) :
    byteLength (a ++ b) = byteLength a + byteLength b := by
  induction a with
  | nil => simp [byteLength_nil]
  | cons c rest ih => rw [List.cons_append, byteLength_cons, ih, byteLength_cons, Nat.add_assoc]

theorem byteLength_eq_zero {text : List Char} : byteLength text = 0 ↔ text = [] := by
  cases text with
  | nil => simp [byteLength_nil]
  | cons c rest =>
    have hwidth : 0 < c.utf8Size := c.utf8Size_pos
    simp only [byteLength_cons, reduceCtorEq, iff_false]
    omega

theorem utf8ByteSize_ofList (text : List Char) :
    (String.ofList text).utf8ByteSize = byteLength text := by
  induction text with
  | nil => rfl
  | cons c rest ih =>
    rw [byteLength_cons, ← ih, ← List.singleton_append, String.ofList_append,
      String.utf8ByteSize_append, ← String.singleton_eq_ofList, String.utf8ByteSize_singleton]

/-! ## Slices -/

theorem pos?_offset {s : String} (p : s.Pos) : s.pos? p.offset = some p := by
  have hvalid : p.offset.isValidForSlice s.toSlice :=
    String.Pos.Raw.isValidForSlice_eq_true_iff.mpr p.isValid.toSlice
  rw [String.pos?, String.Slice.pos?, dif_pos hvalid]
  rfl

/-- Between two pieces of a text there is an offset. -/
theorem pos?_of_append {text a b : List Char} (h : text = a ++ b) :
    ∃ p, (String.ofList text).pos? ⟨byteLength a⟩ = some p ∧
      p.Splits (String.ofList a) (String.ofList b) := by
  have htext : String.ofList text = String.ofList a ++ String.ofList b := by
    rw [h, String.ofList_append]
  have hsplits := String.Pos.splits_ofEqAppend htext
  have hoffset : (⟨byteLength a⟩ : String.Pos.Raw) = (String.Pos.ofEqAppend htext).offset := by
    rw [← utf8ByteSize_ofList]
    exact hsplits.offset_eq_rawEndPos.symm
  exact ⟨_, by rw [hoffset, pos?_offset], hsplits⟩

/-- A piece of a text is the slice between where it begins and where it ends. -/
theorem slice?_eq_some {text a b c : List Char} {first last : Nat} (h : text = a ++ (b ++ c))
    (hfirst : first = byteLength a) (hlast : last = byteLength a + byteLength b) :
    slice? text first last = some b := by
  obtain ⟨p, hp, hsplits⟩ := pos?_of_append h
  obtain ⟨q, hq, hsplits'⟩ := pos?_of_append (h.trans (List.append_assoc a b c).symm)
  rw [String.ofList_append] at hsplits hsplits'
  obtain ⟨hle, hcopy⟩ := String.copy_slice_eq_iff_splits.mpr ⟨_, _, hsplits, hsplits'⟩
  rw [← hfirst] at hp
  rw [byteLength_append, ← hlast] at hq
  simp [slice?, hp, hq, String.slice?, hle, hcopy]

/-! ## Offsets -/

/-- The offsets of the separators between parts, of which the first one begins at an offset. -/
def cuts (separator : Char) (offset : Nat) (part : List Char) : List (List Char) → List Nat
  | [] => []
  | next :: others =>
    (offset + byteLength part) ::
      cuts separator (offset + byteLength part + separator.utf8Size) next others

theorem cuts_cons (separator c : Char) (offset : Nat) (part : List Char)
    (others : List (List Char)) :
    cuts separator offset (c :: part) others =
      cuts separator (offset + c.utf8Size) part others := by
  cases others <;> simp [cuts, byteLength_cons, Nat.add_assoc]

/-- A scan notes the offsets of the separators at which it cuts. -/
theorem offsetsFrom_eq (separator : Char) (s : Scan) (offset : Nat) (text : List Char) :
    offsetsFrom separator s offset text =
      (splitFrom separator s text).map fun (part, others) => cuts separator offset part others := by
  induction text generalizing s offset with
  | nil => rw [offsetsFrom, splitFrom]; cases s.finish <;> rfl
  | cons c rest ih =>
    rw [offsetsFrom, splitFrom]
    cases s.step c with
    | none => rfl
    | some next =>
      simp only [ih]
      cases splitFrom separator next rest with
      | error fault => rfl
      | ok parts =>
        obtain ⟨part, others⟩ := parts
        by_cases hsep : s.separates separator c
        · obtain rfl := Scan.eq_of_separates hsep
          simp [Except.map, hsep, cuts, byteLength_nil]
        · simp [Except.map, hsep, cuts_cons]

theorem offsets_eq (separator : Char) (text : List Char) :
    offsets separator text =
      (split separator text).map fun (part, others) => cuts separator 0 part others :=
  offsetsFrom_eq separator .start 0 text

/-! ## Parts as slices -/

theorem slicesFrom_cuts {separator : Char} {text before part : List Char}
    {others : List (List Char)} (h : text = before ++ joined separator (part, others)) :
    slicesFrom text separator.utf8Size (byteLength before)
      (cuts separator (byteLength before) part others) = some (part :: others) := by
  induction others generalizing before part with
  | nil =>
    simp only [joined, List.flatMap_nil] at h
    have hlast : byteLength text = byteLength before + byteLength part := by
      rw [h, byteLength_append, List.append_nil]
    simp [cuts, slicesFrom, slice?_eq_some h rfl hlast]
  | cons next others ih =>
    have htext : text = before ++ (part ++ separator :: joined separator (next, others)) := by
      simpa [joined] using h
    have hbefore : byteLength before + byteLength part + separator.utf8Size =
        byteLength (before ++ part ++ [separator]) := by
      simp [byteLength_append, byteLength_cons, byteLength_nil, Nat.add_assoc]
    have hothers := @ih (before ++ part ++ [separator]) next (by simpa using htext)
    rw [cuts, slicesFrom, slice?_eq_some htext rfl rfl, hbefore, hothers]
    rfl

/-- The slices into which a text is cut exist and are its parts. -/
theorem sliceParts_eq (separator : Char) (text : List Char) :
    sliceParts separator text =
      (split separator text).map fun (part, others) => some (part :: others) := by
  rw [sliceParts, offsets_eq]
  cases hsplit : split separator text with
  | error fault => rfl
  | ok parts =>
    have htext := eq_joined_of_splitFrom hsplit
    have hslices := @slicesFrom_cuts separator text [] parts.1 parts.2 htext
    rw [byteLength_nil] at hslices
    simp [Except.map, hslices]

/-! ## Calls as slices -/

/-- The first bracket that closes a group is the last character of a text if the text is cut there
alone and nothing comes behind it. -/
theorem head?_cuts_eq_some {text inside : List Char} {others : List (List Char)} {last : Nat}
    (h : text = joined ')' (inside, others)) (hlength : byteLength text = last + 1) :
    (cuts ')' 0 inside others).head? = some last ↔ others = [[]] := by
  cases others with
  | nil => simp [cuts]
  | cons next rest =>
    have hsum : byteLength text =
        byteLength inside + (1 + byteLength (next ++ rest.flatMap (')' :: ·))) := by
      rw [h, joined, List.flatMap_cons, List.cons_append, byteLength_append, byteLength_cons]
      rfl
    have hlast : byteLength inside = last ↔ byteLength (next ++ rest.flatMap (')' :: ·)) = 0 := by
      omega
    simp only [cuts, Nat.zero_add, List.head?_cons, Option.some.injEq, hlast, byteLength_eq_zero]
    cases rest <;> simp

/-- The slices that are a call's name and its arguments exist. -/
theorem slice?_call {text name arguments : List Char} {last : Nat}
    (h : text = name ++ '(' :: (arguments ++ [')'])) (hlength : byteLength text = last + 1) :
    slice? text 0 (byteLength name) = some name ∧
      slice? text (byteLength name + 1) last = some arguments := by
  have hopen : byteLength ['('] = 1 := rfl
  have hclose : byteLength [')'] = 1 := rfl
  have hbehind : text = (name ++ ['(']) ++ (arguments ++ [')']) := by simp [h]
  have hbehind_length : byteLength (name ++ ['(']) = byteLength name + 1 := by
    rw [byteLength_append, hopen]
  have hlast : last = byteLength (name ++ ['(']) + byteLength arguments := by
    rw [hbehind, byteLength_append, byteLength_append arguments, hclose] at hlength
    omega
  refine ⟨slice?_eq_some (a := []) h byteLength_nil.symm (Nat.zero_add _).symm, ?_⟩
  exact slice?_eq_some hbehind hbehind_length.symm hlast

/-- A call whose brackets close before its end is not taken apart. -/
theorem splitCall_unclosed {text name group inside : List Char} {others : List (List Char)}
    (hopen : split '(' text = .ok (name, [group])) (hclose : split ')' text = .ok (inside, others))
    (hothers : others ≠ [[]]) : splitCall text = .error .unclosedArguments := by
  simp only [splitCall, hopen, hclose, Except.bind]
  split
  · next heq => exact absurd (Prod.mk.inj heq).2 hothers
  · rfl

/-- The slices into which a call is taken apart exist, and they are its name and its arguments. -/
theorem sliceCall_eq (text : List Char) : sliceCall text = (splitCall text).map some := by
  rw [sliceCall, offsets_eq, offsets_eq]
  cases hopen : split '(' text with
  | error fault => simp [splitCall, hopen, Except.map, Except.bind]
  | ok parts =>
    obtain ⟨name, _ | ⟨group, _ | ⟨second, others⟩⟩⟩ := parts
    · simp [splitCall, hopen, Except.map, Except.bind, cuts]
    · cases hclose : split ')' text with
      | error fault => simp [splitCall, hopen, hclose, Except.map, Except.bind, cuts]
      | ok parts =>
        obtain ⟨inside, others⟩ := parts
        obtain ⟨last, hlength⟩ : ∃ last, byteLength text = last + 1 := by
          refine Nat.exists_eq_succ_of_ne_zero fun hzero => ?_
          have htext := eq_joined_of_splitFrom hopen
          simp [byteLength_eq_zero.mp hzero, joined] at htext
        have hhead := head?_cuts_eq_some (eq_joined_of_splitFrom hclose) hlength
        simp only [Except.map, Except.bind, cuts, hlength, hhead, Nat.zero_add]
        by_cases hlast : others = [[]]
        · subst hlast
          have hcall : splitCall text = .ok ⟨name, some (inside.drop (name.length + 1))⟩ := by
            simp only [splitCall, hopen, hclose, Except.bind]
          obtain ⟨hname, harguments⟩ := slice?_call (balanced_of_splitCall hcall).1 hlength
          simp [hcall, hname, harguments]
        · simp [splitCall_unclosed hopen hclose hlast, hlast]
    · have hwidth : '('.utf8Size = 1 := rfl
      simp only [splitCall, hopen, Except.map, Except.bind, cuts, hwidth, Nat.zero_add]

end TreePath.Grammar
