import TreePath.Json.Read
import TreePath.Json.Write
import TreePath.Proofs.Number
import Mathlib.Data.List.TakeWhile

/-!
# Reading written numbers and strings

A number that was written is read back as its parts, as long as what follows does not go on with
it, and a string as its characters, whatever characters they are.
-/

namespace TreePath.Json

variable {text rest done digits : List Char} {n : Nat} {z : Int} {c : Char}

/-! ## Digits -/

/-- A text with which no number goes on. -/
def EndsNumber (text : List Char) : Prop :=
  ∀ c ∈ text.head?, c.isDigit = false ∧ c ≠ '.' ∧ c ≠ 'e' ∧ c ≠ 'E'

/-- A text with which no digits go on. -/
def EndsDigits (text : List Char) : Prop :=
  ∀ c ∈ text.head?, c.isDigit = false

theorem EndsNumber.endsDigits (h : EndsNumber text) : EndsDigits text :=
  fun c hc => (h c hc).1

theorem endsDigits_cons (h : c.isDigit = false) : EndsDigits (c :: rest) := by
  rintro d ⟨⟩
  exact h

theorem endsNumber_cons (h : c.isDigit = false ∧ c ≠ '.' ∧ c ≠ 'e' ∧ c ≠ 'E') :
    EndsNumber (c :: rest) := by
  rintro d ⟨⟩
  exact h

/-- No positive number is written with a zero in front. -/
theorem head_toDigits (h : 0 < n) : ∃ c digits, Nat.toDigits 10 n = c :: digits ∧ c ≠ '0' := by
  induction n using Nat.strongRecOn with
  | ind n ih =>
    by_cases hsmall : n < 10
    · exact ⟨n.digitChar, [], Nat.toDigits_of_lt_base hsmall, by simp; omega⟩
    · obtain ⟨c, digits, hdigits, hc⟩ := ih (n / 10) (by omega) (by omega)
      refine ⟨c, digits ++ [(n % 10).digitChar], ?_, hc⟩
      rw [Nat.toDigits_of_base_le (by omega) (by omega), hdigits, List.cons_append]

theorem isDigit_of_mem_toDigits (h : c ∈ Nat.toDigits 10 n) : c.isDigit :=
  Nat.isDigit_of_mem_toDigits (by omega) (by omega) h

theorem exists_toDigits (n : Nat) : ∃ c digits, Nat.toDigits 10 n = c :: digits ∧ c.isDigit := by
  obtain ⟨c, digits, hdigits⟩ := List.exists_cons_of_ne_nil (Nat.toDigits_ne_nil (n := n) (b := 10))
  exact ⟨c, digits, hdigits, isDigit_of_mem_toDigits (hdigits ▸ List.mem_cons_self)⟩

theorem takeWhile_isDigit_append (hdigits : ∀ c ∈ digits, c.isDigit) (hrest : EndsDigits rest) :
    (digits ++ rest).takeWhile Char.isDigit = digits ∧
      (digits ++ rest).dropWhile Char.isDigit = rest := by
  rw [List.takeWhile_append_of_pos hdigits, List.dropWhile_append_of_pos hdigits]
  cases rest with
  | nil => simp
  | cons c rest =>
    have hc := hrest c rfl
    simp [hc]

/-! ## Numerals -/

namespace Numeral

variable {m : Numeral} {plus : Bool} {fraction : Option (List Char)} {exponent : Option Int}

/-- What is written for the digits after the point. -/
def fractionText : Option (List Char) → List Char
  | none => []
  | some digits => '.' :: digits

/-- What is written for an exponent, with or without a plus. -/
def exponentText (plus : Bool) : Option Int → List Char
  | none => []
  | some e =>
    'e' :: ((if e < 0 then ['-'] else if plus then ['+'] else []) ++ Nat.toDigits 10 e.natAbs)

/-- The text of a numeral. -/
def written (plus : Bool) (m : Numeral) : List Char :=
  (if m.negative then ['-'] else []) ++
    (m.whole ++ (fractionText m.fraction ++ exponentText plus m.exponent))

/-- The parts of a numeral are digits, at least one in each, and a zero in front stands alone. -/
structure Proper (m : Numeral) : Prop where
  whole : m.whole = ['0'] ∨ ∃ c digits, m.whole = c :: digits ∧ c ≠ '0'
  isDigit : ∀ c ∈ m.whole, c.isDigit
  fraction : ∀ digits ∈ m.fraction, digits ≠ [] ∧ ∀ c ∈ digits, c.isDigit

theorem Proper.exists_whole (h : m.Proper) : ∃ c digits, m.whole = c :: digits ∧ c.isDigit := by
  obtain ⟨c, digits, hwhole⟩ : ∃ c digits, m.whole = c :: digits := by
    rcases h.whole with hzero | ⟨c, digits, hdigits, -⟩
    · exact ⟨_, _, hzero⟩
    · exact ⟨c, digits, hdigits⟩
  exact ⟨c, digits, hwhole, h.isDigit c (hwhole ▸ List.mem_cons_self)⟩

/-- A proper numeral starts with its sign or with a digit. -/
theorem Proper.exists_written (h : m.Proper) (plus : Bool) :
    ∃ c tail, m.written plus = c :: tail ∧ ∀ d, d ≠ '-' → d.isDigit = false → c ≠ d := by
  obtain ⟨c, digits, hwhole, hc⟩ := h.exists_whole
  cases hneg : m.negative with
  | true => exact ⟨'-', _, by rw [written, hneg]; rfl, fun d hd _ => hd.symm⟩
  | false =>
    refine ⟨c, _, by rw [written, hneg, hwhole]; rfl, fun d _ hd heq => ?_⟩
    rw [← heq, hc] at hd
    cases hd

theorem readWhole_append (h : m.Proper) (hrest : EndsDigits rest) :
    readWhole (m.whole ++ rest) = .ok (m.whole, rest) := by
  have hdigits := h.isDigit
  rcases h.whole with hzero | ⟨c, digits, hwhole, hc⟩
  · rw [hzero]
    cases rest with
    | nil => rfl
    | cons c rest =>
      have hc := hrest c rfl
      simp [readWhole, hc]
  · rw [hwhole] at hdigits ⊢
    obtain ⟨hhead, htail⟩ := List.forall_mem_cons.mp hdigits
    obtain ⟨htake, hdrop⟩ := takeWhile_isDigit_append htail hrest
    simp [readWhole, hc, hhead, htake, hdrop]

theorem readDigits_append (hne : digits ≠ []) (hdigits : ∀ c ∈ digits, c.isDigit)
    (hrest : EndsDigits rest) : readDigits (digits ++ rest) = .ok (digits, rest) := by
  obtain ⟨htake, hdrop⟩ := takeWhile_isDigit_append hdigits hrest
  rw [readDigits, htake, hdrop]
  cases digits with
  | nil => exact absurd rfl hne
  | cons c digits => rfl

/-- Neither digits nor a fraction go on with an exponent. -/
theorem exponentText_append (plus : Bool) (exponent : Option Int) (hrest : EndsNumber rest) :
    EndsDigits (exponentText plus exponent ++ rest) ∧
      ∀ tail, exponentText plus exponent ++ rest ≠ '.' :: tail := by
  cases exponent with
  | none =>
    rw [exponentText, List.nil_append]
    refine ⟨hrest.endsDigits, ?_⟩
    rintro tail rfl
    exact (hrest '.' rfl).2.1 rfl
  | some e => exact ⟨endsDigits_cons (by decide), nofun⟩

theorem readFraction_append (h : ∀ digits ∈ fraction, digits ≠ [] ∧ ∀ c ∈ digits, c.isDigit)
    (hrest : EndsDigits rest) (hpoint : ∀ tail, rest ≠ '.' :: tail) :
    readFraction (fractionText fraction ++ rest) = .ok (fraction, rest) := by
  cases fraction with
  | none =>
    rw [fractionText, List.nil_append, readFraction]
    exact hpoint
  | some digits =>
    obtain ⟨hne, hdigits⟩ := h digits rfl
    rw [fractionText, List.cons_append, readFraction, readDigits_append hne hdigits hrest]
    rfl

theorem readExponent_append (hrest : EndsNumber rest) :
    readExponent (exponentText plus exponent ++ rest) = .ok (exponent, rest) := by
  cases exponent with
  | none =>
    cases rest with
    | nil => rfl
    | cons c rest =>
      obtain ⟨-, -, he, hE⟩ := hrest c rfl
      simp [exponentText, readExponent, he, hE]
  | some e =>
    have hread : readDigits (Nat.toDigits 10 e.natAbs ++ rest) =
        .ok (Nat.toDigits 10 e.natAbs, rest) :=
      readDigits_append Nat.toDigits_ne_nil (fun _ => isDigit_of_mem_toDigits) hrest.endsDigits
    by_cases hneg : e < 0
    · have hvalue : Binary.signedInt true e.natAbs = e := by
        simp only [Binary.signedInt, if_true]
        omega
      simp [exponentText, readExponent, hneg, hread, Except.map, Nat.ofDigitChars_ten_toDigits,
        hvalue]
    · have hvalue : Binary.signedInt false e.natAbs = e := by
        simp only [Binary.signedInt, Bool.false_eq_true, if_false]
        omega
      cases plus with
      | true =>
        simp [exponentText, readExponent, hneg, hread, Except.map, Nat.ofDigitChars_ten_toDigits,
          hvalue]
      | false =>
        obtain ⟨c, digits, hdigits, hc⟩ := exists_toDigits e.natAbs
        have hminus : c ≠ '-' := by
          rintro rfl
          cases hc
        have hplus : c ≠ '+' := by
          rintro rfl
          cases hc
        have hnumber : Nat.ofDigitChars 10 (c :: digits) 0 = e.natAbs := by
          rw [← hdigits, Nat.ofDigitChars_ten_toDigits]
        rw [hdigits, List.cons_append] at hread
        simp [exponentText, readExponent, hneg, hdigits, hminus, hplus, hread, Except.map, hnumber,
          hvalue]

/-- A proper numeral is read back from its text. -/
theorem read_written (h : m.Proper) (hrest : EndsNumber rest) :
    read (m.written plus ++ rest) = .ok (m, rest) := by
  obtain ⟨hends, hpoint⟩ := exponentText_append plus m.exponent hrest
  have hfraction := readFraction_append h.fraction hends hpoint
  have hwhole : readWhole (m.whole ++ (fractionText m.fraction ++
      (exponentText plus m.exponent ++ rest))) = .ok (m.whole, fractionText m.fraction ++
        (exponentText plus m.exponent ++ rest)) := by
    refine readWhole_append h ?_
    cases m.fraction with
    | none => exact hends
    | some digits => exact endsDigits_cons (by decide)
  cases hneg : m.negative with
  | true =>
    have htext : m.written plus ++ rest = '-' :: (m.whole ++ (fractionText m.fraction ++
        (exponentText plus m.exponent ++ rest))) := by
      simp [written, hneg]
    rw [htext, read, hwhole]
    simp [hfraction, readExponent_append hrest, bind, Except.bind, pure, Except.pure, ← hneg]
  | false =>
    have htext : m.written plus ++ rest = m.whole ++ (fractionText m.fraction ++
        (exponentText plus m.exponent ++ rest)) := by
      simp [written, hneg]
    rw [htext, read, hwhole]
    · simp [hfraction, readExponent_append hrest, bind, Except.bind, pure, Except.pure, ← hneg]
    · intro tail htail
      obtain ⟨c, digits, hdigits, hc⟩ := h.exists_whole
      rw [hdigits] at htail
      obtain ⟨rfl, -⟩ := List.cons.inj htail
      cases hc

/-- The numeral of an integer. -/
def ofInt (z : Int) : Numeral :=
  ⟨decide (z < 0), Nat.toDigits 10 z.natAbs, none, none⟩

theorem proper_ofInt : (ofInt z).Proper where
  whole := by
    cases Nat.eq_zero_or_pos z.natAbs with
    | inl hzero => exact .inl (by rw [ofInt, hzero, Nat.toDigits_zero])
    | inr hpos => exact .inr (head_toDigits hpos)
  isDigit _ := isDigit_of_mem_toDigits
  fraction := nofun

theorem written_ofInt : (ofInt z).written plus = Text.ofInt z := by
  simp [written, ofInt, Text.ofInt, fractionText, exponentText]

theorem le_ofDigitChars : n ≤ Nat.ofDigitChars 10 digits n := by
  induction digits generalizing n with
  | nil => exact Nat.le_refl n
  | cons c rest ih =>
    rw [Nat.ofDigitChars_cons]
    exact Nat.le_trans (by omega) ih

theorem takeDigits_eq (h : Nat.ofDigitChars 10 digits n < Nat.pow 2 64) :
    takeDigits n digits = (Nat.ofDigitChars 10 digits n, []) := by
  induction digits generalizing n with
  | nil => rfl
  | cons c rest ih =>
    rw [Nat.ofDigitChars_cons] at h ⊢
    rw [takeDigits, if_pos (Nat.lt_of_le_of_lt le_ofDigitChars h), ih h]

/-- An integer of 64 bits is put in the class of an integer that has no other. -/
theorem integer_natAbs (hleast : -(Nat.pow 2 63 : Int) ≤ z) (hgreatest : z < (Nat.pow 2 63 : Int)) :
    integer (decide (z < 0)) z.natAbs = .ofInt z := by
  by_cases hneg : z < 0
  · have habs : -(z.natAbs : Int) = z := by omega
    rw [integer, decide_eq_true hneg, if_pos rfl, if_pos (by omega), habs]
  · have habs : (z.natAbs : Int) = z := by omega
    rw [integer, decide_eq_false hneg, if_neg Bool.false_ne_true, if_pos (by omega), habs]

/-- An integer whose digits 64 bits hold is read as one. -/
theorem value_ofInt_of_lt (h : z.natAbs < Nat.pow 2 64) :
    (ofInt z).value = .ok (integer (decide (z < 0)) z.natAbs) := by
  have hdigits : takeDigits 0 (Nat.toDigits 10 z.natAbs) = (z.natAbs, []) := by
    rw [takeDigits_eq (Nat.ofDigitChars_ten_toDigits.symm ▸ h), Nat.ofDigitChars_ten_toDigits]
  simp only [value, ofInt, hdigits]

/-- An integer of any width is read back, but for its class. -/
theorem value_ofInt {w : Width} (n : Sized w) : (ofInt n.val).value = .ok (.ofInt n.val) := by
  have hleast : -(Nat.pow 2 63 : Int) ≤ n.val := n.wide.least_le
  have hgreatest : n.val < (Nat.pow 2 63 : Int) := Int.lt_of_le_sub_one n.wide.le_greatest
  have hbound : n.val.natAbs < Nat.pow 2 64 := by
    simp only [Nat.pow_eq] at hleast hgreatest ⊢
    omega
  rw [value_ofInt_of_lt hbound, integer_natAbs hleast hgreatest]

end Numeral

/-- A text is that of a proper numeral, of which a number is read. -/
def Denotes (text : List Char) (n : Number) : Prop :=
  ∃ (m : Numeral) (plus : Bool), m.Proper ∧ text = m.written plus ∧ m.value = .ok n

/-! ## Strings -/

theorem hexCode?_hexDigit : ∀ n < 32,
    hexCode? '0' '0' (hexDigit (n / 16)) (hexDigit (n % 16)) = some n := by
  decide

/-- A character is read back from its escape. -/
theorem readString_escape :
    readString done (escape c ++ rest) = readString (c :: done) rest := by
  rw [escape.eq_def]
  split
  case h_8 _ hquote hbackslash _ _ _ _ _ =>
    split
    · next hcontrol =>
      -- The code of a control character is no half of a surrogate pair.
      have hcode := hexCode?_hexDigit c.toNat hcontrol
      have hlow : isLowSurrogate c.toNat = false := by
        simp only [isLowSurrogate, Bool.and_eq_false_iff, decide_eq_false_iff_not]
        omega
      have hhigh : isHighSurrogate c.toNat = false := by
        simp only [isHighSurrogate, Bool.and_eq_false_iff, decide_eq_false_iff_not]
        omega
      simp [readString, hcode, hlow, hhigh]
    · next hcontrol =>
      rw [List.singleton_append, readString, if_neg hcontrol]
      · exact hquote
      · exact fun _ _ _ _ _ heq _ => hbackslash heq
      · exact fun _ _ heq _ => hbackslash heq
  all_goals simp [readString, unescape?]

/-- A string is read back up to its closing quote. -/
theorem readString_quoted :
    readString done (text.flatMap escape ++ '"' :: rest) = .ok (done.reverse ++ text, rest) := by
  induction text generalizing done with
  | nil => simp [readString]
  | cons c text ih =>
    rw [List.flatMap_cons, List.append_assoc, readString_escape, ih]
    simp

end TreePath.Json
