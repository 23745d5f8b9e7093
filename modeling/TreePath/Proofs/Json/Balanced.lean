import TreePath.Proofs.Grammar.Operand
import TreePath.Proofs.Json.Decimal

/-!
# Documents inside commands

Documents are written with no brackets of a command but inside quotes, and with their quotes in
pairs that backslashes keep apart from the quotes of a text. So the scan of a command is behind a
document where it was before it, and a document of a list or a map may be the operand of an
operation: it is read with the value that the document holds.
-/

namespace TreePath

namespace Grammar

variable {c : Char} {text other : List Char}

theorem Balanced.append (h : Balanced text) (h' : Balanced other) : Balanced (text ++ other) := by
  rw [balanced_iff_after] at h h' ⊢
  rw [Scan.after_append, h]
  exact h'

/-- A character at which a scan of the top level stays where it is. -/
def IsPlain (c : Char) : Prop := Scan.start.step c = some .start

theorem isPlain_of_ne (h : c ≠ '\\' ∧ c ≠ '"' ∧ c ≠ '(' ∧ c ≠ ')') : IsPlain c := by
  obtain ⟨hbackslash, hquote, hopen, hclose⟩ := h
  simp [IsPlain, Scan.step, Scan.start, hbackslash, hquote, hopen, hclose]

theorem Balanced.cons (hc : IsPlain c) (h : Balanced text) : Balanced (c :: text) := by
  rw [balanced_iff_after] at h ⊢
  rw [Scan.after, hc]
  exact h

theorem balanced_of_plain (h : ∀ c ∈ text, IsPlain c) : Balanced text := by
  induction text with
  | nil => rfl
  | cons c rest ih =>
    obtain ⟨hc, hrest⟩ := List.forall_mem_cons.mp h
    exact (ih hrest).cons hc

end Grammar

namespace Json

open Grammar

variable {style : Style} {depth : Nat} {v : Value} {items : List Value} {entries : Dict Value}
  {text : List Char} {texts : List (List Char)} {c : Char}

/-! ## Strings -/

/-- The state inside a string. -/
def inString : Scan := ⟨0, true, false⟩

theorem after_hexDigit : ∀ n < 16, inString.after [hexDigit n] = some inString := by
  decide

/-- A character that was escaped does not end the string it stands in. -/
theorem after_escape : inString.after (escape c) = some inString := by
  rw [escape.eq_def]
  split
  -- In the other cases the escape is a backslash and one character, which the backslash hides.
  case h_8 _ hquote hbackslash _ _ _ _ _ =>
    split
    · next hcontrol =>
      have hdigits : inString.after ([hexDigit (c.toNat / 16)] ++ [hexDigit (c.toNat % 16)]) =
          some inString := by
        rw [Scan.after_append, after_hexDigit _ (by omega), Option.bind_some,
          after_hexDigit _ (by omega)]
      exact hdigits
    · have hstep : inString.step c = some inString := by
        simp [inString, Scan.step, show c ≠ '\\' from hbackslash, show c ≠ '"' from hquote]
      rw [Scan.after, hstep]
      rfl
  all_goals rfl

theorem after_flatMap_escape : inString.after (text.flatMap escape) = some inString := by
  induction text with
  | nil => rfl
  | cons c rest ih =>
    rw [List.flatMap_cons, Scan.after_append, after_escape]
    exact ih

theorem balanced_quote : Balanced (quote text) := by
  have hstring : inString.after (text.flatMap escape ++ ['"']) = some .start := by
    rw [Scan.after_append, after_flatMap_escape]
    rfl
  exact (balanced_iff_after _).mpr hstring

/-! ## Numbers -/

theorem isPlain_of_isDigit (h : c.isDigit) : IsPlain c := by
  refine isPlain_of_ne ⟨?_, ?_, ?_, ?_⟩ <;> rintro rfl <;> cases h

theorem Numeral.balanced_written {m : Numeral} {plus : Bool} (h : m.Proper) :
    Balanced (m.written plus) := by
  have hdigits {digits : List Char} (hall : ∀ c ∈ digits, c.isDigit) : Balanced digits :=
    balanced_of_plain fun c hc => isPlain_of_isDigit (hall c hc)
  have hsign : Balanced (if m.negative then ['-'] else []) := by
    cases m.negative <;> decide
  have hfraction : Balanced (fractionText m.fraction) := by
    cases hfraction : m.fraction with
    | none => rfl
    | some digits => exact (hdigits (h.fraction digits hfraction).2).cons rfl
  have hexponent : Balanced (exponentText plus m.exponent) := by
    cases m.exponent with
    | none => rfl
    | some e =>
      refine .cons rfl (.append ?_ (hdigits fun _ => isDigit_of_mem_toDigits))
      split
      · decide
      · cases plus <;> decide
  exact hsign.append ((hdigits h.isDigit).append (hfraction.append hexponent))

theorem balanced_numberText {n : Number} : Balanced (numberText n) := by
  cases hfinite : n.isFinite with
  | true =>
    obtain ⟨_, numeral, plus, hproper, htext, -⟩ := exists_denotes hfinite
    rw [htext]
    exact Numeral.balanced_written hproper
  | false =>
    rw [numberText_eq_null_iff.mpr hfinite]
    decide

/-! ## Values -/

theorem balanced_lineBreak : Balanced (style.lineBreak depth) := by
  refine balanced_of_plain fun c hc => isPlain_of_ne ?_
  have hspace := isSpace_of_mem_lineBreak c hc
  refine ⟨?_, ?_, ?_, ?_⟩ <;> rintro rfl <;> cases hspace

theorem balanced_colon : Balanced style.colon := by
  cases style <;> decide

theorem balanced_setOut (h : ∀ text ∈ texts, Balanced text) :
    Balanced (setOut style depth texts) := by
  induction texts with
  | nil => rfl
  | cons text rest ih =>
    obtain ⟨htext, hrest⟩ := List.forall_mem_cons.mp h
    by_cases hlast : rest = []
    · subst hlast
      exact balanced_lineBreak.append htext
    · rw [setOut_cons hlast]
      exact balanced_lineBreak.append (htext.append ((ih hrest).cons rfl))

theorem balanced_enclosed {opening closing : Char} (hopening : IsPlain opening)
    (hclosing : IsPlain closing) (h : ∀ text ∈ texts, Balanced text) :
    Balanced (enclosed style depth opening closing texts) := by
  have hend : Balanced [closing] := .cons hclosing rfl
  rw [enclosed]
  split
  · exact hend.cons hopening
  · exact ((balanced_setOut h).append (balanced_lineBreak.append hend)).cons hopening

/-- What is written for a value is balanced, whatever texts and keys it holds. -/
theorem balanced_write : Balanced (write style depth v) := by
  induction v using Value.induction_on_children generalizing depth with
  | bool b => cases b <;> rfl
  | string s => exact balanced_quote
  | number n => exact balanced_numberText
  | list items ih =>
    rw [write_list]
    exact balanced_enclosed rfl rfl (List.forall_mem_map.mpr fun v hv => ih v hv)
  | map entries ih =>
    rw [write_map]
    exact balanced_enclosed rfl rfl (List.forall_mem_map.mpr fun entry hentry =>
      balanced_quote.append (balanced_colon.append (ih entry hentry)))

/-! ## Documents as operands -/

/-- The document of a container stands between two brackets. -/
theorem exists_write_of_isContainer (h : v.isContainer) :
    ∃ opening middle closing, write style depth v = opening :: (middle ++ [closing]) ∧
      (opening = '[' ∧ closing = ']' ∨ opening = '\x7b' ∧ closing = '\x7d') := by
  cases v with
  | list items =>
    obtain ⟨middle, htext⟩ :=
      exists_enclosed style depth '[' ']' (items.map (write style (depth + 1)))
    exact ⟨_, middle, _, write_list.trans htext, .inl ⟨rfl, rfl⟩⟩
  | map entries =>
    obtain ⟨middle, htext⟩ := exists_enclosed style depth '\x7b' '\x7d' (entries.map fun entry =>
      entryText style entry.1.toList (write style (depth + 1) entry.2))
    exact ⟨_, middle, _, write_map.trans htext, .inr ⟨rfl, rfl⟩⟩
  | _ => cases h

/-- Nothing is trimmed of a text with no blank character at its ends. -/
theorem trim_eq_self {opening closing : Char} (hopening : Text.isBlankChar opening = false)
    (hclosing : Text.isBlankChar closing = false) :
    Text.trim (opening :: (text ++ [closing])) = opening :: (text ++ [closing]) := by
  simp [Text.trim, hopening, hclosing]

/-- The document of a container without binary numbers stands for the container, with each integer
in the class of an integer that has no other. -/
theorem standsFor_encode (hcontainer : v.isContainer) (h : Fits Number.isInteger depthLimit v) :
    Literal.StandsFor (encode style v) (v.mapNumbers Number.unclassed) := by
  obtain ⟨opening, middle, closing, htext, hbrackets⟩ :=
    @exists_write_of_isContainer style 0 v hcontainer
  have hopening : Text.isBlankChar opening = false := by
    rcases hbrackets with ⟨rfl, -⟩ | ⟨rfl, -⟩ <;> decide
  have hclosing : Text.isBlankChar closing = false := by
    rcases hbrackets with ⟨-, rfl⟩ | ⟨-, rfl⟩ <;> decide
  have hhead : (write style 0 v).head? = some '[' ∨ (write style 0 v).head? = some '\x7b' := by
    rw [htext]
    rcases hbrackets with ⟨rfl, -⟩ | ⟨rfl, -⟩ <;> simp
  have hdocument : (encode style v).toList = write style 0 v := String.toList_ofList
  constructor
  · rw [hdocument, htext]
    simp [Text.isBlank, hopening]
  · rw [hdocument]
    exact balanced_write
  · have htrim : Text.trim (write style 0 v) = write style 0 v := by
      rw [htext]
      exact trim_eq_self hopening hclosing
    rw [Literal.decode, hdocument, htrim, Literal.decodeTrimmed, if_pos hhead]
    exact decode_encode h

/-- Any list or map that documents can hold, without binary numbers, may be written behind an
accepted path as the operand of an operation that writes a value, in either layout. The command is
read with that path and with the container for its operand, each integer in the class of an integer
that has no other. So it is in particular behind a path of one name. -/
theorem parseCommand_encode (hcontainer : v.isContainer) (h : Fits Number.isInteger depthLimit v)
    (style : Style) :
    ∀ name ∈ Operation.writing,
      let operation := name ++ "(" ++ encode style v ++ ")"
      let d : Directive :=
        ⟨operation, some name, .value (v.mapNumbers Number.unclassed)⟩
      (∀ path segments, Registry.builtin.parsePath path = .ok segments →
        Registry.builtin.parseCommand (path ++ "!" ++ operation) = .ok ⟨segments, some d⟩) ∧
      ∃ segment, Registry.builtin.parseCommand ("//k!" ++ operation) = .ok ⟨[segment], some d⟩ := by
  intro name hname operation d
  have hoperation : Registry.builtin.parseOperation operation = .ok d :=
    Registry.parseOperation_writing name hname (standsFor_encode hcontainer h)
  refine ⟨fun path segments hpath => parseCommand_append hpath hoperation,
    ⟨⟨"k", none, .key (.name "k")⟩, none⟩, ?_⟩
  have htext : "//k!" ++ operation = "//k" ++ "!" ++ operation :=
    congrArg (· ++ operation) (show "//k!" = "//k" ++ "!" by decide)
  rw [htext]
  exact parseCommand_append rfl hoperation

/-- Brackets, quotes, backslashes, slashes and marks in a key and in a text, and a small integer. -/
theorem parseCommand_encode_marks :
    let v : Value := .map [("(\"", .list [.string "\\)!/#\n", .number (.fromInt (-7) (.int .w8))])]
    let w : Value := .map [("(\"", .list [.string "\\)!/#\n", .number (.ofInt (-7))])]
    let operation := "append(" ++ encode .indented v ++ ")"
    v.isContainer ∧ Fits Number.isInteger depthLimit v ∧
      ∃ segment, Registry.builtin.parseCommand ("//k!" ++ operation) =
        .ok ⟨[segment], some ⟨operation, some "append", .value w⟩⟩ := by
  intro v w operation
  have hfits : Fits Number.isInteger depthLimit v := ⟨by decide, by decide, by decide, by decide⟩
  have hread := (parseCommand_encode (v := v) rfl hfits .indented "append" (by decide)).2
  exact ⟨rfl, hfits, hread⟩

end Json

end TreePath
