import TreePath.Proofs.Dict
import TreePath.Proofs.Json.Token
import TreePath.Proofs.Outcome
import Mathlib.Data.List.DropRight
import Mathlib.Data.List.Nodup

/-!
# Reading what is set out in a container

The elements of a container stand one after the other with commas between them, in either layout.
If it is known of the text of each element as what it is read, or that it cannot be read, the same
is known of the text of the container, whatever the elements are texts of.
-/

namespace TreePath.Json

variable {α : Type} {style : Style} {fuel room depth outer : Nat} {items : List α}
  {text other rest blank key : List Char} {c : Char}

/-! ## Space between tokens -/

theorem skipSpace_append (h : ∀ c ∈ blank, isSpace c) :
    skipSpace (blank ++ text) = skipSpace text :=
  List.dropWhile_append_of_pos h

theorem skipSpace_cons (h : isSpace c = false) : skipSpace (c :: text) = c :: text := by
  simp [skipSpace, h]

theorem isSpace_of_mem_lineBreak : ∀ c ∈ style.lineBreak depth, isSpace c := by
  intro c h
  cases style with
  | compact => cases h
  | indented =>
    rcases List.mem_cons.mp h with rfl | hblank
    · rfl
    · rw [List.eq_of_mem_replicate hblank]
      rfl

theorem skipSpace_lineBreak : skipSpace (style.lineBreak depth ++ text) = skipSpace text :=
  skipSpace_append isSpace_of_mem_lineBreak

theorem skipSpace_lineBreak_cons (h : isSpace c = false) :
    skipSpace (style.lineBreak depth ++ c :: rest) = c :: rest := by
  rw [skipSpace_lineBreak, skipSpace_cons h]

/-- No number goes on with a line break. -/
theorem endsNumber_lineBreak (h : c.isDigit = false ∧ c ≠ '.' ∧ c ≠ 'e' ∧ c ≠ 'E') :
    EndsNumber (style.lineBreak depth ++ c :: rest) := by
  cases style with
  | compact => exact endsNumber_cons h
  | indented => exact endsNumber_cons (by decide)

theorem skipSpace_skipSpace : skipSpace (skipSpace text) = skipSpace text :=
  List.dropWhile_idempotent _ _

/-- Space before a value does not matter. -/
theorem readValue_congr (h : skipSpace text = skipSpace other) :
    readValue fuel room text = readValue fuel room other := by
  cases fuel <;> simp only [readValue, h]

theorem readItems_congr {done : List Value} (h : skipSpace text = skipSpace other) :
    readItems fuel room done text = readItems fuel room done other := by
  cases fuel <;> simp only [readItems, readValue_congr h]

theorem readEntry_congr (h : skipSpace text = skipSpace other) :
    readEntry fuel room text = readEntry fuel room other := by
  cases fuel <;> simp only [readEntry, expectChar, h]

theorem readEntries_congr {done : Dict Value} (h : skipSpace text = skipSpace other) :
    readEntries fuel room done text = readEntries fuel room done other := by
  cases fuel <;> simp only [readEntries, readEntry_congr h]

/-! ## Texts set out -/

/-- Texts one after the other, each on a line of its own, with commas between them. -/
def setOut (style : Style) (depth : Nat) : List (List Char) → List Char
  | [] => []
  | [text] => style.lineBreak depth ++ text
  | text :: rest => style.lineBreak depth ++ (text ++ ',' :: setOut style depth rest)

/-- Texts set out between the brackets of a container whose own line is at a depth. -/
def enclosed (style : Style) (depth : Nat) (opening closing : Char) (texts : List (List Char)) :
    List Char :=
  if texts = [] then [opening, closing]
  else opening :: (setOut style (depth + 1) texts ++ (style.lineBreak depth ++ [closing]))

/-- A key and the text of its value. -/
def entryText (style : Style) (key text : List Char) : List Char :=
  quote key ++ (style.colon ++ text)

theorem setOut_cons {texts : List (List Char)} (h : texts ≠ []) :
    setOut style depth (text :: texts) =
      style.lineBreak depth ++ (text ++ ',' :: setOut style depth texts) := by
  cases texts with
  | nil => exact absurd rfl h
  | cons other rest => rfl

theorem exists_enclosed (style : Style) (depth : Nat) (opening closing : Char)
    (texts : List (List Char)) :
    ∃ middle, enclosed style depth opening closing texts = opening :: (middle ++ [closing]) := by
  rw [enclosed]
  split
  · exact ⟨[], rfl⟩
  · exact ⟨setOut style (depth + 1) texts ++ style.lineBreak depth, by rw [List.append_assoc]⟩

theorem head?_enclosed {opening closing : Char} {texts : List (List Char)} :
    (enclosed style depth opening closing texts).head? = some opening := by
  obtain ⟨middle, htext⟩ := exists_enclosed style depth opening closing texts
  rw [htext, List.head?_cons]

theorem length_lt_entryText : text.length < (entryText style key text).length := by
  simp only [entryText, quote, List.length_append, List.length_cons]
  omega

/-- The first character that is no space is that of the first element. -/
theorem head_of_setOut {texts : List (List Char)} {tail : List Char} {d : Char}
    (hspace : isSpace c = false)
    (h : skipSpace (setOut style depth ((c :: tail) :: texts) ++ rest) = d :: text) : c = d := by
  have hfirst : ∃ following, setOut style depth ((c :: tail) :: texts) =
      style.lineBreak depth ++ c :: following := by
    by_cases hlast : texts = []
    · exact ⟨tail, by rw [hlast, setOut]⟩
    · exact ⟨_, setOut_cons hlast⟩
  obtain ⟨following, htext⟩ := hfirst
  rw [htext, List.append_assoc, List.cons_append, skipSpace_lineBreak_cons hspace] at h
  exact (List.cons.inj h).1

/-! ## What texts are read as -/

/-- A text is read as a value, or it cannot be read as one, whatever follows it. Reading goes at
most two steps down for a character: one to the elements of a container, one to the first of
them. -/
structure ReadsAs (room : Nat) (text : List Char) (result : Option Value) : Prop where
  starts : ∃ c tail, text = c :: tail ∧ isSpace c = false ∧ c ≠ ']'
  reads : ∀ fuel rest, 2 * text.length ≤ fuel → EndsNumber rest →
    (readValue fuel room (text ++ rest)).toOption = result.map (·, rest)

/-- A text is read as the value of an entry, or as the `null` of an entry that is left out. -/
def ReadsEntryAs (room : Nat) (text : List Char) (result : Option (Option Value)) : Prop :=
  ∀ fuel rest style depth key, 2 * text.length < fuel → EndsNumber rest →
    (readEntry fuel room (style.lineBreak depth ++ (entryText style key text ++ rest))).toOption =
      result.map fun v => (key, v, rest)

/-- There is a first step, as there is a first character. -/
theorem readsAs_of_step {result : Option Value}
    (starts : ∃ c tail, text = c :: tail ∧ isSpace c = false ∧ c ≠ ']')
    (reads : ∀ fuel rest, 2 * text.length ≤ fuel + 1 → EndsNumber rest →
      (readValue (fuel + 1) room (text ++ rest)).toOption = result.map (·, rest)) :
    ReadsAs room text result := by
  refine ⟨starts, fun fuel rest hfuel hrest => ?_⟩
  obtain ⟨c, tail, htext, -⟩ := starts
  cases fuel with
  | zero => simp [htext] at hfuel
  | succ fuel => exact reads fuel rest hfuel hrest

/-- A whole document is read as its text is. -/
theorem ReadsAs.decode_eq_ok {result : Option Value} {v : Value}
    (h : ReadsAs depthLimit text result) :
    decode (String.ofList text) = .ok v ↔ result = some v := by
  have hread : (readValue (3 * text.length + 3) depthLimit text).toOption = result.map (·, []) := by
    have hreads := h.reads (3 * text.length + 3) [] (by omega) nofun
    rwa [List.append_nil] at hreads
  have hdocument : (read text).toOption = result := by
    rw [read, toOption_bind, hread]
    cases result <;> rfl
  rw [decode, String.toList_ofList, ← hdocument, toOption_eq_some]
  cases read text <;> simp

/-! ## Lists -/

/-- The elements of a list are read one after the other up to the bracket that ends it, if each of
them can be read. -/
theorem readItems_setOut {texts : α → List Char} {result : α → Option Value} {done : List Value}
    (hne : items ≠ []) (hitems : ∀ a ∈ items, ReadsAs room (texts a) (result a))
    (hfuel : 2 * (setOut style depth (items.map texts)).length < fuel) :
    (readItems fuel room done (setOut style depth (items.map texts) ++
        (style.lineBreak outer ++ ']' :: rest))).toOption =
      (items.mapM result).map fun vs => (done.reverse ++ vs, rest) := by
  induction items generalizing fuel done with
  | nil => exact absurd rfl hne
  | cons a items ih =>
    obtain ⟨ha, hitems⟩ := List.forall_mem_cons.mp hitems
    obtain ⟨fuel, rfl⟩ : ∃ steps, fuel = steps + 1 :=
      Nat.exists_eq_add_one_of_ne_zero (Nat.ne_zero_of_lt hfuel)
    by_cases hmore : items = []
    · subst hmore
      simp only [List.map_cons, List.map_nil, setOut, List.length_append] at hfuel ⊢
      have hend : EndsNumber (style.lineBreak outer ++ ']' :: rest) :=
        endsNumber_lineBreak (by decide)
      have hread := ha.reads fuel _ (by omega) hend
      rw [List.append_assoc, readItems, readValue_congr skipSpace_lineBreak, toOption_bind, hread]
      cases hresult : result a with
      | none => simp [hresult]
      | some v => simp [hresult, skipSpace_lineBreak_cons (c := ']') rfl, Except.toOption]
    · have hmap : items.map texts ≠ [] := fun h => hmore (List.map_eq_nil_iff.mp h)
      simp only [List.map_cons, setOut_cons hmap, List.length_append, List.length_cons] at hfuel ⊢
      have hend : EndsNumber (',' :: (setOut style depth (items.map texts) ++
          (style.lineBreak outer ++ ']' :: rest))) := endsNumber_cons (by decide)
      have hread := ha.reads fuel _ (by omega) hend
      rw [List.append_assoc, List.append_assoc, List.cons_append, readItems,
        readValue_congr skipSpace_lineBreak, toOption_bind, hread]
      cases hresult : result a with
      | none => simp [hresult]
      | some v =>
        simp only [Option.map_some, Option.bind_some, skipSpace_cons (c := ',') rfl]
        rw [ih hmore hitems (by omega)]
        cases hothers : items.mapM result <;> simp [hresult, hothers]

theorem readsAs_list {texts : α → List Char} {result : α → Option Value}
    (hitems : ∀ a ∈ items, ReadsAs room (texts a) (result a)) :
    ReadsAs (room + 1) (enclosed style depth '[' ']' (items.map texts))
      ((items.mapM result).map .list) := by
  by_cases hempty : items = []
  · subst hempty
    refine readsAs_of_step ⟨_, _, rfl, by decide⟩ fun _ _ _ _ => ?_
    simp [enclosed, readValue, skipSpace_cons, isSpace, Except.toOption]
  · have hmap : items.map texts ≠ [] := fun h => hempty (List.map_eq_nil_iff.mp h)
    rw [enclosed, if_neg hmap]
    refine readsAs_of_step ⟨_, _, rfl, by decide⟩ fun fuel rest hfuel _ => ?_
    simp only [List.length_cons, List.length_append] at hfuel
    rw [List.cons_append, List.append_assoc, List.append_assoc, List.singleton_append, readValue,
      skipSpace_cons rfl]
    simp only
    split
    · next heq =>
      -- The first element does not start with the bracket that ends the list.
      obtain ⟨a, more, rfl⟩ := List.exists_cons_of_ne_nil hempty
      obtain ⟨c, tail, htext, hspace, hc⟩ := (hitems a List.mem_cons_self).starts
      rw [List.map_cons, htext] at heq
      exact absurd (head_of_setOut hspace heq) hc
    · rw [readItems_congr skipSpace_skipSpace, toOption_map,
        readItems_setOut hempty hitems (by omega)]
      cases items.mapM result <;> rfl

/-! ## Maps -/

/-- A key is read up to its colon, and what stands behind it is `null` or a value. -/
theorem readEntry_entryText {tail : List Char} (h : isSpace c = false) :
    readEntry (fuel + 1) room
        (style.lineBreak depth ++ (entryText style key (c :: tail) ++ rest)) =
      if c = 'n' then
        (expectWord ['u', 'l', 'l'] (tail ++ rest)).map fun rest => (key, none, rest)
      else
        (readValue fuel room (c :: (tail ++ rest))).map fun (v, rest) => (key, some v, rest) := by
  have hopening (text : List Char) : expectChar '"' (style.lineBreak depth ++ '"' :: text) =
      .ok text := by
    rw [expectChar, skipSpace_lineBreak_cons rfl]
    rfl
  have hcolon (text : List Char) : ∃ blank, expectChar ':' (style.colon ++ text) =
      .ok (blank ++ text) ∧ ∀ c ∈ blank, isSpace c := by
    cases style with
    | compact => exact ⟨[], rfl, nofun⟩
    | indented => exact ⟨[' '], rfl, List.forall_mem_singleton.mpr rfl⟩
  obtain ⟨blank, hblank, hblanks⟩ := hcolon (c :: (tail ++ rest))
  have hskip : skipSpace (blank ++ c :: (tail ++ rest)) = c :: (tail ++ rest) := by
    rw [skipSpace_append hblanks, skipSpace_cons h]
  rw [entryText, quote, readEntry, List.append_assoc, List.cons_append, List.cons_append, hopening]
  simp only [List.append_assoc, List.nil_append, List.reverse_nil, List.cons_append, Except.bind,
    readString_quoted, hblank, hskip]
  by_cases hnull : c = 'n'
  · subst hnull
    rfl
  · rw [if_neg hnull]
    split
    · next heq => exact absurd (List.cons.inj heq).1 hnull
    · rfl

theorem readsEntryAs_null : ReadsEntryAs room ['n', 'u', 'l', 'l'] (some none) := by
  intro fuel rest style depth key hfuel _
  obtain ⟨fuel, rfl⟩ : ∃ steps, fuel = steps + 1 :=
    Nat.exists_eq_add_one_of_ne_zero (Nat.ne_zero_of_lt hfuel)
  rw [readEntry_entryText rfl]
  rfl

/-- A value that does not start as `null` does is read as the value of an entry as it is read
alone. -/
theorem ReadsAs.entry {result : Option Value} (h : ReadsAs room text result)
    (hnull : text.head? ≠ some 'n') : ReadsEntryAs room text (result.map some) := by
  intro fuel rest style depth key hfuel hrest
  obtain ⟨fuel, rfl⟩ : ∃ steps, fuel = steps + 1 :=
    Nat.exists_eq_add_one_of_ne_zero (Nat.ne_zero_of_lt hfuel)
  have hread := h.reads fuel rest (Nat.le_of_lt_succ hfuel) hrest
  obtain ⟨c, tail, rfl, hspace, -⟩ := h.starts
  rw [readEntry_entryText hspace, if_neg fun heq => hnull (congrArg some heq), toOption_map,
    ← List.cons_append, hread]
  cases result <;> rfl

/-- The entries that are read, without those that are `null`, if none has a blank key. -/
def entriesOf (key : α → String) (result : α → Option (Option Value)) :
    List α → Option (Dict Value)
  | [] => some []
  | a :: rest =>
    if Text.isBlank (key a).toList then none
    else (result a).bind fun v =>
      (entriesOf key result rest).map fun es => (v.map fun v => (key a, v)).toList ++ es

/-- Where the entries of all have been read, no key was blank and no value was refused. -/
theorem of_entriesOf_eq_some {key : α → String} {result : α → Option (Option Value)}
    {es : Dict Value} (h : entriesOf key result items = some es) :
    ∀ a ∈ items, Text.isBlank (key a).toList = false ∧ ∃ v, result a = some v := by
  induction items generalizing es with
  | nil => exact List.forall_mem_nil _
  | cons a rest ih =>
    rw [entriesOf] at h
    by_cases hblank : Text.isBlank (key a).toList
    · simp [hblank] at h
    · rw [if_neg hblank] at h
      obtain ⟨v, hv, hrest⟩ := Option.bind_eq_some_iff.mp h
      obtain ⟨fs, hfs, -⟩ := Option.map_eq_some_iff.mp hrest
      exact List.forall_mem_cons.mpr ⟨⟨Bool.eq_false_iff.mpr hblank, v, hv⟩, ih hfs⟩

theorem readEntries_setOut {texts : α → List Char} {key : α → String}
    {result : α → Option (Option Value)} {done : Dict Value} (hne : items ≠ [])
    (hitems : ∀ a ∈ items, ReadsEntryAs room (texts a) (result a))
    (hnodup : (Dict.keys done ++ items.map key).Nodup)
    (hfuel : 2 * (setOut style depth
      (items.map fun a => entryText style (key a).toList (texts a))).length < fuel) :
    (readEntries fuel room done
        (setOut style depth (items.map fun a => entryText style (key a).toList (texts a)) ++
          (style.lineBreak outer ++ '\x7d' :: rest))).toOption =
      (entriesOf key result items).map fun es => (done ++ es, rest) := by
  induction items generalizing fuel done with
  | nil => exact absurd rfl hne
  | cons a items ih =>
    obtain ⟨ha, hitems⟩ := List.forall_mem_cons.mp hitems
    obtain ⟨fuel, rfl⟩ : ∃ steps, fuel = steps + 1 :=
      Nat.exists_eq_add_one_of_ne_zero (Nat.ne_zero_of_lt hfuel)
    obtain ⟨hfresh, hothers⟩ := List.nodup_cons.mp (List.nodup_middle.mp hnodup)
    have hinsert (v : Value) : Dict.insert (key a) v done = done ++ [(key a, v)] :=
      Dict.insert_of_notMem fun hmem => hfresh (List.mem_append_left _ hmem)
    have hlength : (texts a).length < (entryText style (key a).toList (texts a)).length :=
      length_lt_entryText
    by_cases hmore : items = []
    · subst hmore
      simp only [List.map_cons, List.map_nil, setOut, List.length_append] at hfuel
      have hend : EndsNumber (style.lineBreak outer ++ '\x7d' :: rest) :=
        endsNumber_lineBreak (by decide)
      have hread := ha fuel _ style depth (key a).toList (by omega) hend
      rw [List.map_cons, List.map_nil, setOut, List.append_assoc, readEntries, toOption_bind, hread]
      cases hresult : result a with
      | none => simp [entriesOf, hresult]
      | some v =>
        cases hblank : Text.isBlank (key a).toList with
        | true => simp [entriesOf, hblank, Except.toOption]
        | false =>
          cases v <;> simp [entriesOf, hresult, hblank, hinsert,
            skipSpace_lineBreak_cons (c := '\x7d') rfl, Except.toOption]
    · have hmap : items.map (fun a => entryText style (key a).toList (texts a)) ≠ [] :=
        fun h => hmore (List.map_eq_nil_iff.mp h)
      simp only [List.map_cons, setOut_cons hmap, List.length_append, List.length_cons] at hfuel
      have hend : EndsNumber (',' :: (setOut style depth
          (items.map fun a => entryText style (key a).toList (texts a)) ++
            (style.lineBreak outer ++ '\x7d' :: rest))) := endsNumber_cons (by decide)
      have hread := ha fuel _ style depth (key a).toList (by omega) hend
      have hsteps : 2 * (setOut style depth
          (items.map fun a => entryText style (key a).toList (texts a))).length < fuel := by omega
      have hafter (v : Option Value) := ih hmore hitems (Dict.nodup_keys_append hnodup v) hsteps
      rw [List.map_cons, setOut_cons hmap, List.append_assoc, List.append_assoc, List.cons_append,
        readEntries, toOption_bind, hread]
      cases hresult : result a with
      | none => simp [entriesOf, hresult]
      | some v =>
        cases hblank : Text.isBlank (key a).toList with
        | true => simp [entriesOf, hblank, Except.toOption]
        | false =>
          cases v with
          | none =>
            simpa [entriesOf, hresult, hblank, skipSpace_cons (c := ',') rfl] using hafter none
          | some v =>
            simpa [entriesOf, hresult, hblank, hinsert, skipSpace_cons (c := ',') rfl,
              Function.comp_def] using hafter (some v)

theorem readsAs_map {texts : α → List Char} {key : α → String}
    {result : α → Option (Option Value)}
    (hitems : ∀ a ∈ items, ReadsEntryAs room (texts a) (result a))
    (hnodup : (items.map key).Nodup) :
    ReadsAs (room + 1)
      (enclosed style depth '\x7b' '\x7d'
        (items.map fun a => entryText style (key a).toList (texts a)))
      ((entriesOf key result items).map .map) := by
  by_cases hempty : items = []
  · subst hempty
    refine readsAs_of_step ⟨_, _, rfl, by decide⟩ fun _ _ _ _ => ?_
    simp [enclosed, readValue, skipSpace_cons, isSpace, Except.toOption, entriesOf]
  · have hmap : items.map (fun a => entryText style (key a).toList (texts a)) ≠ [] :=
      fun h => hempty (List.map_eq_nil_iff.mp h)
    rw [enclosed, if_neg hmap]
    refine readsAs_of_step ⟨_, _, rfl, by decide⟩ fun fuel rest hfuel _ => ?_
    simp only [List.length_cons, List.length_append] at hfuel
    rw [List.cons_append, List.append_assoc, List.append_assoc, List.singleton_append, readValue,
      skipSpace_cons rfl]
    simp only
    split
    · next heq =>
      obtain ⟨a, more, rfl⟩ := List.exists_cons_of_ne_nil hempty
      rw [List.map_cons, entryText, quote, List.cons_append, List.cons_append] at heq
      cases head_of_setOut rfl heq
    · have hall : (Dict.keys ([] : Dict Value) ++ items.map key).Nodup := hnodup
      rw [readEntries_congr skipSpace_skipSpace, toOption_map,
        readEntries_setOut hempty hitems hall (by omega)]
      cases entriesOf key result items <;> rfl

end TreePath.Json
