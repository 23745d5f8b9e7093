import TreePath.Proofs.Json.Document
import TreePath.Proofs.Json.Layout

/-!
# Decoding what was encoded

If numbers are written as numerals, a tree that fits a document is decoded to itself, in both ways
of setting the document out, but for its numbers: each is the one that is read of its numeral. So a
tree without binary numbers changes only in the classes of its integers, and one that was decoded
has lost these already and comes back as it is.
-/

namespace TreePath.Json

variable {g : Number → Number} {p : Number → Bool} {style : Style} {fuel room depth : Nat}
  {v : Value} {items : List Value} {entries : Dict Value} {text rest : List Char}

/-- A value is read back, but for its numbers, from what is written for it, and it is not written
as `null` is. -/
structure ReadsBack (g : Number → Number) (style : Style) (room : Nat) (v : Value) : Prop where
  reads : ∀ depth, ReadsAs room (write style depth v) (some (v.mapNumbers g))
  notNull : ∀ depth, (write style depth v).head? ≠ some 'n'

/-! ## Leaves -/

theorem readsAs_bool (b : Bool) : ReadsAs room (write style depth (.bool b)) (some (.bool b)) := by
  refine readsAs_of_step ?_ fun _ _ _ _ => ?_
  · cases b <;> exact ⟨_, _, rfl, by decide⟩
  · cases b <;> simp [write, readValue, skipSpace_cons, isSpace, expectWord, Except.map,
      Except.toOption]

theorem readsBack_bool (b : Bool) : ReadsBack g style room (.bool b) := by
  refine ⟨fun _ => readsAs_bool b, fun _ => ?_⟩
  cases b <;> simp [write]

theorem readsAs_quote (s : String) : ReadsAs room (quote s.toList) (some (.string s)) := by
  refine readsAs_of_step ⟨_, _, rfl, by decide⟩ fun _ _ _ _ => ?_
  simp [quote, readValue, skipSpace_cons, isSpace, readString_quoted, Except.map, Except.toOption]

theorem readsBack_string (s : String) : ReadsBack g style room (.string s) :=
  ⟨fun _ => readsAs_quote s, fun _ => by simp [write, quote]⟩

theorem denotes_int {w : Width} (n : Sized w) : Denotes (numberText (.int w n)) (.ofInt n.val) :=
  ⟨.ofInt n.val, false, Numeral.proper_ofInt, Numeral.written_ofInt.symm, Numeral.value_ofInt n⟩

/-- A numeral starts with its sign or with a digit, and so not as any other value does. -/
theorem Denotes.exists_cons {n : Number} (h : Denotes text n) :
    ∃ c tail, text = c :: tail ∧ ∀ d, d ≠ '-' → d.isDigit = false → c ≠ d := by
  obtain ⟨numeral, plus, hproper, rfl, -⟩ := h
  exact hproper.exists_written plus

theorem Denotes.head?_ne {n : Number} (h : Denotes text n) : text.head? ≠ some 'n' := by
  obtain ⟨c, tail, rfl, hne⟩ := h.exists_cons
  exact fun heq => hne 'n' (by decide) (by decide) (Option.some.inj heq)

theorem Denotes.readsAs {n : Number} (h : Denotes text n) :
    ReadsAs room text (some (.number n)) := by
  obtain ⟨c, tail, htext, hne⟩ := h.exists_cons
  obtain ⟨numeral, plus, hproper, hwritten, hvalue⟩ := h
  have hspace : isSpace c = false := by simp [isSpace, hne]
  refine readsAs_of_step ⟨c, tail, htext, hspace, hne _ (by decide) (by decide)⟩ ?_
  intro fuel rest _ hrest
  rw [htext, readValue, List.cons_append, skipSpace_cons hspace]
  split
  case h_1 heq => cases heq
  -- The last case is that of numbers; each of the others starts with another character.
  case h_8 =>
    rw [← List.cons_append, ← htext, hwritten, Numeral.read_written hproper hrest]
    simp [Except.bind, hvalue, Except.map, Except.toOption]
  all_goals
    next heq => exact absurd (List.cons.inj heq).1 (hne _ (by decide) (by decide))

theorem readsBack_number {n : Number} (h : Denotes (numberText n) (g n)) :
    ReadsBack g style room (.number n) :=
  ⟨fun _ => h.readsAs, fun _ => h.head?_ne⟩

/-! ## Containers -/

theorem writeItems_eq :
    writeItems style depth items = setOut style depth (items.map (write style depth)) := by
  induction items with
  | nil => rfl
  | cons v rest ih =>
    cases rest with
    | nil => rfl
    | cons w more =>
      have hne : (w :: more).map (write style depth) ≠ [] := List.cons_ne_nil _ _
      rw [List.map_cons, setOut_cons hne, ← ih]
      simp [writeItems]

theorem write_list :
    write style depth (.list items) =
      enclosed style depth '[' ']' (items.map (write style (depth + 1))) := by
  cases items with
  | nil => simp [write, enclosed]
  | cons v rest => simp [write, enclosed, writeItems_eq]

theorem writeEntries_eq :
    writeEntries style depth entries =
      setOut style depth
        (entries.map fun entry => entryText style entry.1.toList (write style depth entry.2)) := by
  induction entries with
  | nil => rfl
  | cons entry rest ih =>
    cases rest with
    | nil => simp [writeEntries, setOut, entryText]
    | cons other more =>
      have hne : (other :: more).map
          (fun entry => entryText style entry.1.toList (write style depth entry.2)) ≠ [] :=
        List.cons_ne_nil _ _
      rw [List.map_cons, setOut_cons hne, ← ih]
      simp [writeEntries, entryText]

theorem write_map :
    write style depth (.map entries) =
      enclosed style depth '\x7b' '\x7d' (entries.map fun entry =>
        entryText style entry.1.toList (write style (depth + 1) entry.2)) := by
  cases entries with
  | nil => simp [write, enclosed]
  | cons entry rest => simp [write, enclosed, writeEntries_eq]

theorem readsBack_list (hitems : ∀ v ∈ items, ReadsBack g style room v) :
    ReadsBack g style (room + 1) (.list items) := by
  refine ⟨fun depth => ?_, fun depth => ?_⟩
  · have hread : ReadsAs (room + 1) (enclosed style depth '[' ']'
        (items.map (write style (depth + 1))))
          ((items.mapM fun v => some (v.mapNumbers g)).map .list) :=
      readsAs_list fun v hv => (hitems v hv).reads (depth + 1)
    have hmap : items.mapM (fun v => some (v.mapNumbers g)) =
        some (items.map (Value.mapNumbers g)) := List.mapM_pure
    rw [hmap] at hread
    rw [write_list, Value.mapNumbers, Value.mapNumbersItems_eq]
    exact hread
  · rw [write_list, head?_enclosed]
    decide

/-- If no key is blank and all values are read, so are all entries. -/
theorem entriesOf_eq_some {f : Value → Value}
    (hblank : ∀ k ∈ Dict.keys entries, Text.isBlank k.toList = false) :
    entriesOf Prod.fst (fun entry => some (some (f entry.2))) entries =
      some (entries.map fun entry => (entry.1, f entry.2)) := by
  induction entries with
  | nil => rfl
  | cons entry rest ih =>
    obtain ⟨hkey, hrest⟩ := List.forall_mem_cons.mp hblank
    simp [entriesOf, hkey, ih hrest]

theorem readsBack_map (hnodup : (Dict.keys entries).Nodup)
    (hblank : ∀ k ∈ Dict.keys entries, Text.isBlank k.toList = false)
    (hentries : ∀ entry ∈ entries, ReadsBack g style room entry.2) :
    ReadsBack g style (room + 1) (.map entries) := by
  refine ⟨fun depth => ?_, fun depth => ?_⟩
  · have hread : ReadsAs (room + 1) (enclosed style depth '\x7b' '\x7d' (entries.map fun entry =>
        entryText style entry.1.toList (write style (depth + 1) entry.2)))
          ((entriesOf Prod.fst (fun entry => some (some (entry.2.mapNumbers g))) entries).map
            .map) :=
      readsAs_map (fun entry hentry => ((hentries entry hentry).reads (depth + 1)).entry
        ((hentries entry hentry).notNull (depth + 1))) hnodup
    rw [entriesOf_eq_some hblank] at hread
    rw [write_map, Value.mapNumbers, Value.mapNumbersEntries_eq]
    exact hread
  · rw [write_map, head?_enclosed]
    decide

/-! ## Documents -/

/-- A document is read back, if its numbers are. -/
theorem readsBack_of_fits (hnumber : ∀ n, p n → Denotes (numberText n) (g n))
    (h : Fits p room v) : ReadsBack g style room v := by
  induction v using Value.induction_on_children generalizing room with
  | bool b => exact readsBack_bool b
  | string s => exact readsBack_string s
  | number n => exact readsBack_number (hnumber n (fits_number.mp h))
  | list items ih =>
    obtain ⟨below, rfl, hitems⟩ := fits_list.mp h
    exact readsBack_list fun v hv => ih v hv (hitems v hv)
  | map entries ih =>
    obtain ⟨below, rfl, hnodup, hblank, hentries⟩ := fits_map.mp h
    exact readsBack_map hnodup hblank fun entry hentry => ih entry hentry (hentries entry hentry)

theorem decode_encode_of_denotes (hnumber : ∀ n, p n → Denotes (numberText n) (g n))
    (h : Fits p depthLimit v) : decode (encode style v) = .ok (v.mapNumbers g) := by
  rw [encode, ((readsBack_of_fits hnumber h).reads 0).decode_eq_ok]

theorem decode_encode (h : Fits Number.isInteger depthLimit v) :
    decode (encode style v) = .ok (v.mapNumbers Number.unclassed) := by
  refine decode_encode_of_denotes (fun n hn => ?_) h
  cases n with
  | int w n =>
    rw [Number.unclassed_int]
    exact denotes_int n
  | float p x => cases hn

/-- Decoding what was encoded, in either layout, gives the tree with its integers in the class of
integers that have no other; a tree that was decoded is given back as it is. -/
theorem round_trip (style : Style) :
    (∀ v, Fits Number.isInteger depthLimit v →
      decode (encode style v) = .ok (v.mapNumbers Number.unclassed)) ∧
    ∀ document w, decode document = .ok w → w.allNumbers Number.isInteger →
      decode (encode style w) = .ok w := by
  refine ⟨fun v hfits => decode_encode hfits, fun document w hdecode hnumbers => ?_⟩
  have hfits : Fits (fun n => n.unclassed = n) depthLimit w :=
    fits_of_decode (fun _ _ hvalue => decide_eq_true (unclassed_of_value hvalue)) hdecode
  rw [decode_encode { hfits with allNumbers := hnumbers },
    Value.mapNumbers_eq_self hfits.allNumbers]

/-- A small integer and a large one change their widths once, and nothing else changes. -/
theorem round_trip_widths :
    let v : Value := .map [("a\t\"", .list [.number (.int .w8 (Sized.clamp .w8 (-7))),
      .number (.int .w64 (Sized.clamp .w64 4294967296)), .map []]), ("é", .string "\x01\\\n")]
    let w : Value := .map [("a\t\"", .list [.number (.int .w32 (Sized.clamp .w32 (-7))),
      .number (.int .w64 (Sized.clamp .w64 4294967296)), .map []]), ("é", .string "\x01\\\n")]
    decode (encode .indented v) = .ok w ∧ decode (encode .indented w) = .ok w := by
  intro v w
  have hfits : Fits Number.isInteger depthLimit v := ⟨by decide, by decide, by decide, by decide⟩
  have hv : decode (encode .indented v) = .ok w := (round_trip .indented).1 v hfits
  exact ⟨hv, (round_trip .indented).2 _ w hv (by decide)⟩

end TreePath.Json
