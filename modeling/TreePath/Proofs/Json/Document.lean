import TreePath.Json.Read
import TreePath.Proofs.Number
import TreePath.Proofs.Outcome
import TreePath.Proofs.Value.Shape

/-!
# The trees that documents hold

A document has a bounded nesting, and none of its maps has a blank key or a key twice. A tree that
was read from a document is of this form, and its integers are in the class of an integer that has
no other.
-/

namespace TreePath.Json

/-- A tree that documents can hold: no map has a key twice or a blank key, there is room for its
containers, and its numbers pass a test. -/
structure Fits (p : Number → Bool) (room : Nat) (v : Value) : Prop where
  isDistinct : v.isDistinct
  isValid : v.isValid
  depth_le : v.depth ≤ room
  allNumbers : v.allNumbers p

variable {p : Number → Bool} {fuel room : Nat} {v : Value} {items : List Value}
  {entries : Dict Value} {text rest : List Char}

theorem fits_bool (b : Bool) : Fits p room (.bool b) :=
  ⟨rfl, rfl, Nat.zero_le _, rfl⟩

theorem fits_string (s : String) : Fits p room (.string s) :=
  ⟨rfl, rfl, Nat.zero_le _, rfl⟩

theorem fits_number {n : Number} : Fits p room (.number n) ↔ p n :=
  ⟨fun h => h.allNumbers, fun h => ⟨rfl, rfl, Nat.zero_le _, h⟩⟩

theorem fits_list :
    Fits p room (.list items) ↔ ∃ below, room = below + 1 ∧ ∀ v ∈ items, Fits p below v := by
  constructor
  · rintro ⟨hdistinct, hvalid, hdepth, hnumbers⟩
    obtain ⟨below, rfl⟩ : ∃ below, room = below + 1 :=
      Nat.exists_eq_add_one_of_ne_zero (by rw [Value.depth] at hdepth; omega)
    refine ⟨below, rfl, fun v hv => ⟨?_, ?_, ?_, ?_⟩⟩
    · exact Value.distinctItems_iff.mp hdistinct v hv
    · exact Value.validItems_iff.mp hvalid v hv
    · exact Value.depthItems_le.mp (Nat.le_of_succ_le_succ hdepth) v hv
    · exact Value.allNumbersItems_iff.mp hnumbers v hv
  · rintro ⟨below, rfl, h⟩
    constructor
    · exact Value.distinctItems_iff.mpr fun v hv => (h v hv).isDistinct
    · exact Value.validItems_iff.mpr fun v hv => (h v hv).isValid
    · exact Nat.succ_le_succ (Value.depthItems_le.mpr fun v hv => (h v hv).depth_le)
    · exact Value.allNumbersItems_iff.mpr fun v hv => (h v hv).allNumbers

/-- Entries of a map that documents can hold. -/
structure FitsEntries (p : Number → Bool) (room : Nat) (entries : Dict Value) : Prop where
  nodup : (Dict.keys entries).Nodup
  isBlank : ∀ k ∈ Dict.keys entries, Text.isBlank k.toList = false
  fits : ∀ entry ∈ entries, Fits p room entry.2

theorem fits_map :
    Fits p room (.map entries) ↔ ∃ below, room = below + 1 ∧ FitsEntries p below entries := by
  constructor
  · rintro ⟨hdistinct, hvalid, hdepth, hnumbers⟩
    obtain ⟨below, rfl⟩ : ∃ below, room = below + 1 :=
      Nat.exists_eq_add_one_of_ne_zero (by rw [Value.depth] at hdepth; omega)
    obtain ⟨hnodup, hdistincts⟩ := Value.isDistinct_map.mp hdistinct
    obtain ⟨hblank, hvalids⟩ := Value.validEntries_iff.mp hvalid
    refine ⟨below, rfl, hnodup, hblank, fun entry hentry => ⟨?_, ?_, ?_, ?_⟩⟩
    · exact hdistincts entry hentry
    · exact hvalids entry hentry
    · exact Value.depthEntries_le.mp (Nat.le_of_succ_le_succ hdepth) entry hentry
    · exact Value.allNumbersEntries_iff.mp hnumbers entry hentry
  · rintro ⟨below, rfl, hnodup, hblank, h⟩
    constructor
    · exact Value.isDistinct_map.mpr ⟨hnodup, fun entry hentry => (h entry hentry).isDistinct⟩
    · exact Value.validEntries_iff.mpr ⟨hblank, fun entry hentry => (h entry hentry).isValid⟩
    · have hdepth := Value.depthEntries_le.mpr fun entry hentry => (h entry hentry).depth_le
      exact Nat.succ_le_succ hdepth
    · exact Value.allNumbersEntries_iff.mpr fun entry hentry => (h entry hentry).allNumbers

theorem fitsEntries_nil : FitsEntries p room [] :=
  ⟨List.nodup_nil, List.forall_mem_nil _, List.forall_mem_nil _⟩

/-- An entry that is put in replaces another one or comes last. -/
theorem FitsEntries.insert {key : String} (h : FitsEntries p room entries) (hv : Fits p room v)
    (hkey : Text.isBlank key.toList = false) :
    FitsEntries p room (Dict.insert key v entries) := by
  by_cases hmem : key ∈ Dict.keys entries
  · rw [Dict.insert_of_mem hmem]
    refine ⟨by rw [Dict.keys_replace]; exact h.nodup, by rw [Dict.keys_replace]; exact h.isBlank,
      fun entry hentry => ?_⟩
    rcases Dict.mem_replace hentry with hold | hnew
    · exact h.fits entry hold
    · exact hnew ▸ hv
  · rw [Dict.insert_of_notMem hmem]
    refine ⟨?_, ?_, ?_⟩
    · rw [Dict.keys_append, List.nodup_append_comm]
      exact List.nodup_cons.mpr ⟨hmem, h.nodup⟩
    · rw [Dict.keys_append]
      exact List.forall_mem_append.mpr ⟨h.isBlank, by simpa using hkey⟩
    · exact List.forall_mem_append.mpr ⟨h.fits, by simpa using hv⟩

/-! ## What was read -/

theorem unclassed_of_value {numeral : Numeral} {n : Number} (h : numeral.value = .ok n) :
    n.unclassed = n := by
  simp only [Numeral.value] at h
  split at h
  · cases h
    simp only [Numeral.integer]
    split <;> split <;> first | exact Number.unclassed_ofInt _ | rfl
  · obtain ⟨x, -, rfl⟩ := map_eq_ok.mp h
    rfl

/-- What is read in a number of steps fits, with numbers that pass a test. -/
structure ReadsFit (p : Number → Bool) (fuel : Nat) : Prop where
  value : ∀ {room text v rest}, readValue fuel room text = .ok (v, rest) → Fits p room v
  items : ∀ {room done text items rest}, readItems fuel room done text = .ok (items, rest) →
    (∀ v ∈ done, Fits p room v) → ∀ v ∈ items, Fits p room v
  entries : ∀ {room done text entries rest},
    readEntries fuel room done text = .ok (entries, rest) →
      FitsEntries p room done → FitsEntries p room entries
  entry : ∀ {room text key v rest}, readEntry fuel room text = .ok (key, some v, rest) →
    Fits p room v

theorem fits_of_readValue (hnumber : ∀ numeral n, Numeral.value numeral = .ok n → p n)
    (ih : ReadsFit p fuel) (h : readValue (fuel + 1) room text = .ok (v, rest)) :
    Fits p room v := by
  rw [readValue] at h
  -- The cases are the end of the text, the three words, a quote, the two brackets, and a number.
  split at h
  case h_1 => cases h
  case h_2 =>
    obtain ⟨_, -, h⟩ := bind_eq_ok.mp h
    cases h
  case h_3 =>
    obtain ⟨_, -, h⟩ := map_eq_ok.mp h
    cases h
    exact fits_bool true
  case h_4 =>
    obtain ⟨_, -, h⟩ := map_eq_ok.mp h
    cases h
    exact fits_bool false
  case h_5 =>
    obtain ⟨_, -, h⟩ := map_eq_ok.mp h
    cases h
    exact fits_string _
  case h_6 =>
    cases room with
    | zero => cases h
    | succ room =>
      simp only at h
      split at h
      · cases h
        exact fits_list.mpr ⟨room, rfl, List.forall_mem_nil _⟩
      · obtain ⟨⟨items, _⟩, hitems, h⟩ := map_eq_ok.mp h
        cases h
        exact fits_list.mpr ⟨room, rfl, ih.items hitems (List.forall_mem_nil _)⟩
  case h_7 =>
    cases room with
    | zero => cases h
    | succ room =>
      simp only at h
      split at h
      · cases h
        exact fits_map.mpr ⟨room, rfl, fitsEntries_nil⟩
      · obtain ⟨⟨entries, _⟩, hentries, h⟩ := map_eq_ok.mp h
        cases h
        exact fits_map.mpr ⟨room, rfl, ih.entries hentries fitsEntries_nil⟩
  case h_8 =>
    obtain ⟨⟨numeral, _⟩, -, h⟩ := bind_eq_ok.mp h
    obtain ⟨n, hn, h⟩ := map_eq_ok.mp h
    cases h
    exact fits_number.mpr (hnumber numeral n hn)

theorem fits_of_readItems {done : List Value} (ih : ReadsFit p fuel)
    (h : readItems (fuel + 1) room done text = .ok (items, rest))
    (hdone : ∀ v ∈ done, Fits p room v) : ∀ v ∈ items, Fits p room v := by
  rw [readItems] at h
  obtain ⟨⟨v, rest⟩, hv, h⟩ := bind_eq_ok.mp h
  have hmore : ∀ w ∈ v :: done, Fits p room w :=
    List.forall_mem_cons.mpr ⟨ih.value hv, hdone⟩
  simp only at h
  split at h
  · exact ih.items h hmore
  · cases h
    exact fun w hw => hmore w (List.mem_reverse.mp hw)
  · cases h
  · cases h

theorem fits_of_readEntry {key : List Char} (ih : ReadsFit p fuel)
    (h : readEntry (fuel + 1) room text = .ok (key, some v, rest)) : Fits p room v := by
  rw [readEntry] at h
  obtain ⟨_, -, h⟩ := bind_eq_ok.mp h
  obtain ⟨_, -, h⟩ := bind_eq_ok.mp h
  obtain ⟨_, -, h⟩ := bind_eq_ok.mp h
  split at h
  · obtain ⟨_, -, h⟩ := map_eq_ok.mp h
    cases h
  · obtain ⟨_, hv, h⟩ := map_eq_ok.mp h
    cases h
    exact ih.value hv

/-- After an entry the map ends, or goes on with the next one. -/
theorem fits_of_moreEntries {done : Dict Value} (ih : ReadsFit p fuel)
    (hdone : FitsEntries p room done)
    (h : (match skipSpace text with
      | ',' :: rest => readEntries fuel room done rest
      | '\x7d' :: rest => .ok (done, rest)
      | c :: _ => .error (.unexpected c)
      | [] => .error .endOfText) = .ok (entries, rest)) : FitsEntries p room entries := by
  split at h
  · exact ih.entries h hdone
  · cases h
    exact hdone
  · cases h
  · cases h

theorem fits_of_readEntries {done : Dict Value} (ih : ReadsFit p fuel)
    (h : readEntries (fuel + 1) room done text = .ok (entries, rest))
    (hdone : FitsEntries p room done) : FitsEntries p room entries := by
  rw [readEntries] at h
  obtain ⟨⟨key, value, rest⟩, hentry, h⟩ := bind_eq_ok.mp h
  simp only at h
  split at h
  · cases h
  · next hblank =>
    cases value with
    | none => exact fits_of_moreEntries ih hdone h
    | some v =>
      have hkey : Text.isBlank (String.ofList key).toList = false := by simpa using hblank
      exact fits_of_moreEntries ih (hdone.insert (ih.entry hentry) hkey) h

/-- Everything that is read fits. -/
theorem readsFit (hnumber : ∀ numeral n, Numeral.value numeral = .ok n → p n) (fuel : Nat) :
    ReadsFit p fuel := by
  induction fuel with
  | zero => constructor <;> intros <;> simp [readValue, readItems, readEntries, readEntry] at *
  | succ fuel ih =>
    exact ⟨fits_of_readValue hnumber ih, fits_of_readItems ih, fits_of_readEntries ih,
      fits_of_readEntry ih⟩

/-- What a document was decoded to fits. -/
theorem fits_of_decode {document : String}
    (hnumber : ∀ numeral n, Numeral.value numeral = .ok n → p n)
    (h : decode document = .ok v) : Fits p depthLimit v := by
  rw [decode] at h
  split at h
  case h_2 => cases h
  next hread =>
  cases h
  obtain ⟨⟨w, rest⟩, hw, h⟩ := bind_eq_ok.mp hread
  simp only at h
  split at h
  · cases h
    exact (readsFit hnumber _).value hw
  · cases h

end TreePath.Json
