import TreePath.Proofs.Json.RoundTrip

/-!
# JSON data

Data as JSON has it, with `null` and with integers of 64 bits that may be too large for a sign. Not
all of it is the document of a tree: a document with `null` for the whole or in a list, or with a
blank key, is refused, and an entry whose value is `null` is left out.
-/

namespace TreePath.Json

/-- An integer that 64 bits hold, with a sign or without one. -/
structure Integer64 where
  val : Int
  least_le : -(Nat.pow 2 63 : Int) ≤ val
  lt : val < (Nat.pow 2 64 : Int)
deriving DecidableEq, Repr

/-- The number that a document's integer is: in the class of integers that have no other, or a
binary value where it is too large for them. -/
def Integer64.number (z : Integer64) : Number :=
  if z.val < (Nat.pow 2 63 : Int) then .ofInt z.val
  else .float .double (Binary.ofInt z.val : Binary .double)

inductive Datum where
  | null
  | bool (b : Bool)
  | integer (z : Integer64)
  | string (s : String)
  | array (items : List Datum)
  | object (entries : List (String × Datum))
deriving Repr

namespace Datum

def isNull : Datum → Bool
  | .null => true
  | _ => false

mutual

/-- How many arrays and objects stand inside one another. -/
def depth : Datum → Nat
  | .array items => depthItems items + 1
  | .object entries => depthEntries entries + 1
  | _ => 0

def depthItems : List Datum → Nat
  | [] => 0
  | j :: rest => max j.depth (depthItems rest)

def depthEntries : List (String × Datum) → Nat
  | [] => 0
  | (_, j) :: rest => max j.depth (depthEntries rest)

end

mutual

/-- A test is passed by the entries of every object at any depth. -/
def everyObject (p : List (String × Datum) → Bool) : Datum → Bool
  | .array items => everyObjectItems p items
  | .object entries => p entries && everyObjectEntries p entries
  | _ => true

def everyObjectItems (p : List (String × Datum) → Bool) : List Datum → Bool
  | [] => true
  | j :: rest => j.everyObject p && everyObjectItems p rest

def everyObjectEntries (p : List (String × Datum) → Bool) : List (String × Datum) → Bool
  | [] => true
  | (_, j) :: rest => j.everyObject p && everyObjectEntries p rest

end

/-- No key is there twice. -/
def distinctKeys (entries : List (String × Datum)) : Bool :=
  decide (entries.map Prod.fst).Nodup

/-- No blank key has `null` for its value. -/
def namesNulls (entries : List (String × Datum)) : Bool :=
  entries.all fun entry => !(Text.isBlank entry.1.toList && entry.2.isNull)

mutual

/-- The written form of data whose own line is at a depth. -/
def write (style : Style) (depth : Nat) : Datum → List Char
  | .null => ['n', 'u', 'l', 'l']
  | .bool b => Json.write style depth (.bool b)
  | .integer z => Text.ofInt z.val
  | .string s => quote s.toList
  | .array items => enclosed style depth '[' ']' (writeItems style (depth + 1) items)
  | .object entries => enclosed style depth '\x7b' '\x7d' (writeEntries style (depth + 1) entries)

def writeItems (style : Style) (depth : Nat) : List Datum → List (List Char)
  | [] => []
  | j :: rest => j.write style depth :: writeItems style depth rest

def writeEntries (style : Style) (depth : Nat) : List (String × Datum) → List (List Char)
  | [] => []
  | (k, j) :: rest =>
    entryText style k.toList (j.write style depth) :: writeEntries style depth rest

end

/-- The document of data. -/
def encode (style : Style) (j : Datum) : String :=
  String.ofList (j.write style 0)

mutual

/-- The tree that data is the document of, if it is one of a tree. -/
def tree? : Datum → Option Value
  | .null => none
  | .bool b => some (.bool b)
  | .integer z => some (.number z.number)
  | .string s => some (.string s)
  | .array items => (treeItems? items).map .list
  | .object entries => (treeEntries? entries).map .map

def treeItems? : List Datum → Option (List Value)
  | [] => some []
  | j :: rest => j.tree?.bind fun v => (treeItems? rest).map fun vs => v :: vs

def treeEntries? : List (String × Datum) → Option (Dict Value)
  | [] => some []
  | (k, j) :: rest =>
    if Text.isBlank k.toList then none
    else if j.isNull then treeEntries? rest
    else j.tree?.bind fun v => (treeEntries? rest).map fun es => (k, v) :: es

end

/-- The value of an entry, if it has one and if it can be read. -/
def content? (j : Datum) : Option (Option Value) :=
  if j.isNull then some none else j.tree?.map some

variable {j : Datum} {items : List Datum} {entries : List (String × Datum)}
  {p : List (String × Datum) → Bool} {style : Style} {room depth n : Nat}

/-- What holds of leaves, and of an array or an object if it holds of what is in it, holds of all
data. -/
theorem induction_on_children {motive : Datum → Prop} (null : motive .null)
    (bool : ∀ b, motive (.bool b)) (integer : ∀ z, motive (.integer z))
    (string : ∀ s, motive (.string s))
    (array : ∀ items, (∀ j ∈ items, motive j) → motive (.array items))
    (object : ∀ entries : List (String × Datum), (∀ entry ∈ entries, motive entry.2) →
      motive (.object entries)) : ∀ j, motive j
  | .null => null
  | .bool b => bool b
  | .integer z => integer z
  | .string s => string s
  | .array items =>
    array items fun j _ => induction_on_children null bool integer string array object j
  | .object entries =>
    object entries fun entry _ =>
      induction_on_children null bool integer string array object entry.2
termination_by j => sizeOf j
decreasing_by
  · have hlt := List.sizeOf_lt_of_mem ‹j ∈ items›
    simp only [Datum.array.sizeOf_spec]
    omega
  · have hlt := List.sizeOf_lt_of_mem ‹entry ∈ entries›
    obtain ⟨key, j⟩ := entry
    simp only [Prod.mk.sizeOf_spec, Datum.object.sizeOf_spec] at hlt ⊢
    omega

theorem depthItems_le : depthItems items ≤ n ↔ ∀ j ∈ items, j.depth ≤ n := by
  induction items with
  | nil => simp [depthItems]
  | cons j rest ih => rw [depthItems, Nat.max_le, ih, List.forall_mem_cons]

theorem depthEntries_le : depthEntries entries ≤ n ↔ ∀ entry ∈ entries, entry.2.depth ≤ n := by
  induction entries with
  | nil => simp [depthEntries]
  | cons entry rest ih => rw [depthEntries, Nat.max_le, ih, List.forall_mem_cons]

theorem everyObjectItems_iff : everyObjectItems p items ↔ ∀ j ∈ items, j.everyObject p := by
  induction items with
  | nil => simp [everyObjectItems]
  | cons j rest ih => simp [everyObjectItems, ih]

theorem everyObjectEntries_iff :
    everyObjectEntries p entries ↔ ∀ entry ∈ entries, entry.2.everyObject p := by
  induction entries with
  | nil => simp [everyObjectEntries]
  | cons entry rest ih => simp [everyObjectEntries, ih]

theorem everyObject_object :
    (object entries).everyObject p ↔ p entries ∧ ∀ entry ∈ entries, entry.2.everyObject p := by
  rw [everyObject, Bool.and_eq_true, everyObjectEntries_iff]

theorem writeItems_eq_map : writeItems style depth items = items.map (write style depth) := by
  induction items with
  | nil => rfl
  | cons j rest ih => simp [writeItems, ih]

theorem writeEntries_eq_map :
    writeEntries style depth entries =
      entries.map fun entry => entryText style entry.1.toList (entry.2.write style depth) := by
  induction entries with
  | nil => rfl
  | cons entry rest ih => simp [writeEntries, ih]

theorem treeItems?_eq : treeItems? items = items.mapM tree? := by
  induction items with
  | nil => rfl
  | cons j rest ih =>
    rw [treeItems?, ih, List.mapM_cons]
    cases j.tree? with
    | none => rfl
    | some v => cases rest.mapM tree? <;> rfl

theorem treeEntries?_eq :
    treeEntries? entries = entriesOf Prod.fst (fun entry => entry.2.content?) entries := by
  induction entries with
  | nil => rfl
  | cons entry rest ih =>
    rw [treeEntries?, entriesOf, ← ih]
    cases Text.isBlank entry.1.toList with
    | true => rfl
    | false =>
      cases hnull : entry.2.isNull with
      | true => simp [content?, hnull]
      | false => cases htree : entry.2.tree? <;> simp [content?, hnull, htree]

theorem isNull_iff : j.isNull ↔ j = .null := by
  cases j <;> simp [isNull]

theorem content?_eq_some {v : Value} : j.content? = some (some v) ↔ j.tree? = some v := by
  cases j <;> simp [content?, isNull, tree?]

theorem content?_eq_none : j.content? = some none ↔ j = .null := by
  cases j <;> simp [content?, isNull]

theorem namesNulls_cons {k : String} :
    namesNulls ((k, j) :: entries) ↔
      (j = .null → Text.isBlank k.toList = false) ∧ namesNulls entries := by
  rw [namesNulls, List.all_cons, Bool.and_eq_true, ← isNull_iff]
  cases Text.isBlank k.toList <;> cases j.isNull <;> simp [namesNulls]

theorem tree?_eq_join : j.tree? = j.content?.join := by
  cases hnull : j.isNull with
  | true =>
    rw [isNull_iff.mp hnull]
    rfl
  | false =>
    rw [content?, if_neg (Bool.eq_false_iff.mp hnull)]
    cases j.tree? <;> rfl

theorem of_treeItems?_eq_some {vs : List Value} (h : treeItems? items = some vs) :
    ∀ j ∈ items, ∃ v, j.tree? = some v := by
  induction items generalizing vs with
  | nil => exact List.forall_mem_nil _
  | cons j rest ih =>
    obtain ⟨v, hv, hrest⟩ := Option.bind_eq_some_iff.mp h
    obtain ⟨ws, hws, -⟩ := Option.map_eq_some_iff.mp hrest
    exact List.forall_mem_cons.mpr ⟨⟨v, hv⟩, ih hws⟩

/-- Nothing has a blank key in the document of a tree, not even `null`. -/
theorem everyObject_namesNulls {v : Value} (h : j.tree? = some v) :
    j.everyObject namesNulls := by
  induction j using induction_on_children generalizing v with
  | null | bool _ | integer _ | string _ => rfl
  | array items ih =>
    obtain ⟨vs, hvs, -⟩ := Option.map_eq_some_iff.mp h
    refine everyObjectItems_iff.mpr fun j hj => ?_
    obtain ⟨w, hw⟩ := of_treeItems?_eq_some hvs j hj
    exact ih j hj hw
  | object entries ih =>
    obtain ⟨es, hes, -⟩ := Option.map_eq_some_iff.mp h
    rw [treeEntries?_eq] at hes
    have hentries := of_entriesOf_eq_some hes
    refine everyObject_object.mpr ⟨?_, fun entry hentry => ?_⟩
    · refine List.all_eq_true.mpr fun entry hentry => ?_
      rw [(hentries entry hentry).1]
      rfl
    · obtain ⟨-, found, hfound⟩ := hentries entry hentry
      cases found with
      | none =>
        rw [content?_eq_none.mp hfound]
        rfl
      | some w => exact ih entry hentry (content?_eq_some.mp hfound)

/-! ## Reading -/

theorem denotes_integer (z : Integer64) : Denotes (Text.ofInt z.val) z.number := by
  have hleast := z.least_le
  have hlt := z.lt
  have hbound : z.val.natAbs < Nat.pow 2 64 := by
    simp only [Nat.pow_eq] at hleast hlt ⊢
    omega
  refine ⟨.ofInt z.val, false, Numeral.proper_ofInt, Numeral.written_ofInt.symm, ?_⟩
  rw [Numeral.value_ofInt_of_lt hbound, Integer64.number]
  by_cases hsmall : z.val < (Nat.pow 2 63 : Int)
  · rw [if_pos hsmall, Numeral.integer_natAbs hleast hsmall]
  · have hsign : decide (z.val < 0) = false := by
      simp only [Nat.pow_eq] at hsmall
      exact decide_eq_false (by omega)
    have habs : (z.val.natAbs : Int) = z.val := by
      simp only [Nat.pow_eq] at hsmall
      omega
    rw [if_neg hsmall, hsign, Numeral.integer, if_neg Bool.false_ne_true, if_neg (by omega), habs]

theorem head?_write (h : j.isNull = false) : (j.write style depth).head? ≠ some 'n' := by
  cases j with
  | null => cases h
  | bool b => cases b <;> simp [write, Json.write]
  | integer z => exact (denotes_integer z).head?_ne
  | string s => simp [write, quote]
  | array items =>
    rw [write, head?_enclosed]
    decide
  | object entries =>
    rw [write, head?_enclosed]
    decide

theorem readsAs_null : ReadsAs room ['n', 'u', 'l', 'l'] none := by
  refine readsAs_of_step ⟨_, _, rfl, by decide⟩ fun _ _ _ _ => ?_
  simp [readValue, skipSpace_cons, isSpace, expectWord, Except.bind, Except.toOption]

/-- What is written for data is read as its tree, or it is refused if it is not the document of a
tree. -/
theorem readsAs (hdistinct : j.everyObject distinctKeys) (hdepth : j.depth ≤ room) :
    ReadsAs room (j.write style depth) j.tree? := by
  induction j using induction_on_children generalizing room depth with
  | null => exact readsAs_null
  | bool b => exact readsAs_bool b
  | integer z => exact (denotes_integer z).readsAs
  | string s => exact readsAs_quote s
  | array items ih =>
    obtain ⟨below, rfl⟩ := Nat.exists_eq_add_one_of_ne_zero (Nat.ne_zero_of_lt hdepth)
    have hdepths := depthItems_le.mp (Nat.le_of_succ_le_succ hdepth)
    have hdistincts := everyObjectItems_iff.mp hdistinct
    rw [write, writeItems_eq_map, tree?, treeItems?_eq]
    exact readsAs_list fun j hj => ih j hj (hdistincts j hj) (hdepths j hj)
  | object entries ih =>
    obtain ⟨below, rfl⟩ := Nat.exists_eq_add_one_of_ne_zero (Nat.ne_zero_of_lt hdepth)
    have hdepths := depthEntries_le.mp (Nat.le_of_succ_le_succ hdepth)
    obtain ⟨hnodup, hdistincts⟩ := everyObject_object.mp hdistinct
    rw [write, writeEntries_eq_map, tree?, treeEntries?_eq]
    refine readsAs_map (fun entry hentry => ?_) (of_decide_eq_true hnodup)
    cases hnull : entry.2.isNull with
    | true =>
      rw [content?, if_pos hnull, isNull_iff.mp hnull]
      exact readsEntryAs_null
    | false =>
      rw [content?, if_neg (Bool.eq_false_iff.mp hnull)]
      exact (ih entry hentry (hdistincts entry hentry) (hdepths entry hentry)).entry
        (head?_write hnull)

theorem decode_encode_eq_ok {v : Value} (hdistinct : j.everyObject distinctKeys)
    (hdepth : j.depth ≤ depthLimit) : decode (j.encode style) = .ok v ↔ j.tree? = some v :=
  (readsAs hdistinct hdepth).decode_eq_ok

end Datum

end TreePath.Json
