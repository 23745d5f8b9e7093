import TreePath.Proofs.Canonical
import TreePath.Proofs.Json.Datum

/-!
# JSON data as typed data and as a document

The same data can be handed over as typed data or as the text of a document. Both ways leave out
entries that are `null`, refuse `null` elsewhere and refuse blank keys. They differ in when keys are
looked at: a document is refused for a blank key before its value is, and typed data only for the
keys of the tree that is made of it, in which there is no entry that was `null`.
-/

namespace TreePath

open Canonical

namespace Canonical.Data

/-- What is held by options that hold something and by wrappers. -/
def bare : Data → Data
  | .present content => content.bare
  | .wrapped content => content.bare
  | d => d

theorem lower_bare : ∀ {d : Data}, d.bare.lower = d.lower
  | .present content => lower_bare (d := content)
  | .wrapped content => lower_bare (d := content)
  | .bool _ | .signed _ _ | .unsigned _ _ | .float _ _ | .char _ | .text _ | .bytes _ | .absent
  | .unit | .sequence _ | .map _ | .record _ | .unitVariant _ | .wrappedVariant _ _
  | .sequenceVariant _ _ | .recordVariant _ _ | .valueWithoutKey _ | .unsupported _
  | .failing _ => rfl

end Canonical.Data

namespace Json.Datum

mutual

/-- Typed data with the same content: `null` is an absent option or the unit, an integer has any
type that holds it, and an object is a map with texts for keys. -/
def PresentedBy : Datum → Data → Prop
  | .null, d => d.bare = .unit ∨ d.bare = .absent
  | .bool b, d => d.bare = .bool b
  | .integer z, d =>
    (∃ w n, d.bare = .signed w n ∧ n.val = z.val) ∨
      ∃ w n, d.bare = .unsigned w n ∧ (n.val : Int) = z.val
  | .string s, d => d.bare = .text s
  | .array items, d => ∃ contents, d.bare = .sequence contents ∧ PresentedByItems items contents
  | .object entries, d => ∃ contents, d.bare = .map contents ∧ PresentedByEntries entries contents

def PresentedByItems : List Datum → List Data → Prop
  | [], [] => True
  | j :: rest, d :: more => j.PresentedBy d ∧ PresentedByItems rest more
  | _, _ => False

def PresentedByEntries : List (String × Datum) → List (Data × Data) → Prop
  | [], [] => True
  | (k, j) :: rest, (key, d) :: more =>
    key.bare = .text k ∧ j.PresentedBy d ∧ PresentedByEntries rest more
  | _, _ => False

end

end Json.Datum

namespace Canonical

/-! ## Numbers -/

theorem unclassed_clamp {w : Width} {z : Int} (hleast : w.least ≤ z) (hgreatest : z ≤ w.greatest) :
    (Number.int w (Sized.clamp w z)).unclassed = .ofInt z := by
  rw [Number.unclassed_int, clamp_val_of_le hleast hgreatest]

theorem lt_of_le_greatest {w : Width} {z : Int} (h : z ≤ w.greatest) :
    z < (Nat.pow 2 63 : Int) := by
  have hwidest : w.greatest ≤ Width.greatest .w64 := by cases w <;> decide
  exact Int.lt_of_le_sub_one (Int.le_trans h hwidest)

/-- An unsigned integer becomes the number that it is in a document, but for its class. -/
theorem unclassed_unsignedNumber {w : Width} (n : Fin (Nat.pow 2 w.bits)) {z : Json.Integer64}
    (h : (n.val : Int) = z.val) : (unsignedNumber w n.val).unclassed = z.number := by
  have hleast (wider : Width) : wider.least ≤ n.val := by
    have hnonpos : wider.least ≤ 0 := by cases wider <;> decide
    exact Int.le_trans hnonpos (Int.natCast_nonneg n.val)
  have hfits (wider : Width) (hle : (n.val : Int) ≤ wider.greatest) :
      (Number.fromInt n.val (.int wider)).unclassed = z.number := by
    have hlt : z.val < (Nat.pow 2 63 : Int) := h ▸ lt_of_le_greatest hle
    rw [Number.fromInt, unclassed_clamp (hleast wider) hle, Json.Integer64.number, if_pos hlt, h]
  rw [unsignedNumber]
  cases hwider : widened? w with
  | some wider => exact hfits wider (le_greatest_of_widened? hwider n)
  | none =>
    by_cases hsmall : (n.val : Int) ≤ Width.greatest .w64
    · rw [if_pos hsmall]
      exact hfits .w64 hsmall
    · have hlarge : ¬ z.val < (Nat.pow 2 63 : Int) :=
        h ▸ fun hlt => hsmall (Int.le_sub_one_of_lt hlt)
      rw [if_neg hsmall, Json.Integer64.number, if_neg hlarge, ← h]
      rfl

/-- A signed integer becomes the number that it is in a document, but for its class. -/
theorem unclassed_signed {w : Width} (n : Sized w) {z : Json.Integer64} (h : n.val = z.val) :
    (Number.int w n).unclassed = z.number := by
  have hlt : z.val < (Nat.pow 2 63 : Int) := h ▸ lt_of_le_greatest n.le_greatest
  rw [Number.unclassed_int, Json.Integer64.number, if_pos hlt, h]

/-! ## Trees of data -/

/-- A tree that may be absent, with its integers in the class of integers that have no other, if no
key in it is blank. -/
def settled? (v : Option Value) : Option (Option Value) :=
  match v with
  | none => some none
  | some v => if v.isValid then some (some (v.mapNumbers Number.unclassed)) else none

def settledItems? (vs : List Value) : Option (List Value) :=
  if Value.validItems vs then some (Value.mapNumbersItems Number.unclassed vs) else none

def settledEntries? (es : Dict Value) : Option (Dict Value) :=
  if Value.validEntries es then some (Value.mapNumbersEntries Number.unclassed es) else none

theorem settled?_list {vs : List Value} :
    settled? (some (.list vs)) = (settledItems? vs).map fun ws => some (.list ws) := by
  by_cases h : Value.validItems vs <;>
    simp [settled?, settledItems?, Value.isValid, Value.mapNumbers, h]

theorem settled?_map {es : Dict Value} :
    settled? (some (.map es)) = (settledEntries? es).map fun fs => some (.map fs) := by
  by_cases h : Value.validEntries es <;>
    simp [settled?, settledEntries?, Value.isValid, Value.mapNumbers, h]

theorem settledEntries?_append {left right : Dict Value} :
    settledEntries? (left ++ right) =
      (settledEntries? left).bind fun es => (settledEntries? right).map (es ++ ·) := by
  have hvalid : Value.validEntries (left ++ right) ↔
      Value.validEntries left ∧ Value.validEntries right := by
    simp only [Value.validEntries_iff, Dict.keys_append, List.forall_mem_append]
    grind
  simp only [settledEntries?, hvalid, Value.mapNumbersEntries_eq, List.map_append]
  by_cases hleft : Value.validEntries left <;> by_cases hright : Value.validEntries right <;>
    simp [hleft, hright]

/-- An entry that there may be is settled if its key is not blank and its value is settled. -/
theorem settledEntries?_toList {k : String} {v : Option Value}
    (hname : v = none → Text.isBlank k.toList = false) :
    settledEntries? (v.map (k, ·)).toList =
      if Text.isBlank k.toList then none
      else (settled? v).map fun w => (w.map (k, ·)).toList := by
  cases v with
  | none => simp [hname rfl, settled?, settledEntries?, Value.validEntries, Value.mapNumbersEntries]
  | some v =>
    by_cases hblank : Text.isBlank k.toList <;> by_cases hv : v.isValid <;>
      simp [hblank, hv, settled?, settledEntries?, Value.validEntries, Value.mapNumbersEntries]

end Canonical

open Json Json.Datum Canonical.Data

variable {j : Datum} {d key : Data} {items : List Datum} {contents : List Data}
  {entries : List (String × Datum)} {pairs : List (Data × Data)} {done : Dict Value} {k : String}

/-- The elements of a sequence make the list that those of an array do, if each of them is what its
counterpart is. -/
theorem lowerItems_settled (h : PresentedByItems items contents)
    (hitems : ∀ j ∈ items, ∀ d, j.PresentedBy d → d.lower.toOption.bind settled? = j.content?) :
    (lowerItems contents).toOption.bind settledItems? = items.mapM tree? := by
  induction items generalizing contents with
  | nil =>
    cases contents with
    | nil => rfl
    | cons d more => cases h
  | cons j rest ih =>
    cases contents with
    | nil => cases h
    | cons d more =>
      obtain ⟨hj, hrest⟩ := List.forall_mem_cons.mp hitems
      obtain ⟨hd, hmore⟩ := h
      rw [List.mapM_cons, tree?_eq_join, ← hj d hd, ← ih hmore hrest, lowerItems, toOption_bind]
      cases d.lower with
      | error e => rfl
      | ok found =>
        cases found with
        | none => rfl
        | some v =>
          cases lowerItems more with
          | error e =>
            by_cases hv : v.isValid <;>
              simp [required, settled?, hv, Except.toOption, Except.bind, Except.map]
          | ok vs =>
            by_cases hv : v.isValid <;> by_cases hvs : Value.validItems vs <;>
              simp [required, settled?, settledItems?, Value.validItems, Value.mapNumbersItems,
                hv, hvs, Except.toOption, Except.bind, Except.map]

theorem lowerEntries_cons (hkey : key.bare = .text k) :
    lowerEntries done ((key, d) :: pairs) =
      d.lower.bind fun v => lowerEntries (insertPresent k v done) pairs := by
  rw [lowerEntries, ← lower_bare (d := key), hkey]
  rfl

theorem insertPresent_eq {v : Option Value} (h : k ∉ Dict.keys done) :
    insertPresent k v done = done ++ (v.map (k, ·)).toList := by
  cases v with
  | none => simp [insertPresent]
  | some v => exact Dict.insert_of_notMem h

/-- The entries of a map make the map that those of an object do, if each of them has the value that
its counterpart has, and no blank key has none. -/
theorem lowerEntries_settled (h : PresentedByEntries entries pairs)
    (hvalues : ∀ entry ∈ entries, ∀ d, entry.2.PresentedBy d →
      d.lower.toOption.bind settled? = entry.2.content?)
    (hnulls : namesNulls entries) (hnodup : (Dict.keys done ++ entries.map Prod.fst).Nodup) :
    (lowerEntries done pairs).toOption.bind settledEntries? =
      (settledEntries? done).bind fun es =>
        (entriesOf Prod.fst (fun entry => entry.2.content?) entries).map (es ++ ·) := by
  induction entries generalizing pairs done with
  | nil =>
    cases pairs with
    | nil => simp [lowerEntries, entriesOf, Except.toOption]
    | cons pair more => cases h
  | cons entry rest ih =>
    cases pairs with
    | nil => cases h
    | cons pair more =>
      obtain ⟨k, j⟩ := entry
      obtain ⟨key, d⟩ := pair
      obtain ⟨hkey, hd, hmore⟩ := h
      obtain ⟨hj, hrest⟩ := List.forall_mem_cons.mp hvalues
      have hfresh : k ∉ Dict.keys done := fun hmem =>
        (List.nodup_cons.mp (List.nodup_middle.mp hnodup)).1 (List.mem_append_left _ hmem)
      have hkeys (v : Option Value) :
          (Dict.keys (insertPresent k v done) ++ rest.map Prod.fst).Nodup := by
        rw [insertPresent_eq hfresh]
        exact Dict.nodup_keys_append hnodup v
      obtain ⟨hnull, hnulls⟩ := namesNulls_cons.mp hnulls
      have hcontent := hj d hd
      rw [lowerEntries_cons hkey, toOption_bind, entriesOf, ← hcontent]
      cases hlower : d.lower with
      | error e => simp [Except.toOption]
      | ok v =>
        -- A blank key without a value would be dropped here and refused in the document.
        have hname : v = none → Text.isBlank k.toList = false := by
          rintro rfl
          rw [hlower] at hcontent
          exact hnull (content?_eq_none.mp hcontent.symm)
        rw [Except.toOption, Option.bind_some, Option.bind_some, ih hmore hrest hnulls (hkeys v),
          insertPresent_eq hfresh, settledEntries?_append, settledEntries?_toList hname]
        cases settledEntries? done with
        | none => rfl
        | some es =>
          by_cases hblank : Text.isBlank k.toList
          · simp [hblank]
          · cases settled? v <;> simp [hblank, Function.comp_def]

/-- Typed data has the value that data with the same content has, if no blank key has none. -/
theorem lower_settled (hd : j.PresentedBy d) (hdistinct : j.everyObject distinctKeys)
    (hnulls : j.everyObject namesNulls) : d.lower.toOption.bind settled? = j.content? := by
  induction j using Datum.induction_on_children generalizing d with
  | null =>
    rw [← lower_bare]
    rcases hd with hunit | habsent
    · rw [hunit]
      rfl
    · rw [habsent]
      rfl
  | bool b =>
    rw [← lower_bare, show d.bare = .bool b from hd]
    rfl
  | integer z =>
    rw [← lower_bare]
    rcases hd with ⟨w, n, hbare, hval⟩ | ⟨w, n, hbare, hval⟩
    · rw [hbare, content?, tree?, ← unclassed_signed n hval]
      rfl
    · rw [hbare, content?, tree?, ← unclassed_unsignedNumber n hval]
      rfl
  | string s =>
    rw [← lower_bare, show d.bare = .text s from hd]
    rfl
  | array items ih =>
    obtain ⟨contents, hbare, hitems⟩ := hd
    have hdistincts := everyObjectItems_iff.mp hdistinct
    have hbelow := everyObjectItems_iff.mp hnulls
    have hlist := lowerItems_settled hitems fun j hj d hd =>
      ih j hj hd (hdistincts j hj) (hbelow j hj)
    rw [← lower_bare, hbare, lower, toOption_map, Option.bind_map, content?, tree?, treeItems?_eq,
      ← hlist]
    simp [Datum.isNull, settled?_list, Function.comp_def, Option.map_bind]
  | object entries ih =>
    obtain ⟨contents, hbare, hentries⟩ := hd
    obtain ⟨hnodup, hdistincts⟩ := everyObject_object.mp hdistinct
    obtain ⟨hblanks, hbelow⟩ := everyObject_object.mp hnulls
    have hkeys : (Dict.keys ([] : Dict Value) ++ entries.map Prod.fst).Nodup :=
      of_decide_eq_true hnodup
    have hmap : (lowerEntries [] contents).toOption.bind settledEntries? =
        entriesOf Prod.fst (fun entry => entry.2.content?) entries := by
      rw [lowerEntries_settled hentries (fun entry hentry d hd => ih entry hentry hd
        (hdistincts entry hentry) (hbelow entry hentry)) hblanks hkeys]
      simp [settledEntries?, Value.validEntries, Value.mapNumbersEntries]
    rw [← lower_bare, hbare, lower, toOption_map, Option.bind_map, content?, tree?, treeEntries?_eq,
      ← hmap]
    simp [Datum.isNull, settled?_map, Function.comp_def, Option.map_bind]

theorem settled?_eq_some {found : Option Value} {w : Value} :
    settled? found = some (some w) ↔
      ∃ v, found = some v ∧ v.isValid ∧ v.mapNumbers Number.unclassed = w := by
  cases found with
  | none => simp [settled?]
  | some v => by_cases hv : v.isValid <;> simp [settled?, hv]

/-- The tree of a document is the tree of typed data with the same content, if no blank key has
`null`. -/
theorem tree?_eq_some_iff {w : Value} (hd : j.PresentedBy d)
    (hdistinct : j.everyObject distinctKeys) (hnulls : j.everyObject namesNulls) :
    j.tree? = some w ↔ ∃ v, d.toCanonical = .ok v ∧ v.mapNumbers Number.unclassed = w := by
  rw [← content?_eq_some, ← lower_settled hd hdistinct hnulls, Option.bind_eq_some_iff]
  simp only [toOption_eq_some, settled?_eq_some, toCanonical_eq_ok]
  grind

/-- The document of data is read if the data can be made a tree as typed data is, and no blank key
has `null`. The tree that is read has the integers of that tree without their widths. -/
theorem decode_encode_eq_ok_iff {style : Style} {w : Value} (hd : j.PresentedBy d)
    (hdistinct : j.everyObject distinctKeys) (hdepth : j.depth ≤ depthLimit) :
    decode (j.encode style) = .ok w ↔
      j.everyObject namesNulls ∧
        ∃ v, d.toCanonical = .ok v ∧ v.mapNumbers Number.unclassed = w := by
  rw [decode_encode_eq_ok hdistinct hdepth]
  constructor
  · intro h
    have hnulls := everyObject_namesNulls h
    exact ⟨hnulls, (tree?_eq_some_iff hd hdistinct hnulls).mp h⟩
  · rintro ⟨hnulls, h⟩
    exact (tree?_eq_some_iff hd hdistinct hnulls).mpr h

/-- An absent option and a wrapped integer without a sign, as data and as a document. -/
theorem decode_encode_eq_ok_of_absent :
    (Datum.object [("gone", .null),
      ("kept", .array [.integer ⟨7, by decide, by decide⟩])]).PresentedBy
      (.map [(.text "gone", .absent),
        (.text "kept", .sequence [.wrapped (.unsigned .w8 ⟨7, by decide⟩)])]) ∧
    decode ((Datum.object [("gone", .null),
      ("kept", .array [.integer ⟨7, by decide, by decide⟩])]).encode .indented) =
      .ok (.map [("kept", .list [.number (.ofInt 7)])]) := by
  have hd : (Datum.object [("gone", .null),
      ("kept", .array [.integer ⟨7, by decide, by decide⟩])]).PresentedBy
      (.map [(.text "gone", .absent),
        (.text "kept", .sequence [.wrapped (.unsigned .w8 ⟨7, by decide⟩)])]) :=
    ⟨_, rfl, rfl, .inr rfl, rfl, ⟨_, rfl, .inr ⟨_, _, rfl, rfl⟩, trivial⟩, trivial⟩
  exact ⟨hd, (decode_encode_eq_ok_iff hd (by decide) (by decide)).mpr ⟨by decide, _, rfl, rfl⟩⟩

/-- Typed data with a blank key for nothing is made a tree without it, and its document is
refused. -/
theorem not_decode_of_blank_null :
    (Datum.object [("", .null)]).PresentedBy (.map [(.text "", .absent)]) ∧
    (Data.map [(.text "", .absent)]).toCanonical = .ok (.map []) ∧
    (Datum.object [("", .null)]).encode .compact = "\x7b\"\":null\x7d" ∧
    ∀ w, decode ((Datum.object [("", .null)]).encode .compact) ≠ .ok w := by
  refine ⟨⟨_, rfl, rfl, .inr rfl, trivial⟩, rfl, rfl, fun w h => ?_⟩
  cases (decode_encode_eq_ok rfl (by decide)).mp h

end TreePath
