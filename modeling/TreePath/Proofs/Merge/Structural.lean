import TreePath.Merge
import TreePath.Proofs.Outcome
import TreePath.Proofs.Value.Shape

/-!
# The structural merge of two trees

The merge of two trees is put down here entry by entry, without an order in which entries are
merged: every key of the tree keeps its place, and the keys that only the overlay has come behind
them. Writing the overlay into the tree one entry after the other gives this merge, and fails
exactly if two values of different kinds stand in the same place.
-/

namespace TreePath.Merge

/-! ## The merge -/

mutual

/-- The merge of an overlay onto a tree of the same kind. -/
def structural : Value → Value → Value
  | .map entries, .map incoming =>
    .map (structuralEntries entries incoming ++
      incoming.filter fun entry => !Dict.contains entry.1 entries)
  | .list items, .list incoming => .list (items ++ incoming)
  | .number current, .number update => .number (update.coerceTo current.kind)
  | _, overlay => overlay

/-- The entries of a map, each merged with the one under its key in an overlay. -/
def structuralEntries : List (String × Value) → Dict Value → Dict Value
  | [], _ => []
  | (key, v) :: rest, incoming =>
    (key, match Dict.get? key incoming with
      | some update => structural v update
      | none => v) :: structuralEntries rest incoming

end

mutual

/-- How much a merge writes: a leaf that is overwritten counts once, a list counts the elements
appended to it, a map counts the keys put in and what is written under the keys it has. -/
def written : Value → Value → Nat
  | .map entries, .map incoming =>
    writtenEntries entries incoming +
      (incoming.filter fun entry => !Dict.contains entry.1 entries).length
  | .list _, .list incoming => incoming.length
  | _, _ => 1

def writtenEntries : List (String × Value) → Dict Value → Nat
  | [], _ => 0
  | (key, v) :: rest, incoming =>
    (match Dict.get? key incoming with
      | some update => written v update
      | none => 0) + writtenEntries rest incoming

end

/-- No two values under the same names have different kinds. -/
def Agree (target overlay : Value) : Prop :=
  ∀ (names : List String) (v w : Value), target.at? (names.map .name) = some v →
    overlay.at? (names.map .name) = some w → v.kind = w.kind

/-- The entries of the merge of two maps. -/
def mergedEntries (entries incoming : Dict Value) : Dict Value :=
  structuralEntries entries incoming ++
    incoming.filter fun entry => !Dict.contains entry.1 entries

variable {entries incoming rest : Dict Value} {key : String} {v w target overlay : Value}

theorem structural_map :
    structural (.map entries) (.map incoming) = .map (mergedEntries entries incoming) := by
  rw [structural, mergedEntries]

/-! ## Agreement -/

theorem Agree.kind (h : Agree target overlay) : target.kind = overlay.kind :=
  h [] target overlay rfl rfl

theorem agree_of_notMap (hkind : target.kind = overlay.kind) (h : overlay.kind ≠ .map) :
    Agree target overlay := by
  intro names v w hv hw
  cases names with
  | nil =>
    cases hv
    cases hw
    exact hkind
  | cons name names =>
    obtain ⟨child, hchild, -⟩ := Option.bind_eq_some_iff.mp hw
    cases overlay <;> simp [Value.childAt, Value.kind] at hchild h

theorem agree_map :
    Agree (.map entries) (.map incoming) ↔
      ∀ key v w, Dict.get? key entries = some v → Dict.get? key incoming = some w → Agree v w := by
  constructor
  · intro h key v w hv hw names v' w' hv' hw'
    apply h (key :: names) v' w'
    · simp [Value.childAt, hv, hv']
    · simp [Value.childAt, hw, hw']
  · intro h names v w hv hw
    cases names with
    | nil =>
      cases hv
      cases hw
      rfl
    | cons name names =>
      obtain ⟨child, hchild, hv⟩ := Option.bind_eq_some_iff.mp hv
      obtain ⟨update, hupdate, hw⟩ := Option.bind_eq_some_iff.mp hw
      exact h name child update hchild hupdate names v w hv hw

/-! ## Entry by entry -/

@[simp] theorem keys_structuralEntries :
    Dict.keys (structuralEntries entries incoming) = Dict.keys entries := by
  induction entries with
  | nil => rfl
  | cons entry rest ih => simp [structuralEntries, ih]

theorem entries_nil : structuralEntries entries [] = entries ∧ writtenEntries entries [] = 0 := by
  induction entries with
  | nil => exact ⟨rfl, rfl⟩
  | cons entry rest ih => simp [structuralEntries, writtenEntries, ih]

theorem structuralEntries_append {left right : Dict Value} :
    structuralEntries (left ++ right) incoming =
      structuralEntries left incoming ++ structuralEntries right incoming := by
  induction left with
  | nil => rfl
  | cons entry rest ih => simp [structuralEntries, ih]

theorem writtenEntries_append {left right : Dict Value} :
    writtenEntries (left ++ right) incoming =
      writtenEntries left incoming + writtenEntries right incoming := by
  induction left with
  | nil => simp [writtenEntries]
  | cons entry rest ih => simp [writtenEntries, ih, Nat.add_assoc]

/-- An entry of the overlay matters only for its own key. -/
theorem entries_congr_of_notMem (h : key ∉ Dict.keys entries) :
    structuralEntries entries ((key, w) :: rest) = structuralEntries entries rest ∧
      writtenEntries entries ((key, w) :: rest) = writtenEntries entries rest := by
  induction entries with
  | nil => exact ⟨rfl, rfl⟩
  | cons entry others ih =>
    obtain ⟨hne, hothers⟩ := not_or.mp (h ∘ List.mem_cons.mpr)
    obtain ⟨hstructural, hwritten⟩ := ih hothers
    simp [structuralEntries, writtenEntries, Dict.get?_cons, hne, hstructural, hwritten]

/-- Merging the first entry of an overlay in place comes to merging the others afterwards. -/
theorem entries_replace (hnodup : (Dict.keys entries).Nodup) (hv : Dict.get? key entries = some v)
    (hrest : key ∉ Dict.keys rest) :
    structuralEntries (Dict.replace key (structural v w) entries) rest =
        structuralEntries entries ((key, w) :: rest) ∧
      written v w + writtenEntries (Dict.replace key (structural v w) entries) rest =
        writtenEntries entries ((key, w) :: rest) := by
  induction entries with
  | nil => cases hv
  | cons entry others ih =>
    obtain ⟨k, old⟩ := entry
    obtain ⟨hnotin, hothers⟩ := List.nodup_cons.mp hnodup
    have hnone : Dict.get? key rest = none := Dict.get?_eq_none_iff.mpr hrest
    by_cases heq : k = key
    · subst heq
      obtain rfl : old = v := by simpa [Dict.get?] using hv
      obtain ⟨hstructural, hwritten⟩ := @entries_congr_of_notMem others rest k w hnotin
      simp [Dict.replace, structuralEntries, writtenEntries, hnone, Dict.get?_cons, hstructural,
        hwritten]
    · have hv' : Dict.get? key others = some v := by simpa [Dict.get?, heq] using hv
      obtain ⟨hstructural, hwritten⟩ := ih hothers hv'
      simp [Dict.replace, structuralEntries, writtenEntries, Dict.get?_cons, heq, Ne.symm heq,
        hstructural, ← hwritten]
      omega

theorem contains_eq_decide : Dict.contains key entries = decide (key ∈ Dict.keys entries) := by
  rw [Dict.contains, Bool.eq_iff_iff, decide_eq_true_eq, Dict.mem_keys_iff]

theorem merged_replace (hnodup : (Dict.keys entries).Nodup) (hv : Dict.get? key entries = some v)
    (hrest : key ∉ Dict.keys rest) :
    mergedEntries (Dict.replace key (structural v w) entries) rest =
        mergedEntries entries ((key, w) :: rest) ∧
      written v w + written (.map (Dict.replace key (structural v w) entries)) (.map rest) =
        written (.map entries) (.map ((key, w) :: rest)) := by
  obtain ⟨hstructural, hwritten⟩ := entries_replace (w := w) hnodup hv hrest
  have hmem : key ∈ Dict.keys entries := Dict.mem_keys_iff.mpr (by simp [hv])
  simp [mergedEntries, written, hstructural, ← hwritten, contains_eq_decide, hmem, Nat.add_assoc]

theorem merged_insert (habsent : key ∉ Dict.keys entries) (hrest : key ∉ Dict.keys rest) :
    mergedEntries (entries ++ [(key, w)]) rest = mergedEntries entries ((key, w) :: rest) ∧
      1 + written (.map (entries ++ [(key, w)])) (.map rest) =
        written (.map entries) (.map ((key, w) :: rest)) := by
  have hfilter : (rest.filter fun entry => !Dict.contains entry.1 (entries ++ [(key, w)])) =
      rest.filter fun entry => !Dict.contains entry.1 entries := by
    apply List.filter_congr
    intro entry hentry
    have hne : entry.1 ≠ key := by
      intro heq
      exact hrest (heq ▸ List.mem_map_of_mem hentry)
    simp [contains_eq_decide, hne]
  obtain ⟨hstructural, hwritten⟩ := @entries_congr_of_notMem entries rest key w habsent
  have hnone : Dict.get? key rest = none := Dict.get?_eq_none_iff.mpr hrest
  have hcontains : Dict.contains key entries = false := by simp [contains_eq_decide, habsent]
  constructor
  · rw [mergedEntries, mergedEntries, hfilter, structuralEntries_append, hstructural]
    simp [structuralEntries, hnone, hcontains]
  · rw [written, written, hfilter, writtenEntries_append, hwritten]
    simp [writtenEntries, hnone, hcontains]
    omega

/-! ## Writing an overlay in -/

theorem get?_of_mem_rest {entry : String × Value} (hnotin : key ∉ Dict.keys rest)
    (hentry : entry ∈ rest) :
    Dict.get? entry.1 (entries ++ [(key, w)]) = Dict.get? entry.1 entries ∧
      Dict.get? entry.1 (Dict.replace key w entries) = Dict.get? entry.1 entries := by
  have hne : entry.1 ≠ key := fun heq => hnotin (heq ▸ List.mem_map_of_mem hentry)
  refine ⟨?_, Dict.get?_replace_of_ne hne⟩
  rw [Dict.get?_append, Dict.get?_cons, if_neg (Ne.symm hne), Dict.get?_nil, Option.or_none]

/-- Every value of an overlay is merged onto the value under its key. -/
def Mergeable (entries incoming : Dict Value) : Prop :=
  ∀ entry ∈ incoming, ∀ v, Dict.get? entry.1 entries = some v →
    ∀ path, valueOnto path v entry.2 = (structural v entry.2, .ok (written v entry.2))

theorem Mergeable.congr {others : Dict Value} (h : Mergeable entries incoming)
    (hsame : ∀ entry ∈ incoming, Dict.get? entry.1 others = Dict.get? entry.1 entries) :
    Mergeable others incoming := by
  intro entry hentry v hv
  rw [hsame entry hentry] at hv
  exact h entry hentry v hv

/-- Where every value can be merged, writing the entries in one by one gives the merge. -/
theorem entriesInto_eq (path : List String) (hnodup : (Dict.keys entries).Nodup)
    (hincoming : (Dict.keys incoming).Nodup) (hvalues : Mergeable entries incoming) :
    entriesInto path entries incoming =
      (mergedEntries entries incoming, .ok (written (.map entries) (.map incoming))) := by
  induction incoming generalizing entries with
  | nil => simp [entriesInto, mergedEntries, written, entries_nil]
  | cons entry rest ih =>
    obtain ⟨key, w⟩ := entry
    obtain ⟨hnotin, hrest⟩ := List.nodup_cons.mp hincoming
    obtain ⟨hvalue, hothers⟩ : _ ∧ Mergeable entries rest := List.forall_mem_cons.mp hvalues
    cases hv : Dict.get? key entries with
    | none =>
      have habsent := Dict.get?_eq_none_iff.mp hv
      obtain ⟨hmerged, hwritten⟩ := merged_insert (w := w) habsent hnotin
      have hnodup' : (Dict.keys (entries ++ [(key, w)])).Nodup := by
        rw [Dict.keys_append]
        refine List.nodup_append.mpr ⟨hnodup, List.nodup_singleton _, ?_⟩
        intro k hk k' hk' heq
        obtain rfl := List.mem_singleton.mp hk'
        exact habsent (heq ▸ hk)
      have hlater : Mergeable (entries ++ [(key, w)]) rest :=
        hothers.congr fun entry hentry => (get?_of_mem_rest hnotin hentry).1
      have hinto := ih hnodup' hrest hlater
      simp [entriesInto, hv, Dict.insert_of_notMem habsent, hinto, hmerged, ← hwritten, Except.map]
    | some v =>
      obtain ⟨hmerged, hwritten⟩ := merged_replace (w := w) hnodup hv hnotin
      have hnodup' : (Dict.keys (Dict.replace key (structural v w) entries)).Nodup := by
        rwa [Dict.keys_replace]
      have hlater : Mergeable (Dict.replace key (structural v w) entries) rest :=
        hothers.congr fun entry hentry => (get?_of_mem_rest hnotin hentry).2
      have hinto := ih hnodup' hrest hlater
      simp [entriesInto, hv, hvalue v hv, hinto, hmerged, ← hwritten, Except.map]

/-- One value that cannot be merged ends the writing with a conflict. -/
theorem entriesInto_error (path : List String) (hincoming : (Dict.keys incoming).Nodup)
    {entry : String × Value} (hentry : entry ∈ incoming) (hv : Dict.get? entry.1 entries = some v)
    (hconflict : ∀ path, ∃ conflict, (valueOnto path v entry.2).2 = .error conflict) :
    ∃ conflict, (entriesInto path entries incoming).2 = .error conflict := by
  induction incoming generalizing entries with
  | nil => cases hentry
  | cons first rest ih =>
    obtain ⟨key, w⟩ := first
    obtain ⟨hnotin, hrest⟩ := List.nodup_cons.mp hincoming
    rcases List.mem_cons.mp hentry with rfl | hentry
    · obtain ⟨conflict, hconflict⟩ := hconflict (path ++ [key])
      have hv' : Dict.get? key entries = some v := hv
      exact ⟨conflict, by simp [entriesInto, hv', hconflict]⟩
    · cases hfirst : Dict.get? key entries with
      | none =>
        have habsent := Dict.get?_eq_none_iff.mp hfirst
        have hv' : Dict.get? entry.1 (entries ++ [(key, w)]) = some v := by
          rw [(get?_of_mem_rest hnotin hentry).1, hv]
        obtain ⟨conflict, hinto⟩ := ih hrest hentry hv'
        refine ⟨conflict, ?_⟩
        simp [entriesInto, hfirst, Dict.insert_of_notMem habsent, hinto, Except.map]
      | some old =>
        cases hwritten : (valueOnto (path ++ [key]) old w).2 with
        | error conflict => exact ⟨conflict, by simp [entriesInto, hfirst, hwritten]⟩
        | ok count =>
          have hv' : Dict.get? entry.1
              (Dict.replace key (valueOnto (path ++ [key]) old w).1 entries) = some v := by
            rw [(get?_of_mem_rest hnotin hentry).2, hv]
          obtain ⟨conflict, hinto⟩ := ih hrest hentry hv'
          exact ⟨conflict, by simp [entriesInto, hfirst, hwritten, hinto, Except.map]⟩

/-- Induction through the entries of maps; lists are not gone into. -/
theorem induction_on_entries {P : Value → Prop} (other : ∀ v : Value, v.kind ≠ .map → P v)
    (map : ∀ entries : Dict Value, (∀ entry ∈ entries, P entry.2) → P (.map entries)) (v : Value) :
    P v := by
  induction v using Value.induction_on_children with
  | map entries ih => exact map entries ih
  | _ => exact other _ (by simp [Value.kind])

theorem valueOnto_of_notMap {path : List String} (h : overlay.kind ≠ .map) :
    (target.kind = overlay.kind →
      valueOnto path target overlay = (structural target overlay, .ok (written target overlay))) ∧
    (target.kind ≠ overlay.kind →
      ∃ conflict, (valueOnto path target overlay).2 = .error conflict) := by
  cases overlay <;> cases target <;> simp [Value.kind, valueOnto, structural, written] at h ⊢

/-- A value is merged onto one with which it agrees. -/
theorem valueOnto_eq (hdistinct : overlay.isDistinct) :
    ∀ {target : Value} (path : List String), target.isDistinct → Agree target overlay →
      valueOnto path target overlay =
        (structural target overlay, .ok (written target overlay)) := by
  induction overlay using induction_on_entries with
  | other overlay hkind =>
    exact fun path _ hagree => (valueOnto_of_notMap hkind).1 hagree.kind
  | map incoming ih =>
    intro target path htarget hagree
    obtain ⟨hincoming, hoverlays⟩ := Value.isDistinct_map.mp hdistinct
    cases target with
    | map entries =>
      obtain ⟨hentries, htargets⟩ := Value.isDistinct_map.mp htarget
      have hvalues : Mergeable entries incoming := by
        intro entry hentry v hv path
        have hw : Dict.get? entry.1 incoming = some entry.2 :=
          (Dict.get?_eq_some_iff_mem hincoming).mpr hentry
        have hchild : Agree v entry.2 := agree_map.mp hagree entry.1 v entry.2 hv hw
        have hv : v.isDistinct := htargets (entry.1, v) (Dict.mem_of_get?_eq_some hv)
        exact ih entry hentry (hoverlays entry hentry) path hv hchild
      simp [valueOnto, entriesInto_eq path hentries hincoming hvalues, structural_map]
    | _ => cases hagree.kind

/-- Values that do not agree are a conflict. -/
theorem valueOnto_error (hdistinct : overlay.isDistinct) :
    ∀ {target : Value} (path : List String), ¬ Agree target overlay →
      ∃ conflict, (valueOnto path target overlay).2 = .error conflict := by
  induction overlay using induction_on_entries with
  | other overlay hkind =>
    intro target path hconflict
    refine (valueOnto_of_notMap hkind).2 fun heq => hconflict (agree_of_notMap heq hkind)
  | map incoming ih =>
    intro target path hconflict
    obtain ⟨hincoming, hoverlays⟩ := Value.isDistinct_map.mp hdistinct
    cases target with
    | map entries =>
      simp only [agree_map, not_forall] at hconflict
      obtain ⟨key, v, w, hv, hw, hconflict⟩ := hconflict
      have hentry : (key, w) ∈ incoming := Dict.mem_of_get?_eq_some hw
      obtain ⟨conflict, hinto⟩ := entriesInto_error path hincoming hentry hv fun path =>
        ih (key, w) hentry (hoverlays _ hentry) path hconflict
      exact ⟨conflict, by simp [valueOnto, hinto]⟩
    | _ => exact ⟨_, rfl⟩

/-! ## What the merge has under each key -/

theorem get?_structuralEntries :
    Dict.get? key (structuralEntries entries incoming) =
      (Dict.get? key entries).map fun v =>
        match Dict.get? key incoming with
        | some update => structural v update
        | none => v := by
  induction entries with
  | nil => rfl
  | cons entry rest ih =>
    obtain ⟨k, v⟩ := entry
    rw [structuralEntries, Dict.get?_cons, Dict.get?_cons]
    split
    · next heq => rw [heq, Option.map_some]
    · exact ih

/-- Leaving out entries by their keys keeps what is under the other keys. -/
theorem get?_filter (keeps : String → Bool) (h : keeps key) :
    Dict.get? key (incoming.filter fun entry => keeps entry.1) = Dict.get? key incoming := by
  induction incoming with
  | nil => rfl
  | cons entry rest ih =>
    obtain ⟨k, v⟩ := entry
    rw [List.filter_cons]
    by_cases heq : k = key
    · subst heq
      simp [h, Dict.get?_cons]
    · split <;> simp [Dict.get?_cons, heq, ih]

/-- A key of both maps has the merge of the two values, a key of one of them the value there. -/
theorem get?_mergedEntries :
    Dict.get? key (mergedEntries entries incoming) =
      Option.merge structural (Dict.get? key entries) (Dict.get? key incoming) := by
  rw [mergedEntries, Dict.get?_append, get?_structuralEntries]
  cases hv : Dict.get? key entries with
  | some v => cases Dict.get? key incoming <;> rfl
  | none =>
    have hkeeps : (!Dict.contains key entries) = true := by simp [Dict.contains, hv]
    rw [get?_filter (fun k => !Dict.contains k entries) hkeeps]
    cases Dict.get? key incoming <;> rfl

theorem keys_mergedEntries :
    Dict.keys (mergedEntries entries incoming) =
      Dict.keys entries ++ (Dict.keys incoming).filter fun key => !Dict.contains key entries := by
  rw [mergedEntries, Dict.keys_append, keys_structuralEntries]
  simp only [Dict.keys, List.filter_map, Function.comp_def]

/-- At names that both trees have, the merge has the merge of what they have there. -/
theorem at?_structural {names : List String} (hv : target.at? (names.map .name) = some v)
    (hw : overlay.at? (names.map .name) = some w) :
    (structural target overlay).at? (names.map .name) = some (structural v w) := by
  induction names generalizing target overlay with
  | nil =>
    cases hv
    cases hw
    rfl
  | cons name names ih =>
    obtain ⟨child, hchild, hbelow⟩ := Option.bind_eq_some_iff.mp hv
    obtain ⟨update, hupdate, hbelow'⟩ := Option.bind_eq_some_iff.mp hw
    cases target <;> simp only [Value.childAt, reduceCtorEq] at hchild
    cases overlay <;> simp only [Value.childAt, reduceCtorEq] at hupdate
    rw [structural_map, List.map_cons, Value.at?_cons, Value.childAt, get?_mergedEntries, hchild,
      hupdate]
    exact ih hbelow hbelow'

/-! ## Merging two trees -/

/-- Two trees that agree are merged. -/
theorem apply_of_agree (htarget : target.isDistinct) (hoverlay : overlay.isDistinct)
    (hvalid : overlay.isValid)
    (hroots : target.kind = .map ∧ overlay.kind = .map ∨ target.kind = .list ∧ overlay.kind = .list)
    (hagree : Agree target overlay) :
    apply target overlay = (structural target overlay, .ok (written target overlay)) := by
  have hvalidate := Value.validate_eq_ok.mpr hvalid
  rcases hroots with ⟨ht, ho⟩ | ⟨ht, ho⟩ <;> cases target <;>
    simp only [Value.kind, reduceCtorEq] at ht <;> cases overlay <;>
    simp only [Value.kind, reduceCtorEq] at ho
  · have hinto := valueOnto_eq hoverlay [] htarget hagree
    simp only [valueOnto, Prod.mk.injEq] at hinto
    simp [apply, hvalidate, hinto, reported]
  · simp [apply, hvalidate, structural, written]

/-- Only two trees that agree can be merged. -/
theorem agree_of_apply (hoverlay : overlay.isDistinct) {n : Nat}
    (h : (apply target overlay).2 = .ok n) :
    overlay.isValid ∧
      (target.kind = .map ∧ overlay.kind = .map ∨ target.kind = .list ∧ overlay.kind = .list) ∧
      Agree target overlay := by
  cases hvalidate : overlay.validate with
  | error e => simp [apply, hvalidate] at h
  | ok _ =>
    refine ⟨Value.validate_eq_ok.mp hvalidate, ?_⟩
    simp only [apply, hvalidate] at h
    split at h
    · next entries incoming =>
      refine ⟨.inl ⟨rfl, rfl⟩, Classical.not_not.mp fun hconflict => ?_⟩
      obtain ⟨conflict, hinto⟩ := valueOnto_error hoverlay [] hconflict
      simp only [valueOnto] at hinto
      simp [hinto, reported] at h
    · exact ⟨.inr ⟨rfl, rfl⟩, agree_of_notMap rfl (by simp [Value.kind])⟩
    · split at h <;> cases h

/-- Merging succeeds exactly if the overlay has no blank key, the roots are two maps or two lists,
and the trees agree. It gives the structural merge and counts what is written. Wherever both trees
have a map, the keys of the tree come first and those that only the overlay has behind them, and
every key has the value of the tree that has it, or the merge of the two values. -/
theorem apply_spec (htarget : target.isDistinct) (hoverlay : overlay.isDistinct) :
    ((∃ n, (apply target overlay).2 = .ok n) ↔
      overlay.isValid ∧
        (target.kind = .map ∧ overlay.kind = .map ∨
          target.kind = .list ∧ overlay.kind = .list) ∧
        Agree target overlay) ∧
    ∀ n, (apply target overlay).2 = .ok n →
      (apply target overlay).1 = structural target overlay ∧ n = written target overlay ∧
      ∀ (names : List String) (entries incoming : Dict Value),
        target.at? (names.map .name) = some (.map entries) →
        overlay.at? (names.map .name) = some (.map incoming) →
        ∃ merged, (apply target overlay).1.at? (names.map .name) = some (.map merged) ∧
          Dict.keys merged = Dict.keys entries ++
            (Dict.keys incoming).filter (fun key => !Dict.contains key entries) ∧
          ∀ key, Dict.get? key merged =
            Option.merge structural (Dict.get? key entries) (Dict.get? key incoming) := by
  refine ⟨⟨fun ⟨n, hn⟩ => agree_of_apply hoverlay hn, fun ⟨hvalid, hroots, hagree⟩ => ?_⟩, ?_⟩
  · exact ⟨_, congrArg Prod.snd (apply_of_agree htarget hoverlay hvalid hroots hagree)⟩
  · intro n hn
    obtain ⟨hvalid, hroots, hagree⟩ := agree_of_apply hoverlay hn
    have happly := apply_of_agree htarget hoverlay hvalid hroots hagree
    rw [happly] at hn ⊢
    refine ⟨rfl, (Except.ok.inj hn).symm, fun names entries incoming hentries hincoming => ?_⟩
    refine ⟨mergedEntries entries incoming, ?_, keys_mergedEntries, fun key => get?_mergedEntries⟩
    rw [at?_structural hentries hincoming, structural_map]

/-- A number that is written keeps its class, a list grows, and a new name comes last. -/
theorem apply_number_list_name :
    let target : Value := .map [("n", .number (Number.ofInt 1)), ("l", .list [.bool true])]
    let overlay : Value := .map [("s", .string "x"), ("l", .list [.bool false, .bool true]),
      ("n", .number (.int .w64 (Sized.clamp .w64 7)))]
    let merged : Value := .map [("n", .number (Number.ofInt 7)),
      ("l", .list [.bool true, .bool false, .bool true]), ("s", .string "x")]
    (apply target overlay).1 = merged ∧ written target overlay = 4 := by
  intro target overlay merged
  obtain ⟨hmerged, hwritten, -⟩ :=
    (@apply_spec target overlay (by decide) (by decide)).2 4 rfl
  exact ⟨hmerged.trans rfl, hwritten.symm⟩

end TreePath.Merge
