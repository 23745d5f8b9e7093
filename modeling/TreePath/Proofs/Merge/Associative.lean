import TreePath.Proofs.Merge.Structural
import TreePath.Proofs.Number.Coercion

/-!
# Merging one overlay after the other

Two overlays can be merged onto a tree one after the other exactly if the second can be merged onto
the first and the outcome onto the tree: in both cases the three trees have to agree two by two.
Name by name the merge is associative, and so it is for trees, as long as the overlays have their
numbers in the same classes; a number that goes through another class on its way into the tree may
lose something there.
-/

namespace TreePath.Merge

variable {entries incoming later : Dict Value} {key : String} {v w t a b : Value}
  {names : List String}

/-! ## What the merge has at each place -/

theorem Agree.symm (h : Agree t a) : Agree a t :=
  fun names v w hv hw => (h names w v hw hv).symm

/-- The merge is of the kind that both trees have. -/
theorem kind_structural (h : t.kind = a.kind) : (structural t a).kind = t.kind := by
  cases t <;> cases a <;> simp only [Value.kind, reduceCtorEq] at h <;> rfl

theorem at?_of_notMap (h : v.kind ≠ .map) {name : String} :
    v.at? ((name :: names).map .name) = none := by
  cases v <;> simp [Value.childAt, Value.kind] at h ⊢

/-- At every place the merge has the merge of what both trees have there, or what one of them
has. -/
theorem at?_structural_eq_merge (h : Agree t a) :
    (structural t a).at? (names.map .name) =
      Option.merge structural (t.at? (names.map .name)) (a.at? (names.map .name)) := by
  induction names generalizing t a with
  | nil => rfl
  | cons name names ih =>
    have hkind := h.kind
    by_cases hmap : t.kind = .map
    · cases t <;> simp only [Value.kind, reduceCtorEq] at hmap
      cases a <;> simp only [Value.kind, reduceCtorEq] at hkind
      next entries incoming =>
      simp only [structural_map, List.map_cons, Value.at?_cons, Value.childAt, get?_mergedEntries]
      cases hv : Dict.get? name entries with
      | none => cases Dict.get? name incoming <;> simp
      | some v =>
        cases hw : Dict.get? name incoming with
        | none => simp
        | some w => exact ih (agree_map.mp h name v w hv hw)
    · have hmerge : (structural t a).kind ≠ .map := by rwa [kind_structural hkind]
      have hoverlay : a.kind ≠ .map := by rwa [← hkind]
      rw [at?_of_notMap hmap, at?_of_notMap hoverlay, at?_of_notMap hmerge]
      rfl

/-- A third tree agrees with a merge if and only if it agrees with both of its parts. -/
theorem agree_structural (h : Agree t a) :
    Agree (structural t a) b ↔ Agree t b ∧ Agree a b := by
  have hat (names : List String) : (structural t a).at? (names.map .name) =
      Option.merge structural (t.at? (names.map .name)) (a.at? (names.map .name)) :=
    at?_structural_eq_merge h
  constructor
  · intro hb
    refine ⟨fun names v w hv hw => ?_, fun names v w hv hw => ?_⟩
    · cases ha : a.at? (names.map .name) with
      | none => exact hb names v w (by rw [hat, hv, ha]; rfl) hw
      | some u =>
        rw [← kind_structural (h names v u hv ha)]
        exact hb names (structural v u) w (by rw [hat, hv, ha]; rfl) hw
    · cases ht : t.at? (names.map .name) with
      | none => exact hb names v w (by rw [hat, hv, ht]; rfl) hw
      | some u =>
        rw [← h names u v ht hv, ← kind_structural (h names u v ht hv)]
        exact hb names (structural u v) w (by rw [hat, hv, ht]; rfl) hw
  · rintro ⟨htb, hab⟩ names v w hv hw
    rw [hat] at hv
    cases ht : t.at? (names.map .name) with
    | none =>
      rw [ht, Option.merge_none_left] at hv
      exact hab names v w hv hw
    | some u =>
      cases ha : a.at? (names.map .name) with
      | none =>
        rw [ht, ha, Option.merge_none_right] at hv
        exact htb names v w (ht.trans hv) hw
      | some u' =>
        rw [ht, ha] at hv
        obtain rfl : structural u u' = v := Option.some.inj hv
        rw [kind_structural (h names u u' ht ha)]
        exact htb names u w ht hw

/-! ## What holds of all entries -/

/-- What is said of the values of a map can be said key by key. -/
theorem forall_values_iff {P : Value → Prop} (hdistinct : (Dict.keys entries).Nodup) :
    (∀ entry ∈ entries, P entry.2) ↔ ∀ key v, Dict.get? key entries = some v → P v := by
  constructor
  · intro h key v hv
    exact h (key, v) (Dict.mem_of_get?_eq_some hv)
  · rintro h ⟨key, v⟩ hentry
    exact h key v ((Dict.get?_eq_some_iff_mem hdistinct).mpr hentry)

theorem nodup_mergedEntries (hentries : (Dict.keys entries).Nodup)
    (hincoming : (Dict.keys incoming).Nodup) :
    (Dict.keys (mergedEntries entries incoming)).Nodup := by
  rw [keys_mergedEntries]
  refine List.nodup_append.mpr ⟨hentries, hincoming.filter _, ?_⟩
  rintro k hk l hl rfl
  simp [contains_eq_decide, hk] at hl

/-- What holds of a merge exactly if it holds of both of its parts holds of the values of two
merged maps exactly if it holds of the values of both. -/
theorem forall_mergedEntries {P : Value → Prop} (hentries : (Dict.keys entries).Nodup)
    (hincoming : (Dict.keys incoming).Nodup)
    (h : ∀ key v w, Dict.get? key entries = some v → Dict.get? key incoming = some w →
      (P (structural v w) ↔ P v ∧ P w)) :
    (∀ entry ∈ mergedEntries entries incoming, P entry.2) ↔
      (∀ entry ∈ entries, P entry.2) ∧ ∀ entry ∈ incoming, P entry.2 := by
  rw [forall_values_iff (nodup_mergedEntries hentries hincoming), forall_values_iff hentries,
    forall_values_iff hincoming, ← forall_and]
  refine forall_congr' fun key => ?_
  rw [get?_mergedEntries]
  cases hv : Dict.get? key entries with
  | none => simp
  | some v =>
    cases hw : Dict.get? key incoming with
    | none => simp
    | some w => simpa using h key v w hv hw

theorem isDistinct_structural (ht : t.isDistinct) (ha : a.isDistinct) :
    (structural t a).isDistinct := by
  induction a using induction_on_entries generalizing t with
  | other a hkind =>
    cases a with
    | map _ => exact absurd rfl hkind
    | list incoming =>
      cases t with
      | list items =>
        refine Value.distinctItems_iff.mpr (List.forall_mem_append.mpr ⟨?_, ?_⟩)
        · exact Value.distinctItems_iff.mp ht
        · exact Value.distinctItems_iff.mp ha
      | _ => exact ha
    | _ => cases t <;> rfl
  | map incoming ih =>
    cases t with
    | map entries =>
      obtain ⟨hentries, hvs⟩ := Value.isDistinct_map.mp ht
      obtain ⟨hincoming, hws⟩ := Value.isDistinct_map.mp ha
      rw [structural_map, Value.isDistinct_map]
      refine ⟨nodup_mergedEntries hentries hincoming, ?_⟩
      refine (forall_mergedEntries (P := fun v => v.isDistinct) hentries hincoming
        fun key v w hv hw => ?_).mpr ⟨hvs, hws⟩
      have hv := hvs (key, v) (Dict.mem_of_get?_eq_some hv)
      have hmem := Dict.mem_of_get?_eq_some hw
      have hw := hws (key, w) hmem
      exact iff_of_true (ih (key, w) hmem hv hw) ⟨hv, hw⟩
    | _ => exact ha

theorem forall_keys_mergedEntries {P : String → Prop} :
    (∀ k ∈ Dict.keys (mergedEntries entries incoming), P k) ↔
      (∀ k ∈ Dict.keys entries, P k) ∧ ∀ k ∈ Dict.keys incoming, P k := by
  rw [keys_mergedEntries, List.forall_mem_append]
  refine and_congr_right fun h => ⟨fun hnew k hk => ?_, fun hall k hk => ?_⟩
  · by_cases hold : k ∈ Dict.keys entries
    · exact h k hold
    · exact hnew k (List.mem_filter.mpr ⟨hk, by simp [contains_eq_decide, hold]⟩)
  · exact hall k (List.mem_filter.mp hk).1

/-- A merge has no blank key if and only if neither of its parts has one. -/
theorem isValid_structural (ht : t.isDistinct) (ha : a.isDistinct) (h : Agree t a) :
    (structural t a).isValid ↔ t.isValid ∧ a.isValid := by
  induction a using induction_on_entries generalizing t with
  | other a hkind =>
    have hsame := h.kind
    cases a <;> cases t <;> simp only [Value.kind, reduceCtorEq] at hsame
    case map.map => exact absurd rfl hkind
    case list.list incoming items =>
      simp only [structural, Value.isValid, Value.validItems_iff, List.forall_mem_append]
    all_goals simp [structural, Value.isValid]
  | map incoming ih =>
    have hsame := h.kind
    cases t <;> simp only [Value.kind, reduceCtorEq] at hsame
    next entries =>
    obtain ⟨hentries, hvs⟩ := Value.isDistinct_map.mp ht
    obtain ⟨hincoming, hws⟩ := Value.isDistinct_map.mp ha
    have hvalues := forall_mergedEntries (P := fun v => v.isValid) hentries hincoming
      fun key v w hv hw =>
        have hmem := Dict.mem_of_get?_eq_some hw
        ih (key, w) hmem (hvs (key, v) (Dict.mem_of_get?_eq_some hv)) (hws (key, w) hmem)
          (agree_map.mp h key v w hv hw)
    simp only [structural_map, Value.isValid, Value.validEntries_iff, forall_keys_mergedEntries,
      hvalues]
    tauto

/-! ## Associativity -/

/-- The numbers that two overlays have under the same names are of one class. -/
def SameClasses (a b : Value) : Prop :=
  ∀ (names : List String) (m n : Number), a.at? (names.map .name) = some (.number m) →
    b.at? (names.map .name) = some (.number n) → m.kind = n.kind

theorem SameClasses.child (h : SameClasses (.map entries) (.map incoming))
    (hv : Dict.get? key entries = some v) (hw : Dict.get? key incoming = some w) :
    SameClasses v w := by
  intro names m n hm hn
  apply h (key :: names) m n
  · simp [Value.childAt, hv, hm]
  · simp [Value.childAt, hw, hn]

theorem contains_mergedEntries :
    Dict.contains key (mergedEntries entries incoming) =
      (Dict.contains key entries || Dict.contains key incoming) := by
  rw [Dict.contains, get?_mergedEntries, Dict.contains, Dict.contains]
  cases Dict.get? key entries <;> cases Dict.get? key incoming <;> rfl

theorem keys_mergedEntries_mergedEntries :
    Dict.keys (mergedEntries (mergedEntries entries incoming) later) =
      Dict.keys (mergedEntries entries (mergedEntries incoming later)) := by
  simp only [keys_mergedEntries, contains_mergedEntries, List.filter_append, List.filter_filter,
    List.append_assoc, Bool.not_or]

/-- The merge of three trees that agree two by two does not depend on which two are merged
first. -/
theorem structural_assoc (ht : t.isDistinct) (ha : a.isDistinct) (hb : b.isDistinct)
    (hta : Agree t a) (hab : Agree a b) (hclasses : SameClasses a b) :
    structural (structural t a) b = structural t (structural a b) := by
  induction b using induction_on_entries generalizing t a with
  | other b hkind =>
    have hkind_ta := hta.kind
    have hkind_ab := hab.kind
    cases b <;> cases a <;> simp only [Value.kind, reduceCtorEq] at hkind_ab <;>
      cases t <;> simp only [Value.kind, reduceCtorEq] at hkind_ta
    case map.map.map => exact absurd rfl hkind
    case list.list.list => simp [structural]
    case number.number.number update current target =>
      have hclass : current.kind = update.kind := hclasses [] current update rfl rfl
      simp only [structural, Number.kind_coerceTo, hclass, Number.coerceTo_self]
    all_goals rfl
  | map later ih =>
    have hkind_ta := hta.kind
    have hkind_ab := hab.kind
    cases a <;> simp only [Value.kind, reduceCtorEq] at hkind_ab
    cases t <;> simp only [Value.kind, reduceCtorEq] at hkind_ta
    next incoming entries =>
    obtain ⟨hentries, htargets⟩ := Value.isDistinct_map.mp ht
    obtain ⟨hincoming, hoverlays⟩ := Value.isDistinct_map.mp ha
    obtain ⟨hlater, hlaters⟩ := Value.isDistinct_map.mp hb
    simp only [structural_map]
    refine congrArg Value.map (Dict.ext_of_get? ?_ keys_mergedEntries_mergedEntries fun key => ?_)
    · exact nodup_mergedEntries hentries (nodup_mergedEntries hincoming hlater)
    · simp only [get?_mergedEntries]
      cases hv : Dict.get? key entries with
      | none => cases Dict.get? key incoming <;> cases Dict.get? key later <;> rfl
      | some v =>
        cases hw : Dict.get? key incoming with
        | none => cases Dict.get? key later <;> rfl
        | some w =>
          cases hu : Dict.get? key later with
          | none => rfl
          | some u =>
            have hmem := Dict.mem_of_get?_eq_some hu
            have hassoc := ih (key, u) hmem (htargets _ (Dict.mem_of_get?_eq_some hv))
              (hoverlays _ (Dict.mem_of_get?_eq_some hw)) (hlaters _ hmem)
              (agree_map.mp hta key v w hv hw) (agree_map.mp hab key w u hw hu)
              (hclasses.child hw hu)
            simp only [Option.merge_some_some, hassoc]

/-! ## Merging in turn -/

/-- The overlay can be merged onto a tree, and this is what the tree is then. -/
def Merges (target overlay result : Value) : Prop :=
  ∃ n, apply target overlay = (result, .ok n)

/-- Two maps, or two lists. -/
def SameContainers (t a : Value) : Prop :=
  t.kind = .map ∧ a.kind = .map ∨ t.kind = .list ∧ a.kind = .list

theorem sameContainers_congr {t' a' : Value} (ht : t'.kind = t.kind) (ha : a'.kind = a.kind) :
    SameContainers t' a' ↔ SameContainers t a := by
  simp only [SameContainers, ht, ha]

theorem merges_iff {result : Value} (ht : t.isDistinct) (ha : a.isDistinct) :
    Merges t a result ↔
      a.isValid ∧ SameContainers t a ∧ Agree t a ∧ result = structural t a := by
  constructor
  · rintro ⟨n, happly⟩
    have hok : (apply t a).2 = .ok n := congrArg Prod.snd happly
    obtain ⟨hvalid, hroots, hagree⟩ := agree_of_apply ha hok
    have heq := apply_of_agree ht ha hvalid hroots hagree
    exact ⟨hvalid, hroots, hagree, congrArg Prod.fst (happly.symm.trans heq)⟩
  · rintro ⟨hvalid, hroots, hagree, rfl⟩
    exact ⟨_, apply_of_agree ht ha hvalid hroots hagree⟩

/-- Two overlays that can be merged with a tree and with each other. -/
structure Compatible (t a b : Value) : Prop where
  isValid_first : a.isValid
  isValid_second : b.isValid
  roots : SameContainers t a
  overlays : SameContainers a b
  agree_first : Agree t a
  agree_second : Agree t b
  agree_overlays : Agree a b

/-- The first overlay is merged onto the tree, and then the second. -/
theorem merges_merges_iff (ht : t.isDistinct) (ha : a.isDistinct) (hb : b.isDistinct) :
    (∃ u w, Merges t a u ∧ Merges u b w) ↔ Compatible t a b := by
  constructor
  · rintro ⟨u, w, hfirst, hsecond⟩
    obtain ⟨hvalid, hroots, hta, rfl⟩ := (merges_iff ht ha).mp hfirst
    obtain ⟨hvalid', hroots', hagree, -⟩ := (merges_iff (isDistinct_structural ht ha) hb).mp hsecond
    obtain ⟨htb, hab⟩ := (agree_structural hta).mp hagree
    refine ⟨hvalid, hvalid', hroots, ?_, hta, htb, hab⟩
    exact (sameContainers_congr ((kind_structural hta.kind).trans hta.kind) rfl).mp hroots'
  · intro h
    have hkind := (kind_structural h.agree_first.kind).trans h.agree_first.kind
    have hagree := (agree_structural h.agree_first).mpr ⟨h.agree_second, h.agree_overlays⟩
    refine ⟨_, _, (merges_iff ht ha).mpr ⟨h.isValid_first, h.roots, h.agree_first, rfl⟩,
      (merges_iff (isDistinct_structural ht ha) hb).mpr ⟨h.isValid_second, ?_, hagree, rfl⟩⟩
    exact (sameContainers_congr hkind rfl).mpr h.overlays

/-- The second overlay is merged onto the first, and what comes of it onto the tree. -/
theorem merges_overlays_iff (ht : t.isDistinct) (ha : a.isDistinct) (hb : b.isDistinct) :
    (∃ o w, Merges a b o ∧ Merges t o w) ↔ Compatible t a b := by
  constructor
  · rintro ⟨o, w, hfirst, hsecond⟩
    obtain ⟨hvalid, hoverlays, hab, rfl⟩ := (merges_iff ha hb).mp hfirst
    obtain ⟨hvalid', hroots, hagree, -⟩ := (merges_iff ht (isDistinct_structural ha hb)).mp hsecond
    obtain ⟨hat, hbt⟩ := (agree_structural hab).mp hagree.symm
    refine ⟨((isValid_structural ha hb hab).mp hvalid').1, hvalid, ?_, hoverlays, hat.symm,
      hbt.symm, hab⟩
    exact (sameContainers_congr rfl (kind_structural hab.kind)).mp hroots
  · intro h
    have hkind := kind_structural h.agree_overlays.kind
    have hagree := (agree_structural h.agree_overlays).mpr
      ⟨h.agree_first.symm, h.agree_second.symm⟩
    have hvalid := (isValid_structural ha hb h.agree_overlays).mpr
      ⟨h.isValid_first, h.isValid_second⟩
    refine ⟨_, _, (merges_iff ha hb).mpr ⟨h.isValid_second, h.overlays, h.agree_overlays, rfl⟩,
      (merges_iff ht (isDistinct_structural ha hb)).mpr ⟨hvalid, ?_, hagree.symm, rfl⟩⟩
    exact (sameContainers_congr rfl hkind).mpr h.roots

/-- Merging two overlays onto a tree in turn succeeds exactly if merging the second onto the first,
and what comes of it onto the tree, does. If the overlays have the numbers that they both have in
the same classes, the tree is the same in the end. -/
theorem apply_assoc (ht : t.isDistinct) (ha : a.isDistinct) (hb : b.isDistinct) :
    ((∃ u w, Merges t a u ∧ Merges u b w) ↔ ∃ o w, Merges a b o ∧ Merges t o w) ∧
    ∀ u w o w', Merges t a u → Merges u b w → Merges a b o → Merges t o w' → SameClasses a b →
      w = w' := by
  refine ⟨(merges_merges_iff ht ha hb).trans (merges_overlays_iff ht ha hb).symm, ?_⟩
  intro u w o w' hta hub hab hto hclasses
  obtain ⟨-, -, hagree, rfl⟩ := (merges_iff ht ha).mp hta
  obtain ⟨-, -, -, rfl⟩ := (merges_iff (isDistinct_structural ht ha) hb).mp hub
  obtain ⟨-, -, hagree', rfl⟩ := (merges_iff ha hb).mp hab
  obtain ⟨-, -, -, rfl⟩ := (merges_iff ht (isDistinct_structural ha hb)).mp hto
  exact structural_assoc ht ha hb hagree hagree' hclasses

/-- Two counts of 32 bits go into one of 8 bits, and two names are new: in turn or together, the
greatest count of 8 bits stays, and the names come in the order of the overlays. -/
theorem apply_assoc_count_names :
    let tree : Value := .map [("n", .number (Number.fromInt 1 (.int .w8))), ("l", .list [])]
    let first : Value := .map [("s", .string "x"), ("n", .number (Number.ofInt 5)),
      ("l", .list [.bool true])]
    let second : Value := .map [("t", .map []), ("n", .number (Number.ofInt 1000)),
      ("s", .string "y"), ("l", .list [.bool false])]
    let merged : Value := .map [("n", .number (Number.fromInt 127 (.int .w8))),
      ("l", .list [.bool true, .bool false]), ("s", .string "y"), ("t", .map [])]
    (∃ u, Merges tree first u ∧ Merges u second merged) ∧
      ∃ o, Merges first second o ∧ Merges tree o merged := by
  intro tree first second merged
  have hclasses : SameClasses first second := by
    intro names m n hm hn
    match names with
    | [] => simp [first] at hm
    | [name] =>
      have hm : (name, Value.number m) ∈ _ :=
        Dict.mem_of_get?_eq_some (Value.bind_at?_nil.symm.trans hm)
      have hn : (name, Value.number n) ∈ _ :=
        Dict.mem_of_get?_eq_some (Value.bind_at?_nil.symm.trans hn)
      obtain ⟨-, rfl⟩ : name = "n" ∧ m = Number.ofInt 5 := by simpa using hm
      obtain ⟨-, rfl⟩ : _ ∧ n = Number.ofInt 1000 := by simpa using hn
      rfl
    | name :: next :: rest =>
      obtain ⟨v, hv, hm⟩ := Option.bind_eq_some_iff.mp hm
      have hv : (name, v) ∈ _ := Dict.mem_of_get?_eq_some hv
      have hkind : v.kind ≠ .map := by
        simp only [List.mem_cons, Prod.mk.injEq, List.not_mem_nil, or_false] at hv
        rcases hv with ⟨-, rfl⟩ | ⟨-, rfl⟩ | ⟨-, rfl⟩ <;> simp [Value.kind]
      cases (at?_of_notMap hkind).symm.trans hm
  have hfirst : Merges tree first (apply tree first).1 := ⟨3, rfl⟩
  have hsecond : Merges (apply tree first).1 second merged := ⟨4, rfl⟩
  obtain ⟨happly, hsame⟩ := @apply_assoc tree first second (by decide) (by decide) (by decide)
  obtain ⟨o, w, hoverlays, hmerged⟩ := happly.mp ⟨_, _, hfirst, hsecond⟩
  refine ⟨⟨_, hfirst, hsecond⟩, o, hoverlays, ?_⟩
  rw [hsame _ _ _ _ hfirst hsecond hoverlays hmerged hclasses]
  exact hmerged

end TreePath.Merge
