import TreePath.Proofs.Merge.Associative

/-!
# Merging an overlay twice

What a merge has put in or written over has the kinds and classes that the overlay meets when it is
merged once more: a leaf is then written over by itself, and a number goes into the class that it
went into before. Only lists are appended to a second time. So an overlay can always be merged
again, and it changes nothing then exactly if it has no list with elements.
-/

namespace TreePath

namespace Value

mutual

/-- No list in the tree has an element. -/
def lacksElements : Value → Bool
  | .list items => items.isEmpty
  | .map entries => entriesLackElements entries
  | _ => true

def entriesLackElements : List (String × Value) → Bool
  | [] => true
  | (_, v) :: rest => v.lacksElements && entriesLackElements rest

end

variable {entries : Dict Value}

theorem entriesLackElements_iff :
    entriesLackElements entries ↔ ∀ entry ∈ entries, entry.2.lacksElements := by
  induction entries with
  | nil => simp [entriesLackElements]
  | cons entry rest ih => simp [entriesLackElements, ih]

theorem lacksElements_map (hdistinct : (Dict.keys entries).Nodup) :
    (map entries).lacksElements ↔ ∀ key v, Dict.get? key entries = some v → v.lacksElements := by
  rw [lacksElements, entriesLackElements_iff]
  exact Merge.forall_values_iff (P := fun v => v.lacksElements) hdistinct

end Value

namespace Merge

variable {entries incoming : Dict Value} {t o u : Value}

theorem Agree.refl : Agree o o := by
  intro names v w hv hw
  rw [Option.some.inj (hv.symm.trans hw)]

/-- The merge of two maps is the first of them exactly if that has all the names of the other and
each of its values is the merge with the value there. -/
theorem mergedEntries_eq_left_iff (hentries : (Dict.keys entries).Nodup) :
    mergedEntries entries incoming = entries ↔
      ∀ key w, Dict.get? key incoming = some w →
        ∃ v, Dict.get? key entries = some v ∧ structural v w = v := by
  constructor
  · intro h key w hw
    have hget := congrArg (Dict.get? key) h
    rw [get?_mergedEntries, hw] at hget
    cases hv : Dict.get? key entries with
    | none => simp [hv] at hget
    | some v =>
      rw [hv, Option.merge_some_some, Option.some.injEq] at hget
      exact ⟨v, rfl, hget⟩
  · intro h
    refine Dict.ext_of_get? hentries ?_ fun key => ?_
    · have hnew : ((Dict.keys incoming).filter fun key => !Dict.contains key entries) = [] := by
        refine List.filter_eq_nil_iff.mpr fun key hkey => ?_
        obtain ⟨w, hw⟩ := Option.isSome_iff_exists.mp (Dict.mem_keys_iff.mp hkey)
        obtain ⟨v, hv, -⟩ := h key w hw
        simp [Dict.contains, hv]
      rw [keys_mergedEntries, hnew, List.append_nil]
    · rw [get?_mergedEntries]
      cases hw : Dict.get? key incoming with
      | none => rw [Option.merge_none_right]
      | some w =>
        obtain ⟨v, hv, hsame⟩ := h key w hw
        rw [hv, Option.merge_some_some, hsame]

/-- A tree that is merged onto itself stays as it is, but for its lists. -/
theorem structural_self (ho : o.isDistinct) : structural o o = o ↔ o.lacksElements := by
  induction o using induction_on_entries with
  | other o hkind =>
    cases o with
    | map _ => exact absurd rfl hkind
    | list items => simp [structural, Value.lacksElements]
    | number n => simp [structural, Value.lacksElements, Number.coerceTo_self]
    | bool _ | string _ => simp [structural, Value.lacksElements]
  | map incoming ih =>
    obtain ⟨hincoming, hvalues⟩ := Value.isDistinct_map.mp ho
    rw [structural_map, Value.map.injEq, mergedEntries_eq_left_iff hincoming,
      Value.lacksElements_map hincoming]
    refine forall_congr' fun key => forall_congr' fun w => imp_congr_right fun hw => ?_
    have hmem := Dict.mem_of_get?_eq_some hw
    simp only [hw, Option.some.injEq, exists_eq_left']
    exact ih (key, w) hmem (hvalues _ hmem)

/-- An overlay that has been merged onto a tree changes nothing when it is merged again, but for
its lists. -/
theorem structural_again (ht : t.isDistinct) (ho : o.isDistinct) (h : Agree t o) :
    structural (structural t o) o = structural t o ↔ o.lacksElements := by
  induction o using induction_on_entries generalizing t with
  | other o hkind =>
    have hsame := h.kind
    cases o <;> cases t <;> simp only [Value.kind, reduceCtorEq] at hsame
    case map.map => exact absurd rfl hkind
    all_goals simp [structural, Value.lacksElements]
  | map incoming ih =>
    have hsame := h.kind
    cases t <;> simp only [Value.kind, reduceCtorEq] at hsame
    next entries =>
    obtain ⟨hentries, htargets⟩ := Value.isDistinct_map.mp ht
    obtain ⟨hincoming, hvalues⟩ := Value.isDistinct_map.mp ho
    rw [structural_map, structural_map, Value.map.injEq,
      mergedEntries_eq_left_iff (nodup_mergedEntries hentries hincoming),
      Value.lacksElements_map hincoming]
    refine forall_congr' fun key => forall_congr' fun w => imp_congr_right fun hw => ?_
    have hmem := Dict.mem_of_get?_eq_some hw
    rw [get?_mergedEntries, hw]
    cases hv : Dict.get? key entries with
    | none =>
      -- The first merge has put the value in, and the second finds it there.
      simp only [Option.merge_none_left, Option.some.injEq, exists_eq_left']
      exact structural_self (hvalues _ hmem)
    | some v =>
      simp only [Option.merge_some_some, Option.some.injEq, exists_eq_left']
      exact ih (key, w) hmem (htargets _ (Dict.mem_of_get?_eq_some hv)) (hvalues _ hmem)
        (agree_map.mp h key v w hv hw)

/-- An overlay that has been merged onto a tree can be merged onto the outcome, and changes nothing
there if and only if it has no list with elements. -/
theorem apply_again (ht : t.isDistinct) (ho : o.isDistinct) (h : Merges t o u) :
    (∃ w, Merges u o w) ∧ (Merges u o u ↔ o.lacksElements) := by
  obtain ⟨hvalid, hroots, hagree, rfl⟩ := (merges_iff ht ho).mp h
  have hdistinct := isDistinct_structural ht ho
  have hroots' : SameContainers (structural t o) o :=
    (sameContainers_congr (kind_structural hagree.kind) rfl).mpr hroots
  have hagree' : Agree (structural t o) o := (agree_structural hagree).mpr ⟨hagree, .refl⟩
  refine ⟨⟨_, (merges_iff hdistinct ho).mpr ⟨hvalid, hroots', hagree', rfl⟩⟩, ?_⟩
  rw [merges_iff hdistinct ho, ← structural_again ht ho hagree]
  simp only [hvalid, hroots', hagree', true_and]
  exact eq_comm

/-- A number goes into 8 bits, a map is put in and a map is merged; the second time the number meets
its class, and the map that was put in is merged. -/
theorem apply_again_count_names :
    let tree : Value := .map [("n", .number (Number.fromInt 1 (.int .w8))),
      ("m", .map [("x", .bool true)])]
    let overlay : Value := .map [("n", .number (Number.ofInt 1000)),
      ("m", .map [("y", .list []), ("x", .bool false)]), ("p", .map [("q", .number (.ofInt 2))])]
    let merged : Value := .map [("n", .number (Number.fromInt 127 (.int .w8))),
      ("m", .map [("x", .bool false), ("y", .list [])]), ("p", .map [("q", .number (.ofInt 2))])]
    Merges tree overlay merged ∧ Merges merged overlay merged := by
  intro tree overlay merged
  have hfirst : Merges tree overlay merged := ⟨4, rfl⟩
  obtain ⟨-, hagain⟩ := @apply_again tree overlay merged (by decide) (by decide) hfirst
  exact ⟨hfirst, hagain.mpr (by decide)⟩

end Merge

end TreePath
