import TreePath.Proofs.Merge.Conflict
import TreePath.Proofs.Value.Sound

/-!
# Merging sound trees

Whether it succeeds or stops at a conflict, a merge of a sound overlay leaves a sound tree sound.
The numbers may have to pass any test that a number still passes in another class.
-/

namespace TreePath.Merge

open Value

variable {p : Number → Bool} {target overlay : Value} {entries : Dict Value} {path : List String}

/-- Entries with sound values under keys that are not blank are merged into a sound map. The merges
of the values are looked at one by one. -/
theorem sound_entriesInto {incoming : List (String × Value)} (h : SoundEntries p entries)
    (hincoming : ∀ entry ∈ incoming, Text.isBlank entry.1.toList = false ∧ Sound p entry.2)
    (hvalues : ∀ entry ∈ incoming, ∀ path v, Sound p v → Sound p (valueOnto path v entry.2).1) :
    SoundEntries p (entriesInto path entries incoming).1 := by
  induction incoming generalizing entries with
  | nil => exact h
  | cons entry rest ih =>
    obtain ⟨key, w⟩ := entry
    obtain ⟨⟨hblank, hw⟩, hrest⟩ := List.forall_mem_cons.mp hincoming
    obtain ⟨hvalue, hothers⟩ := List.forall_mem_cons.mp hvalues
    cases hv : Dict.get? key entries with
    | none =>
      rw [entriesInto_of_absent hv]
      exact ih (h.insert hw hblank) hrest hothers
    | some v =>
      have hnext := hvalue (path ++ [key]) v (h.of_get? hv)
      cases hwritten : valueOnto (path ++ [key]) v w with
      | mk next written =>
        rw [hwritten] at hnext
        cases written with
        | error c =>
          rw [entriesInto_of_error hv hwritten]
          exact h.replace hnext
        | ok count =>
          rw [entriesInto_of_ok hv hwritten]
          exact ih (h.replace hnext) hrest hothers

/-- A sound value is merged onto a sound one, as far as it can be. -/
theorem sound_valueOnto (hcoerce : ∀ n k, p n → p (n.coerceTo k)) (htarget : Sound p target)
    (hoverlay : Sound p overlay) : Sound p (valueOnto path target overlay).1 := by
  induction overlay using induction_on_entries generalizing target path with
  | other overlay hkind =>
    by_cases heq : target.kind = overlay.kind
    · rw [(valueOnto_of_notMap hkind).1 heq]
      cases target <;> cases overlay <;> simp only [Value.kind, reduceCtorEq] at heq
      case bool.bool => exact hoverlay
      case number.number => exact sound_number.mpr (hcoerce _ _ (sound_number.mp hoverlay))
      case string.string => exact hoverlay
      case list.list => exact htarget.append_list (sound_list.mp hoverlay)
      case map.map => exact absurd rfl hkind
    · rw [valueOnto_of_kind_ne heq]
      exact htarget
  | map incoming ih =>
    by_cases heq : target.kind = .map
    · cases target <;> simp only [Value.kind, reduceCtorEq] at heq
      have hentries := sound_map.mp hoverlay
      refine sound_map.mpr (sound_entriesInto (sound_map.mp htarget) (fun entry hentry => ?_)
        fun entry hentry path v hv => ih entry hentry hv (hentries.sound entry hentry))
      exact ⟨hentries.isBlank _ (List.mem_map_of_mem hentry), hentries.sound entry hentry⟩
    · rw [valueOnto_of_kind_ne heq]
      exact htarget

/-- A merge keeps a tree sound. The overlay need not be known to have no blank key. -/
theorem sound_apply (hcoerce : ∀ n k, p n → p (n.coerceTo k)) (htarget : Sound p target)
    (hdistinct : overlay.isDistinct) (hnumbers : overlay.allNumbers p) :
    Sound p (apply target overlay).1 := by
  rcases @apply_cases target overlay with ⟨_, hrefused, -⟩ | ⟨hvalid, -, hmerged⟩
  · rw [hrefused]
    exact htarget
  · rw [hmerged]
    exact sound_valueOnto hcoerce htarget ⟨hdistinct, hvalid, hnumbers⟩

end TreePath.Merge
