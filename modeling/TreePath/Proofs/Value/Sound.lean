import TreePath.Proofs.Value.Removal
import TreePath.Proofs.Value.Shape

/-!
# Sound trees

A tree is sound if no map in it has a key twice or a blank key and its numbers pass a test. A
container is sound exactly if its keys are in order and its children are sound, so putting sound
children under keys that are not blank, and taking children out, keeps a tree sound.
-/

namespace TreePath

/-- A name of blank characters only. -/
def Key.isBlank : Key → Bool
  | .name text => Text.isBlank text.toList
  | .index _ => false

namespace Value

/-- A tree whose maps have distinct keys that are not blank, with numbers that pass a test. -/
structure Sound (p : Number → Bool) (v : Value) : Prop where
  isDistinct : v.isDistinct
  isValid : v.isValid
  allNumbers : v.allNumbers p

/-- The entries of a sound map. -/
structure SoundEntries (p : Number → Bool) (entries : Dict Value) : Prop where
  nodup : (Dict.keys entries).Nodup
  isBlank : ∀ k ∈ Dict.keys entries, Text.isBlank k.toList = false
  sound : ∀ entry ∈ entries, Sound p entry.2

variable {p : Number → Bool} {v child next : Value} {items : List Value} {entries : Dict Value}
  {name : String} {key : Key}

theorem allNumbers_true : v.allNumbers fun _ => true := by
  induction v using induction_on_children with
  | list items ih => exact allNumbersItems_iff.mpr ih
  | map entries ih => exact allNumbersEntries_iff.mpr ih
  | _ => rfl

/-- Where any number will do, a tree is sound if its keys are in order. -/
theorem sound_iff : Sound (fun _ => true) v ↔ v.isDistinct ∧ v.isValid :=
  ⟨fun h => ⟨h.isDistinct, h.isValid⟩, fun h => ⟨h.1, h.2, allNumbers_true⟩⟩

theorem sound_number {n : Number} : Sound p (.number n) ↔ p n :=
  ⟨fun h => h.allNumbers, fun h => ⟨rfl, rfl, h⟩⟩

theorem sound_list : Sound p (.list items) ↔ ∀ v ∈ items, Sound p v := by
  constructor
  · rintro ⟨hdistinct, hvalid, hnumbers⟩ v hv
    exact ⟨distinctItems_iff.mp hdistinct v hv, validItems_iff.mp hvalid v hv,
      allNumbersItems_iff.mp hnumbers v hv⟩
  · intro h
    exact ⟨distinctItems_iff.mpr fun v hv => (h v hv).isDistinct,
      validItems_iff.mpr fun v hv => (h v hv).isValid,
      allNumbersItems_iff.mpr fun v hv => (h v hv).allNumbers⟩

theorem sound_map : Sound p (.map entries) ↔ SoundEntries p entries := by
  constructor
  · rintro ⟨hdistinct, hvalid, hnumbers⟩
    obtain ⟨hnodup, hdistincts⟩ := isDistinct_map.mp hdistinct
    obtain ⟨hblank, hvalids⟩ := validEntries_iff.mp hvalid
    exact ⟨hnodup, hblank, fun entry hentry => ⟨hdistincts entry hentry, hvalids entry hentry,
      allNumbersEntries_iff.mp hnumbers entry hentry⟩⟩
  · rintro ⟨hnodup, hblank, h⟩
    exact ⟨isDistinct_map.mpr ⟨hnodup, fun entry hentry => (h entry hentry).isDistinct⟩,
      validEntries_iff.mpr ⟨hblank, fun entry hentry => (h entry hentry).isValid⟩,
      allNumbersEntries_iff.mpr fun entry hentry => (h entry hentry).allNumbers⟩

/-! ## Entries -/

namespace SoundEntries

theorem nil : SoundEntries p [] :=
  ⟨List.nodup_nil, List.forall_mem_nil _, List.forall_mem_nil _⟩

theorem of_get? (h : SoundEntries p entries) (hv : Dict.get? name entries = some v) :
    Sound p v :=
  h.sound (name, v) (Dict.mem_of_get?_eq_some hv)

theorem replace (h : SoundEntries p entries) (hv : Sound p v) :
    SoundEntries p (Dict.replace name v entries) := by
  refine ⟨by rw [Dict.keys_replace]; exact h.nodup, by rw [Dict.keys_replace]; exact h.isBlank,
    fun entry hentry => ?_⟩
  rcases Dict.mem_replace hentry with hold | hnew
  · exact h.sound entry hold
  · exact hnew ▸ hv

theorem insert (h : SoundEntries p entries) (hv : Sound p v)
    (hname : Text.isBlank name.toList = false) : SoundEntries p (Dict.insert name v entries) := by
  have hentry (entry : String × Value) (hentry : entry ∈ Dict.insert name v entries) :
      Text.isBlank entry.1.toList = false ∧ Sound p entry.2 := by
    rcases Dict.mem_insert hentry with hold | rfl
    · exact ⟨h.isBlank _ (List.mem_map_of_mem hold), h.sound entry hold⟩
    · exact ⟨hname, hv⟩
  refine ⟨Dict.nodup_keys_insert h.nodup, fun k hk => ?_, fun entry hin => (hentry entry hin).2⟩
  obtain ⟨entry, hin, rfl⟩ := List.mem_map.mp hk
  exact (hentry entry hin).1

theorem erase (h : SoundEntries p entries) : SoundEntries p (Dict.erase name entries) := by
  have hkeys : (Dict.keys (Dict.erase name entries)).Sublist (Dict.keys entries) :=
    Dict.sublist_erase.map Prod.fst
  exact ⟨h.nodup.sublist hkeys, fun k hk => h.isBlank k (hkeys.subset hk),
    fun entry hentry => h.sound entry (Dict.sublist_erase.subset hentry)⟩

end SoundEntries

/-! ## Children -/

namespace Sound

theorem childAt (h : Sound p v) (hchild : v.childAt key = some child) : Sound p child := by
  cases v <;> cases key <;> simp only [Value.childAt, reduceCtorEq] at hchild
  · exact sound_list.mp h child (List.mem_of_getElem? hchild)
  · exact (sound_map.mp h).of_get? hchild

theorem isBlank_of_mem_ownKeys (h : Sound p v) (hkey : key ∈ v.ownKeys) :
    key.isBlank = false := by
  cases v with
  | list items =>
    obtain ⟨i, -, rfl⟩ := List.mem_map.mp hkey
    rfl
  | map entries =>
    obtain ⟨name, hname, rfl⟩ := List.mem_map.mp hkey
    exact (sound_map.mp h).isBlank name hname
  | _ => cases hkey

theorem set_list {i : Nat} (h : Sound p (.list items)) (hchild : Sound p child) :
    Sound p (.list (items.set i child)) := by
  refine sound_list.mpr fun v hv => ?_
  rcases List.mem_or_eq_of_mem_set hv with hold | rfl
  · exact sound_list.mp h v hold
  · exact hchild

theorem replaceChild (h : Sound p v) (hchild : Sound p child) :
    Sound p (v.replaceChild key child) := by
  cases v <;> cases key <;> simp only [Value.replaceChild] <;> try exact h
  · exact h.set_list hchild
  · exact sound_map.mpr ((sound_map.mp h).replace hchild)

/-- A container was sound if it is so with another child and the child it had was sound. -/
theorem of_replaceChild (h : Sound p (v.replaceChild key next))
    (hold : v.childAt key = some child) (hchild : Sound p child) : Sound p v := by
  have hback : Sound p ((v.replaceChild key next).replaceChild key child) := h.replaceChild hchild
  rwa [replaceChild_replaceChild, replaceChild_eq_self hold] at hback

theorem putChild (h : Sound p v) (hchild : Sound p child) (hkey : key.isBlank = false) :
    Sound p (v.putChild key child) := by
  cases v <;> cases key <;> simp only [Value.putChild] <;> try exact h
  · exact h.set_list hchild
  · exact sound_map.mpr ((sound_map.mp h).insert hchild hkey)

theorem removeChild (h : Sound p v) : Sound p (v.removeChild key) := by
  cases v <;> cases key <;> simp only [Value.removeChild] <;> try exact h
  · exact sound_list.mpr fun v hv => sound_list.mp h v ((List.eraseIdx_sublist _ _).subset hv)
  · exact sound_map.mpr (sound_map.mp h).erase

theorem append_list {others : List Value} (h : Sound p (.list items))
    (hothers : ∀ v ∈ others, Sound p v) : Sound p (.list (items ++ others)) :=
  sound_list.mpr (List.forall_mem_append.mpr ⟨sound_list.mp h, hothers⟩)

end Sound

end Value

end TreePath
