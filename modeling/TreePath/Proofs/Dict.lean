import TreePath.Dict
import Mathlib.Data.List.Induction

/-!
# Laws of insertion-ordered dictionaries

What each operation does to the values under the keys and to the order of the keys: putting a
value in changes what is under its own key alone and adds a new key at the end, and writing
through a key moves nothing.
-/

namespace TreePath.Dict

variable {α : Type} {key other : String} {value : α} {entries : Dict α}

@[simp] theorem get?_nil : get? key ([] : Dict α) = none := rfl

theorem get?_cons {k : String} {rest : Dict α} :
    get? key ((k, value) :: rest) = if k = key then some value else get? key rest := rfl

@[simp] theorem keys_nil : keys ([] : Dict α) = [] := rfl

@[simp] theorem keys_cons {entry : String × α} {rest : Dict α} :
    keys (entry :: rest) = entry.1 :: keys rest := rfl

@[simp] theorem keys_append {left right : Dict α} :
    keys (left ++ right) = keys left ++ keys right := by
  simp [keys]

theorem get?_eq_none_iff : get? key entries = none ↔ key ∉ keys entries := by
  induction entries with
  | nil => simp
  | cons entry rest ih =>
    simp only [get?, keys_cons, List.mem_cons]
    grind

theorem mem_keys_iff : key ∈ keys entries ↔ (get? key entries).isSome := by
  rw [← Option.ne_none_iff_isSome, ne_eq, get?_eq_none_iff, Classical.not_not]

theorem mem_of_get?_eq_some (h : get? key entries = some value) : (key, value) ∈ entries := by
  induction entries with
  | nil => cases h
  | cons entry rest ih =>
    simp only [get?] at h
    split at h
    · next heq =>
      cases h
      exact heq ▸ List.mem_cons_self
    · exact List.mem_cons_of_mem _ (ih h)

/-- Where no key stands twice, what is under a key is what stands beside it. -/
theorem get?_eq_some_iff_mem (hdistinct : (keys entries).Nodup) :
    get? key entries = some value ↔ (key, value) ∈ entries := by
  refine ⟨mem_of_get?_eq_some, fun h => ?_⟩
  induction entries with
  | nil => cases h
  | cons entry rest ih =>
    obtain ⟨hnotin, hrest⟩ := List.nodup_cons.mp hdistinct
    rcases List.mem_cons.mp h with rfl | h
    · simp [get?]
    · have hkey : key ∈ keys rest := List.mem_map_of_mem h
      have hne : entry.1 ≠ key := fun heq => hnotin (heq ▸ hkey)
      simp only [get?, hne, if_false]
      exact ih hrest h

theorem get?_append {left right : Dict α} :
    get? key (left ++ right) = (get? key left).or (get? key right) := by
  induction left with
  | nil => simp
  | cons entry rest ih =>
    simp only [List.cons_append, get?]
    split
    · rfl
    · exact ih

/-- Where no key stands twice, the order of the keys and what is under them are all there is. -/
theorem ext_of_get? {left right : Dict α} (hdistinct : (keys right).Nodup)
    (hkeys : keys left = keys right) (hget : ∀ key, get? key left = get? key right) :
    left = right := by
  induction right generalizing left with
  | nil => simpa [keys] using hkeys
  | cons entry rest ih =>
    obtain ⟨k, value⟩ := entry
    match left with
    | [] => simp [keys] at hkeys
    | (l, other) :: tail =>
      obtain ⟨hnotin, hrest⟩ := List.nodup_cons.mp hdistinct
      obtain ⟨rfl, htail⟩ := List.cons.inj hkeys
      obtain rfl : other = value := by simpa [get?] using hget l
      rw [ih hrest htail fun key => ?_]
      by_cases heq : key = l
      · subst heq
        have hnotin' : key ∉ keys tail := by rwa [show keys tail = keys rest from htail]
        rw [get?_eq_none_iff.mpr hnotin, get?_eq_none_iff.mpr hnotin']
      · simpa [get?, Ne.symm heq] using hget key

/-! ## Writing through a key -/

@[simp] theorem keys_replace : keys (replace key value entries) = keys entries := by
  induction entries with
  | nil => rfl
  | cons entry rest ih =>
    simp only [replace]
    split
    · rfl
    · simp [ih]

theorem get?_replace :
    get? other (replace key value entries) =
      if other = key ∧ key ∈ keys entries then some value else get? other entries := by
  induction entries with
  | nil => simp [replace]
  | cons entry rest ih =>
    simp only [replace, keys_cons, List.mem_cons]
    split <;> simp only [get?] <;> grind

theorem get?_replace_of_ne (h : other ≠ key) :
    get? other (replace key value entries) = get? other entries := by
  rw [get?_replace, if_neg (fun hand => h hand.1)]

theorem get?_replace_self (h : key ∈ keys entries) :
    get? key (replace key value entries) = some value := by
  rw [get?_replace, if_pos ⟨rfl, h⟩]

/-- Writing what is there changes nothing. -/
theorem replace_eq_self (h : get? key entries = some value) :
    replace key value entries = entries := by
  induction entries with
  | nil => rfl
  | cons entry rest ih =>
    simp only [get?] at h
    simp only [replace]
    split at h
    · next heq =>
      cases h
      rw [if_pos heq]
    · next hne => rw [if_neg hne, ih h]

theorem mem_replace {entry : String × α} (h : entry ∈ replace key value entries) :
    entry ∈ entries ∨ entry = (key, value) := by
  induction entries with
  | nil => cases h
  | cons first rest ih =>
    simp only [replace] at h
    split at h <;> grind

/-- Of two values written one after the other the second one stays. -/
theorem replace_replace {later : α} :
    replace key later (replace key value entries) = replace key later entries := by
  induction entries with
  | nil => rfl
  | cons entry rest ih =>
    simp only [replace]
    split <;> simp_all [replace]

/-! ## Putting a value in -/

theorem insert_cons {k : String} {old : α} {rest : Dict α} :
    insert key value ((k, old) :: rest) =
      if k = key then (k, value) :: rest else (k, old) :: insert key value rest := by
  simp only [insert, put]
  split <;> rfl

theorem insert_of_mem (h : key ∈ keys entries) :
    insert key value entries = replace key value entries := by
  induction entries with
  | nil => cases h
  | cons entry rest ih =>
    rw [insert_cons, replace]
    split
    · rfl
    · next hne =>
      have hrest : key ∈ keys rest := by
        rcases List.mem_cons.mp h with heq | hrest
        · exact absurd heq.symm hne
        · exact hrest
      rw [ih hrest]

theorem insert_of_notMem (h : key ∉ keys entries) :
    insert key value entries = entries ++ [(key, value)] := by
  induction entries with
  | nil => rfl
  | cons entry rest ih =>
    obtain ⟨hne, hrest⟩ := not_or.mp (h ∘ List.mem_cons.mpr)
    rw [insert_cons, if_neg (Ne.symm hne), ih hrest, List.cons_append]

theorem keys_insert :
    keys (insert key value entries) =
      if key ∈ keys entries then keys entries else keys entries ++ [key] := by
  split
  · next h => rw [insert_of_mem h, keys_replace]
  · next h => rw [insert_of_notMem h, keys_append, keys_cons, keys_nil]

theorem nodup_keys_insert (h : (keys entries).Nodup) : (keys (insert key value entries)).Nodup := by
  rw [keys_insert]
  split
  · exact h
  · next hnew =>
    refine List.nodup_append.mpr ⟨h, List.pairwise_singleton _ _, ?_⟩
    rintro k hk k' hk' rfl
    exact hnew (List.mem_singleton.mp hk' ▸ hk)

theorem mem_insert {entry : String × α} (h : entry ∈ insert key value entries) :
    entry ∈ entries ∨ entry = (key, value) := by
  by_cases hmem : key ∈ keys entries
  · rw [insert_of_mem hmem] at h
    exact mem_replace h
  · rw [insert_of_notMem hmem] at h
    exact (List.mem_append.mp h).imp_right List.mem_singleton.mp

theorem get?_insert_self : get? key (insert key value entries) = some value := by
  by_cases h : key ∈ keys entries
  · rw [insert_of_mem h, get?_replace_self h]
  · rw [insert_of_notMem h, get?_append, get?_eq_none_iff.mpr h]
    simp [get?]

theorem get?_insert_of_ne (h : other ≠ key) :
    get? other (insert key value entries) = get? other entries := by
  by_cases hkey : key ∈ keys entries
  · rw [insert_of_mem hkey, get?_replace_of_ne h]
  · rw [insert_of_notMem hkey, get?_append]
    simp [get?, Ne.symm h]

/-- A new key is none of those that follow, whether it is added or left out. -/
theorem nodup_keys_append {others : List String} (h : (keys entries ++ key :: others).Nodup)
    (found : Option α) : (keys (entries ++ (found.map (key, ·)).toList) ++ others).Nodup := by
  cases found with
  | none => simpa using h.sublist ((List.sublist_cons_self key others).append_left _)
  | some value => simpa using h

/-! ## Taking a key out -/

theorem take_fst : (take key entries).1 = get? key entries := by
  induction entries with
  | nil => rfl
  | cons entry rest ih =>
    rw [take, get?_cons]
    split
    · rfl
    · exact ih

theorem erase_cons {k : String} {old : α} {rest : Dict α} :
    erase key ((k, old) :: rest) = if k = key then rest else (k, old) :: erase key rest := by
  simp only [erase, take]
  split <;> rfl

theorem erase_of_absent (h : get? key entries = none) : erase key entries = entries := by
  induction entries with
  | nil => rfl
  | cons entry rest ih =>
    rw [get?_cons] at h
    rw [erase_cons]
    split
    · next heq => simp [heq] at h
    · next hne => rw [ih (by simpa [hne] using h)]

theorem sublist_erase : (erase key entries).Sublist entries := by
  induction entries with
  | nil => exact .slnil
  | cons entry rest ih =>
    rw [erase_cons]
    split
    · exact List.sublist_cons_self _ _
    · exact ih.cons_cons _

theorem get?_erase_of_ne (h : other ≠ key) :
    get? other (erase key entries) = get? other entries := by
  induction entries with
  | nil => rfl
  | cons entry rest ih =>
    rw [erase_cons]
    split
    · next heq =>
      have hne : entry.1 ≠ other := fun hentry => h (hentry.symm.trans heq)
      rw [get?_cons, if_neg hne]
    · rw [get?_cons, get?_cons, ih]

/-! ## One pair after the other -/

/-- Entries with the last of the values under each name of some pairs, in the order in which the
names first came. -/
structure Collects (pairs : List (String × α)) (entries : Dict α) : Prop where
  order : keys entries = (keys pairs).eraseDups
  last : ∀ key, get? key entries = get? key pairs.reverse

theorem ofPairs_append_singleton {pairs : List (String × α)} :
    ofPairs (pairs ++ [(key, value)]) = insert key value (ofPairs pairs) := by
  simp [ofPairs]

theorem nodup_keys_ofPairs {pairs : List (String × α)} : (keys (ofPairs pairs)).Nodup := by
  induction pairs using List.reverseRecOn with
  | nil => exact List.nodup_nil
  | append_singleton pairs pair ih =>
    rw [ofPairs_append_singleton]
    exact nodup_keys_insert ih

theorem collects_ofPairs {pairs : List (String × α)} : Collects pairs (ofPairs pairs) := by
  induction pairs using List.reverseRecOn with
  | nil => exact ⟨rfl, fun _ => rfl⟩
  | append_singleton pairs pair ih =>
    obtain ⟨key, value⟩ := pair
    rw [ofPairs_append_singleton]
    refine ⟨?_, fun other => ?_⟩
    · rw [keys_insert, ih.order, keys_append, keys_cons, keys_nil, List.eraseDups_append]
      by_cases hkey : key ∈ keys pairs <;> simp [List.removeAll, List.eraseDups_cons, hkey]
    · rw [List.reverse_append, List.reverse_singleton, List.singleton_append, get?_cons]
      by_cases hother : other = key
      · rw [hother, get?_insert_self, if_pos rfl]
      · rw [get?_insert_of_ne hother, ih.last, if_neg (Ne.symm hother)]

/-- Pairs with distinct names are the entries themselves. -/
theorem ofPairs_of_nodup {pairs : List (String × α)} (h : (keys pairs).Nodup) :
    ofPairs pairs = pairs := by
  induction pairs using List.reverseRecOn with
  | nil => rfl
  | append_singleton pairs pair ih =>
    obtain ⟨key, value⟩ := pair
    rw [keys_append, keys_cons, keys_nil] at h
    obtain ⟨hpairs, -, hapart⟩ := List.nodup_append.mp h
    have hnew : key ∉ keys pairs := fun hmem => hapart key hmem key List.mem_cons_self rfl
    rw [ofPairs_append_singleton, ih hpairs, insert_of_notMem hnew]

theorem mem_of_mem_ofPairs {pairs : List (String × α)} {entry : String × α}
    (h : entry ∈ ofPairs pairs) : entry ∈ pairs := by
  have hget := (get?_eq_some_iff_mem nodup_keys_ofPairs).mpr h
  rw [collects_ofPairs.last] at hget
  exact List.mem_reverse.mp (mem_of_get?_eq_some hget)

theorem mem_keys_ofPairs {pairs : List (String × α)} :
    key ∈ keys (ofPairs pairs) ↔ key ∈ keys pairs := by
  rw [collects_ofPairs.order, List.mem_eraseDups]

/-- What is put in pair by pair is what the pairs leave of each name. -/
theorem ofPairs_eq_iff {pairs : List (String × α)} :
    ofPairs pairs = entries ↔ Collects pairs entries := by
  constructor
  · rintro rfl
    exact collects_ofPairs
  · intro h
    have hkeys : keys entries = keys (ofPairs pairs) := h.order.trans collects_ofPairs.order.symm
    refine (ext_of_get? nodup_keys_ofPairs hkeys fun key => ?_).symm
    rw [h.last, collects_ofPairs.last]

end TreePath.Dict
