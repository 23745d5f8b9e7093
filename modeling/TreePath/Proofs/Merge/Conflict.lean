import TreePath.Proofs.Merge.Structural

/-!
# The first conflict

A merge goes through the overlay entry by entry and into maps, so it reaches the places of the
overlay in a fixed order. It stops at the first of them at which the tree, as it was before the
merge, has a value of another kind: what was written before cannot bring a conflict about or take
one away. The tree is then left as a merge of that part of the overlay leaves it that comes before
the place.
-/

namespace TreePath.Merge

variable {entries incoming done rest middle : Dict Value} {key : String}
  {v w target overlay : Value} {path names : List String} {n : Nat} {c : MergeConflict}

/-! ## The order of places -/

mutual

/-- The places of an overlay that a merge reaches, as lists of names: a value comes before what is
below it, and maps are gone through in order. -/
def reached : Value → List (List String)
  | .map entries => [] :: reachedUnder entries
  | _ => [[]]

def reachedUnder : List (String × Value) → List (List String)
  | [] => []
  | (key, v) :: rest => (reached v).map (key :: ·) ++ reachedUnder rest

end

/-- Under some names two trees have values of different kinds. -/
def Differ (target overlay : Value) (names : List String) : Prop :=
  ∃ v w, target.at? (names.map .name) = some v ∧ overlay.at? (names.map .name) = some w ∧
    v.kind ≠ w.kind

/-- What of an overlay comes strictly before a place, if anything does: of the maps on the way to
the place the entries that stand before the way. -/
def before? : List String → Value → Option Value
  | [], _ => none
  | name :: names, .map entries =>
    some (.map (entries.takeWhile (fun entry => entry.1 != name) ++
      (((Dict.get? name entries).bind (before? names)).map fun v => (name, v)).toList))
  | _ :: _, v => some v

theorem reachedUnder_append {left right : Dict Value} :
    reachedUnder (left ++ right) = reachedUnder left ++ reachedUnder right := by
  induction left with
  | nil => rfl
  | cons entry rest ih => simp only [List.cons_append, reachedUnder, ih, List.append_assoc]

theorem exists_key_of_reachedUnder (h : names ∈ reachedUnder entries) :
    ∃ key ∈ Dict.keys entries, ∃ below, names = key :: below := by
  induction entries with
  | nil => cases h
  | cons entry rest ih =>
    rcases List.mem_append.mp h with hfirst | hrest
    · obtain ⟨below, -, rfl⟩ := List.mem_map.mp hfirst
      exact ⟨entry.1, List.mem_cons_self, below, rfl⟩
    · obtain ⟨key, hkey, hbelow⟩ := ih hrest
      exact ⟨key, List.mem_cons_of_mem _ hkey, hbelow⟩

/-! ## How the entries of a map are merged -/

/-- An entry under a new key is put in. -/
theorem entriesInto_of_absent (h : Dict.get? key entries = none) :
    entriesInto path entries ((key, w) :: rest) =
      ((entriesInto path (Dict.insert key w entries) rest).1,
        (entriesInto path (Dict.insert key w entries) rest).2.map (1 + ·)) := by
  simp only [entriesInto, h]

/-- An entry under a key that is there is merged with the value there, and the others follow. -/
theorem entriesInto_of_ok (hv : Dict.get? key entries = some v)
    (hw : valueOnto (path ++ [key]) v w = (target, .ok n)) :
    entriesInto path entries ((key, w) :: rest) =
      ((entriesInto path (Dict.replace key target entries) rest).1,
        (entriesInto path (Dict.replace key target entries) rest).2.map (n + ·)) := by
  simp only [entriesInto, hv, hw]

/-- An entry that cannot be merged is the last one that is looked at. -/
theorem entriesInto_of_error (hv : Dict.get? key entries = some v)
    (hw : valueOnto (path ++ [key]) v w = (target, .error c)) :
    entriesInto path entries ((key, w) :: rest) =
      (Dict.replace key target entries, .error c) := by
  simp only [entriesInto, hv, hw]

theorem map_add_map {ε : Type} {x : Except ε Nat} {m : Nat} :
    (x.map (n + ·)).map (m + ·) = x.map (m + n + ·) := by
  cases x <;> simp [Except.map, Nat.add_assoc]

/-- Of two lists of entries the first is merged in before the second. -/
theorem entriesInto_append (h : entriesInto path entries done = (middle, .ok n)) :
    entriesInto path entries (done ++ rest) =
      ((entriesInto path middle rest).1, (entriesInto path middle rest).2.map (n + ·)) := by
  induction done generalizing entries n with
  | nil =>
    obtain ⟨rfl, hn⟩ := Prod.mk.inj h
    obtain rfl := Except.ok.inj hn
    cases hrest : (entriesInto path entries rest).2 <;> simp [Except.map, ← hrest]
  | cons entry done ih =>
    obtain ⟨k, u⟩ := entry
    cases hv : Dict.get? k entries with
    | none =>
      rw [entriesInto_of_absent hv] at h
      obtain ⟨hmiddle, hcount⟩ := Prod.mk.inj h
      obtain ⟨m, hm, rfl⟩ := map_eq_ok.mp hcount
      rw [List.cons_append, entriesInto_of_absent hv, ih (Prod.ext hmiddle hm), map_add_map]
    | some v =>
      cases hu : valueOnto (path ++ [k]) v u with
      | mk next written =>
        cases written with
        | error c =>
          rw [entriesInto_of_error hv hu] at h
          cases h
        | ok count =>
          rw [entriesInto_of_ok hv hu] at h
          obtain ⟨hmiddle, hcount⟩ := Prod.mk.inj h
          obtain ⟨m, hm, rfl⟩ := map_eq_ok.mp hcount
          rw [List.cons_append, entriesInto_of_ok hv hu, ih (Prod.ext hmiddle hm), map_add_map]

/-- Merging leaves alone what is under other keys. -/
theorem get?_entriesInto_of_notMem (h : key ∉ Dict.keys incoming) :
    Dict.get? key (entriesInto path entries incoming).1 = Dict.get? key entries := by
  induction incoming generalizing entries with
  | nil => rfl
  | cons entry rest ih =>
    obtain ⟨k, w⟩ := entry
    obtain ⟨hne, hrest⟩ := not_or.mp (h ∘ List.mem_cons.mpr)
    cases hv : Dict.get? k entries with
    | none =>
      rw [entriesInto_of_absent hv]
      exact (ih hrest).trans (Dict.get?_insert_of_ne hne)
    | some v =>
      cases hwritten : valueOnto (path ++ [k]) v w with
      | mk next written =>
        cases written with
        | error c =>
          rw [entriesInto_of_error hv hwritten]
          exact Dict.get?_replace_of_ne hne
        | ok count =>
          rw [entriesInto_of_ok hv hwritten]
          exact (ih hrest).trans (Dict.get?_replace_of_ne hne)

theorem map_eq_error {ε α β : Type} {x : Except ε α} {f : α → β} {e : ε} :
    x.map f = .error e ↔ x = .error e := by
  cases x <;> simp [Except.map]

/-- A merge of entries that fails does so at one of them, after those before it were merged. -/
theorem exists_failing_entry {result : Dict Value}
    (h : entriesInto path entries incoming = (result, .error c)) :
    ∃ done key w rest middle n v next, incoming = done ++ (key, w) :: rest ∧
      entriesInto path entries done = (middle, .ok n) ∧ Dict.get? key middle = some v ∧
      valueOnto (path ++ [key]) v w = (next, .error c) ∧ result = Dict.replace key next middle := by
  induction incoming generalizing entries with
  | nil => cases h
  | cons entry rest ih =>
    obtain ⟨k, u⟩ := entry
    cases hv : Dict.get? k entries with
    | none =>
      rw [entriesInto_of_absent hv] at h
      obtain ⟨hresult, herror⟩ := Prod.mk.inj h
      obtain ⟨done, key, w, later, middle, n, v, next, rfl, hdone, hfound⟩ :=
        ih (Prod.ext hresult (map_eq_error.mp herror))
      refine ⟨(k, u) :: done, key, w, later, middle, 1 + n, v, next, rfl, ?_, hfound⟩
      rw [entriesInto_of_absent hv, hdone]
      rfl
    | some v =>
      cases hu : valueOnto (path ++ [k]) v u with
      | mk next written =>
        cases written with
        | error c' =>
          rw [entriesInto_of_error hv hu] at h
          obtain ⟨rfl, hc⟩ := Prod.mk.inj h
          obtain rfl := Except.error.inj hc
          exact ⟨[], k, u, rest, entries, 0, v, next, rfl, rfl, hv, hu, rfl⟩
        | ok count =>
          rw [entriesInto_of_ok hv hu] at h
          obtain ⟨hresult, herror⟩ := Prod.mk.inj h
          obtain ⟨done, key, w, later, middle, n, v', next', rfl, hdone, hfound⟩ :=
            ih (Prod.ext hresult (map_eq_error.mp herror))
          refine ⟨(k, u) :: done, key, w, later, middle, count + n, v', next', rfl, ?_, hfound⟩
          rw [entriesInto_of_ok hv hu, hdone]
          rfl

/-! ## Where a merge stops -/

/-- A merge that leaves a result stops at a place. It is the first place reached at which the tree
and the overlay differ, the conflict has the two kinds there, and neither there nor at the places
that would be reached later has anything been written. -/
structure StopsAt (target overlay result : Value) (c : MergeConflict) (names : List String) :
    Prop where
  order : ∃ earlier later, reached overlay = earlier ++ names :: later ∧
    (∀ p ∈ earlier, ¬ Differ target overlay p) ∧
    ∀ p ∈ names :: later, result.at? (p.map .name) = target.at? (p.map .name)
  differ : ∃ v w, target.at? (names.map .name) = some v ∧
    overlay.at? (names.map .name) = some w ∧ v.kind ≠ w.kind ∧ c.found = w.kind ∧
    c.required = v.kind

theorem valueOnto_of_kind_ne (h : target.kind ≠ overlay.kind) :
    valueOnto path target overlay = (target, .error ⟨path, overlay.kind, target.kind⟩) := by
  cases overlay <;> cases target <;> first | exact absurd rfl h | rfl

theorem exists_reached (overlay : Value) : ∃ later, reached overlay = [] :: later := by
  cases overlay <;> exact ⟨_, rfl⟩

/-- Values of two kinds are a conflict at once. -/
theorem stopsAt_of_kind_ne (h : target.kind ≠ overlay.kind) :
    StopsAt target overlay target ⟨path, overlay.kind, target.kind⟩ [] := by
  obtain ⟨later, hlater⟩ := exists_reached overlay
  exact ⟨⟨[], later, hlater, List.forall_mem_nil _, fun _ _ => rfl⟩,
    target, overlay, rfl, rfl, h, rfl, rfl⟩

theorem differ_cons (hv : Dict.get? key entries = some v) (hw : Dict.get? key incoming = some w) :
    Differ (.map entries) (.map incoming) (key :: names) ↔ Differ v w names := by
  simp only [Differ, List.map_cons, Value.at?_cons, Value.childAt, hv, hw, Option.bind_some]

/-- Where the entries of an overlay could be merged, no conflict is below them. -/
theorem not_differ_of_ok (hdone : ∀ entry ∈ done, entry.2.isDistinct)
    (hnodup : (Dict.keys (done ++ rest)).Nodup)
    (h : entriesInto path entries done = (middle, .ok n)) (hnames : names ∈ reachedUnder done) :
    ¬ Differ (.map entries) (.map (done ++ rest)) names := by
  rw [Dict.keys_append] at hnodup
  have hdistinct : (Value.map done).isDistinct :=
    Value.isDistinct_map.mpr ⟨(List.nodup_append.mp hnodup).1, hdone⟩
  have hagree : Agree (.map entries) (.map done) := by
    by_contra hconflict
    obtain ⟨c, hc⟩ := valueOnto_error hdistinct path hconflict
    simp only [valueOnto, h] at hc
    cases hc
  obtain ⟨key, hkey, below, rfl⟩ := exists_key_of_reachedUnder hnames
  obtain ⟨w, hw⟩ := Option.isSome_iff_exists.mp (Dict.mem_keys_iff.mp hkey)
  rintro ⟨v, u, hv, hu, hne⟩
  refine hne (hagree (key :: below) v u hv ?_)
  simp only [List.map_cons, Value.at?_cons, Value.childAt, Dict.get?_append, hw, Option.some_or]
    at hu ⊢
  exact hu

/-- A conflict of two values is a conflict of the maps they are in. -/
theorem stopsAt_cons {next : Value} (hdone : ∀ entry ∈ done, entry.2.isDistinct)
    (hnodup : (Dict.keys (done ++ (key, w) :: rest)).Nodup)
    (hmerged : entriesInto path entries done = (middle, .ok n))
    (hv : Dict.get? key middle = some v) (h : StopsAt v w next c names) :
    StopsAt (.map entries) (.map (done ++ (key, w) :: rest))
      (.map (Dict.replace key next middle)) c (key :: names) := by
  obtain ⟨⟨earlier, later, horder, hearlier, hsame⟩, v', w', hv', hw', hne, hkinds⟩ := h
  have hkeys := hnodup
  rw [Dict.keys_append, Dict.keys_cons, List.nodup_middle, List.nodup_cons, List.mem_append,
    not_or] at hkeys
  obtain ⟨⟨hnotdone, hnotrest⟩, hkeys⟩ := hkeys
  have hkept {k : String} (hk : k ∉ Dict.keys done) :
      Dict.get? k middle = Dict.get? k entries := by
    have hsame : Dict.get? k (entriesInto path entries done).1 = Dict.get? k entries :=
      get?_entriesInto_of_notMem hk
    rwa [hmerged] at hsame
  have hentry : Dict.get? key entries = some v := (hkept hnotdone).symm.trans hv
  have hincoming : Dict.get? key (done ++ (key, w) :: rest) = some w := by
    rw [Dict.get?_append, Dict.get?_eq_none_iff.mpr hnotdone, Dict.get?_cons, if_pos rfl,
      Option.none_or]
  have hnext : Dict.get? key (Dict.replace key next middle) = some next :=
    Dict.get?_replace_self (Dict.mem_keys_iff.mpr (Option.isSome_iff_exists.mpr ⟨v, hv⟩))
  refine ⟨⟨[] :: (reachedUnder done ++ earlier.map (key :: ·)),
    later.map (key :: ·) ++ reachedUnder rest, ?_, ?_, ?_⟩, v', w', ?_, ?_, hne, hkinds⟩
  · simp [reached, reachedUnder_append, reachedUnder, horder]
  · intro p hp
    rcases List.mem_cons.mp hp with rfl | hp
    · rintro ⟨u, u', hu, hu', hdiffer⟩
      cases hu
      cases hu'
      exact hdiffer rfl
    · rcases List.mem_append.mp hp with hp | hp
      · exact not_differ_of_ok hdone hnodup hmerged hp
      · obtain ⟨q, hq, rfl⟩ := List.mem_map.mp hp
        rw [differ_cons hentry hincoming]
        exact hearlier q hq
  · -- The value under the key is left alone from the place on, the other keys were not reached.
    have hbelow (q : List String) (hq : q ∈ names :: later) :
        (Value.map (Dict.replace key next middle)).at? ((key :: q).map .name) =
          (Value.map entries).at? ((key :: q).map .name) := by
      simp only [List.map_cons, Value.at?_cons, Value.childAt, hnext, hentry, Option.bind_some]
      exact hsame q hq
    intro p hp
    rcases List.mem_cons.mp hp with rfl | hp
    · exact hbelow names List.mem_cons_self
    · rcases List.mem_append.mp hp with hp | hp
      · obtain ⟨q, hq, rfl⟩ := List.mem_map.mp hp
        exact hbelow q (List.mem_cons_of_mem _ hq)
      · obtain ⟨k, hk, q, rfl⟩ := exists_key_of_reachedUnder hp
        have hne : k ≠ key := fun heq => hnotrest (heq ▸ hk)
        have hnot : k ∉ Dict.keys done := fun hin =>
          (List.nodup_append.mp hkeys).2.2 k hin k hk rfl
        simp only [List.map_cons, Value.at?_cons, Value.childAt, Dict.get?_replace_of_ne hne,
          hkept hnot]
  · simpa only [List.map_cons, Value.at?_cons, Value.childAt, hentry, Option.bind_some] using hv'
  · simpa only [List.map_cons, Value.at?_cons, Value.childAt, hincoming, Option.bind_some] using hw'

/-- The entries before the first one under a key are those that stand before it. -/
theorem before?_cons (hnotdone : key ∉ Dict.keys done) :
    before? (key :: names) (.map (done ++ (key, w) :: rest)) =
      some (.map (done ++ ((before? names w).map fun v => (key, v)).toList)) := by
  have hall : ∀ entry ∈ done, (entry.1 != key) = true := by
    intro entry hentry
    refine bne_iff_ne.mpr fun heq => hnotdone ?_
    exact heq ▸ List.mem_map_of_mem hentry
  have hincoming : Dict.get? key (done ++ (key, w) :: rest) = some w := by
    rw [Dict.get?_append, Dict.get?_eq_none_iff.mpr hnotdone, Dict.get?_cons, if_pos rfl,
      Option.none_or]
  rw [before?, List.takeWhile_append_of_pos hall, hincoming]
  simp

/-- A merge of what comes before a place, if anything does, leaves a result. -/
def Leaves (path : List String) (target overlay : Value) (names : List String) (result : Value) :
    Prop :=
  match before? names overlay with
  | none => result = target
  | some kept => ∃ n, valueOnto path target kept = (result, .ok n)

/-- An entry that cannot be merged is left as what comes before the place below it leaves it. -/
theorem leaves_cons {next : Value} (hnotdone : key ∉ Dict.keys done)
    (hmerged : entriesInto path entries done = (middle, .ok n))
    (hv : Dict.get? key middle = some v) (h : Leaves (path ++ [key]) v w names next) :
    Leaves path (.map entries) (.map (done ++ (key, w) :: rest)) (key :: names)
      (.map (Dict.replace key next middle)) := by
  rw [Leaves, before?_cons hnotdone]
  rw [Leaves] at h
  split at h
  · next hnone =>
    rw [hnone, h, Dict.replace_eq_self hv]
    refine ⟨n, ?_⟩
    simp only [Option.map_none, Option.toList_none, List.append_nil, valueOnto, hmerged]
  · next kept hkept =>
    obtain ⟨m, hm⟩ := h
    rw [hkept]
    simp only [Option.map_some, Option.toList_some, valueOnto, entriesInto_append hmerged,
      entriesInto_of_ok hv hm]
    exact ⟨_, rfl⟩

/-- A merge that fails stops at a place, under the path of that place, and leaves what the merge of
the part of the overlay before the place leaves. -/
theorem stopsAt_of_valueOnto {result : Value} (hoverlay : overlay.isDistinct)
    (h : valueOnto path target overlay = (result, .error c)) :
    ∃ names, c.path = path ++ names ∧ StopsAt target overlay result c names ∧
      Leaves path target overlay names result := by
  induction overlay using induction_on_entries generalizing path target result with
  | other overlay hnot =>
    have hkind : target.kind ≠ overlay.kind := by
      intro heq
      rw [(valueOnto_of_notMap hnot).1 heq] at h
      cases h
    rw [valueOnto_of_kind_ne hkind] at h
    cases h
    exact ⟨[], (List.append_nil _).symm, stopsAt_of_kind_ne hkind, rfl⟩
  | map incoming ih =>
    by_cases hkind : target.kind = .map
    · cases target <;> simp only [Value.kind, reduceCtorEq] at hkind
      next entries =>
      obtain ⟨hnodup, hvalues⟩ := Value.isDistinct_map.mp hoverlay
      obtain ⟨merged, hmerged, rfl⟩ : ∃ merged,
          entriesInto path entries incoming = (merged, .error c) ∧ .map merged = result := by
        simp only [valueOnto, Prod.mk.injEq] at h
        exact ⟨_, Prod.ext rfl h.2, h.1⟩
      obtain ⟨done, key, w, rest, middle, n, v, next, rfl, hdone, hv, hw, rfl⟩ :=
        exists_failing_entry hmerged
      have hentry : (key, w) ∈ done ++ (key, w) :: rest :=
        List.mem_append_right _ List.mem_cons_self
      obtain ⟨names, hpath, hstops, hleaves⟩ := ih (key, w) hentry (hvalues _ hentry) hw
      have hnotdone : key ∉ Dict.keys done := by
        rw [Dict.keys_append, Dict.keys_cons] at hnodup
        exact fun hin => (List.nodup_append.mp hnodup).2.2 key hin key List.mem_cons_self rfl
      have hdistinct : ∀ entry ∈ done, entry.2.isDistinct :=
        fun entry hin => hvalues entry (List.mem_append_left _ hin)
      refine ⟨key :: names, ?_, stopsAt_cons hdistinct hnodup hdone hv hstops,
        leaves_cons hnotdone hdone hv hleaves⟩
      rw [hpath, List.append_assoc, List.singleton_append]
    · rw [valueOnto_of_kind_ne hkind] at h
      cases h
      exact ⟨[], (List.append_nil _).symm, stopsAt_of_kind_ne hkind, rfl⟩

/-! ## The tree that a conflict leaves -/

/-- What comes before a place has no blank key if the overlay has none. -/
theorem isValid_before? {kept : Value} (hvalid : overlay.isValid)
    (h : before? names overlay = some kept) : kept.isValid := by
  induction names generalizing overlay kept with
  | nil => cases h
  | cons name names ih =>
    cases overlay with
    | map incoming =>
      obtain rfl := Option.some.inj h
      obtain ⟨hkeys, hvalues⟩ := Value.validEntries_iff.mp hvalid
      have hfirst : ∀ entry ∈ incoming.takeWhile fun entry => entry.1 != name, entry ∈ incoming :=
        fun entry hentry => (List.takeWhile_sublist _).subset hentry
      have hbelow : ∀ entry ∈ (((Dict.get? name incoming).bind (before? names)).map
          fun v => (name, v)).toList, entry.1 ∈ Dict.keys incoming ∧ entry.2.isValid := by
        intro entry hentry
        obtain ⟨v, hv, rfl⟩ := Option.map_eq_some_iff.mp (Option.mem_toList.mp hentry)
        obtain ⟨w, hw, hv⟩ := Option.bind_eq_some_iff.mp hv
        exact ⟨Dict.mem_keys_iff.mpr (Option.isSome_of_eq_some hw),
          ih (hvalues _ (Dict.mem_of_get?_eq_some hw)) hv⟩
      refine Value.validEntries_iff.mpr ⟨fun k hk => ?_, fun entry hentry => ?_⟩
      · obtain ⟨entry, hentry, rfl⟩ := List.mem_map.mp hk
        rcases List.mem_append.mp hentry with hentry | hentry
        · exact hkeys _ (List.mem_map_of_mem (hfirst entry hentry))
        · exact hkeys _ (hbelow entry hentry).1
      · rcases List.mem_append.mp hentry with hentry | hentry
        · exact hvalues _ (hfirst entry hentry)
        · exact (hbelow entry hentry).2
    | _ =>
      obtain rfl := Option.some.inj h
      exact hvalid

/-- An overlay is refused, and nothing is written; or it is merged as any value is onto one of its
kind. -/
theorem apply_cases :
    (∃ e, apply target overlay = (target, .error e) ∧ ∀ c, e ≠ .merge c) ∨
    overlay.isValid ∧ target.kind = overlay.kind ∧
      apply target overlay =
        ((valueOnto [] target overlay).1, reported (valueOnto [] target overlay).2) := by
  cases hvalidate : overlay.validate with
  | error e =>
    refine .inl ⟨e, by simp only [apply, hvalidate], fun c hc => ?_⟩
    rw [Value.validate, hc] at hvalidate
    split at hvalidate <;> cases hvalidate
  | ok _ =>
    simp only [apply, hvalidate]
    split
    · exact .inr ⟨Value.validate_eq_ok.mp hvalidate, rfl, by rw [valueOnto]⟩
    · exact .inr ⟨Value.validate_eq_ok.mp hvalidate, rfl, rfl⟩
    · left
      split <;> exact ⟨_, rfl, fun _ heq => Error.noConfusion heq⟩

theorem apply_map (hvalid : (Value.map incoming).isValid) :
    apply (.map entries) (.map incoming) =
      ((valueOnto [] (.map entries) (.map incoming)).1,
        reported (valueOnto [] (.map entries) (.map incoming)).2) := by
  simp only [apply, Value.validate_eq_ok.mpr hvalid, valueOnto]

theorem reported_eq_error {outcome : Except MergeConflict Nat} {e : Error} :
    reported outcome = .error e ↔ ∃ c, e = .merge c ∧ outcome = .error c := by
  cases outcome <;> simp [reported, eq_comm]

/-- Without a conflict a failed merge has written nothing. -/
theorem apply_unchanged {result : Value} {e : Error} (h : apply target overlay = (result, .error e))
    (hother : ∀ c, e ≠ .merge c) : result = target := by
  rcases @apply_cases target overlay with ⟨_, hrefused, -⟩ | ⟨-, -, hmerged⟩
  · exact (Prod.mk.inj (h.symm.trans hrefused)).1
  · obtain ⟨-, hreported⟩ := Prod.mk.inj (hmerged.symm.trans h)
    obtain ⟨c, hc, -⟩ := reported_eq_error.mp hreported
    exact absurd hc (hother c)

/-- Only two maps can be in conflict. -/
theorem maps_of_apply {result : Value} (h : apply target overlay = (result, .error (.merge c))) :
    overlay.isValid ∧ (∃ entries incoming, target = .map entries ∧ overlay = .map incoming) ∧
      valueOnto [] target overlay = (result, .error c) := by
  rcases @apply_cases target overlay with ⟨_, hrefused, hother⟩ | ⟨hvalid, hkind, hmerged⟩
  · obtain ⟨-, he⟩ := Prod.mk.inj (hrefused.symm.trans h)
    exact absurd (Except.error.inj he) (hother c)
  · obtain ⟨hresult, hreported⟩ := Prod.mk.inj (hmerged.symm.trans h)
    obtain ⟨_, hc, hconflict⟩ := reported_eq_error.mp hreported
    cases hc
    refine ⟨hvalid, ?_, Prod.ext hresult hconflict⟩
    by_cases hmap : overlay.kind = .map
    · cases overlay <;> simp only [Value.kind, reduceCtorEq] at hmap
      cases target <;> simp only [Value.kind, reduceCtorEq] at hkind
      exact ⟨_, _, rfl, rfl⟩
    · rw [(valueOnto_of_notMap hmap).1 hkind] at hconflict
      cases hconflict

/-- A failed merge leaves a tree that is known. With any other error than a conflict nothing has
been written. A conflict is at the first place that the merge reaches at which the tree and the
overlay have values of different kinds; the error names this place and the two kinds. The tree is
left as a merge of what comes before the place leaves it, with nothing written at the place or at
those that would be reached later. -/
theorem apply_failed {result : Value} {e : Error} (hoverlay : overlay.isDistinct)
    (h : apply target overlay = (result, .error e)) :
    ((∀ c, e ≠ .merge c) → result = target) ∧
    ∀ c, e = .merge c →
      StopsAt target overlay result c c.path ∧
      (∃ kept n, before? c.path overlay = some kept ∧ apply target kept = (result, .ok n)) ∧
      e.message = "structure mismatch at //" ++ String.intercalate "/" c.path ++ ": found " ++
        c.found.name ++ ", required " ++ c.required.name := by
  refine ⟨apply_unchanged h, ?_⟩
  rintro c rfl
  obtain ⟨hvalid, ⟨entries, incoming, rfl, rfl⟩, hinto⟩ := maps_of_apply h
  obtain ⟨names, hpath, hstops, hleaves⟩ := stopsAt_of_valueOnto hoverlay hinto
  rw [List.nil_append] at hpath
  subst hpath
  refine ⟨hstops, ?_, rfl⟩
  cases hnames : c.path with
  | nil =>
    obtain ⟨v, w, hv, hw, hne, -⟩ := hstops.differ
    rw [hnames] at hv hw
    cases hv
    cases hw
    exact absurd rfl hne
  | cons name below =>
    rw [hnames] at hleaves
    obtain ⟨n, hn⟩ := hleaves
    have hbefore : before? (name :: below) (.map incoming) = some _ := rfl
    have hkept := isValid_before? hvalid hbefore
    refine ⟨_, n, rfl, ?_⟩
    rw [apply_map hkept, hn]
    rfl

/-- The second of three entries is in conflict two names down: what comes before it is merged, the
number next to it and the third entry are not. -/
theorem apply_failed_middle :
    let target : Value := .map [("a", .number (Number.ofInt 1)),
      ("m", .map [("p", .bool true), ("q", .string "x")]), ("z", .bool false)]
    let overlay : Value := .map [("a", .number (Number.ofInt 2)),
      ("m", .map [("p", .bool false), ("q", .list []), ("r", .bool true)]), ("z", .bool true)]
    let result : Value := .map [("a", .number (Number.ofInt 2)),
      ("m", .map [("p", .bool false), ("q", .string "x")]), ("z", .bool false)]
    let kept : Value := .map [("a", .number (Number.ofInt 2)), ("m", .map [("p", .bool false)])]
    let c : MergeConflict := ⟨["m", "q"], .list, .string⟩
    overlay.isDistinct ∧ apply target overlay = (result, .error (.merge c)) ∧
      StopsAt target overlay result c ["m", "q"] ∧ before? ["m", "q"] overlay = some kept ∧
      ∃ n, apply target kept = (result, .ok n) := by
  intro target overlay result kept c
  have hdistinct : overlay.isDistinct := by decide
  have hfailed : apply target overlay = (result, .error (.merge c)) := rfl
  obtain ⟨hstops, ⟨kept', n, hkept', hmerged⟩, -⟩ := (apply_failed hdistinct hfailed).2 c rfl
  have hkept : before? ["m", "q"] overlay = some kept := rfl
  obtain rfl := Option.some.inj (hkept'.symm.trans hkept)
  exact ⟨hdistinct, hfailed, hstops, hkept, n, hmerged⟩

end TreePath.Merge
