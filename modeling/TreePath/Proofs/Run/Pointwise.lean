import TreePath.Proofs.Run.FanOut

/-!
# What an update leaves at every node

An update that succeeds makes of the node at each place what becomes of it, and changes nothing
else: a path leads to the same locations afterwards, nodes that lie in no line with one of them are
as they were, and the containers above them keep their keys in order.
-/

namespace TreePath

open Run

/-! ## The keys of the last segment -/

/-- What an update at some keys of a container leaves: of each child what becomes of it, new names
at the end, and everything else as it was. -/
structure Updated (u : Update) (keys : List Key) (v w : Value) : Prop where
  kind : w.kind = v.kind
  ownKeys : w.ownKeys =
    v.ownKeys ++ keys.filter fun key => (v.childAt key).isNone && (w.childAt key).isSome
  found : ∀ key ∈ keys, v.child? key = .ok (v.childAt key)
  next : ∀ key ∈ keys, w.childAt key = u.next? (v.childAt key)
  stays : ∀ key ∈ keys, (v.childAt key).isSome → (w.childAt key).isSome
  kept : ∀ key, key ∉ keys → w.childAt key = v.childAt key

namespace Registry

variable {r : Registry} {u : Update} {source : String} {segment last : Segment}
  {rest path : List Segment} {keys : List Key} {key : Key} {v w tree : Value}

theorem visitLast_eq {o : Operation} {d : Directive} {found : Option Value} {change : Option Change}
    (ho : o.Atomic) (hfound : tree.child? key = .ok found)
    (hchange : o.operate d tree key = .ok change) :
    r.visitLast none (some (o, d)) key tree =
      .found ((change.map Change.container).getD tree) (change.toList.map Change.result) := by
  cases found <;> cases change <;>
    simp [visitLast, hfound, operated_act ho, hchange, needing, accepts]

theorem visitLast_failure {o : Operation} {d : Directive}
    (h : (r.visitLast none (some (o, d)) key tree).failure = none) :
    tree.child? key = .ok (tree.childAt key) ∧ ∃ change, o.operate d tree key = .ok change := by
  obtain ⟨found, hfound, h⟩ := needing_failure.mp h
  obtain ⟨kept, hkept, h⟩ := needing_failure.mp h
  obtain rfl : true = kept := by cases found <;> simpa [accepts] using hkept
  exact ⟨Value.childAt_of_child? hfound ▸ hfound, operated_failure.mp h⟩

theorem updated_of_makes {change : Option Change} (hfound : v.child? key = .ok (v.childAt key))
    (h : u.Makes v key change) :
    Updated u [key] v ((change.map Change.container).getD v) := by
  cases change with
  | none =>
    refine ⟨rfl, ?_, by simpa using hfound, ?_, fun _ _ hsome => hsome, fun _ _ => rfl⟩
    · cases hchild : v.childAt key <;> simp [hchild]
    · rintro k hk
      obtain rfl := List.mem_singleton.mp hk
      exact h.symm
  | some c =>
    obtain ⟨new, hnew, hcontainer⟩ := h
    have hself : (v.putChild key new).childAt key = some new := Value.childAt_putChild_self hfound
    rw [Option.map_some, Option.getD_some, hcontainer]
    refine ⟨Value.kind_putChild, ?_, by simpa using hfound, ?_, ?_, ?_⟩
    · cases hchild : v.childAt key with
      | none =>
        rw [Value.ownKeys_putChild (hchild ▸ hfound)]
        simp [hchild, hself]
      | some old =>
        rw [Value.putChild_eq_replaceChild hchild, Value.ownKeys_replaceChild]
        simp [hchild]
    · rintro k hk
      obtain rfl := List.mem_singleton.mp hk
      rw [hself, hnew]
    · rintro k hk -
      obtain rfl := List.mem_singleton.mp hk
      rw [hself]
      rfl
    · rintro k hk
      exact Value.childAt_putChild_of_ne fun heq => hk (List.mem_singleton.mpr heq)

theorem updated_of_visitLast
    (h : (r.visitLast none (some (u.operation, u.directive source)) key tree).failure = none) :
    Updated u [key] tree
      (r.visitLast none (some (u.operation, u.directive source)) key tree).tree := by
  obtain ⟨hfound, change, hchange⟩ := visitLast_failure h
  rw [visitLast_eq u.atomic_operation hfound hchange]
  exact updated_of_makes hfound (Update.makes_of_operate hfound hchange)

/-- Updates at two sets of keys make up one at both. -/
theorem updated_cons (hkey : key ∉ keys) (first : Updated u [key] v tree)
    (others : Updated u keys tree w) : Updated u (key :: keys) v w := by
  have hsame (other : Key) (hother : other ≠ key) : tree.childAt other = v.childAt other :=
    first.kept other fun hmem => hother (List.mem_singleton.mp hmem)
  have hne {other : Key} (hother : other ∈ keys) : other ≠ key := fun heq => hkey (heq ▸ hother)
  have hlast : w.childAt key = tree.childAt key := others.kept key hkey
  refine ⟨others.kind.trans first.kind, ?_, ?_, ?_, ?_, ?_⟩
  · have hfilter : keys.filter (fun k => (tree.childAt k).isNone && (w.childAt k).isSome) =
        keys.filter fun k => (v.childAt k).isNone && (w.childAt k).isSome :=
      List.filter_congr fun k hk => by rw [hsame k (hne hk)]
    rw [others.ownKeys, first.ownKeys, hfilter, List.append_assoc]
    simp only [List.filter_cons, List.filter_nil, hlast]
    split <;> rfl
  · refine List.forall_mem_cons.mpr ⟨first.found key List.mem_cons_self, fun k hk => ?_⟩
    refine Value.child?_of_kind (others.found k hk) first.kind.symm fun hsome => ?_
    rwa [← hsame k (hne hk)]
  · refine List.forall_mem_cons.mpr ⟨?_, fun k hk => ?_⟩
    · rw [hlast, first.next key List.mem_cons_self]
    · rw [others.next k hk, hsame k (hne hk)]
  · refine List.forall_mem_cons.mpr ⟨fun hsome => ?_, fun k hk hsome => ?_⟩
    · rw [hlast]
      exact first.stays key List.mem_cons_self hsome
    · exact others.stays k hk (by rwa [hsame k (hne hk)])
  · intro k hk
    obtain ⟨hk, hrest⟩ := not_or.mp (hk ∘ List.mem_cons.mpr)
    rw [others.kept k hrest, hsame k hk]

/-- An update at some keys that succeeds makes of each child what becomes of it. -/
theorem updated_of_failure (hnodup : keys.Nodup)
    (h : (inTurn (r.visitLast none (some (u.operation, u.directive source))) keys tree).failure =
      none) :
    Updated u keys tree
      (inTurn (r.visitLast none (some (u.operation, u.directive source))) keys tree).tree := by
  induction keys generalizing tree with
  | nil => exact ⟨rfl, (List.append_nil _).symm, nofun, nofun, nofun, fun _ _ => rfl⟩
  | cons key rest ih =>
    obtain ⟨hnotin, hrest⟩ := List.nodup_cons.mp hnodup
    obtain ⟨hfirst, hothers⟩ := andThen_failure.mp h
    rw [inTurn, andThen_tree hfirst]
    exact updated_cons hnotin (updated_of_visitLast hfirst) (ih hrest hothers)

end Registry

/-! ## Subtrees -/

/-- What an update leaves of a subtree, which may be missing: it had a node at each of the old
locations, and it has one at each of the new ones. -/
structure Pointwise (u : Update) (v w : Option Value) (old new : List (List Key)) : Prop where
  /-- The old locations are those of the new ones at which there was a node. -/
  kept : old = new.filter fun p => (v.bind (Value.at? p)).isSome
  /-- At every location is what becomes of the node that was there. -/
  next : ∀ p ∈ new, w.bind (Value.at? p) = u.next? (v.bind (Value.at? p))
  /-- A node that is not at or below a location keeps its kind and the order of its keys; the name
  of an inserted location comes last. -/
  above : ∀ q node, v.bind (Value.at? q) = some node → (∀ p ∈ new, ¬ p <+: q) →
    ∃ node', w.bind (Value.at? q) = some node' ∧ node'.kind = node.kind ∧
      ∃ inserted : Option String,
        node'.ownKeys = node.ownKeys ++ (inserted.map Key.name).toList ∧
        ∀ key, q ++ [key] ∈ new ∧ q ++ [key] ∉ old ↔ key ∈ inserted.map Key.name
  /-- A node that is neither at nor below nor above a location is as it was. -/
  frame : ∀ q, (∀ p ∈ new, ¬ p <+: q ∧ ¬ q <+: p) →
    w.bind (Value.at? q) = v.bind (Value.at? q)

/-- Locations below some keys, seen from the container. -/
def spread (below : Key → List (List Key)) (keys : List Key) : List (List Key) :=
  keys.flatMap fun key => (below key).map (key :: ·)

variable {u : Update} {v w : Value} {keys : List Key} {key : Key} {below : Key → List (List Key)}

theorem cons_mem_spread {p : List Key} :
    key :: p ∈ spread below keys ↔ key ∈ keys ∧ p ∈ below key := by
  simp only [spread, List.mem_flatMap, List.mem_map, List.cons.injEq]
  grind

theorem nil_notMem_spread : [] ∉ spread below keys := by
  simp [spread]

theorem length_spread : (spread below keys).length = (keys.flatMap below).length := by
  simp [spread, List.length_flatMap]

namespace Pointwise

theorem missing : Pointwise u none none [] [] :=
  ⟨rfl, nofun, nofun, fun _ _ => rfl⟩

/-- The child at a place is itself the one location in its subtree. -/
theorem child {before after : Option Value} (hnext : after = u.next? before)
    (hstays : before.isSome → after.isSome) :
    Pointwise u before after (if before.isSome then [[]] else [])
      (if after.isSome then [[]] else []) := by
  cases after with
  | none =>
    obtain rfl : before = none :=
      Option.not_isSome_iff_eq_none.mp fun hsome => by simpa using hstays hsome
    exact missing
  | some new =>
    refine ⟨by cases before <;> rfl, ?_, fun q _ _ hq => ?_, fun q hq => ?_⟩
    · simpa using hnext
    · exact absurd List.nil_prefix (hq [] (by simp))
    · exact absurd List.nil_prefix (hq [] (by simp)).1

variable {olds news : Key → List (List Key)} {inserted : Option String}

theorem kept_spread (hchildren : ∀ key ∈ keys, Pointwise u (v.childAt key) (w.childAt key)
      (olds key) (news key)) :
    spread olds keys = (spread news keys).filter fun p => (v.at? p).isSome := by
  rw [spread, spread, List.filter_flatMap]
  refine List.flatMap_congr fun key hkey => ?_
  rw [(hchildren key hkey).kept, List.filter_map]
  rfl

/-- A node below a container that is not at or below a location. -/
theorem above_spread {q : List Key} {node : Value}
    (hchildren : ∀ key ∈ keys, Pointwise u (v.childAt key) (w.childAt key) (olds key) (news key))
    (hothers : ∀ key, key ∉ keys → w.childAt key = v.childAt key)
    (hnode : v.at? (key :: q) = some node) (hq : ∀ p ∈ spread news keys, ¬ p <+: key :: q) :
    ∃ node', w.at? (key :: q) = some node' ∧ node'.kind = node.kind ∧
      ∃ inserted : Option String,
        node'.ownKeys = node.ownKeys ++ (inserted.map Key.name).toList ∧
        ∀ k, key :: q ++ [k] ∈ spread news keys ∧ key :: q ++ [k] ∉ spread olds keys ↔
          k ∈ inserted.map Key.name := by
  by_cases hkey : key ∈ keys
  · have hbelow (p : List Key) (hp : p ∈ news key) : ¬ p <+: q := fun hprefix =>
      hq (key :: p) (cons_mem_spread.mpr ⟨hkey, hp⟩) (by simpa using hprefix)
    obtain ⟨node', hnode', hkind, inserted, hown, hinserted⟩ :=
      (hchildren key hkey).above q node hnode hbelow
    refine ⟨node', hnode', hkind, inserted, hown, fun k => ?_⟩
    rw [← hinserted k, List.cons_append, cons_mem_spread, cons_mem_spread]
    simp [hkey]
  · refine ⟨node, ?_, rfl, none, by simp, fun k => ?_⟩
    · rw [← hnode]
      simp [hothers key hkey]
    · simp [cons_mem_spread, hkey]

/-- A container is as it was if there are no locations in it. -/
theorem eq_of_news_nil (hcontainer : v.isContainer) (hnodup : v.ownKeys.Nodup)
    (hkind : w.kind = v.kind) (hown : w.ownKeys = v.ownKeys ++ (inserted.map Key.name).toList)
    (hinserted : ∀ key ∈ inserted.map Key.name, key ∈ keys ∧ [] ∈ news key)
    (hchildren : ∀ key ∈ keys, Pointwise u (v.childAt key) (w.childAt key) (olds key) (news key))
    (hothers : ∀ key, key ∉ keys → w.childAt key = v.childAt key)
    (hnone : ∀ key ∈ keys, ∀ p, p ∉ news key) : w = v := by
  have hchild (key : Key) : w.childAt key = v.childAt key := by
    by_cases hkey : key ∈ keys
    · simpa using (hchildren key hkey).frame [] fun p hp => absurd hp (hnone key hkey p)
    · exact hothers key hkey
  have hempty : inserted = none := by
    cases inserted with
    | none => rfl
    | some text =>
      obtain ⟨hkey, hnil⟩ := hinserted (.name text) rfl
      exact absurd hnil (hnone _ hkey [])
  have hsame : w.ownKeys = v.ownKeys := by simp [hown, hempty]
  exact Value.eq_of_childAt hcontainer hnodup hkind hsame hchild

/-- What an update leaves of a container is put together from what it leaves of the children under
some keys, if it leaves the other children alone. -/
theorem container (hcontainer : v.isContainer) (hnodup : v.ownKeys.Nodup) (hkind : w.kind = v.kind)
    (hown : w.ownKeys = v.ownKeys ++ (inserted.map Key.name).toList)
    (hinserted : ∀ key, (key ∈ keys ∧ [] ∈ news key) ∧ ¬ (key ∈ keys ∧ [] ∈ olds key) ↔
      key ∈ inserted.map Key.name)
    (hchildren : ∀ key ∈ keys, Pointwise u (v.childAt key) (w.childAt key) (olds key) (news key))
    (hothers : ∀ key, key ∉ keys → w.childAt key = v.childAt key) :
    Pointwise u (some v) (some w) (spread olds keys) (spread news keys) := by
  refine ⟨kept_spread hchildren, ?_, ?_, ?_⟩
  · intro p hp
    cases p with
    | nil => exact absurd hp nil_notMem_spread
    | cons key p =>
      obtain ⟨hkey, hp⟩ := cons_mem_spread.mp hp
      exact (hchildren key hkey).next p hp
  · intro q node hnode hq
    cases q with
    | nil =>
      obtain rfl : v = node := Option.some.inj hnode
      refine ⟨w, rfl, hkind, inserted, hown, fun key => ?_⟩
      rw [List.nil_append, cons_mem_spread, cons_mem_spread, hinserted]
    | cons key q => exact above_spread hchildren hothers hnode hq
  · intro q hq
    cases q with
    | nil =>
      -- The empty location is above every other, so there is none.
      have hnone (key : Key) (hkey : key ∈ keys) (p : List Key) : p ∉ news key := fun hp =>
        (hq (key :: p) (cons_mem_spread.mpr ⟨hkey, hp⟩)).2 List.nil_prefix
      rw [eq_of_news_nil hcontainer hnodup hkind hown (fun key hkey => ((hinserted key).mpr hkey).1)
        hchildren hothers hnone]
    | cons key q =>
      by_cases hkey : key ∈ keys
      · refine (hchildren key hkey).frame q fun p hp => ?_
        simpa using hq (key :: p) (cons_mem_spread.mpr ⟨hkey, hp⟩)
      · simp [hothers key hkey]

end Pointwise

/-! ## Any path -/

namespace Registry

variable {segment last : Segment} {rest path : List Segment} {source : String} {tree : Value}

/-- The locations of a path, none if it cannot be resolved. -/
def locationsOf (path : List Segment) (v : Value) : List (List Key) :=
  (builtin.locations path v).toOption.getD []

/-- The locations of a path below the child under a key. -/
def locationsUnder (path : List Segment) (v : Value) (key : Key) : List (List Key) :=
  ((v.childAt key).map (locationsOf path)).getD []

theorem locationsOf_eq {found : List (List Key)} (h : builtin.locations path v = .ok found) :
    locationsOf path v = found := by
  rw [locationsOf, h]
  rfl

theorem locationsUnder_nil :
    locationsUnder [] v key = if (v.childAt key).isSome then [[]] else [] := by
  cases hchild : v.childAt key with
  | none => simp [locationsUnder, hchild]
  | some child => simp [locationsUnder, hchild, show locationsOf [] child = [[]] from rfl]

theorem nil_notMem_locationsUnder (hne : path ≠ []) : [] ∉ locationsUnder path v key := by
  intro hnil
  cases hchild : v.childAt key with
  | none => simp [locationsUnder, hchild] at hnil
  | some child =>
    cases hfound : builtin.locations path child with
    | error e => simp [locationsUnder, hchild, locationsOf, hfound, Except.toOption] at hnil
    | ok found =>
      rw [locationsUnder, hchild, Option.map_some, Option.getD_some, locationsOf_eq hfound] at hnil
      exact hne (List.length_eq_zero_iff.mp (length_of_mem_locations hfound hnil).symm)

theorem locations_cons (hkeys : builtin.keysOf segment.select v = .ok keys)
    (hfound : ∀ key ∈ keys, v.child? key = .ok (v.childAt key))
    (hbelow : ∀ key ∈ keys, ∀ child, v.childAt key = some child →
      ∃ found, builtin.locations rest child = .ok found) :
    builtin.locations (segment :: rest) v = .ok (spread (locationsUnder rest v) keys) := by
  refine bind_eq_ok.mpr ⟨keys, hkeys, gather_eq_flatMap fun key hkey => under_eq_ok.mpr ?_⟩
  have hchild := hfound key hkey
  cases hat : v.childAt key with
  | none => exact .inl ⟨hat ▸ hchild, by simp [locationsUnder, hat]⟩
  | some child =>
    obtain ⟨found, hlocations⟩ := hbelow key hkey child hat
    refine .inr ⟨child, found, hat ▸ hchild, hlocations, ?_⟩
    simp [locationsUnder, hat, locationsOf_eq hlocations]

/-- An update puts in one name at most, that of a bare segment. -/
theorem inserted_of_updated (hkeys : builtin.keysOf last.select v = .ok keys)
    (h : Updated u keys v w) :
    builtin.keysOf last.select w = .ok keys ∧ ∃ inserted : Option String,
      (keys.filter fun key => (v.childAt key).isNone && (w.childAt key).isSome) =
        (inserted.map Key.name).toList := by
  by_cases hall : ∀ key ∈ keys, (v.childAt key).isSome
  · have hfilter :
        (keys.filter fun key => (v.childAt key).isNone && (w.childAt key).isSome) = [] := by
      rw [List.filter_eq_nil_iff]
      intro key hkey
      simp [Option.ne_none_iff_isSome.mpr (hall key hkey)]
    have hown : w.ownKeys = v.ownKeys := by rw [h.ownKeys, hfilter, List.append_nil]
    exact ⟨keysOf_congr h.kind hown hkeys, none, hfilter⟩
  · obtain ⟨key, hkey, habsent⟩ : ∃ key ∈ keys, v.childAt key = none := by
      simpa using hall
    obtain ⟨rfl, hsame⟩ := keysOf_of_absent hkeys hkey habsent
    refine ⟨hsame w h.kind, ?_⟩
    obtain ⟨hsuits, -, hmap⟩ := Value.child?_eq_ok_iff.mp (h.found key hkey)
    have hkind := hmap habsent
    cases v <;> cases key <;> simp only [Value.kind, Value.suits, reduceCtorEq] at hkind hsuits
    next entries text =>
    by_cases hsome : (w.childAt (.name text)).isSome
    · exact ⟨some text, by simp [habsent, hsome]⟩
    · exact ⟨none, by simp [habsent, hsome]⟩

/-- The update of one container, at the keys of the last segment. -/
theorem pointwise_last (hdistinct : v.isDistinct)
    (hkeys : builtin.keysOf last.select v = .ok keys) (h : Updated u keys v w) :
    builtin.locations [last] v = .ok (spread (locationsUnder [] v) keys) ∧
    builtin.locations [last] w = .ok (spread (locationsUnder [] w) keys) ∧
    Pointwise u (some v) (some w) (spread (locationsUnder [] v) keys)
      (spread (locationsUnder [] w) keys) := by
  obtain ⟨hkeys', inserted, hinserted⟩ := inserted_of_updated hkeys h
  refine ⟨locations_cons hkeys h.found fun _ _ _ _ => ⟨_, rfl⟩,
    locations_cons hkeys' (fun key hkey => ?_) fun _ _ _ _ => ⟨_, rfl⟩, ?_⟩
  · exact Value.child?_of_kind (h.found key hkey) h.kind (h.stays key hkey)
  · have hown : w.ownKeys = v.ownKeys ++ (inserted.map Key.name).toList := hinserted ▸ h.ownKeys
    refine .container (keysOf_eq_ok.mp hkeys).1 (Value.nodup_ownKeys hdistinct) h.kind hown
      (fun key => ?_) (fun key hkey => ?_) h.kept
    · rw [Option.mem_def, ← Option.mem_toList, ← hinserted, List.mem_filter, locationsUnder_nil,
        locationsUnder_nil]
      cases v.childAt key <;> cases w.childAt key <;> simp
    · rw [locationsUnder_nil, locationsUnder_nil]
      exact .child (h.next key hkey) (h.stays key hkey)

/-- The update of a container below the keys of a segment that is not the last one. -/
theorem pointwise_cons (hdistinct : v.isDistinct) (hne : rest ≠ [])
    (hkeys : builtin.keysOf segment.select v = .ok keys) {sub : Value → Run} {result : Run}
    (h : Descended sub keys v result)
    (hsub : ∀ key ∈ keys, ∀ child, v.childAt key = some child → ∃ old new,
      builtin.locations rest child = .ok old ∧ builtin.locations rest (sub child).tree = .ok new ∧
        Pointwise u (some child) (some (sub child).tree) old new) :
    builtin.locations (segment :: rest) v = .ok (spread (locationsUnder rest v) keys) ∧
    builtin.locations (segment :: rest) result.tree =
      .ok (spread (locationsUnder rest result.tree) keys) ∧
    Pointwise u (some v) (some result.tree) (spread (locationsUnder rest v) keys)
      (spread (locationsUnder rest result.tree) keys) := by
  have hafter (key : Key) (hkey : key ∈ keys) (child : Value)
      (hchild : result.tree.childAt key = some child) :
      ∃ found, builtin.locations rest child = .ok found := by
    rcases h.child_cases hkey with ⟨-, hnone⟩ | ⟨old, hold, hnew⟩
    · simp [hnone] at hchild
    · obtain rfl : (sub old).tree = child := Option.some.inj (hnew.symm.trans hchild)
      obtain ⟨_, new, -, hlocations, -⟩ := hsub key hkey old hold
      exact ⟨new, hlocations⟩
  refine ⟨locations_cons hkeys h.found fun key hkey child hchild => ?_,
    locations_cons (keysOf_congr h.kind h.ownKeys hkeys) (fun key hkey => ?_) hafter, ?_⟩
  · obtain ⟨old, _, hlocations, -, -⟩ := hsub key hkey child hchild
    exact ⟨old, hlocations⟩
  · refine Value.child?_of_kind (h.found key hkey) h.kind fun hsome => ?_
    obtain ⟨child, hchild⟩ := Option.isSome_iff_exists.mp hsome
    simp [(h.child key hkey child hchild).2]
  · have hown : result.tree.ownKeys = v.ownKeys ++ (Option.map Key.name none).toList := by
      simp [h.ownKeys]
    refine .container (keysOf_eq_ok.mp hkeys).1 (Value.nodup_ownKeys hdistinct) h.kind hown
      (fun key => ?_) (fun key hkey => ?_) fun key hkey => h.kept key fun hin => absurd hin hkey
    · -- Nothing is put in above the last segment.
      simp [nil_notMem_locationsUnder hne]
    · rcases h.child_cases hkey with ⟨hold, hnew⟩ | ⟨child, hold, hnew⟩
      · simpa [locationsUnder, hold, hnew] using Pointwise.missing
      · obtain ⟨old, new, hbefore, hafter, hpointwise⟩ := hsub key hkey child hold
        simpa [locationsUnder, hold, hnew, locationsOf_eq hbefore, locationsOf_eq hafter] using
          hpointwise

/-- Setting reports its value once for every key. -/
theorem hits_of_set {r : Registry} {x : Value}
    (h : (inTurn
      (r.visitLast none (some ((Update.set x).operation, (Update.set x).directive source)))
      keys tree).failure = none) :
    (inTurn (r.visitLast none (some ((Update.set x).operation, (Update.set x).directive source)))
      keys tree).hits.length = keys.length := by
  induction keys generalizing tree with
  | nil => rfl
  | cons key rest ih =>
    obtain ⟨hfirst, hothers⟩ := andThen_failure.mp h
    obtain ⟨hfound, change, hchange⟩ := visitLast_failure hfirst
    obtain ⟨container, rfl⟩ := Update.result_of_set hchange
    rw [inTurn, andThen_hits hfirst, List.length_append, ih hothers,
      visitLast_eq (Update.atomic_operation _) hfound hchange]
    simp [found, Nat.add_comm]

/-- Setting leaves a location under every key. -/
theorem length_spread_of_set {x : Value} (h : Updated (.set x) keys v w) :
    (spread (locationsUnder [] w) keys).length = keys.length := by
  have hone (key : Key) (hkey : key ∈ keys) : (locationsUnder [] w key).length = 1 := by
    rw [locationsUnder_nil, h.next key hkey]
    rfl
  rw [length_spread, List.length_flatMap, List.map_congr_left hone]
  simp

/-- What an update that succeeds leaves of a tree, and how many results setting reports. -/
theorem pointwise_run (hfree : ∀ s ∈ path, s.predicate = none) (hdistinct : v.isDistinct)
    (h : (builtin.run ⟨path, some (u.directive source)⟩ v).failure = none) :
    ∃ old new, builtin.locations path v = .ok old ∧
      builtin.locations path (builtin.run ⟨path, some (u.directive source)⟩ v).tree = .ok new ∧
      Pointwise u (some v) (some (builtin.run ⟨path, some (u.directive source)⟩ v).tree) old new ∧
      ∀ x, u = .set x →
        (builtin.run ⟨path, some (u.directive source)⟩ v).hits.length = new.length := by
  have ho := u.operationFor_directive source
  induction path generalizing v with
  | nil => cases h
  | cons segment rest ih =>
    obtain ⟨hsegment, hrest⟩ := List.forall_mem_cons.mp hfree
    obtain ⟨hresolves, keys, hkeys⟩ := resolves_of_run h
    have hnodup := nodup_of_keysOf (Value.nodup_ownKeys hdistinct) hkeys
    cases rest with
    | nil =>
      rw [run_last ho hsegment hkeys] at h ⊢
      have hupdated := updated_of_failure hnodup h
      obtain ⟨hbefore, hafter, hpointwise⟩ := pointwise_last hdistinct hkeys hupdated
      refine ⟨_, _, hbefore, hafter, hpointwise, ?_⟩
      rintro x rfl
      rw [hits_of_set h, length_spread_of_set hupdated]
    | cons next rest =>
      have hresolves' : builtin.Resolves (next :: rest) := hresolves
      rw [run_cons ho hresolves' hsegment hkeys] at h ⊢
      have hdescended := descended_of_failure hnodup h
      have hsub (key : Key) (hkey : key ∈ keys) (child : Value)
          (hchild : v.childAt key = some child) :=
        ih hrest (Value.isDistinct_of_childAt hdistinct hchild)
          (hdescended.child key hkey child hchild).1
      obtain ⟨hbefore, hafter, hpointwise⟩ := pointwise_cons hdistinct (List.cons_ne_nil _ _) hkeys
        hdescended fun key hkey child hchild => by
          obtain ⟨old, new, hold, hnew, hchildPointwise, -⟩ := hsub key hkey child hchild
          exact ⟨old, new, hold, hnew, hchildPointwise⟩
      refine ⟨_, _, hbefore, hafter, hpointwise, ?_⟩
      rintro x rfl
      rw [hdescended.hits, length_spread, List.length_flatMap, List.length_flatMap]
      refine congrArg List.sum (List.map_congr_left fun key hkey => ?_)
      cases hchild : v.childAt key with
      | none =>
        have hnone := hdescended.kept key fun _ => hchild
        simp [locationsUnder, hnone, hchild]
      | some child =>
        obtain ⟨_, new, -, hnew, -, hlength⟩ := hsub key hkey child hchild
        simp [locationsUnder, (hdescended.child key hkey child hchild).2, locationsOf_eq hnew,
          hlength x rfl]

theorem executeCount_eq_ok {r : Registry} {command : Command} {n : Nat}
    (h : r.executeCount command v = (w, .ok n)) :
    (r.run command v).failure = none ∧ (r.run command v).tree = w ∧
      (r.run command v).hits.length = n := by
  simp only [executeCount, outcome, Prod.mk.injEq, map_eq_ok] at h
  obtain ⟨htree, hits, hhits, hlength⟩ := h
  split at hhits
  · cases hhits
  · next hfailure =>
    cases hhits
    exact ⟨hfailure, htree, hlength⟩

/-- An update that succeeds at the places of a path makes of the node at each location what becomes
of it, and leaves everything else as it was. Only setting puts in names that were not there, and
after setting a value the path selects nothing but that value. -/
theorem pointwise_update {text : String} {n : Nat} (hpath : builtin.parsePath text = .ok path)
    (hfree : ∀ s ∈ path, s.predicate = none) (hdistinct : v.isDistinct)
    (hrun : builtin.executeCount ⟨path, some (u.directive source)⟩ v = (w, .ok n)) :
    ∃ old new, builtin.locations path v = .ok old ∧ builtin.locations path w = .ok new ∧
      builtin.getValues text w = .ok (new.filterMap fun p => w.at? p) ∧
      Pointwise u (some v) (some w) old new ∧
      (∀ p ∈ new, p ∉ old → ∃ x, u = .set x ∨ u = .setIfAbsent x) ∧
      ∀ x, u = .set x → builtin.getValues text w = .ok (List.replicate n x) := by
  obtain ⟨hfailure, rfl, rfl⟩ := executeCount_eq_ok hrun
  obtain ⟨old, new, hold, hnew, hpointwise, hset⟩ := pointwise_run hfree hdistinct hfailure
  have hvalues : builtin.getValues text (builtin.run ⟨path, some (u.directive source)⟩ v).tree =
      .ok (new.filterMap fun p =>
        (builtin.run ⟨path, some (u.directive source)⟩ v).tree.at? p) := by
    have hne : path ≠ [] := by
      rintro rfl
      cases hfailure
    rw [getValues, hpath]
    simpa [Except.bind, selectValues, hne] using valuesAt_of_locations hfree hnew
  refine ⟨old, new, hold, hnew, hvalues, hpointwise, fun p hp hnotin => ?_, ?_⟩
  · have hnext := hpointwise.next p hp
    have habsent : v.at? p = none := by
      rw [hpointwise.kept, List.mem_filter, not_and] at hnotin
      simpa using hnotin hp
    have hsome := isSome_at?_of_mem_locations hnew hp
    rw [Option.bind_some, Option.bind_some, habsent] at hnext
    rw [hnext] at hsome
    cases u <;> simp_all [Update.next?]
  · rintro x rfl
    have hall : (new.filterMap fun p => (builtin.run ⟨path, some _⟩ v).tree.at? p) =
        new.filterMap fun _ => some x :=
      List.filterMap_congr fun p hp => hpointwise.next p hp
    rw [hvalues, hset x rfl, hall, List.filterMap_eq_map', List.map_const']

/-- Setting a name in the two maps of a list, in one of which it is new, reports two results, and
then the path selects the value twice. -/
theorem getValues_set_each_name :
    let path : List Segment :=
      [⟨⟨":each", some "each", .none⟩, none⟩, ⟨⟨"a", none, .key (.name "a")⟩, none⟩]
    let set : Directive := Update.directive (.set (.bool true)) "set(true)"
    let tree : Value :=
      .list [.map [("b", .bool false), ("a", .string "x")], .map [("c", .list [])]]
    let next : Value := .list [.map [("b", .bool false), ("a", .bool true)],
      .map [("c", .list []), ("a", .bool true)]]
    builtin.executeCount ⟨path, some set⟩ tree = (next, .ok 2) ∧
      builtin.getValues "//:each/a" next = .ok (List.replicate 2 (.bool true)) := by
  intro path set tree next
  have hpath : builtin.parsePath "//:each/a" = .ok path := rfl
  have hrun : builtin.executeCount ⟨path, some set⟩ tree = (next, .ok 2) := rfl
  obtain ⟨_, _, -, -, -, -, -, hset⟩ :=
    pointwise_update hpath (by simp [path]) (by decide) hrun
  exact ⟨hrun, hset _ rfl⟩

end Registry

end TreePath
