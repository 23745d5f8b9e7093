import TreePath.Proofs.Handler.Select

/-!
# The places a path leads to

The selects of a path are resolved on a tree as it stands, without any operation: the locations of
the nodes that are there, in the order in which they are visited, and the places of an operation,
among which are also those where the last segment finds nothing yet. Predicates play no part in
these; with them, the locations of the nodes that a path selects are resolved.
-/

namespace TreePath.Registry

variable {α : Type}

/-- Joins what is found for keys one after the other. -/
def gather (find : Key → Except Error (List α)) : List Key → Except Error (List α)
  | [] => .ok []
  | key :: rest => (find key).bind fun here => (gather find rest).map fun others => here ++ others

/-- Locations below the child under a key, seen from the container; none where the name is
absent. -/
def under (v : Value) (sub : Value → Except Error (List (List Key))) (key : Key) :
    Except Error (List (List Key)) :=
  (v.child? key).bind fun
    | none => .ok []
    | some child => (sub child).map fun below => below.map (key :: ·)

variable (r : Registry)

/-- The locations of the nodes a path leads to. Absent names are skipped in every segment. -/
def locations : List Segment → Value → Except Error (List (List Key))
  | [], _ => .ok [[]]
  | segment :: rest, v =>
    (r.keysOf segment.select v).bind fun keys => gather (under v (locations rest)) keys

/-- What is found from a child on if a predicate keeps it; nothing otherwise. -/
def kept (predicate : Option Directive) (find : Value → Except Error (List α)) (child : Value) :
    Except Error (List α) :=
  (r.accepts predicate child).bind fun kept => if kept then find child else .ok []

/-- The locations of the nodes a path selects: those it leads to through children that the
predicates keep. -/
def selection : List Segment → Value → Except Error (List (List Key))
  | [], _ => .ok [[]]
  | segment :: rest, v =>
    (r.keysOf segment.select v).bind fun keys =>
      gather (under v (r.kept segment.predicate (selection rest))) keys

/-- The places a path leads to. Absent names are skipped in every segment but the last, which
keeps each of its keys. -/
def places : List Segment → Value → Except Error (List (List Key))
  | [], _ => .ok []
  | [last], v => (r.keysOf last.select v).map fun keys => keys.map fun key => [key]
  | segment :: next :: rest, v =>
    (r.keysOf segment.select v).bind fun keys => gather (under v (places (next :: rest))) keys

variable {r} {v : Value} {key : Key} {keys : List Key}

theorem gather_cons_eq_ok {find : Key → Except Error (List α)} {found : List α} :
    gather find (key :: keys) = .ok found ↔
      ∃ here others, find key = .ok here ∧ gather find keys = .ok others ∧
        found = here ++ others := by
  simp only [gather, bind_eq_ok, map_eq_ok]
  grind

theorem gather_eq_flatMap {find : Key → Except Error (List α)} {f : Key → List α}
    (h : ∀ key ∈ keys, find key = .ok (f key)) : gather find keys = .ok (keys.flatMap f) := by
  induction keys with
  | nil => rfl
  | cons key rest ih =>
    obtain ⟨hkey, hrest⟩ := List.forall_mem_cons.mp h
    exact gather_cons_eq_ok.mpr ⟨_, _, hkey, ih hrest, List.flatMap_cons⟩

theorem exists_of_gather {find : Key → Except Error (List α)} {found : List α}
    (h : gather find keys = .ok found) (hkey : key ∈ keys) : ∃ here, find key = .ok here := by
  induction keys generalizing found with
  | nil => cases hkey
  | cons k rest ih =>
    obtain ⟨here, others, hhere, hothers, rfl⟩ := gather_cons_eq_ok.mp h
    rcases List.mem_cons.mp hkey with rfl | hrest
    · exact ⟨here, hhere⟩
    · exact ih hothers hrest

theorem mem_of_gather {find : Key → Except Error (List α)} {found : List α} {a : α}
    (h : gather find keys = .ok found) (ha : a ∈ found) :
    ∃ key ∈ keys, ∃ here, find key = .ok here ∧ a ∈ here := by
  induction keys generalizing found with
  | nil =>
    cases h
    cases ha
  | cons k rest ih =>
    obtain ⟨here, others, hhere, hothers, rfl⟩ := gather_cons_eq_ok.mp h
    rcases List.mem_append.mp ha with hmem | hmem
    · exact ⟨k, List.mem_cons_self, here, hhere, hmem⟩
    · obtain ⟨key, hkey, hfound⟩ := ih hothers hmem
      exact ⟨key, List.mem_cons_of_mem _ hkey, hfound⟩

theorem under_eq_ok {sub : Value → Except Error (List (List Key))} {found : List (List Key)} :
    under v sub key = .ok found ↔
      v.child? key = .ok none ∧ found = [] ∨
      ∃ child below, v.child? key = .ok (some child) ∧ sub child = .ok below ∧
        found = below.map (key :: ·) := by
  simp only [under, bind_eq_ok]
  constructor
  · rintro ⟨child, hchild, h⟩
    cases child with
    | none => exact .inl ⟨hchild, by simpa [eq_comm] using h⟩
    | some child =>
      obtain ⟨below, hbelow, rfl⟩ := map_eq_ok.mp h
      exact .inr ⟨child, below, hchild, hbelow, rfl⟩
  · rintro (⟨hchild, rfl⟩ | ⟨child, below, hchild, hbelow, rfl⟩)
    · exact ⟨none, hchild, rfl⟩
    · exact ⟨some child, hchild, map_eq_ok.mpr ⟨below, hbelow, rfl⟩⟩

/-- What lies below a key can only be found if the key can be looked up. -/
theorem child?_of_under {sub : Value → Except Error (List (List Key))} {found : List (List Key)}
    (h : under v sub key = .ok found) : ∃ child, v.child? key = .ok child := by
  rcases under_eq_ok.mp h with ⟨hchild, -⟩ | ⟨_, _, hchild, -⟩
  · exact ⟨_, hchild⟩
  · exact ⟨_, hchild⟩

/-- What is found below some keys leads to one of the children. -/
theorem mem_of_gather_under {sub : Value → Except Error (List (List Key))}
    {found : List (List Key)} {location : List Key} (h : gather (under v sub) keys = .ok found)
    (hlocation : location ∈ found) :
    ∃ key child below tail, v.childAt key = some child ∧ sub child = .ok below ∧ tail ∈ below ∧
      location = key :: tail := by
  obtain ⟨key, -, here, hhere, hmem⟩ := mem_of_gather h hlocation
  rcases under_eq_ok.mp hhere with ⟨-, rfl⟩ | ⟨child, below, hchild, hbelow, rfl⟩
  · cases hmem
  · obtain ⟨tail, htail, rfl⟩ := List.mem_map.mp hmem
    exact ⟨key, child, below, tail, Value.childAt_of_child? hchild, hbelow, htail, rfl⟩

/-- A place is a key for every segment. -/
theorem length_of_mem_places {path : List Segment} {found : List (List Key)} {place : List Key}
    (h : r.places path v = .ok found) (hplace : place ∈ found) : place.length = path.length := by
  induction path generalizing v found place with
  | nil =>
    cases h
    cases hplace
  | cons segment rest ih =>
    cases rest with
    | nil =>
      obtain ⟨keys, -, rfl⟩ := map_eq_ok.mp h
      obtain ⟨key, -, rfl⟩ := List.mem_map.mp hplace
      rfl
    | cons next rest =>
      obtain ⟨keys, -, hgather⟩ := bind_eq_ok.mp h
      obtain ⟨key, child, below, tail, -, hbelow, htail, rfl⟩ := mem_of_gather_under hgather hplace
      rw [List.length_cons, List.length_cons, ih hbelow htail]

/-! ## Locations and values -/

/-- A location has a key for every segment. -/
theorem length_of_mem_locations {path : List Segment} {found : List (List Key)}
    {location : List Key} (h : r.locations path v = .ok found) (hlocation : location ∈ found) :
    location.length = path.length := by
  induction path generalizing v found location with
  | nil =>
    cases h
    rw [List.mem_singleton.mp hlocation]
    rfl
  | cons segment rest ih =>
    obtain ⟨keys, -, hgather⟩ := bind_eq_ok.mp h
    obtain ⟨key, child, below, tail, -, hbelow, htail, rfl⟩ :=
      mem_of_gather_under hgather hlocation
    rw [List.length_cons, List.length_cons, ih hbelow htail]

/-- There is a node at every location. -/
theorem isSome_at?_of_mem_locations {path : List Segment} {found : List (List Key)}
    {location : List Key} (h : r.locations path v = .ok found) (hlocation : location ∈ found) :
    (v.at? location).isSome := by
  induction path generalizing v found location with
  | nil =>
    cases h
    rw [List.mem_singleton.mp hlocation]
    rfl
  | cons segment rest ih =>
    obtain ⟨keys, -, hgather⟩ := bind_eq_ok.mp h
    obtain ⟨key, child, below, tail, hchild, hbelow, htail, rfl⟩ :=
      mem_of_gather_under hgather hlocation
    rw [Value.at?_cons, hchild, Option.bind_some]
    exact ih hbelow htail

theorem collect_eq_gather {visit : Key → Except Error (List Value)} :
    collect visit keys = gather visit keys := by
  induction keys with
  | nil => rfl
  | cons key rest ih => rw [collect, gather, ih]

theorem gather_congr {find find' : Key → Except Error (List α)}
    (h : ∀ key ∈ keys, find key = find' key) : gather find keys = gather find' keys := by
  induction keys with
  | nil => rfl
  | cons key rest ih =>
    obtain ⟨hkey, hrest⟩ := List.forall_mem_cons.mp h
    rw [gather, gather, hkey, ih hrest]

/-- What is made of all that is found for some keys is what is made of it for each of them. -/
theorem gather_filterMap {β : Type} {find : Key → Except Error (List α)} {f : α → Option β} :
    gather (fun key => (find key).map (List.filterMap f)) keys =
      (gather find keys).map (List.filterMap f) := by
  induction keys with
  | nil => rfl
  | cons key rest ih =>
    rw [gather, gather, ih]
    cases find key with
    | error e => rfl
    | ok here =>
      cases gather find rest with
      | error e => rfl
      | ok others => simp [Except.bind, Except.map]

/-- The values a path selects below one key. -/
def valuesUnder (r : Registry) (segment : Segment) (rest : List Segment) (v : Value) (key : Key) :
    Except Error (List Value) :=
  (v.child? key).bind fun
    | none => .ok []
    | some child => r.kept segment.predicate (r.valuesAt rest) child

theorem valuesAt_cons {segment : Segment} {rest : List Segment} :
    r.valuesAt (segment :: rest) v =
      (r.keysOf segment.select v).bind (gather (r.valuesUnder segment rest v)) := by
  rw [valuesAt]
  congr 1
  funext keys
  rw [collect_eq_gather]
  rfl

/-- What a path selects are the nodes at the locations it selects, in their order. -/
theorem valuesAt_eq_selection {path : List Segment} :
    r.valuesAt path v = (r.selection path v).map (List.filterMap fun p => v.at? p) := by
  induction path generalizing v with
  | nil => rfl
  | cons segment rest ih =>
    rw [valuesAt_cons, selection]
    cases r.keysOf segment.select v with
    | error e => rfl
    | ok keys =>
      simp only [Except.bind]
      rw [← gather_filterMap]
      congr 1
      funext key
      rw [valuesUnder, under]
      cases hfound : v.child? key with
      | error e => rfl
      | ok found =>
        cases found with
        | none => rfl
        | some child =>
          have hat := Value.childAt_of_child? hfound
          simp only [Except.bind, kept, ih]
          cases r.accepts segment.predicate child with
          | error e => rfl
          | ok kept =>
            cases kept with
            | false => rfl
            | true =>
              cases r.selection rest child with
              | error e => rfl
              | ok below => simp [Except.map, List.filterMap_map, Function.comp_def, hat]

/-- Without predicates a path selects all it leads to. -/
theorem selection_eq_locations {path : List Segment} (hfree : ∀ s ∈ path, s.predicate = none) :
    r.selection path v = r.locations path v := by
  induction path generalizing v with
  | nil => rfl
  | cons segment rest ih =>
    obtain ⟨hsegment, hrest⟩ := List.forall_mem_cons.mp hfree
    have hkept : r.kept segment.predicate (r.selection rest) = r.locations rest := by
      funext child
      rw [hsegment]
      exact ih hrest
    rw [selection, locations, hkept]

/-- What a path without predicates selects are the nodes at its locations, in their order. -/
theorem valuesAt_of_locations {path : List Segment} {found : List (List Key)}
    (hfree : ∀ s ∈ path, s.predicate = none) (h : r.locations path v = .ok found) :
    r.valuesAt path v = .ok (found.filterMap fun location => v.at? location) := by
  rw [valuesAt_eq_selection, selection_eq_locations hfree, h, Except.map]

end TreePath.Registry
