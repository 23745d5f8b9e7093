import TreePath.Proofs.Handler.Update
import TreePath.Proofs.Registry.Assembled
import TreePath.Proofs.Run.Track
import Mathlib.Data.List.TakeWhile

/-!
# The stops of a run

On a tree that stays as it is, a command comes to a stop at every container it opens, at every child
it looks up and at every place of its operation. A run comes to the same stops, although it changes
the tree on its way, as long as nothing is taken out: it fails at the first stop at which there is a
failure, and this stop and all behind it are left as they were. A run in which no operation had a
result leaves all of the tree as it was.
-/

namespace TreePath

/-! ## Stops -/

/-- A stop of a command on its way: where it is, and the failure there, if there is one. -/
structure Stop where
  location : List Key
  failure : Option Error

namespace Stop

/-- A stop at the root without a failure. -/
def passed : Stop := ⟨[], none⟩

/-- A stop in the child under a key, seen from the container. -/
def under (key : Key) (s : Stop) : Stop := { s with location := key :: s.location }

/-- The stops of something that needs a result first, and stops where that fails. -/
def needing {α : Type} (result : Except Error α) (next : α → List Stop) : List Stop :=
  match result with
  | .ok a => next a
  | .error e => [⟨[], some e⟩]

end Stop

namespace Registry

variable (r : Registry)

/-- The stops on the way through the children that the segments of a path select, to those where
the path ends. -/
def way (arrive : Value → List Stop) : List Segment → Value → List Stop
  | [], v => arrive v
  | segment :: rest, v =>
    Stop.needing (r.keysOf segment.select v) fun keys =>
      .passed :: keys.flatMap fun key =>
        (Stop.needing (v.child? key) fun
          | none => [.passed]
          | some child =>
            Stop.needing (r.accepts segment.predicate child) fun kept =>
              if kept then way arrive rest child else [.passed]).map (Stop.under key)

/-- The stops at the places of an operation in a container: each fails where the visit of its key
would fail in the container as it stands. -/
def arrivals (last : Segment) (operation : Option (Operation × Directive)) (v : Value) :
    List Stop :=
  Stop.needing (r.keysOf last.select v) fun keys =>
    .passed :: keys.map fun key =>
      ⟨[key], (r.visitLast last.predicate operation key v).failure⟩

/-- The stops of a command on a tree as it stands, in the order in which it would come to them if
none of them ended it. -/
def itinerary (c : Command) (v : Value) : List Stop :=
  match c.path.getLast? with
  | none => [⟨[], some (.grammar .emptyPath c.text)⟩]
  | some last =>
    Stop.needing (r.selectFor last.select) fun _ =>
      Stop.needing (r.operationOf c.operation) fun operation =>
        r.way (r.arrivals last operation) c.path.dropLast v

end Registry

/-! ## Runs along their stops -/

namespace Run

variable {α : Type} {result : Run} {v child tree : Value} {key : Key} {keys : List Key}
  {stops others : List Stop}

/-- A run fails at the first stop with a failure, and this one and all behind it are left as they
were. -/
structure Follows (result : Run) (v : Value) (stops : List Stop) : Prop where
  failure : result.failure = stops.findSome? Stop.failure
  pending : ∀ s ∈ stops.dropWhile (·.failure.isNone),
    result.tree.at? s.location = v.at? s.location

theorem follows_failed {e : Error} : Follows (failed v e) v [⟨[], some e⟩] :=
  ⟨rfl, fun _ _ => rfl⟩

theorem follows_found {hits : List Value} : Follows (found v hits) v [.passed] :=
  ⟨rfl, fun _ _ => rfl⟩

theorem follows_needing {needed : Except Error α} {next : α → Run} {behind : α → List Stop}
    (h : ∀ a, needed = .ok a → Follows (next a) v (behind a)) :
    Follows (needing v needed next) v (Stop.needing needed behind) := by
  cases needed with
  | error e => exact follows_failed
  | ok a => exact h a rfl

theorem Follows.passed (h : Follows result v stops) : Follows result v (.passed :: stops) :=
  ⟨h.failure, h.pending⟩

/-- A run on a child, seen from a container that has the same child as another one. -/
theorem Follows.within (h : Follows result child stops) (hchild : tree.childAt key = some child)
    (hsame : v.childAt key = some child) :
    Follows (result.within tree key) v (stops.map (Stop.under key)) := by
  have hself : (tree.replaceChild key result.tree).childAt key = some result.tree :=
    Value.childAt_replaceChild_self hchild
  refine ⟨?_, fun s hs => ?_⟩
  · rw [List.findSome?_map]
    exact h.failure
  · rw [List.dropWhile_map] at hs
    obtain ⟨below, hbelow, rfl⟩ := List.mem_map.mp hs
    simpa [Stop.under, Run.within, hself, hsame] using h.pending below hbelow

/-- If the first run fails, it has to leave the stops of the second one as they were. -/
theorem Follows.andThen {next : Value → Run} (h : Follows result v stops)
    (hnext : result.failure = none → Follows (next result.tree) v others)
    (hleft : ∀ s ∈ others, result.tree.at? s.location = v.at? s.location) :
    Follows (result.andThen next) v (stops ++ others) := by
  have hempty : (stops.dropWhile (·.failure.isNone)).isEmpty ↔ result.failure = none := by
    rw [List.isEmpty_iff, List.dropWhile_eq_nil_iff, h.failure, List.findSome?_eq_none_iff]
    simp
  cases hfailure : result.failure with
  | some e =>
    have hrun : result.andThen next = result := by rw [Run.andThen, hfailure]
    rw [hfailure] at hempty
    refine ⟨?_, fun s hs => ?_⟩
    · rw [hrun, List.findSome?_append, ← h.failure, hfailure, Option.some_or]
    · rw [List.dropWhile_append, if_neg (by simpa using hempty)] at hs
      rw [hrun]
      rcases List.mem_append.mp hs with hs | hs
      · exact h.pending s hs
      · exact hleft s hs
  | none =>
    obtain ⟨hfails, hpending⟩ := hnext hfailure
    rw [andThen_eq hfailure]
    refine ⟨?_, fun s hs => ?_⟩
    · rw [List.findSome?_append, ← h.failure, hfailure, Option.none_or]
      exact hfails
    · rw [List.dropWhile_append, if_pos (hempty.mpr hfailure)] at hs
      exact hpending s hs

/-! ### Keys in turn -/

/-- A tree in which some keys are looked up with the same results as in another one. -/
def Agrees (keys : List Key) (v tree : Value) : Prop :=
  ∀ key ∈ keys, tree.suits key ∧ tree.child? key = v.child? key

/-- A visit of a key that follows its stops on every tree where the key is looked up with the same
result, and that leaves all other keys alone. -/
structure Local (visit : Key → Value → Run) (v : Value) (key : Key) (stops : List Stop) :
    Prop where
  follows : ∀ tree : Value, tree.suits key → tree.child? key = v.child? key →
    Follows (visit key tree) v stops
  others : ∀ tree : Value, tree.suits key → tree.child? key = v.child? key → ∀ other ≠ key,
    tree.suits other →
    (visit key tree).tree.suits other ∧ (visit key tree).tree.child? other = tree.child? other
  inside : ∀ s ∈ stops, ∃ p, s.location = key :: p

/-- By induction on the keys: the visit of the first one leaves the others as they were found. -/
theorem follows_inTurn {visit : Key → Value → Run} {stops : Key → List Stop} (hnodup : keys.Nodup)
    (hvisit : ∀ key ∈ keys, Local visit v key (stops key)) (hagrees : Agrees keys v tree) :
    Follows (inTurn visit keys tree) v (keys.flatMap stops) := by
  induction keys generalizing tree with
  | nil => exact ⟨rfl, List.forall_mem_nil _⟩
  | cons key rest ih =>
    obtain ⟨hnotin, hrest⟩ := List.nodup_cons.mp hnodup
    obtain ⟨hkey, hothers⟩ := List.forall_mem_cons.mp hvisit
    obtain ⟨⟨hsuits, hfound⟩, hagrees⟩ := List.forall_mem_cons.mp hagrees
    have hfirst := hkey.follows tree hsuits hfound
    have hne {other : Key} (hother : other ∈ rest) : other ≠ key := fun heq =>
      hnotin (heq ▸ hother)
    have hagain : Agrees rest v (visit key tree).tree := fun other hother => by
      obtain ⟨hsuits', hfound'⟩ := hagrees other hother
      obtain ⟨hkeeps, hsame⟩ := hkey.others tree hsuits hfound other (hne hother) hsuits'
      exact ⟨hkeeps, hsame.trans hfound'⟩
    rw [inTurn, List.flatMap_cons]
    refine hfirst.andThen (fun _ => ih hrest hothers hagain) fun s hs => ?_
    -- The stops under the other keys are in children that the first visit left alone.
    obtain ⟨other, hother, hs⟩ := List.mem_flatMap.mp hs
    obtain ⟨p, hp⟩ := (hothers other hother).inside s hs
    rw [hp, Value.at?_cons, Value.at?_cons, Value.childAt_congr (hagain other hother).2]

/-- A run on the child under a key. -/
theorem local_descend {sub : Value → Run} {below : Value → List Stop}
    (hsub : ∀ child, v.childAt key = some child → Follows (sub child) child (below child)) :
    Local (descend sub) v key
      ((Stop.needing (v.child? key) fun
        | none => [.passed]
        | some child => below child).map (Stop.under key)) := by
  refine ⟨fun tree hsuits hsame => ?_, fun tree hsuits hsame other hne hother => ?_, fun s hs => ?_⟩
  · have hat := Value.childAt_congr hsame
    cases hfound : v.child? key with
    | error e =>
      rw [hfound] at hsame
      rw [descend, hsame]
      refine ⟨rfl, fun s hs => ?_⟩
      obtain rfl : s = ⟨[key], some e⟩ := by simpa [Stop.needing, Stop.under] using hs
      simp [needing, failed, hat]
    | ok found =>
      rw [hfound] at hsame
      cases found with
      | none =>
        rw [descend_of_absent hsame]
        exact ⟨rfl, List.forall_mem_nil _⟩
      | some child =>
        have hchild := Value.childAt_of_child? hfound
        rw [descend_of_child (hat.trans hchild)]
        exact (hsub child hchild).within (hat.trans hchild) hchild
  · refine ⟨by rwa [Value.suits_congr kind_descend], ?_⟩
    cases hfound : tree.child? key with
    | error e => simp [descend, hfound, needing, failed]
    | ok found =>
      cases found with
      | none => rw [descend_of_absent hfound]; rfl
      | some child =>
        have hchild := Value.childAt_of_child? hfound
        rw [descend_of_child hchild, Run.within, ← Value.putChild_eq_replaceChild hchild]
        exact Value.child?_putChild_of_ne hother hne
  · obtain ⟨below, -, rfl⟩ := List.mem_map.mp hs
    exact ⟨below.location, rfl⟩

end Run

namespace Registry

open Run

variable {r : Registry} {o : Operation} {d : Directive} {predicate : Option Directive}
  {segment last : Segment} {path : List Segment} {v tree : Value} {key : Key} {keys : List Key}

/-- A visit of a key that can be looked up asks the predicate, and then the operation. -/
theorem visitLast_of_child? {found : Option Value} (h : v.child? key = .ok found) :
    r.visitLast predicate (some (o, d)) key v =
      needing v (found.elim (.ok true) (r.accepts predicate)) fun kept =>
        if !kept then .found v [] else operated (o.act d v key) := by
  rw [visitLast, h]
  cases found <;> rfl

/-- A visit of a key fails or not by what is found there, and if it fails it changes nothing. -/
theorem visitLast_cases (r : Registry) (predicate : Option Directive) (d : Directive)
    (ho : o ∈ Operation.library) (hname : o.name ≠ "unset")
    (hsame : tree.child? key = v.child? key) :
    (r.visitLast predicate (some (o, d)) key tree).failure =
        (r.visitLast predicate (some (o, d)) key v).failure ∧
      ((r.visitLast predicate (some (o, d)) key tree).tree = tree ∨
        (r.visitLast predicate (some (o, d)) key tree).failure = none ∧
          ∃ child, (r.visitLast predicate (some (o, d)) key tree).tree =
            tree.putChild key child) := by
  obtain ⟨change, hchange⟩ := Operation.exists_putting ho hname d
  cases hfound : v.child? key with
  | error e => simp [visitLast, hsame, hfound, needing, failed]
  | ok found =>
    have hthere := hsame.trans hfound
    have hatomic := Operation.atomic_of_library ho
    rw [visitLast_of_child? hthere, visitLast_of_child? hfound, operated_act hatomic,
      operated_act hatomic, hchange tree key found hthere, hchange v key found hfound]
    generalize found.elim (.ok true) (r.accepts predicate) = kept
    cases kept with
    | error e => exact ⟨rfl, .inl rfl⟩
    | ok kept =>
      cases kept with
      | false => exact ⟨rfl, .inl rfl⟩
      | true =>
        cases change found with
        | error e => exact ⟨rfl, .inl rfl⟩
        | ok changed =>
          cases changed with
          | none => exact ⟨rfl, .inl rfl⟩
          | some c => exact ⟨rfl, .inr ⟨rfl, c.container, rfl⟩⟩

/-- The visit of a key of the last segment. -/
theorem local_visitLast (ho : o ∈ Operation.library) (hname : o.name ≠ "unset") :
    Local (r.visitLast predicate (some (o, d))) v key
      [⟨[key], (r.visitLast predicate (some (o, d)) key v).failure⟩] := by
  refine ⟨fun tree hsuits hsame => ?_, fun tree hsuits hsame other hne hother => ?_, fun s hs => ?_⟩
  · obtain ⟨hfailure, htree⟩ := visitLast_cases r predicate d ho hname hsame
    rw [← hfailure]
    refine ⟨by simp, fun s hs => ?_⟩
    rcases htree with htree | ⟨hnone, -⟩
    · obtain rfl : s = ⟨[key], _⟩ := List.mem_singleton.mp ((List.dropWhile_sublist _).subset hs)
      simp [htree, Value.childAt_congr hsame]
    · simp [hnone] at hs
  · obtain ⟨-, htree | ⟨-, child, htree⟩⟩ :=
      visitLast_cases r predicate d ho hname hsame
    · rw [htree]
      exact ⟨hother, rfl⟩
    · rw [htree]
      exact ⟨by rwa [Value.suits_congr Value.kind_putChild], Value.child?_putChild_of_ne hother hne⟩
  · exact ⟨[], by rw [List.mem_singleton.mp hs]⟩

/-- What a command looks up, as far as it is there, are handlers of the library. -/
structure Supplies (r : Registry) (c : Command) : Prop where
  selects : ∀ s ∈ c.path, ∀ select, r.selectFor s.select = .ok select → select ∈ Select.library
  operation : ∀ d, c.operation = some d → ∀ o, r.operationFor d = .ok o → o ∈ Operation.library

/-- A registry that was assembled from the library supplies every command. -/
theorem Assembled.supplies (hr : r.Assembled) (c : Command) : r.Supplies c := by
  have hstocked := hr.stocked
  refine ⟨fun s _ select h => ?_, fun d _ o h => ?_⟩
  · rw [selectFor] at h
    split at h
    · cases h
      exact hstocked.default
    · split at h
      · next name _ select hselect =>
        cases h
        exact (hstocked.selects _ select hselect).1
      · cases h
  · rw [operationFor] at h
    split at h
    · next o ho =>
      cases h
      exact (hstocked.operations _ o ho).1
    · cases h

theorem agrees_of_keysOf (hdistinct : v.isDistinct)
    (hselect : ∀ select, r.selectFor segment.select = .ok select → select ∈ Select.library)
    (h : r.keysOf segment.select v = .ok keys) : keys.Nodup ∧ Agrees keys v v := by
  obtain ⟨-, select, hs, hkeys⟩ := keysOf_eq_ok.mp h
  have hlibrary := hselect select hs
  exact ⟨Select.nodup_of_keys hlibrary (Value.nodup_ownKeys hdistinct) hkeys,
    fun key hkey => ⟨Select.suits_of_keys hlibrary hkeys hkey, rfl⟩⟩

theorem follows_walk {visit : Value → Run} {arrive : Value → List Stop}
    (hselects : ∀ s ∈ path, ∀ select, r.selectFor s.select = .ok select →
      select ∈ Select.library)
    (hdistinct : v.isDistinct)
    (hvisit : ∀ v : Value, v.isDistinct → Follows (visit v) v (arrive v)) :
    Follows (r.walk visit path v) v (r.way arrive path v) := by
  induction path generalizing v with
  | nil => exact hvisit v hdistinct
  | cons segment rest ih =>
    obtain ⟨hsegment, hrest⟩ := List.forall_mem_cons.mp hselects
    rw [walk_cons, way]
    refine follows_needing fun keys hkeys => Follows.passed ?_
    obtain ⟨hnodup, hagrees⟩ := agrees_of_keysOf hdistinct hsegment hkeys
    refine follows_inTurn hnodup (fun key _ => local_descend fun child hchild => ?_) hagrees
    refine follows_needing fun kept _ => ?_
    cases kept with
    | false => exact follows_found
    | true => exact ih hrest (Value.isDistinct_of_childAt hdistinct hchild)

/-- A run of an operation other than `unset` follows its itinerary. -/
theorem follows_run {c : Command} (hc : r.Supplies c) (hd : c.operation = some d)
    (hname : ∀ o, r.operationFor d = .ok o → o.name ≠ "unset") (hdistinct : v.isDistinct) :
    Follows (r.run c v) v (r.itinerary c v) := by
  rw [run, itinerary]
  cases hlast : c.path.getLast? with
  | none => exact follows_failed
  | some last =>
    refine follows_needing fun select hselect => follows_needing fun operation hoperation => ?_
    rw [hd] at hoperation
    obtain ⟨o, ho, rfl⟩ := map_eq_ok.mp hoperation
    have hselects (s : Segment) (hs : s ∈ c.path.dropLast) :=
      hc.selects s (List.dropLast_subset _ hs)
    refine follows_walk hselects hdistinct fun v hdistinct => ?_
    rw [applyLast_eq hselect, arrivals]
    refine follows_needing fun keys hkeys => Follows.passed ?_
    obtain ⟨hnodup, hagrees⟩ :=
      agrees_of_keysOf hdistinct (hc.selects last (List.mem_of_getLast? hlast)) hkeys
    rw [List.map_eq_flatMap]
    exact follows_inTurn hnodup
      (fun key _ => local_visitLast (hc.operation d hd o ho) (hname o ho)) hagrees

/-! ## Runs without a result -/

/-- A tree that stays as it is unless a result is reported. -/
def Unreported (v : Value) (hits : List Value) (w : Value) : Prop := hits = [] → w = v

theorem composes_unreported : Composes Unreported where
  refl _ _ := rfl
  trans first second hnil := by
    obtain ⟨hhits, hothers⟩ := List.append_eq_nil_iff.mp hnil
    rw [second hothers, first hhits]
  below hchild h hnil := by
    rw [h hnil]
    exact Value.replaceChild_eq_self hchild

theorem unreported_operated {done : Value × Except Error (Option Value)}
    (h : Operation.Spares v done) : (operated done).Tracks Unreported v := by
  intro hnil
  rw [tree_operated]
  refine h fun result hresult => ?_
  obtain ⟨left, outcome⟩ := done
  obtain rfl : outcome = .ok (some result) := hresult
  cases hnil

/-- The visit of a key writes nothing itself, and its operation nothing without a result. -/
theorem tracks_unreported {operation : Option (Operation × Directive)}
    (hatomic : ∀ o d, operation = some (o, d) → o.Atomic) :
    (r.visitLast predicate operation key v).Tracks Unreported v := by
  refine tracks_needing composes_unreported fun found _ =>
    tracks_needing composes_unreported fun kept _ => ?_
  cases kept with
  | false => exact tracks_found composes_unreported
  | true =>
    cases operation with
    | none => exact fun _ => rfl
    | some operation =>
      obtain ⟨o, d⟩ := operation
      exact unreported_operated (hatomic o d rfl d v key)

/-- A run in which no operation had a result leaves the tree as it was. -/
theorem tree_of_hits_nil {c : Command} (hc : r.Supplies c) (h : (r.run c v).hits = []) :
    (r.run c v).tree = v := by
  refine tracks_run_getLast? composes_unreported (fun last _ operation hoperation v keys _ =>
    tracks_inTurn composes_unreported fun key _ v => tracks_unreported ?_) h
  rintro o d rfl
  obtain ⟨hd, ho⟩ := operationOf_eq_some.mp hoperation
  exact Operation.atomic_of_library (hc.operation d hd o ho)

theorem executeCount_snd {c : Command} :
    (r.executeCount c v).2 = (r.executeResult c v).2.map List.length := rfl

/-- A run whose operation never had a result leaves the tree as it was, in particular one that
counts no place. A run that fails, of an operation other than `unset`, does so at the first stop of
the itinerary on the tree as it was that has a failure, with the same error; the subtrees at this
stop and at all stops behind it are left as they were. -/
theorem execute_unreported {c : Command} (hd : c.operation = some d) (hc : r.Supplies c)
    (hdistinct : v.isDistinct) :
    ((r.run c v).hits = [] → (r.executeCount c v).1 = v ∧ (r.executeResult c v).1 = v) ∧
      ((r.executeCount c v).2 = .ok 0 → (r.executeCount c v).1 = v) ∧
      ((∀ o, r.operationFor d = .ok o → o.name ≠ "unset") →
        ∀ e, (r.executeCount c v).2 = .error e ∨ (r.executeResult c v).2 = .error e →
          ∃ before stop behind, r.itinerary c v = before ++ stop :: behind ∧
            (∀ s ∈ before, s.failure = none) ∧ stop.failure = some e ∧
            ∀ s ∈ stop :: behind,
              (r.executeCount c v).1.at? s.location = v.at? s.location ∧
                (r.executeResult c v).1.at? s.location = v.at? s.location) := by
  refine ⟨fun h => ⟨tree_of_hits_nil hc h, tree_of_hits_nil hc h⟩, fun h => ?_,
    fun hname e he => ?_⟩
  · rw [executeCount_snd, map_eq_ok] at h
    obtain ⟨hits, hresult, hlength⟩ := h
    obtain ⟨-, -, hhits⟩ := executeResult_eq_ok.mp (Prod.ext rfl hresult)
    exact tree_of_hits_nil hc (hhits.trans (List.length_eq_zero_iff.mp hlength))
  · have hfailure := he.elim executeCount_eq_error.mp executeResult_eq_error.mp
    obtain ⟨hfails, hpending⟩ := follows_run hc hd hname hdistinct
    obtain ⟨before, stop, behind, hsplit, hstop, hbefore⟩ :=
      List.findSome?_eq_some_iff.mp (hfails.symm.trans hfailure)
    refine ⟨before, stop, behind, hsplit, hbefore, hstop, fun s hs => ?_⟩
    have hleft : (r.run c v).tree.at? s.location = v.at? s.location := by
      refine hpending s ?_
      rw [hsplit, List.dropWhile_append_of_pos (by simpa using hbefore),
        List.dropWhile_cons_of_neg (by simp [hstop])]
      exact hs
    exact ⟨hleft, hleft⟩

/-- A value is appended to the first of three children; the second one is no list, and there the
run ends. This child and the third one are left as they were. -/
theorem execute_unreported_append :
    let append : Directive := ⟨"append(true)", some "append", .value (.bool true)⟩
    let c : Command := ⟨[⟨⟨":each", some "each", .none⟩, none⟩,
      ⟨⟨"a", none, .key (.name "a")⟩, none⟩], some append⟩
    let tree : Value :=
      .list [.map [("a", .list [])], .map [("a", .bool false)], .map [("a", .list [])]]
    let next : Value :=
      .list [.map [("a", .list [.bool true])], .map [("a", .bool false)], .map [("a", .list [])]]
    let e : Error := Operation.unsuitedChild "append" .list (.bool false)
    builtin.executeCount c tree = (next, .error e) ∧
      (builtin.itinerary c tree).map Stop.location =
        [[], [.index 0], [.index 0, .name "a"], [.index 1], [.index 1, .name "a"],
          [.index 2], [.index 2, .name "a"]] ∧
      ∃ before stop behind, builtin.itinerary c tree = before ++ stop :: behind ∧
        (∀ s ∈ before, s.failure = none) ∧ stop.failure = some e ∧
        ∀ s ∈ stop :: behind, (builtin.executeCount c tree).1.at? s.location =
            tree.at? s.location ∧
          (builtin.executeResult c tree).1.at? s.location = tree.at? s.location := by
  intro append c tree next e
  have hrun : builtin.executeCount c tree = (next, .error e) := rfl
  have hfails : (builtin.executeCount c tree).2 = .error e := by rw [hrun]
  have hstops : (builtin.itinerary c tree).map Stop.location =
      [[], [.index 0], [.index 0, .name "a"], [.index 1], [.index 1, .name "a"],
        [.index 2], [.index 2, .name "a"]] := rfl
  have hname (o : Operation) (ho : builtin.operationFor append = .ok o) : o.name ≠ "unset" := by
    have happend : builtin.operationFor append = .ok .append := rfl
    obtain rfl := Except.ok.inj (happend.symm.trans ho)
    decide
  have hdistinct : tree.isDistinct := by decide
  have hsupplies := assembled_builtin.supplies c
  have hleft := (execute_unreported rfl hsupplies hdistinct).2.2 hname e (.inl hfails)
  exact ⟨hrun, hstops, hleft⟩

end Registry

end TreePath
