import TreePath.Proofs.Handler.Update
import TreePath.Proofs.Run.Visit
import Mathlib.Data.List.Forall2
import Mathlib.Data.List.Perm.Basic

/-!
# The order of visits does not matter

Whether a child is kept, whether an operation on it succeeds and what it makes of it depend on the
child alone, and a visit changes nothing but its own child. So a command does the same whether it
goes through its lists forwards or backwards; only its results come in another order. Taking
elements out is the exception: it moves the elements behind, so there the last segment has to keep
its direction.
-/

namespace TreePath

/-- Directives of which one names the select of all children in order and the other the one that
goes through lists backwards. -/
def Directive.Turned (d d' : Directive) : Prop :=
  d.name = some "each" ∧ d'.name = some "eachr" ∨ d.name = some "eachr" ∧ d'.name = some "each"

/-- Segments that are the same, or differ only in the direction in which they go through lists. -/
def Segment.Turned (s s' : Segment) : Prop :=
  s' = s ∨ s.select.Turned s'.select ∧ s'.predicate = s.predicate

/-- Commands that differ only in the directions of some segments, the last one not among them if
the operation takes children out. -/
structure Command.Turned (c c' : Command) : Prop where
  path : List.Forall₂ Segment.Turned c.path c'.path
  operation : c'.operation = c.operation
  last : ∀ d ∈ c.operation, d.name = some "unset" → c'.path.getLast? = c.path.getLast?

/-- Runs that both fail, or both succeed with the same tree and the same hits in some order. -/
structure Run.Alike (a b : Run) : Prop where
  failure : a.failure = none ↔ b.failure = none
  tree : a.failure = none → a.tree = b.tree
  hits : a.failure = none → a.hits.Perm b.hits

namespace Run

variable {α : Type} {a b : Run} {sub sub' : Value → Run} {tree : Value} {keys keys' : List Key}

theorem Alike.refl : Alike a a := ⟨Iff.rfl, fun _ => rfl, fun _ => .refl _⟩

theorem alike_of_failure (ha : a.failure ≠ none) (hb : b.failure ≠ none) : Alike a b :=
  ⟨iff_of_false ha hb, fun h => absurd h ha, fun h => absurd h ha⟩

theorem alike_needing {needed : Except Error α} {next next' : α → Run}
    (h : ∀ x, needed = .ok x → Alike (next x) (next' x)) :
    Alike (needing tree needed next) (needing tree needed next') := by
  cases needed with
  | error e => exact .refl
  | ok x => exact h x rfl

/-- Going below the same keys in another order, with runs that are alike on each child, is alike. -/
theorem alike_inTurn_descend (hcontainer : tree.isContainer) (hown : tree.ownKeys.Nodup)
    (hnodup : keys.Nodup) (hperm : keys'.Perm keys)
    (hsub : ∀ key ∈ keys, ∀ child, tree.childAt key = some child → Alike (sub child) (sub' child)) :
    Alike (inTurn (descend sub) keys tree) (inTurn (descend sub') keys' tree) := by
  have hnodup' : keys'.Nodup := hperm.nodup_iff.mpr hnodup
  have hfailure : (inTurn (descend sub) keys tree).failure = none ↔
      (inTurn (descend sub') keys' tree).failure = none := by
    rw [inTurn_descend_failure hnodup, inTurn_descend_failure hnodup']
    simp only [hperm.mem_iff]
    refine forall₂_congr fun key hkey => and_congr_right fun _ => ?_
    exact forall₂_congr fun child hchild => (hsub key hkey child hchild).failure
  refine ⟨hfailure, fun h => ?_, fun h => ?_⟩
  · have first := descended_of_failure hnodup h
    have second := descended_of_failure hnodup' (hfailure.mp h)
    have hkind := first.kind.trans second.kind.symm
    have hkeys := first.ownKeys.trans second.ownKeys.symm
    refine Value.eq_of_childAt ?_ (second.ownKeys ▸ hown) hkind hkeys fun key => ?_
    · rwa [Value.isContainer, second.kind]
    · cases hchild : tree.childAt key with
      | none => rw [first.kept key fun _ => hchild, second.kept key fun _ => hchild]
      | some child =>
        by_cases hkey : key ∈ keys
        · obtain ⟨hsucceeds, hfirst⟩ := first.child key hkey child hchild
          obtain ⟨-, hsecond⟩ := second.child key (hperm.mem_iff.mpr hkey) child hchild
          rw [hfirst, hsecond, (hsub key hkey child hchild).tree hsucceeds]
        · have hkey' : key ∉ keys' := fun hmem => hkey (hperm.mem_iff.mp hmem)
          rw [first.kept key fun hmem => absurd hmem hkey,
            second.kept key fun hmem => absurd hmem hkey']
  · have first := descended_of_failure hnodup h
    have second := descended_of_failure hnodup' (hfailure.mp h)
    rw [first.hits, second.hits]
    refine List.Perm.flatMap hperm.symm fun key hkey => ?_
    cases hchild : tree.childAt key with
    | none => exact .refl _
    | some child =>
      obtain ⟨hsucceeds, -⟩ := first.child key hkey child hchild
      exact (hsub key hkey child hchild).hits hsucceeds

end Run

namespace Registry

open Run

variable {c c' : Command} {d d' : Directive} {segment segment' last last' : Segment}
  {path path' : List Segment} {keys : List Key} {v : Value}

/-! ## Turned segments -/

theorem Turned.symm (h : d.Turned d') : d'.Turned d := by
  rcases h with ⟨hd, hd'⟩ | ⟨hd, hd'⟩
  · exact .inr ⟨hd', hd⟩
  · exact .inl ⟨hd', hd⟩

/-- Turned directives select all children, one in some order and the other in another. -/
theorem keysOf_of_turned (h : d.Turned d') (hkeys : builtin.keysOf d v = .ok keys) :
    ∃ keys', builtin.keysOf d' v = .ok keys' ∧ keys'.Perm keys ∧ keys.Perm v.ownKeys := by
  rcases h with ⟨hd, hd'⟩ | ⟨hd, hd'⟩
  · obtain ⟨hcontainer, rfl⟩ := (keysOf_each hd).mp hkeys
    refine ⟨_, (keysOf_eachReversed hd').mpr ⟨hcontainer, rfl⟩, ?_, .refl _⟩
    split
    · exact List.reverse_perm _
    · exact .refl _
  · obtain ⟨hcontainer, rfl⟩ := (keysOf_eachReversed hd).mp hkeys
    refine ⟨_, (keysOf_each hd').mpr ⟨hcontainer, rfl⟩, ?_⟩
    split
    · exact ⟨(List.reverse_perm _).symm, List.reverse_perm _⟩
    · exact ⟨.refl _, .refl _⟩

/-- Where one of two turned directives selects keys, so does the other. -/
theorem alike_keys (h : d.Turned d') {next next' : List Key → Run}
    (hnext : ∀ keys keys', builtin.keysOf d v = .ok keys → builtin.keysOf d' v = .ok keys' →
      keys'.Perm keys → keys.Perm v.ownKeys → Alike (next keys) (next' keys')) :
    Alike (needing v (builtin.keysOf d v) next) (needing v (builtin.keysOf d' v) next') := by
  cases hkeys : builtin.keysOf d v with
  | ok keys =>
    obtain ⟨keys', hkeys', hperm, hown⟩ := keysOf_of_turned h hkeys
    rw [hkeys']
    exact hnext keys keys' hkeys hkeys' hperm hown
  | error e =>
    cases hkeys' : builtin.keysOf d' v with
    | error e' => exact alike_of_failure nofun nofun
    | ok keys' =>
      obtain ⟨keys, hok, -⟩ := keysOf_of_turned (Turned.symm h) hkeys'
      rw [hkeys] at hok
      cases hok

theorem alike_guarded {r : Registry} {predicate : Option Directive} {sub sub' : Value → Run}
    {child : Value} (h : Alike (sub child) (sub' child)) :
    Alike (r.guarded predicate sub child) (r.guarded predicate sub' child) := by
  refine alike_needing fun kept _ => ?_
  cases kept with
  | false => exact .refl
  | true => exact h

/-- Walks along turned paths are alike if their visits are. -/
theorem alike_walk {visit visit' : Value → Run}
    (hvisit : ∀ child, child.isDistinct → Alike (visit child) (visit' child))
    (hpath : List.Forall₂ Segment.Turned path path') (hdistinct : v.isDistinct) :
    Alike (builtin.walk visit path v) (builtin.walk visit' path' v) := by
  induction hpath generalizing v with
  | nil => exact hvisit v hdistinct
  | @cons segment segment' rest rest' hsegment _ ih =>
    have hown := Value.nodup_ownKeys hdistinct
    have hbelow (keys : List Key) (key : Key) (_ : key ∈ keys) (child : Value)
        (hchild : v.childAt key = some child) :
        Alike (builtin.guarded segment.predicate (builtin.walk visit rest) child)
          (builtin.guarded segment.predicate (builtin.walk visit' rest') child) :=
      alike_guarded (ih (Value.isDistinct_of_childAt hdistinct hchild))
    rw [walk_cons, walk_cons]
    rcases hsegment with rfl | ⟨hturned, hpredicate⟩
    · refine alike_needing fun keys hkeys => ?_
      exact alike_inTurn_descend (keysOf_eq_ok.mp hkeys).1 hown (nodup_of_keysOf hown hkeys)
        (.refl _) (hbelow keys)
    · rw [hpredicate]
      refine alike_keys hturned fun keys keys' hkeys _ hperm _ => ?_
      exact alike_inTurn_descend (keysOf_eq_ok.mp hkeys).1 hown (nodup_of_keysOf hown hkeys)
        hperm (hbelow keys)

/-! ## The last segment -/

/-- A run that puts a new value in the place of a child and reports a result, or leaves the child
as it is. -/
def changed (child : Value) : Option Change → Run
  | some c => .found c.container [c.result]
  | none => .found child []

/-- At a child that is there, the last segment does what depends on the child alone, unless the
child is taken out. -/
theorem exists_descend (predicate : Option Directive) {operation : Option Directive}
    {found : Option (Operation × Directive)} (hop : builtin.operationOf operation = .ok found)
    (hunset : ∀ d ∈ operation, d.name ≠ some "unset") :
    ∃ sub : Value → Run, ∀ key (v : Value), key ∈ v.ownKeys →
      builtin.visitLast predicate found key v = descend sub key v := by
  cases operation with
  | none =>
    cases hop
    refine ⟨builtin.guarded predicate fun child => .found child [child], fun key v hkey => ?_⟩
    obtain ⟨child, hchild⟩ := Value.mem_ownKeys_iff.mp hkey
    have hback := Value.replaceChild_eq_self hchild
    rw [visitLast_of_child hchild, descend_of_child hchild, guarded]
    cases builtin.accepts predicate child with
    | error e => simp [needing, failed, within, hback]
    | ok kept => cases kept <;> simp [needing, Run.found, within, hback]
  | some d =>
    obtain ⟨o, ho, rfl⟩ := map_eq_ok.mp hop
    have hlibrary := (Operation.library_of_operationFor ho).1
    obtain ⟨change, hchange⟩ :=
      Operation.exists_putting hlibrary (Operation.name_ne_unset ho (hunset d rfl)) d
    refine ⟨builtin.guarded predicate fun child =>
      needing child (change (some child)) (changed child), fun key v hkey => ?_⟩
    obtain ⟨child, hchild⟩ := Value.mem_ownKeys_iff.mp hkey
    have hback := Value.replaceChild_eq_self hchild
    have hput (next : Value) : v.putChild key next = v.replaceChild key next :=
      Value.putChild_eq_replaceChild hchild
    rw [visitLast_of_child hchild, descend_of_child hchild, guarded]
    cases builtin.accepts predicate child with
    | error e => simp [needing, failed, within, hback]
    | ok kept =>
      cases kept with
      | false => simp [needing, Run.found, within, hback]
      | true =>
        simp only [needing_ok, if_true]
        rw [operated_act (Operation.atomic_of_library hlibrary),
          hchange v key (some child) (Value.child?_of_childAt hchild)]
        cases change (some child) with
        | error e => simp [needing, Except.map, failed, within, hback]
        | ok change =>
          cases change <;>
            simp [Except.map, changed, Operation.putting, Run.found, within, hback, hput]

/-- Turned last segments are alike, unless children are taken out. -/
theorem alike_applyLast {select select' : Select} {operation : Option Directive}
    {found : Option (Operation × Directive)} (hop : builtin.operationOf operation = .ok found)
    (hunset : ∀ d ∈ operation, d.name ≠ some "unset")
    (hselect : builtin.selectFor last.select = .ok select)
    (hselect' : builtin.selectFor last'.select = .ok select')
    (hturned : last.select.Turned last'.select) (hpredicate : last'.predicate = last.predicate)
    (hdistinct : v.isDistinct) :
    Alike (builtin.applyLast select last found v) (builtin.applyLast select' last' found v) := by
  obtain ⟨sub, hsub⟩ := exists_descend last.predicate hop hunset
  have hown := Value.nodup_ownKeys hdistinct
  -- A visit leaves the keys of the container, so all of them are there when they are visited.
  have hdescend {keys : List Key} (hkeys : ∀ key ∈ keys, key ∈ v.ownKeys) :
      inTurn (builtin.visitLast last.predicate found) keys v = inTurn (descend sub) keys v := by
    refine inTurn_congr (fun t => t.ownKeys = v.ownKeys) (fun key hkey t ht => ?_) rfl
    have hvisit := hsub key t (ht ▸ hkeys key hkey)
    rw [hvisit]
    exact ⟨rfl, ownKeys_descend.trans ht⟩
  rw [applyLast_eq hselect, applyLast_eq hselect', hpredicate]
  refine alike_keys hturned fun keys keys' hkeys hkeys' hperm hall => ?_
  rw [hdescend fun key hkey => hall.mem_iff.mp hkey,
    hdescend fun key hkey => hall.mem_iff.mp (hperm.mem_iff.mp hkey)]
  exact alike_inTurn_descend (keysOf_eq_ok.mp hkeys).1 hown (nodup_of_keysOf hown hkeys) hperm
    fun _ _ _ _ => .refl

/-! ## Commands -/

/-- Paired lists have paired last members, and paired members before them. -/
theorem forall₂_getLast {α β : Type} {R : α → β → Prop} {left : List α} {right : List β} {a : α}
    (h : List.Forall₂ R left right) (hlast : left.getLast? = some a) :
    List.Forall₂ R left.dropLast right.dropLast ∧ ∃ b, right.getLast? = some b ∧ R a b := by
  induction h with
  | nil => cases hlast
  | cons hfirst hrest ih =>
    cases hrest with
    | nil =>
      obtain rfl := Option.some.inj hlast
      exact ⟨.nil, _, rfl, hfirst⟩
    | cons hnext hrest =>
      obtain ⟨hbefore, b, hb, hab⟩ := ih hlast
      exact ⟨.cons hfirst hbefore, b, hb, hab⟩

theorem selectFor_of_turned (h : d.Turned d') : ∃ select, builtin.selectFor d = .ok select := by
  rcases h with ⟨hd, -⟩ | ⟨hd, -⟩
  · exact ⟨.each, by rw [selectFor, hd]; rfl⟩
  · exact ⟨.eachReversed, by rw [selectFor, hd]; rfl⟩

theorem alike_run (h : c.Turned c') (hdistinct : v.isDistinct) :
    Alike (builtin.run c v) (builtin.run c' v) := by
  obtain ⟨path, operation⟩ := c
  obtain ⟨path', operation'⟩ := c'
  obtain ⟨hpath, hoperation, hunset⟩ := h
  obtain rfl : operation' = operation := hoperation
  cases hlast : path.getLast? with
  | none =>
    obtain rfl := List.getLast?_eq_none_iff.mp hlast
    cases hpath
    exact alike_of_failure nofun nofun
  | some last =>
    obtain ⟨hbefore, last', hlast', hturned⟩ := forall₂_getLast hpath hlast
    simp only [run, hlast, hlast']
    by_cases hsame : last' = last
    · subst hsame
      refine alike_needing fun select _ => alike_needing fun found _ => ?_
      exact alike_walk (fun child _ => .refl) hbefore hdistinct
    · have hunset' (d : Directive) (hd : d ∈ operation') : d.name ≠ some "unset" := fun hname =>
        hsame (Option.some.inj (hlast'.symm.trans ((hunset d hd hname).trans hlast)))
      obtain ⟨hselects, hpredicate⟩ := hturned.resolve_left hsame
      obtain ⟨select, hselect⟩ := selectFor_of_turned hselects
      obtain ⟨select', hselect'⟩ := selectFor_of_turned (Turned.symm hselects)
      rw [hselect, hselect', needing_ok, needing_ok]
      refine alike_needing fun found hop => ?_
      exact alike_walk (fun child hchild =>
        alike_applyLast hop hunset' hselect hselect' hselects hpredicate hchild) hbefore hdistinct

/-- Commands that differ only in the directions of segments succeed on the same trees, and leave
the same tree behind, with as many results: the same ones in some order. -/
theorem execute_turned (h : c.Turned c') (hdistinct : v.isDistinct) :
    ((∃ hits, (builtin.executeResult c v).2 = .ok hits) ↔
      ∃ hits, (builtin.executeResult c' v).2 = .ok hits) ∧
    ∀ w hits, builtin.executeResult c v = (w, .ok hits) →
      ∃ hits', builtin.executeResult c' v = (w, .ok hits') ∧ hits'.Perm hits ∧
        builtin.executeCount c v = (w, .ok hits.length) ∧
        builtin.executeCount c' v = (w, .ok hits.length) := by
  have halike := alike_run h hdistinct
  have hforward (w : Value) (hits : List Value)
      (hrun : builtin.executeResult c v = (w, .ok hits)) :
      ∃ hits', builtin.executeResult c' v = (w, .ok hits') ∧ hits'.Perm hits := by
    obtain ⟨hfailure, rfl, rfl⟩ := executeResult_eq_ok.mp hrun
    refine ⟨_, executeResult_eq_ok.mpr ⟨halike.failure.mp hfailure, ?_, rfl⟩, ?_⟩
    · exact (halike.tree hfailure).symm
    · exact (halike.hits hfailure).symm
  refine ⟨?_, fun w hits hrun => ?_⟩
  · rw [executeResult_isOk, executeResult_isOk]
    exact halike.failure
  · obtain ⟨hits', hrun', hperm⟩ := hforward w hits hrun
    refine ⟨hits', hrun', hperm, executeCount_of_executeResult hrun, ?_⟩
    rw [executeCount_of_executeResult hrun', hperm.length_eq]

/-- Emptying what stands in the lists of a list that are not empty leaves the same tree whether the
lists are gone through from the front or from the back; the two results change places. -/
theorem execute_turned_clear :
    let forwards : Segment :=
      ⟨⟨":each", some "each", .none⟩, some ⟨"~isEmpty", some "~isEmpty", .none⟩⟩
    let backwards : Segment :=
      ⟨⟨":eachr", some "eachr", .none⟩, some ⟨"~isEmpty", some "~isEmpty", .none⟩⟩
    let clear : Directive := ⟨"clear", some "clear", .none⟩
    let tree : Value :=
      .list [.list [.map [("a", .bool true)]], .list [], .list [.list [.bool false], .list []]]
    let next : Value := .list [.list [.map []], .list [], .list [.list [], .list []]]
    builtin.executeResult ⟨[forwards, forwards], some clear⟩ tree =
        (next, .ok [.map [], .list []]) ∧
      ∃ hits, builtin.executeResult ⟨[backwards, backwards], some clear⟩ tree =
          (next, .ok hits) ∧ hits.Perm [.map [], .list []] := by
  intro forwards backwards clear tree next
  have hsegment : Segment.Turned forwards backwards := .inr ⟨.inl ⟨rfl, rfl⟩, rfl⟩
  have hturned : Command.Turned ⟨[forwards, forwards], some clear⟩
      ⟨[backwards, backwards], some clear⟩ :=
    ⟨.cons hsegment (.cons hsegment .nil), rfl, by simp [clear]⟩
  have hrun : builtin.executeResult ⟨[forwards, forwards], some clear⟩ tree =
      (next, .ok [.map [], .list []]) := rfl
  obtain ⟨-, hforward⟩ := execute_turned hturned (v := tree) (by decide)
  obtain ⟨hits, hrun', hperm, -⟩ := hforward _ _ hrun
  exact ⟨hrun, hits, hrun', hperm⟩

end Registry

end TreePath
