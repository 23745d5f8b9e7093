import TreePath.Proofs.Registry.Assembled
import TreePath.Proofs.Run.Track

/-!
# Commands with handlers that are not registered

A command may name handlers that the registry it is run with does not have. The select of the last
segment and the operation are looked up before anything is visited, and every other segment is
followed by reading alone. Only the predicate of the last segment is asked between two changes, and
only where there is a child: an operation that puts in what is absent gets past it.
-/

namespace TreePath

namespace Operation

variable {o : Operation} {d : Directive}

/-- An operation changes a container at a key under which there is nothing, whatever comes of
it. -/
def Inserts (o : Operation) (d : Directive) : Prop :=
  ∃ v key, v.child? key = .ok none ∧ (o.act d v key).1 ≠ v

theorem operand_of_storeValue {v : Value} {key : Key} (h : (storeValue d v key).1 ≠ v) :
    ∃ new, d.value = .ok new := by
  cases hvalue : d.value with
  | error e => exact absurd (by rw [storeValue, hvalue]; rfl) h
  | ok new => exact ⟨new, rfl⟩

/-- An operation that sets a value inserts wherever its operand is one. -/
theorem inserts_of_empty {new : Value} (hoperand : d.value = .ok new)
    (ho : o.act d (.map []) (.name "") = storeValue d (.map []) (.name "")) : o.Inserts d := by
  refine ⟨.map [], .name "", rfl, ?_⟩
  rw [ho, storeValue, hoperand]
  intro h
  cases h

/-- Of the operations of the library two insert, those that set a value. -/
theorem inserts_iff (ho : o ∈ library) :
    o.Inserts d ↔ (o = set ∨ o = setIfAbsent) ∧ ∃ new, d.value = .ok new := by
  constructor
  · rintro ⟨v, key, habsent, hchanged⟩
    have honChild {f : Value → Value × Except Error (Option Value)} : (onChild v key f).1 = v :=
      congrArg Prod.fst (onChild_of_absent habsent)
    have hneeding {α : Type} {needed : Except Error α}
        {f : α → Value → Value × Except Error (Option Value)} :
        (needing v needed fun a => onChild v key (f a)).1 = v := by
      cases needed with
      | error e => rfl
      | ok a => exact honChild
    rcases mem_library.mp ho with rfl | rfl | rfl | rfl | rfl | rfl | rfl
    · exact ⟨.inl rfl, operand_of_storeValue hchanged⟩
    · have hstores : setIfAbsent.act d v key = storeValue d v key := by
        simp [setIfAbsent, habsent, needing]
      exact ⟨.inr rfl, operand_of_storeValue (hstores ▸ hchanged)⟩
    · exact absurd (congrArg Prod.fst (act_unset_of_absent habsent)) hchanged
    · exact absurd hneeding hchanged
    · exact absurd hneeding hchanged
    · exact absurd honChild hchanged
    · exact absurd hneeding hchanged
  · rintro ⟨hset, new, hnew⟩
    rcases hset with rfl | rfl
    · exact inserts_of_empty hnew rfl
    · exact inserts_of_empty hnew rfl

end Operation

namespace Registry

open Run

variable {r : Registry} {c : Command} {d p : Directive} {s : Segment} {path : List Segment}
  {v tree : Value} {key : Key}

/-! ## Handlers that are not there -/

def LacksSelect (r : Registry) (d : Directive) : Prop :=
  ∃ name, d.name = some name ∧ r.select? name = none

def LacksPredicate (r : Registry) (d : Directive) : Prop :=
  r.predicate? (d.name.getD "") = none

def LacksOperation (r : Registry) (d : Directive) : Prop :=
  r.operation? (d.name.getD "") = none

/-- A handler of a command is not there. -/
inductive Lacks (r : Registry) (c : Command) : Prop
  | select {s : Segment} (hs : s ∈ c.path) (h : r.LacksSelect s.select)
  | predicate {s : Segment} {p : Directive} (hs : s ∈ c.path) (hp : s.predicate = some p)
      (h : r.LacksPredicate p)
  | operation {d : Directive} (hd : c.operation = some d) (h : r.LacksOperation d)

/-- A handler of a command is not there, and it is not the predicate of the last segment. -/
inductive LacksEarly (r : Registry) (c : Command) : Prop
  | select {s : Segment} (hs : s ∈ c.path) (h : r.LacksSelect s.select)
  | predicate {s : Segment} {p : Directive} (hs : s ∈ c.path.dropLast) (hp : s.predicate = some p)
      (h : r.LacksPredicate p)
  | operation {d : Directive} (hd : c.operation = some d) (h : r.LacksOperation d)

/-- The predicate of the last segment is not there. -/
def LacksLastPredicate (r : Registry) (c : Command) : Prop :=
  ∃ last p, c.path.getLast? = some last ∧ last.predicate = some p ∧ r.LacksPredicate p

/-- The operation of a directive is one that inserts. -/
def Inserts (r : Registry) (d : Directive) : Prop :=
  ∃ o, r.operationFor d = .ok o ∧ o.Inserts d

/-- The tree after a command is the one before, whatever is asked for. -/
def Leaves (r : Registry) (c : Command) (tree : Value) : Prop :=
  (r.executeCount c tree).1 = tree ∧ (r.executeResult c tree).1 = tree

theorem mem_dropLast_or_getLast? (hs : s ∈ path) :
    s ∈ path.dropLast ∨ path.getLast? = some s := by
  have hne : path ≠ [] := List.ne_nil_of_mem hs
  rw [← List.dropLast_append_getLast hne, List.mem_append, List.mem_singleton] at hs
  rw [List.getLast?_eq_getLast_of_ne_nil hne, Option.some.injEq]
  exact hs.imp_right Eq.symm

theorem Lacks.early_or_last (h : r.Lacks c) : r.LacksEarly c ∨ r.LacksLastPredicate c := by
  cases h with
  | select hs h => exact .inl (.select hs h)
  | operation hd h => exact .inl (.operation hd h)
  | predicate hs hp h =>
    rcases mem_dropLast_or_getLast? hs with hparent | hlast
    · exact .inl (.predicate hparent hp h)
    · exact .inr ⟨_, _, hlast, hp, h⟩

theorem keysOf_ne_ok {keys : List Key} (h : r.LacksSelect d) : r.keysOf d v ≠ .ok keys := by
  intro hkeys
  obtain ⟨name, hname, hnone⟩ := h
  simp only [keysOf, bind_eq_ok, selectFor, hname, hnone] at hkeys
  obtain ⟨_, -, _, hselect, -⟩ := hkeys
  cases hselect

theorem accepts_ne_ok {kept : Bool} (h : r.LacksPredicate p) : r.accepts (some p) v ≠ .ok kept := by
  intro hkept
  rw [LacksPredicate] at h
  simp only [accepts, predicateFor, h, bind_eq_ok] at hkept
  obtain ⟨_, hpredicate, -⟩ := hkept
  cases hpredicate

theorem operationOf_ne_ok {operation : Option (Operation × Directive)} (h : r.LacksOperation d) :
    r.operationOf (some d) ≠ .ok operation := by
  intro hoperation
  rw [LacksOperation] at h
  simp only [operationOf, operationFor, h, map_eq_ok] at hoperation
  obtain ⟨_, hfound, -⟩ := hoperation
  cases hfound

/-! ## Runs that leave the tree -/

/-- Nothing is changed, whatever is reported. -/
def Same (v : Value) (_ : List Value) (w : Value) : Prop := w = v

theorem composes_same : Composes Same where
  refl _ := rfl
  trans := by
    rintro u v w hits others rfl rfl
    rfl
  below := by
    rintro v key child hits next hchild rfl
    exact Value.replaceChild_eq_self hchild

theorem leaves_iff : r.Leaves c tree ↔ (r.run c tree).tree = tree := and_self_iff

/-- No child is gone into below a segment whose select or predicate is not there. The segments
before it are followed without a change. -/
theorem tree_walk_of_lacks {visit : Value → Run} (hs : s ∈ path)
    (h : r.LacksSelect s.select ∨ ∃ p, s.predicate = some p ∧ r.LacksPredicate p) :
    (r.walk visit path v).tree = v := by
  induction path generalizing v with
  | nil => cases hs
  | cons segment rest ih =>
    rw [walk_cons]
    show Tracks _ Same v
    refine tracks_needing composes_same fun keys hkeys =>
      tracks_inTurn composes_same fun key _ v => tracks_descend composes_same fun child =>
        tracks_needing composes_same fun kept hkept => ?_
    cases kept with
    | false => exact tracks_found composes_same
    | true =>
      rcases List.mem_cons.mp hs with rfl | hrest
      · rcases h with hselect | ⟨p, hp, hlacks⟩
        · exact absurd hkeys (keysOf_ne_ok hselect)
        · rw [hp] at hkept
          exact absurd hkept (accepts_ne_ok hlacks)
      · exact ih hrest

/-- Of the segments before the last one nothing is missing, or the last one is not reached. -/
theorem tree_run_of_lacks_parent (hs : s ∈ c.path.dropLast)
    (h : r.LacksSelect s.select ∨ ∃ p, s.predicate = some p ∧ r.LacksPredicate p) :
    (r.run c tree).tree = tree := by
  rw [run]
  split
  · rfl
  · show Tracks _ Same tree
    exact tracks_needing composes_same fun _ _ => tracks_needing composes_same fun _ _ =>
      tree_walk_of_lacks hs h

theorem LacksEarly.leaves (h : r.LacksEarly c) : r.Leaves c tree := by
  rw [leaves_iff]
  cases h with
  | @select s hs hlacks =>
    rcases mem_dropLast_or_getLast? hs with hparent | hlast
    · exact tree_run_of_lacks_parent hparent (.inl hlacks)
    · refine tracks_run_getLast? composes_same fun last hlast' _ _ v keys hkeys => ?_
      obtain rfl := Option.some.inj (hlast.symm.trans hlast')
      exact absurd hkeys (keysOf_ne_ok hlacks)
  | predicate hs hp hlacks => exact tree_run_of_lacks_parent hs (.inr ⟨_, hp, hlacks⟩)
  | operation hd hlacks =>
    refine tracks_run_getLast? composes_same fun _ _ _ hoperation => ?_
    rw [hd] at hoperation
    exact absurd hoperation (operationOf_ne_ok hlacks)

/-- Where its predicate is not there the last segment changes nothing at a key under which there is
a child. -/
theorem tree_visitLast_of_lacks {operation : Option (Operation × Directive)}
    (h : r.LacksPredicate p)
    (hinserts : ∀ o d, operation = some (o, d) → ¬ o.Inserts d) :
    (r.visitLast (some p) operation key v).tree = v := by
  show Tracks _ Same v
  refine tracks_needing composes_same fun present hpresent =>
    tracks_needing composes_same fun kept hkept => ?_
  cases present with
  | some child => exact absurd hkept (accepts_ne_ok h)
  | none =>
    obtain rfl := Except.ok.inj hkept
    cases operation with
    | none => exact tracks_found composes_same
    | some resolved =>
      obtain ⟨o, d⟩ := resolved
      show (operated (o.act d v key)).tree = v
      rw [tree_operated]
      by_contra hchanged
      exact hinserts o d rfl ⟨v, key, hpresent, hchanged⟩

theorem LacksLastPredicate.leaves (h : r.LacksLastPredicate c)
    (hinserts : ∀ d, c.operation = some d → ¬ r.Inserts d) : r.Leaves c tree := by
  obtain ⟨last, p, hlast, hp, hlacks⟩ := h
  rw [leaves_iff]
  refine tracks_run_getLast? composes_same fun last' hlast' operation hoperation v keys _ =>
    tracks_inTurn composes_same fun key _ v => ?_
  obtain rfl := Option.some.inj (hlast.symm.trans hlast')
  rw [hp]
  apply tree_visitLast_of_lacks hlacks
  rintro o d rfl hinsert
  obtain ⟨hd, ho⟩ := operationOf_eq_some.mp hoperation
  exact hinserts d hd ⟨o, ho, hinsert⟩

/-! ## Runs that get past a predicate -/

/-- A bare segment names the key under which there is nothing, and the predicate is not asked. -/
theorem not_leaves_of_inserts (hdefault : r.defaultSelect = .literal) (hinserts : r.Inserts d) :
    ∃ select tree, ¬ r.Leaves ⟨[⟨select, some p⟩], some d⟩ tree := by
  obtain ⟨o, ho, v, key, habsent, hchanged⟩ := hinserts
  obtain ⟨hsuits, -, -⟩ := Value.child?_eq_ok_iff.mp habsent
  let last : Segment := ⟨⟨"", none, .key key⟩, some p⟩
  have hselect : r.selectFor last.select = .ok .literal := congrArg Except.ok hdefault
  have hliteral : Select.literalKeys last.select v = .ok [key] :=
    Select.literalKeys_eq_ok.mpr ⟨key, rfl, hsuits, rfl⟩
  have hkeys : r.keysOf last.select v = .ok [key] :=
    keysOf_eq_ok.mpr ⟨Value.isContainer_of_suits hsuits, _, hselect, hliteral⟩
  have hvisit : r.visitLast last.predicate (some (o, d)) key v = operated (o.act d v key) := by
    simp only [visitLast, habsent, needing_ok, Bool.not_true, Bool.false_eq_true, if_false]
  have hlast : r.applyLast .literal last (some (o, d)) v = operated (o.act d v key) := by
    rw [applyLast_eq hselect, hkeys, needing_ok, inTurn, hvisit]
    exact andThen_found
  have hrun : (r.run ⟨[last], some d⟩ v).tree = (o.act d v key).1 := by
    simp only [run, List.getLast?_singleton, hselect, operationOf, ho, Except.map, needing_ok,
      List.dropLast_singleton, walk, hlast, tree_operated]
  refine ⟨last.select, v, fun hleaves => hchanged ?_⟩
  exact hrun.symm.trans (leaves_iff.mp hleaves)

theorem Assembled.inserts_iff (h : r.Assembled) :
    r.Inserts d ↔ ∃ o, r.operationFor d = .ok o ∧
      (o = .set ∨ o = .setIfAbsent) ∧ ∃ new, d.value = .ok new := by
  refine exists_congr fun o => and_congr_right fun ho => Operation.inserts_iff ?_
  rw [operationFor] at ho
  split at ho
  · next found hfound =>
    obtain rfl := Except.ok.inj ho
    exact (h.stocked.operations _ _ hfound).1
  · cases ho

/-- Of a command some handler of which is not there nothing is done, with one exception: that it is
the predicate of the last segment alone and that the operation inserts. The exception is real, for
every such predicate and every such operation. The operations of the library that insert are those
that set a value. -/
theorem leaves_of_lacks :
    (∀ c, r.Lacks c → (r.LacksEarly c ∨ ∀ d, c.operation = some d → ¬ r.Inserts d) →
      ∀ tree, r.Leaves c tree) ∧
    (r.defaultSelect = .literal → ∀ p d, r.LacksPredicate p → r.Inserts d →
      ∃ c tree, c.operation = some d ∧ r.Lacks c ∧ ¬ r.Leaves c tree) ∧
    (r.Assembled → ∀ d, r.Inserts d ↔ ∃ o, r.operationFor d = .ok o ∧
      (o = .set ∨ o = .setIfAbsent) ∧ ∃ new, d.value = .ok new) := by
  refine ⟨fun c hlacks hcase tree => ?_, fun hdefault p d hp hinserts => ?_, fun hr d => ?_⟩
  · rcases hlacks.early_or_last with hearly | hlast
    · exact hearly.leaves
    · rcases hcase with hearly | hnever
      · exact hearly.leaves
      · exact hlast.leaves hnever
  · obtain ⟨select, tree, hchanged⟩ := not_leaves_of_inserts (p := p) hdefault hinserts
    exact ⟨_, tree, rfl, .predicate List.mem_cons_self rfl hp, hchanged⟩
  · exact hr.inserts_iff

/-- The library reads a command with a predicate that a registry with two handlers does not have.
The predicate is not missed in a map without the name, be it the only one or the first of two. -/
theorem changes_without_predicate :
    let r := (empty.withSelect .each).withOperation .set
    (∃ c, builtin.parseCommand "//x#isEmpty!set(true)" = .ok c ∧ r.Lacks c ∧
      r.executeCount c (.map []) = (.map [("x", .bool true)], .ok 1)) ∧
    ∃ c, builtin.parseCommand "//:each/a#isEmpty!set(true)" = .ok c ∧ r.Lacks c ∧
      r.executeCount c (.list [.map [], .map [("a", .list [])]]) =
        (.list [.map [("a", .bool true)], .map [("a", .list [])]],
          .error (unknown .predicate "isEmpty")) := by
  intro r
  refine ⟨⟨_, rfl, ?_, rfl⟩, ⟨_, rfl, ?_, rfl⟩⟩
  · exact .predicate List.mem_cons_self rfl rfl
  · exact .predicate (List.mem_cons_of_mem _ List.mem_cons_self) rfl rfl

/-- The same registry misses the predicate of a segment that is not the last one before anything is
changed; of the last segment it does not have to be asked. -/
theorem leaves_of_lacks_each :
    let r := (empty.withSelect .each).withOperation .set
    let p : Directive := ⟨"isEmpty", some "isEmpty", .none⟩
    let d : Directive := ⟨"set(true)", some "set", .value (.bool true)⟩
    let c : Command :=
      ⟨[⟨⟨":each", some "each", .none⟩, some p⟩, ⟨⟨"a", none, .key (.name "a")⟩, none⟩], some d⟩
    r.Assembled ∧ r.Lacks c ∧ (∀ tree, r.Leaves c tree) ∧ r.LacksPredicate p ∧ r.Inserts d ∧
      ∃ c tree, c.operation = some d ∧ r.Lacks c ∧ ¬ r.Leaves c tree := by
  intro r p d c
  have hr : r.Assembled := (Assembled.empty.withSelect (by simp [Select.library])).withOperation
    (by simp [Operation.library])
  have hearly : r.LacksEarly c := .predicate List.mem_cons_self rfl rfl
  have hlacks : r.Lacks c := .predicate List.mem_cons_self rfl rfl
  have hp : r.LacksPredicate p := rfl
  have hinserts : r.Inserts d :=
    (leaves_of_lacks.2.2 hr d).mpr ⟨.set, rfl, .inl rfl, .bool true, rfl⟩
  exact ⟨hr, hlacks, leaves_of_lacks.1 c hlacks (.inl hearly), hp, hinserts,
    leaves_of_lacks.2.1 rfl p d hp hinserts⟩

end Registry

end TreePath
