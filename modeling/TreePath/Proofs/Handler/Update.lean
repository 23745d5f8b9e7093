import TreePath.Proofs.Handler.Atomic
import TreePath.Proofs.Handler.Reading

/-!
# What the built-in operations do to one child

No operation changes the kind of the container it is done in. The updates, which are all of them
but `unset`, are put down as what becomes of the child under the key: an update that succeeds puts
that in, or leaves the container alone where nothing would change.
-/

namespace TreePath

variable {d : Directive} {v : Value} {key : Key} {change : Option Change}

/-- The built-in operation of a directive is the one of its name. -/
theorem Registry.operationFor_builtin {o : Operation}
    (h : Registry.builtin.operationFor d = .ok o) :
    (d.name.getD "", o) ∈ [("set", Operation.set), ("setIfAbsent", .setIfAbsent),
      ("unset", .unset), ("append", .append), ("appendIfAbsent", .appendIfAbsent),
      ("clear", .clear), ("times", .times)] := by
  simp only [Registry.operationFor] at h
  split at h
  · next o' ho =>
    cases h
    exact Registry.operation?_builtin.mp ho
  · cases h

namespace Operation

theorem reported_onChild_eq_ok {f : Value → Value × Except Error (Option Value)} :
    Change.reported (onChild v key f) = .ok change ↔
      v.child? key = .ok none ∧ change = none ∨
      ∃ child changed, v.child? key = .ok (some child) ∧
        Change.reported (f child) = .ok changed ∧
        change = changed.map fun c => ⟨v.replaceChild key c.container, c.result⟩ := by
  rw [onChild, Change.reported_needing_eq_ok]
  constructor
  · rintro ⟨found, hfound, h⟩
    cases found with
    | none => exact .inl ⟨hfound, (Except.ok.inj h).symm⟩
    | some child =>
      obtain ⟨outcome, houtcome, rfl⟩ := map_eq_ok.mp h
      refine .inr ⟨child, outcome.map fun result => ⟨(f child).1, result⟩, hfound, ?_, ?_⟩
      · exact map_eq_ok.mpr ⟨outcome, houtcome, rfl⟩
      · rw [Option.map_map]
        rfl
  · rintro (⟨hfound, rfl⟩ | ⟨child, changed, hfound, hchanged, rfl⟩)
    · exact ⟨none, hfound, rfl⟩
    · obtain ⟨outcome, houtcome, rfl⟩ := map_eq_ok.mp hchanged
      refine ⟨some child, hfound, map_eq_ok.mpr ⟨outcome, houtcome, ?_⟩⟩
      rw [Option.map_map]
      rfl

theorem store_eq {found : Option Value} {new : Value} (h : v.child? key = .ok found) :
    store v key new = (v.putChild key new, .ok ()) := by
  cases v <;> cases key <;> simp only [Value.child?, reduceCtorEq] at h
  · split at h
    · next hitem =>
      obtain ⟨hlt, -⟩ := List.getElem?_eq_some_iff.mp hitem
      simp [store, hlt, Value.putChild]
    · cases h
  · rfl

/-! ### Where there is no child -/

theorem onChild_of_absent {f : Value → Value × Except Error (Option Value)}
    (h : v.child? key = .ok none) : onChild v key f = (v, .ok none) := by
  rw [onChild, h]
  rfl

theorem act_unset_of_absent (h : v.child? key = .ok none) :
    unset.act d v key = (v, .ok none) := by
  obtain ⟨hsuits, habsent, hkind⟩ := Value.child?_eq_ok_iff.mp h
  cases v <;> cases key <;>
    simp only [Value.kind, Value.suits, reduceCtorEq, forall_const] at hkind hsuits
  simp only [Value.childAt] at habsent
  have hrest := Dict.erase_of_absent habsent
  simp only [Dict.erase] at hrest
  simp [unset, Dict.take_fst, habsent, hrest]

/-! ### Kinds -/

theorem kind_needing {α : Type} {needed : Except Error α}
    {next : α → Value × Except Error (Option Value)}
    (h : ∀ a, needed = .ok a → (next a).1.kind = v.kind) :
    (needing v needed next).1.kind = v.kind := by
  cases needed with
  | error e => rfl
  | ok a => exact h a rfl

theorem kind_onChild {f : Value → Value × Except Error (Option Value)} :
    (onChild v key f).1.kind = v.kind := by
  refine kind_needing fun found _ => ?_
  cases found with
  | none => rfl
  | some child => exact Value.kind_replaceChild

theorem kind_store {new : Value} : (store v key new).1.kind = v.kind := by
  cases v <;> cases key
  case list.index items i =>
    rw [store]
    split <;> rfl
  all_goals rfl

theorem kind_storeValue : (storeValue d v key).1.kind = v.kind :=
  kind_needing fun _ _ => kind_store

theorem kind_unset : (unset.act d v key).1.kind = v.kind := by
  cases v <;> cases key
  case list.index items i =>
    simp only [unset]
    split <;> rfl
  all_goals rfl

/-- Where an operation of the library is done, a list stays a list and a map stays a map. -/
theorem kind_act {o : Operation} (ho : o ∈ library) : (o.act d v key).1.kind = v.kind := by
  rcases mem_library.mp ho with rfl | rfl | rfl | rfl | rfl | rfl | rfl
  · exact kind_storeValue
  · refine kind_needing fun child _ => ?_
    split
    · rfl
    · exact kind_storeValue
  · exact kind_unset
  · exact kind_needing fun _ _ => kind_onChild
  · exact kind_needing fun _ _ => kind_onChild
  · exact kind_onChild
  · exact kind_needing fun _ _ => kind_onChild

/-! ## What is put in -/

variable {o : Operation} {found : Option Value}

/-- A change of a child, seen as one of the container that it is put in. -/
def putting (v : Value) (key : Key) (c : Change) : Change :=
  ⟨v.putChild key c.container, c.result⟩

theorem reported_onChild {f : Value → Value × Except Error (Option Value)}
    (h : v.child? key = .ok found) :
    Change.reported (onChild v key f) =
      (found.elim (.ok none) fun child => Change.reported (f child)).map
        (Option.map (putting v key)) := by
  rw [onChild, h, Change.reported_needing]
  cases found with
  | none => rfl
  | some child =>
    have hput (next : Value) : v.replaceChild key next = v.putChild key next :=
      (Value.putChild_eq_replaceChild (Value.childAt_of_child? h)).symm
    simp only [Except.bind, Option.elim_some, Change.reported, hput]
    rcases (f child).2 with e | _ | result <;> rfl

theorem reported_storeValue {d : Directive} (h : v.child? key = .ok found) :
    Change.reported (storeValue d v key) =
      (d.value.map fun new => some ⟨new, new⟩).map (Option.map (putting v key)) := by
  rw [storeValue, Change.reported_needing]
  cases d.value with
  | error e => rfl
  | ok new => simp [Except.bind, Except.map, store_eq h, putting]

/-- What an operation other than `unset` does at a key that can be looked up depends on what is
found there and on nothing else: it fails, or does nothing, or puts a child in. -/
theorem exists_putting (ho : o ∈ library) (hname : o.name ≠ "unset") (d : Directive) :
    ∃ change : Option Value → Except Error (Option Change),
      ∀ v key found, Value.child? v key = .ok found →
        o.operate d v key = (change found).map (Option.map (putting v key)) := by
  have hneeding {α : Type} (needed : Except Error α)
      (f : α → Value → Value × Except Error (Option Value)) :
      ∃ change : Option Value → Except Error (Option Change),
        ∀ v key found, Value.child? v key = .ok found →
          Change.reported (needing v needed fun a => onChild v key (f a)) =
            (change found).map (Option.map (putting v key)) := by
    refine ⟨fun found => needed.bind fun a =>
      found.elim (.ok none) fun child => Change.reported (f a child), ?_⟩
    intro v key found h
    rw [Change.reported_needing]
    cases needed with
    | error e => rfl
    | ok a => exact reported_onChild h
  rcases mem_library.mp ho with rfl | rfl | rfl | rfl | rfl | rfl | rfl
  · exact ⟨_, fun v key found h => reported_storeValue h⟩
  · refine ⟨fun found => if found.isSome then .ok none else d.value.map fun new => some ⟨new, new⟩,
      fun v key found h => ?_⟩
    simp only [operate, setIfAbsent, h, needing]
    split
    · rfl
    · exact reported_storeValue h
  · exact absurd rfl hname
  · exact hneeding d.value _
  · exact hneeding d.value _
  · exact ⟨_, fun v key found h => reported_onChild h⟩
  · exact hneeding d.number _

theorem library_of_operationFor (ho : Registry.builtin.operationFor d = .ok o) :
    o ∈ library ∧ d.name.getD "" = o.name := by
  have hmem := Registry.operationFor_builtin ho
  simp only [List.mem_cons, Prod.mk.injEq, List.not_mem_nil, or_false] at hmem
  rcases hmem with ⟨hname, rfl⟩ | ⟨hname, rfl⟩ | ⟨hname, rfl⟩ | ⟨hname, rfl⟩ | ⟨hname, rfl⟩ |
    ⟨hname, rfl⟩ | ⟨hname, rfl⟩ <;> exact ⟨by simp [library], hname⟩

/-- The operation of a directive that is not called `unset` is another one. -/
theorem name_ne_unset (ho : Registry.builtin.operationFor d = .ok o)
    (hname : d.name ≠ some "unset") : o.name ≠ "unset" := by
  intro heq
  obtain ⟨-, hnamed⟩ := library_of_operationFor ho
  cases hd : d.name with
  | none => simp [hd, heq] at hnamed
  | some name => exact hname (by simpa [hd, heq] using hnamed)

end Operation

/-- The operations that write at a key without taking anything out. -/
inductive Update where
  | set (v : Value)
  | setIfAbsent (v : Value)
  | append (v : Value)
  | appendIfAbsent (v : Value)
  | clear
  | times (factor : Binary .double)

namespace Update

def operation : Update → Operation
  | set _ => .set
  | setIfAbsent _ => .setIfAbsent
  | append _ => .append
  | appendIfAbsent _ => .appendIfAbsent
  | clear => .clear
  | times _ => .times

def payload : Update → Payload
  | set v | setIfAbsent v | append v | appendIfAbsent v => .value v
  | clear => .none
  | times factor => .number factor

/-- The directive of an update that was read from some text. -/
def directive (u : Update) (source : String) : Directive :=
  ⟨source, some u.operation.name, u.payload⟩

/-- What becomes of the child under a key. Without a child only the first two updates give one; a
child that an update does not suit becomes nothing. -/
def next? : Update → Option Value → Option Value
  | set v, _ => some v
  | setIfAbsent v, found => some (found.getD v)
  | append v, some (.list items) => some (.list (items ++ [v]))
  | appendIfAbsent v, some (.list items) =>
    some (.list (if items.any (·.equals v) then items else items ++ [v]))
  | clear, some (.list _) => some (.list [])
  | clear, some (.map _) => some (.map [])
  | times factor, some (.number n) => some (.number (n.times factor))
  | _, _ => none

theorem operationFor_directive (u : Update) (source : String) :
    Registry.builtin.operationFor (u.directive source) = .ok u.operation := by
  cases u <;> rfl

theorem atomic_operation (u : Update) : u.operation.Atomic :=
  Operation.atomic_of_library (Operation.library_of_operationFor (u.operationFor_directive "")).1

/-- A change, if there is one, puts in what becomes of the child. -/
def Makes (u : Update) (v : Value) (key : Key) : Option Change → Prop
  | none => u.next? (v.childAt key) = v.childAt key
  | some c => ∃ new, u.next? (v.childAt key) = some new ∧ c.container = v.putChild key new

theorem makes_of_onChild {u : Update} {f : Value → Value × Except Error (Option Value)}
    (habsent : u.next? none = none)
    (hpresent : ∀ child changed, Change.reported (f child) = .ok changed →
      u.next? (some child) = some ((changed.map Change.container).getD child))
    (h : Change.reported (Operation.onChild v key f) = .ok change) : u.Makes v key change := by
  rcases Operation.reported_onChild_eq_ok.mp h with
    ⟨hfound, rfl⟩ | ⟨child, changed, hfound, hchanged, rfl⟩
  · rw [Makes, Value.childAt_of_child? hfound, habsent]
  · have hchild := Value.childAt_of_child? hfound
    have hnext := hpresent child changed hchanged
    cases changed with
    | none => rw [Option.map_none, Makes, hchild, hnext, Option.map_none, Option.getD_none]
    | some changed =>
      rw [Option.map_some, Makes, hchild]
      exact ⟨_, hnext, (Value.putChild_eq_replaceChild hchild).symm⟩

theorem makes_of_storeValue {u : Update} {new : Value} {found : Option Value}
    (hvalue : d.value = .ok new) (hfound : v.child? key = .ok found)
    (hnext : u.next? found = some new)
    (h : Change.reported (Operation.storeValue d v key) = .ok change) : u.Makes v key change := by
  rw [Operation.reported_storeValue hfound, hvalue] at h
  obtain rfl := Except.ok.inj h
  exact ⟨new, by rw [Value.childAt_of_child? hfound, hnext], rfl⟩

/-- An update that succeeds at a key makes of the child there what becomes of it. -/
theorem makes_of_operate {u : Update} {source : String} {found : Option Value}
    (hfound : v.child? key = .ok found)
    (h : u.operation.operate (u.directive source) v key = .ok change) :
    u.Makes v key change := by
  cases u with
  | set new => exact makes_of_storeValue (d := (set new).directive source) rfl hfound rfl h
  | setIfAbsent new =>
    obtain ⟨child, hchild, h⟩ := Change.reported_needing_eq_ok.mp h
    obtain rfl : child = found := Except.ok.inj (hchild.symm.trans hfound)
    have hat := Value.childAt_of_child? hfound
    cases child with
    | none => exact makes_of_storeValue rfl hfound rfl h
    | some child =>
      obtain rfl : none = change := Except.ok.inj h
      rw [Makes, hat]
      rfl
  | append new =>
    refine makes_of_onChild rfl (fun child changed hchanged => ?_) h
    split at hchanged
    · cases hchanged
      rfl
    · cases hchanged
  | appendIfAbsent new =>
    refine makes_of_onChild rfl (fun child changed hchanged => ?_) h
    split at hchanged
    · split at hchanged <;> cases hchanged <;> simp_all [next?]
    · cases hchanged
  | clear =>
    refine makes_of_onChild rfl (fun child changed hchanged => ?_) h
    split at hchanged <;> cases hchanged <;> rfl
  | times factor =>
    refine makes_of_onChild rfl (fun child changed hchanged => ?_) h
    split at hchanged <;> cases hchanged
    rfl

/-- Setting always reports the value that was put in. -/
theorem result_of_set {new : Value} {source : String}
    (h : Operation.set.operate (directive (.set new) source) v key = .ok change) :
    ∃ container, change = some ⟨container, new⟩ := by
  obtain ⟨_, hnew, h⟩ := Change.reported_needing_eq_ok.mp h
  cases hnew
  obtain ⟨_, hstored, rfl⟩ := map_eq_ok.mp h
  obtain ⟨_, -, rfl⟩ := map_eq_ok.mp hstored
  exact ⟨_, rfl⟩

end Update

end TreePath
