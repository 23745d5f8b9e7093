import TreePath.Proofs.Handler.Fitting
import TreePath.Proofs.Registry.Execute
import TreePath.Proofs.Run.Itinerary
import TreePath.Proofs.Run.Removal

/-!
# Keys that go on fitting during a run

The keys of a segment are given by a container as it is before any of them is visited, and each is
looked up in what the visits before it have left. No visit turns a list into a map or a map into a
list, and none makes a list shorter but one that takes an element out; the elements before that one
stay where they were. So all keys that the built-in selects give go on fitting their containers,
but for positions that were written in the path, and those that are left when the elements of a list
are taken out from the first to the last.
-/

namespace TreePath

open Run

/-- A bare segment that is a position. -/
def Directive.isPosition (d : Directive) : Bool :=
  match d.name, d.payload with
  | none, .key (.index _) => true
  | _, _ => false

namespace Command

/-- Some segment of the path is a position. -/
def hasPosition (c : Command) : Bool := c.path.any fun s => s.select.isPosition

/-- What the last segment selects from the first child to the last is taken out. -/
def unsetsForwards (c : Command) : Bool :=
  c.operation.any (·.name == some "unset") && c.path.getLast?.any (·.select.name == some "each")

end Command

namespace Registry

variable {r : Registry} {past : Prop} {o : Operation} {d : Directive}
  {predicate operation : Option Directive} {resolved : Option (Operation × Directive)}
  {c : Command} {s last : Segment} {path : List Segment} {v : Value} {key other : Key}
  {keys : List Key} {e : Error}

/-! ## Keys that are given -/

/-- The built-in selects give keys that fit, but for positions past the end that were written in
the path. -/
theorem fits_of_keysOf (hpast : d.isPosition → past) (h : builtin.keysOf d v = .ok keys)
    (hkey : key ∈ keys) : v.Fits past key := by
  have hsuits := suits_of_keysOf h hkey
  refine ⟨hsuits, ?_⟩
  obtain ⟨-, s, hs, h⟩ := keysOf_eq_ok.mp h
  rcases selectFor_builtin_cases hs with ⟨hname, rfl⟩ | hnamed
  · obtain ⟨own, hown, -, rfl⟩ := Select.literalKeys_eq_ok.mp h
    obtain rfl := List.mem_singleton.mp hkey
    cases key with
    | index i =>
      have hpayload : d.payload = .key (.index i) := by
        rw [Directive.key] at hown
        split at hown
        · next hpayload => rw [hpayload, Except.ok.inj hown]
        · cases hown
      exact .inl (hpast (by rw [Directive.isPosition, hname, hpayload]))
    | name t => exact .inr (.inl (by cases v <;> cases hsuits; rfl))
  · rcases Select.sublist_of_keys hnamed h with hsub | hsub
    · exact .inr (.inr (hsub.subset hkey))
    · exact .inr (.inr (List.mem_reverse.mp (hsub.subset hkey)))

/-- What is done below one key leaves all keys fitting. -/
theorem looksUp_fits : LooksUp (Error.Allowed past) (Value.Fits past) where
  found h := h.failsIn_child?
  descend h := h.mono kind_descend fun hown => by rwa [ownKeys_descend]

/-- Whatever is not built in is not found, and what is does not fail for the want of a container. -/
theorem handles_allowed : builtin.Handles (Error.Allowed past) s := by
  have hselect : FailsIn (Error.Allowed past) (builtin.selectFor s.select) := by
    simp only [selectFor]
    split
    · exact failsIn_ok
    · split
      · exact failsIn_ok
      · exact failsIn_allowed rfl rfl
  refine ⟨hselect, fun v => ?_, fun child => ?_⟩
  · rw [keysOf, Value.ensureContainer, Value.isLeaf]
    cases hv : v.isContainer with
    | false => exact failsIn_allowed rfl rfl
    | true => exact hselect.bind fun t ht => Select.failsIn_keys (library_of_selectFor ht) hv
  · cases s.predicate with
    | none => exact failsIn_ok
    | some d =>
      simp only [accepts, predicateFor]
      split
      · next p hp => exact (assembled_builtin.stocked.predicates _ p hp).1.failsIn_accepts
      · exact failsIn_allowed rfl rfl

theorem failsIn_operationOf : FailsIn (Error.Allowed past) (builtin.operationOf operation) := by
  cases operation with
  | none => exact failsIn_ok
  | some d =>
    refine FailsIn.map ?_
    simp only [operationFor]
    split
    · exact failsIn_ok
    · exact failsIn_allowed rfl rfl

/-! ## Keys of the last segment -/

theorem tree_visitLast_none : (r.visitLast last.predicate none key v).tree = v :=
  congrArg Prod.fst reads_visitLast

theorem tree_visitLast_unset (r : Registry) (predicate : Option Directive) (d : Directive)
    (v : Value) (key : Key) :
    (r.visitLast predicate (some (.unset, d)) key v).tree = v ∨
      ∃ child, v.childAt key = some child ∧
        (r.visitLast predicate (some (.unset, d)) key v).tree = v.removeChild key := by
  cases hfound : v.child? key with
  | error e => exact .inl (by simp [visitLast, hfound, needing, failed])
  | ok present =>
    cases present with
    | none =>
      left
      simp [visitLast, hfound, Operation.act_unset_of_absent hfound, needing]
    | some child =>
      have hchild := Value.childAt_of_child? hfound
      rw [visitLast_unset hchild]
      cases r.accepts predicate child with
      | error e => exact .inl rfl
      | ok kept =>
        cases kept with
        | false => exact .inl rfl
        | true => exact .inr ⟨child, hchild, rfl⟩

/-- The operation that takes children out is the one of that name. -/
theorem operationFor_unset (ho : builtin.operationFor d = .ok o) :
    o = .unset ∧ d.name = some "unset" ∨ o.name ≠ "unset" := by
  have hmem := operationFor_builtin ho
  simp only [List.mem_cons, Prod.mk.injEq, List.not_mem_nil, or_false] at hmem
  rcases hmem with ⟨-, rfl⟩ | ⟨-, rfl⟩ | ⟨hname, rfl⟩ | ⟨-, rfl⟩ | ⟨-, rfl⟩ | ⟨-, rfl⟩ | ⟨-, rfl⟩
  case inr.inr.inl =>
    left
    cases hd : d.name with
    | none => simp [hd] at hname
    | some name => simpa [hd] using hname
  all_goals exact .inr (by decide)

/-- A key goes on fitting when another one is visited, unless that takes a child out and moves the
child under the first one. -/
theorem fits_visitLast (hresolved : builtin.operationOf operation = .ok resolved)
    (hclears : operation.any (·.name == some "unset") →
      past ∨ v.kind = .map ∨ key.Clears other)
    (h : v.Fits past other) :
    (builtin.visitLast last.predicate resolved key v).tree.Fits past other := by
  cases resolved with
  | none => rwa [tree_visitLast_none]
  | some resolved =>
    obtain ⟨o, d⟩ := resolved
    obtain ⟨rfl, ho⟩ := operationOf_eq_some.mp hresolved
    rcases operationFor_unset ho with ⟨rfl, hname⟩ | hname
    · rcases tree_visitLast_unset builtin last.predicate d v key with hsame | ⟨child, hchild, hgone⟩
      · rwa [hsame]
      · rw [hgone]
        exact h.removeChild hchild (hclears (by simp [hname]))
    · have hlibrary := (Operation.library_of_operationFor ho).1
      have hlook : v.child? key = v.child? key := rfl
      obtain ⟨-, hsame | ⟨-, child, hput⟩⟩ :=
        visitLast_cases builtin last.predicate d hlibrary hname hlook
      · rwa [hsame]
      · rw [hput]
        exact h.putChild

/-- Taking out what is under a key of a segment moves no child under a later one, unless the
segment goes through a list from the first element to the last. -/
theorem pairwise_of_keysOf (hkeys : builtin.keysOf d v = .ok keys)
    (hforwards : d.name = some "each" → past) :
    keys.Pairwise fun key other => ∀ w : Value, w.suits other →
      past ∨ w.kind = .map ∨ key.Clears other := by
  by_cases hmap : v.kind = .map
  · refine List.pairwise_of_forall_mem_list fun _ _ other hother w hw => .inr (.inl ?_)
    rw [Value.kind_eq_of_suits (suits_of_keysOf hkeys hother) hw, hmap]
  · have hnodup : v.ownKeys.Nodup := by
      cases v with
      | list items => exact List.nodup_range.map fun _ _ => Key.index.inj
      | map entries => exact absurd rfl hmap
      | _ => exact List.nodup_nil
    by_cases heach : d.name = some "each"
    · exact List.pairwise_of_forall fun _ _ _ _ => .inl (hforwards heach)
    · exact (pairwise_clears hnodup hkeys (.inl heach)).imp fun hclears _ _ => .inr (.inr hclears)

/-! ## Commands -/

theorem handles_of_hasPosition (hposition : c.hasPosition → past) :
    ∀ s ∈ c.path, builtin.Handles (Error.Allowed past) s ∧
      builtin.GivesFitting (Value.Fits past) s := by
  refine fun s hs => ⟨handles_allowed, fun v keys hkeys key hkey => ?_⟩
  refine fits_of_keysOf (fun hs' => hposition ?_) hkeys hkey
  exact List.any_eq_true.mpr ⟨s, hs, hs'⟩

/-- Whatever is run, no key is met that does not suit its container, and positions past the end are
met only where they were written in the path or were left by taking out elements forwards. -/
theorem stopsIn_run_allowed (hne : c.path ≠ []) (hposition : c.hasPosition → past)
    (hforwards : c.unsetsForwards → past) : (builtin.run c v).StopsIn (Error.Allowed past) := by
  refine stopsIn_run_getLast? looksUp_fits hne (handles_of_hasPosition hposition)
    failsIn_operationOf fun last hlast operation hresolved v keys hkeys => ?_
  have hgives := (handles_of_hasPosition hposition last (List.mem_of_getLast? hlast)).2
  refine stopsIn_inTurn (Value.Fits past) (fun key _ v hkey => ?_) ?_ (hgives v keys hkeys)
  · refine stopsIn_visitLast hkey.failsIn_child? handles_allowed.accepts ?_
    rintro o d rfl
    obtain ⟨-, ho⟩ := operationOf_eq_some.mp hresolved
    exact Operation.failsIn_act (Operation.library_of_operationFor ho).1 hkey
  · by_cases hunset : c.operation.any (·.name == some "unset")
    · have heach (hname : last.select.name = some "each") : past :=
        hforwards (by simp [Command.unsetsForwards, hunset, hlast, hname])
      exact (pairwise_of_keysOf hkeys heach).imp fun hclears v _ hother =>
        fits_visitLast hresolved (fun _ => hclears v hother.suits) hother
    · exact List.pairwise_of_forall fun _ _ v _ hother =>
        fits_visitLast hresolved (fun h => absurd h hunset) hother

/-- The keys that segments select fit the containers they came from, whatever is done in between. No
run of a command that was read and no query of its path, or of its text, ends with a key that does
not suit its container, or with a select that wants a container and has none. A position past the
end of a list is met only if some segment is a position, or if `unset` follows a last segment
`:each`. -/
theorem keys_fit_of_parseCommand {text : String} (hc : builtin.parseCommand text = .ok c)
    (hend : builtin.EndsWith c v e ∨ builtin.getValues text v = .error e) :
    e.isMisfit = false ∧ (e.isOutOfBounds → c.hasPosition ∨ c.unsetsForwards) := by
  have hne : c.path ≠ [] := (readsCommand_of_readCommand hc).path_ne_nil
  have hrun : (builtin.run c v).StopsIn (Error.Allowed (c.hasPosition ∨ c.unsetsForwards)) :=
    stopsIn_run_allowed hne .inl .inr
  have hselected : FailsIn (Error.Allowed (c.hasPosition ∨ c.unsetsForwards))
      (builtin.selectValues c.path v) :=
    failsIn_selectValues looksUp_fits (Error.allowed rfl rfl) (handles_of_hasPosition .inl)
  have hallowed : e.Allowed (c.hasPosition ∨ c.unsetsForwards) := by
    rcases hend with (hcount | hresult | hquery) | hquery
    · exact hrun e (executeCount_eq_error.mp hcount)
    · exact hrun e (executeResult_eq_error.mp hresult)
    · exact hselected e hquery
    · rw [getValues, parsePath] at hquery
      rcases readPath_of_readCommand hc with hpath | ⟨fault, hpath⟩
      · rw [hpath] at hquery
        exact hselected e hquery
      -- A text with an operation is no path.
      · rw [hpath] at hquery
        obtain rfl := Except.error.inj hquery
        exact Error.allowed rfl rfl
  exact ⟨hallowed.isMisfit, hallowed.isOutOfBounds⟩

/-- Going forwards through a list of two, the second one is not found where it was. -/
theorem keys_fit_unset_each :
    let c : Command := ⟨[⟨⟨":each", some "each", .none⟩, none⟩],
      some ⟨"unset", some "unset", .none⟩⟩
    let tree : Value := .list [.bool true, .list []]
    let e : Error := .outOfBounds 1 1
    builtin.parseCommand "//:each!unset" = .ok c ∧
      builtin.executeCount c tree = (.list [.list []], .error e) ∧
      e.isMisfit = false ∧ (e.isOutOfBounds → c.hasPosition ∨ c.unsetsForwards) := by
  intro c tree e
  have hc : builtin.parseCommand "//:each!unset" = .ok c := rfl
  have hrun : builtin.executeCount c tree = (.list [.list []], .error e) := rfl
  have hend : builtin.EndsWith c tree e := .inl (by rw [hrun])
  exact ⟨hc, hrun, keys_fit_of_parseCommand hc (.inl hend)⟩

end Registry

end TreePath
