import TreePath.Proofs.Grammar.Append
import TreePath.Proofs.Grammar.Parts
import TreePath.Proofs.Run.Compose

/-!
# A predicate and its negation

A predicate and its negation part the nodes that a path leads to: they fail together, and where
neither of them fails, each node is kept by one of them. So what a path goes on to select from the
nodes of the one and of the other are two parts of what it selects without a predicate, in the same
order. A path that goes on may fail below nodes that only one of the two keeps, so this needs both
to succeed.
-/

namespace TreePath

/-- Two lists that a third one is put together from, keeping the order of both. -/
inductive Interleaves {α : Type} : List α → List α → List α → Prop
  | nil : Interleaves [] [] []
  | left {a : α} {xs ys zs : List α} (h : Interleaves xs ys zs) :
      Interleaves (a :: xs) ys (a :: zs)
  | right {a : α} {xs ys zs : List α} (h : Interleaves xs ys zs) :
      Interleaves xs (a :: ys) (a :: zs)

namespace Interleaves

variable {α : Type} {xs ys zs xs' ys' zs' : List α}

theorem left_alone : Interleaves xs [] xs := by
  induction xs with
  | nil => exact .nil
  | cons a xs ih => exact .left ih

theorem right_alone : Interleaves [] ys ys := by
  induction ys with
  | nil => exact .nil
  | cons a ys ih => exact .right ih

theorem append (h : Interleaves xs ys zs) (h' : Interleaves xs' ys' zs') :
    Interleaves (xs ++ xs') (ys ++ ys') (zs ++ zs') := by
  induction h with
  | nil => exact h'
  | left _ ih => exact .left ih
  | right _ ih => exact .right ih

theorem length_eq (h : Interleaves xs ys zs) : zs.length = xs.length + ys.length := by
  induction h with
  | nil => rfl
  | left _ ih => rw [List.length_cons, List.length_cons, ih, Nat.add_right_comm]
  | right _ ih => rw [List.length_cons, List.length_cons, ih, Nat.add_assoc]

end Interleaves

/-- Both results are there, or both fail with one error. -/
inductive EndAlike {α : Type} : Except Error α → Except Error α → Prop
  | ok (a b : α) : EndAlike (.ok a) (.ok b)
  | error (e : Error) : EndAlike (.error e) (.error e)

namespace EndAlike

variable {α β : Type} {x y : Except Error α}

theorem map {f g : α → β} (h : EndAlike x y) : EndAlike (x.map f) (y.map g) := by
  cases h with
  | ok a b => exact .ok (f a) (g b)
  | error e => exact .error e

theorem bind {f g : α → Except Error β} (h : EndAlike x y) (hf : ∀ a b, EndAlike (f a) (g b)) :
    EndAlike (x.bind f) (y.bind g) := by
  cases h with
  | ok a b => exact hf a b
  | error e => exact .error e

/-- Two chains with their first step in common. -/
theorem bind_left {f g : α → Except Error β} (hf : ∀ a, EndAlike (f a) (g a)) :
    EndAlike (x.bind f) (x.bind g) := by
  cases x with
  | ok a => exact hf a
  | error e => exact .error e

end EndAlike

/-- If two results are there, so is a third one, and they are the two parts of it. -/
def Parts {α : Type} (x y z : Except Error (List α)) : Prop :=
  ∀ xs ys, x = .ok xs → y = .ok ys → ∃ zs, z = .ok zs ∧ Interleaves xs ys zs

namespace Registry

variable {r : Registry} {front rest : List Segment} {select d d' : Directive} {v : Value}
  {nodes : List Value} {key : Key} {keys : List Key}

/-- The second of two predicates rejects what the first one accepts, and fails where it fails. -/
def Opposite (r : Registry) (d d' : Directive) : Prop :=
  ∀ child, r.accepts (some d') child = (r.accepts (some d) child).map (!·)

/-! ## Ends -/

theorem endAlike_gather {find other : Key → Except Error (List Value)}
    (h : ∀ key, EndAlike (find key) (other key)) :
    EndAlike (gather find keys) (gather other keys) := by
  induction keys with
  | nil => exact .ok [] []
  | cons key keys ih =>
    rw [gather, gather]
    exact (h key).bind fun _ _ => ih.map

/-- Two paths whose first segments select the same keys end alike if they do so from each child
on. -/
theorem endAlike_cons {predicate other : Option Directive} {others : List Segment}
    (h : ∀ child, EndAlike (r.kept predicate (r.valuesAt rest) child)
      (r.kept other (r.valuesAt others) child)) :
    EndAlike (r.valuesAt (⟨select, predicate⟩ :: rest) v)
      (r.valuesAt (⟨select, other⟩ :: others) v) := by
  rw [valuesAt_cons, valuesAt_cons]
  refine EndAlike.bind_left fun keys => endAlike_gather fun key => ?_
  refine EndAlike.bind_left fun found => ?_
  cases found with
  | none => exact .ok [] []
  | some child => exact h child

/-- By induction on the segments in front of the two predicates, which lead to the same
children. -/
theorem endAlike_valuesAt (h : r.Opposite d d') :
    EndAlike (r.valuesAt (front ++ [⟨select, some d⟩]) v)
      (r.valuesAt (front ++ [⟨select, some d'⟩]) v) := by
  induction front generalizing v with
  | nil =>
    refine endAlike_cons fun child => ?_
    simp only [kept, h child]
    cases r.accepts (some d) child with
    | error e => exact .error e
    | ok kept => cases kept <;> exact .ok _ _
  | cons segment front ih =>
    refine endAlike_cons fun child => EndAlike.bind_left fun kept => ?_
    cases kept with
    | false => exact .ok [] []
    | true => exact ih

/-! ## Parts -/

theorem parts_gather {find other all : Key → Except Error (List Value)}
    (h : ∀ key, Parts (find key) (other key) (all key)) :
    Parts (gather find keys) (gather other keys) (gather all keys) := by
  induction keys with
  | nil =>
    rintro xs ys ⟨⟩ ⟨⟩
    exact ⟨[], rfl, .nil⟩
  | cons key keys ih =>
    intro xs ys hxs hys
    obtain ⟨here, more, hhere, hmore, rfl⟩ := gather_cons_eq_ok.mp hxs
    obtain ⟨here', more', hhere', hmore', rfl⟩ := gather_cons_eq_ok.mp hys
    obtain ⟨first, hfirst, hparts⟩ := h key here here' hhere hhere'
    obtain ⟨others, hothers, hmoreParts⟩ := ih more more' hmore hmore'
    exact ⟨first ++ others, gather_cons_eq_ok.mpr ⟨_, _, hfirst, hothers, rfl⟩,
      hparts.append hmoreParts⟩

/-- A child that is there is kept by one of the two predicates, and what is found from it on is
found on that side. -/
theorem parts_valuesUnder (h : r.Opposite d d') :
    Parts (r.valuesUnder ⟨select, some d⟩ rest v key) (r.valuesUnder ⟨select, some d'⟩ rest v key)
      (r.valuesUnder ⟨select, none⟩ rest v key) := by
  intro xs ys hxs hys
  simp only [valuesUnder] at hxs hys ⊢
  cases hchild : v.child? key with
  | error e => simp [hchild, Except.bind] at hxs
  | ok found =>
    simp only [hchild, Except.bind] at hxs hys ⊢
    cases found with
    | none =>
      cases hxs
      cases hys
      exact ⟨[], rfl, .nil⟩
    | some child =>
      simp only [kept, h child] at hxs hys ⊢
      cases haccepts : r.accepts (some d) child with
      | error e => simp [haccepts, Except.bind] at hxs
      | ok kept =>
        simp only [haccepts, Except.bind, Except.map] at hxs hys
        cases kept with
        | true =>
          cases hys
          exact ⟨xs, hxs, .left_alone⟩
        | false =>
          cases hxs
          exact ⟨ys, hys, .right_alone⟩

theorem parts_valuesAt (h : r.Opposite d d') :
    Parts (r.valuesAt (⟨select, some d⟩ :: rest) v) (r.valuesAt (⟨select, some d'⟩ :: rest) v)
      (r.valuesAt (⟨select, none⟩ :: rest) v) := by
  rw [valuesAt_cons, valuesAt_cons, valuesAt_cons]
  cases r.keysOf select v with
  | error e => rintro xs ys ⟨⟩
  | ok keys => exact parts_gather fun key => parts_valuesUnder h

/-- From the nodes that the segments in front lead to, the two sides are parted for each node in
turn. -/
theorem FindsFrom.interleaves (h : r.Opposite d d') {xs ys : List Value}
    (hkept : r.FindsFrom (⟨select, some d⟩ :: rest) nodes xs)
    (hleft : r.FindsFrom (⟨select, some d'⟩ :: rest) nodes ys) :
    ∃ zs, r.FindsFrom (⟨select, none⟩ :: rest) nodes zs ∧ Interleaves xs ys zs := by
  induction nodes generalizing xs ys with
  | nil =>
    rw [findsFrom_nil.mp hkept, findsFrom_nil.mp hleft]
    exact ⟨[], findsFrom_nil.mpr rfl, .nil⟩
  | cons node nodes ih =>
    obtain ⟨here, more, hhere, hmore, rfl⟩ := findsFrom_cons.mp hkept
    obtain ⟨here', more', hhere', hmore', rfl⟩ := findsFrom_cons.mp hleft
    obtain ⟨first, hfirst, hparts⟩ := parts_valuesAt h here here' hhere hhere'
    obtain ⟨others, hothers, hmoreParts⟩ := ih hmore hmore'
    exact ⟨first ++ others, findsFrom_cons.mpr ⟨_, _, hfirst, hothers, rfl⟩,
      hparts.append hmoreParts⟩

theorem parts_valuesAt_append (h : r.Opposite d d') :
    Parts (r.valuesAt (front ++ ⟨select, some d⟩ :: rest) v)
      (r.valuesAt (front ++ ⟨select, some d'⟩ :: rest) v)
      (r.valuesAt (front ++ ⟨select, none⟩ :: rest) v) := by
  intro xs ys hxs hys
  obtain ⟨nodes, hnodes, hkept⟩ := valuesAt_append.mp hxs
  obtain ⟨nodes', hnodes', hleft⟩ := valuesAt_append.mp hys
  obtain rfl := Except.ok.inj (hnodes.symm.trans hnodes')
  obtain ⟨zs, hzs, hparts⟩ := hkept.interleaves h hleft
  exact ⟨zs, valuesAt_append.mpr ⟨nodes, hnodes, hzs⟩, hparts⟩

/-! ## Texts -/

variable {base predicate suffix : String} {segment : List Char} {path all : List Segment}

theorem getValues_of_parsePath (h : builtin.parsePath base = .ok path) :
    builtin.getValues base v = builtin.valuesAt path v := by
  rw [getValues, h]
  exact selectValues_of_ne_nil (readsSegments_of_readPath h).1

/-- A predicate text `q` and `~q` behind the last segment of a path are read in the same way and end
alike on every tree. Where the path goes on behind them and both succeed, so does the path without
a predicate, and each value that it selects is one of those that the two select, in the same
order. -/
theorem getValues_partition (hbase : builtin.parsePath base = .ok path)
    (hlast : ∀ s, path.getLast? = some s → s.predicate = none)
    (hpredicate : builtin.readPredicate segment predicate.toList = .ok d)
    (htilde : predicate.toList.head? ≠ some '~')
    (hsuffix : suffix = "" ∨ ∃ rest, suffix = "/" ++ rest)
    (hall : builtin.parsePath (base ++ "#" ++ predicate ++ suffix) = .ok all) :
    (∃ negated, builtin.parsePath (base ++ "#~" ++ predicate ++ suffix) = .ok negated) ∧
      EndAlike (builtin.getValues (base ++ "#" ++ predicate) v)
        (builtin.getValues (base ++ "#~" ++ predicate) v) ∧
      ∀ xs ys, builtin.getValues (base ++ "#" ++ predicate ++ suffix) v = .ok xs →
        builtin.getValues (base ++ "#~" ++ predicate ++ suffix) v = .ok ys →
          ∃ zs, builtin.getValues (base ++ suffix) v = .ok zs ∧ Interleaves xs ys zs ∧
            zs.length = xs.length + ys.length := by
  -- The path in front of its last segment, and the directives of the two predicates.
  obtain ⟨hne, -⟩ := readsSegments_of_readPath hbase
  obtain ⟨front, ⟨select, none'⟩, rfl⟩ : ∃ front last, path = front ++ [last] :=
    ⟨_, _, (List.dropLast_concat_getLast hne).symm⟩
  obtain rfl : none' = none := hlast _ List.getLast?_concat
  obtain ⟨d', hnegated, hopposite⟩ := exists_readPredicate_tilde hpredicate htilde
  have hkept := parsePath_predicate hbase hpredicate
  have hleft := parsePath_predicate hbase hnegated
  obtain ⟨others, hbehind⟩ := exists_parsePath_suffix hkept hsuffix hall
  have htext : base ++ "#~" ++ predicate = base ++ "#" ++ ("~" ++ predicate) := by
    have hmarks : "#~" = "#" ++ "~" := rfl
    simp only [hmarks, String.append_assoc]
  rw [htext, getValues_of_parsePath hkept, getValues_of_parsePath hleft,
    getValues_of_parsePath (hbehind _ _ hkept), getValues_of_parsePath (hbehind _ _ hleft),
    getValues_of_parsePath (hbehind _ _ hbase)]
  simp only [List.append_assoc, List.singleton_append]
  refine ⟨⟨_, hbehind _ _ hleft⟩, endAlike_valuesAt hopposite, fun xs ys hxs hys => ?_⟩
  obtain ⟨zs, hzs, hparts⟩ := parts_valuesAt_append hopposite xs ys hxs hys
  exact ⟨zs, hzs, hparts, hparts.length_eq⟩

/-- Of three maps the first and the last are kept for what is under `k`, and the second one is not.
Two values are found under the one, two under the other and one below the map that is left over. -/
theorem getValues_partition_each :
    let tree : Value := .list [.map [("k", .string "a"), ("m", .bool true)],
      .map [("k", .string "b")], .map [("m", .bool false), ("k", .string "a")]]
    builtin.getValues "//:each#eq(k, a)/:each" tree =
        .ok [.string "a", .bool true, .bool false, .string "a"] ∧
      builtin.getValues "//:each#~eq(k, a)/:each" tree = .ok [.string "b"] ∧
      ∃ zs, builtin.getValues "//:each/:each" tree = .ok zs ∧
        Interleaves [.string "a", .bool true, .bool false, .string "a"] [.string "b"] zs ∧
        zs.length = 5 := by
  intro tree
  have hbase : builtin.parsePath "//:each" = .ok [⟨⟨":each", some "each", .none⟩, none⟩] := rfl
  have hpredicate : builtin.readPredicate [] "eq(k, a)".toList =
      .ok ⟨"eq(k, a)", some "eq", .pair "k" "a"⟩ := rfl
  have hall : builtin.parsePath ("//:each" ++ "#" ++ "eq(k, a)" ++ "/:each") =
      .ok [⟨⟨":each", some "each", .none⟩, some ⟨"eq(k, a)", some "eq", .pair "k" "a"⟩⟩,
        ⟨⟨":each", some "each", .none⟩, none⟩] := rfl
  have hkept : builtin.getValues "//:each#eq(k, a)/:each" tree =
      .ok [.string "a", .bool true, .bool false, .string "a"] := rfl
  have hleft : builtin.getValues "//:each#~eq(k, a)/:each" tree = .ok [.string "b"] := rfl
  have hpartition := getValues_partition (v := tree) hbase (by simp) hpredicate (by decide)
    (.inr ⟨":each", rfl⟩) hall
  exact ⟨hkept, hleft, hpartition.2.2 _ _ hkept hleft⟩

end Registry

end TreePath
