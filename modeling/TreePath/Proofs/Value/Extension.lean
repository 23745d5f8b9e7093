import TreePath.Proofs.Number.Coercion
import TreePath.Proofs.Value.Location

/-!
# Trees that were added to

A tree extends another one if every location of the other is still there, with a node of the same
kind and the same class of numbers, and if no node has lost or moved a key: new keys come behind
those that were there. Whether a tree extends another is decided at their roots and, below them, at
the children of the other tree.
-/

namespace TreePath.Value

variable {u v w child next new : Value} {key : Key} {items others : List Value}
  {entries : Dict Value} {name : String} {m n : Number}

/-- The class of a number; other values have none. -/
def numberKind? (v : Value) : Option NumberKind :=
  v.number?.map Number.kind

/-- A node is of the kind of another one, a number in its class, and has its keys in front. -/
structure NodeExtends (v w : Value) : Prop where
  kind : w.kind = v.kind
  numberKind : w.numberKind? = v.numberKind?
  ownKeys : v.ownKeys <+: w.ownKeys

/-- Every location of a tree is there in another one as well, with a node that extends its own. -/
def Extends (v w : Value) : Prop :=
  ∀ p node, v.at? p = some node → ∃ node', w.at? p = some node' ∧ node.NodeExtends node'

theorem NodeExtends.refl (v : Value) : v.NodeExtends v :=
  ⟨rfl, rfl, List.prefix_refl _⟩

theorem NodeExtends.trans (h : u.NodeExtends v) (h' : v.NodeExtends w) : u.NodeExtends w :=
  ⟨h'.kind.trans h.kind, h'.numberKind.trans h.numberKind, h.ownKeys.trans h'.ownKeys⟩

namespace Extends

theorem refl (v : Value) : v.Extends v :=
  fun _ node hnode => ⟨node, hnode, .refl node⟩

theorem trans (h : u.Extends v) (h' : v.Extends w) : u.Extends w := by
  intro p node hnode
  obtain ⟨middle, hmiddle, hfirst⟩ := h p node hnode
  obtain ⟨last, hlast, hsecond⟩ := h' p middle hmiddle
  exact ⟨last, hlast, hfirst.trans hsecond⟩

end Extends

/-- A tree extends another one if its root does and the child under each key of the other one's
root extends the child there. -/
theorem extends_iff :
    v.Extends w ↔ v.NodeExtends w ∧ ∀ key child, v.childAt key = some child →
      ∃ child', w.childAt key = some child' ∧ child.Extends child' := by
  constructor
  · intro h
    obtain ⟨root, hroot, hnode⟩ := h [] v rfl
    obtain rfl := Option.some.inj hroot
    refine ⟨hnode, fun key child hchild => ?_⟩
    have hpath (p : List Key) : v.at? (key :: p) = child.at? p := by
      rw [at?_cons, hchild, Option.bind_some]
    obtain ⟨child', hchild', -⟩ := h [key] child (hpath [])
    rw [at?_cons, bind_at?_nil] at hchild'
    refine ⟨child', hchild', fun p node hp => ?_⟩
    have hbelow := h (key :: p) node ((hpath p).trans hp)
    rwa [at?_cons, hchild', Option.bind_some] at hbelow
  · rintro ⟨hnode, hchildren⟩ p node hp
    cases p with
    | nil =>
      obtain rfl := Option.some.inj hp
      exact ⟨w, rfl, hnode⟩
    | cons key rest =>
      obtain ⟨child, hchild, hrest⟩ := Option.bind_eq_some_iff.mp hp
      obtain ⟨child', hchild', hextends⟩ := hchildren key child hchild
      rw [at?_cons, hchild', Option.bind_some]
      exact hextends rest node hrest

/-! ## What is put in place of a leaf or behind what is there -/

theorem extends_number : (number m).Extends (number n) ↔ n.kind = m.kind := by
  rw [extends_iff]
  constructor
  · rintro ⟨hnode, -⟩
    exact Option.some.inj hnode.numberKind
  · intro hkind
    exact ⟨⟨rfl, congrArg some hkind, List.prefix_refl _⟩, nofun⟩

/-- A leaf that is no number is extended by every value of its kind. -/
theorem extends_of_leaf (hkind : w.kind = v.kind) (hleaf : v.isLeaf) (hnumber : v.kind ≠ .number) :
    v.Extends w := by
  cases v <;> cases w <;> simp only [kind, reduceCtorEq] at hkind
  case bool.bool =>
    exact extends_iff.mpr ⟨⟨rfl, rfl, List.prefix_refl _⟩, fun _ _ hchild => by cases hchild⟩
  case number.number => exact absurd rfl hnumber
  case string.string =>
    exact extends_iff.mpr ⟨⟨rfl, rfl, List.prefix_refl _⟩, fun _ _ hchild => by cases hchild⟩
  case list.list => cases hleaf
  case map.map => cases hleaf

/-- A child may be replaced by one that extends it. -/
theorem extends_replaceChild (hchild : v.childAt key = some child) (h : child.Extends next) :
    v.Extends (v.replaceChild key next) := by
  refine extends_iff.mpr ⟨⟨kind_replaceChild, ?_, ?_⟩, fun other found hfound => ?_⟩
  · cases v <;> cases key <;> rfl
  · have hkeys : (v.replaceChild key next).ownKeys = v.ownKeys := ownKeys_replaceChild
    exact hkeys ▸ List.prefix_refl _
  · by_cases hother : other = key
    · subst hother
      obtain rfl := Option.some.inj (hchild.symm.trans hfound)
      exact ⟨next, childAt_replaceChild_self hchild, h⟩
    · exact ⟨found, (childAt_replaceChild_of_ne hother).trans hfound, .refl found⟩

/-- A map takes a new name as its last one. -/
theorem extends_insert (habsent : Dict.get? name entries = none) :
    (map entries).Extends (map (Dict.insert name new entries)) := by
  have hkeys : (putChild (.map entries) (.name name) new).ownKeys =
      (map entries).ownKeys ++ [.name name] :=
    ownKeys_putChild (congrArg Except.ok habsent)
  refine extends_iff.mpr ⟨⟨rfl, rfl, hkeys ▸ List.prefix_append _ _⟩, fun other found hfound => ?_⟩
  have hother : other ≠ .name name := by
    rintro rfl
    rw [childAt, habsent] at hfound
    cases hfound
  exact ⟨found, (childAt_putChild_of_ne (v := .map entries) hother).trans hfound, .refl found⟩

/-- A list takes new elements behind its own. -/
theorem extends_append : (list items).Extends (list (items ++ others)) := by
  refine extends_iff.mpr ⟨⟨rfl, rfl, ?_⟩, fun key found hfound => ?_⟩
  · simp [ownKeys, List.range_add]
  · cases key with
    | name text => cases hfound
    | index i =>
      obtain ⟨hlt, -⟩ := List.getElem?_eq_some_iff.mp hfound
      exact ⟨found, (List.getElem?_append_left hlt).trans hfound, .refl found⟩

end TreePath.Value
