import TreePath.Proofs.Value.Location

/-!
# Numbers and nesting of a tree

How deeply the containers of a tree are nested, what holds of all its numbers, and the tree with
all its numbers replaced. A fact about all values is proved for leaves, and for containers of
which it holds for the children.
-/

namespace TreePath.Value

mutual

/-- How many containers stand inside one another. -/
def depth : Value → Nat
  | .list items => depthItems items + 1
  | .map entries => depthEntries entries + 1
  | _ => 0

def depthItems : List Value → Nat
  | [] => 0
  | v :: rest => max v.depth (depthItems rest)

def depthEntries : List (String × Value) → Nat
  | [] => 0
  | (_, v) :: rest => max v.depth (depthEntries rest)

end

mutual

/-- Every number at any depth passes a test. -/
def allNumbers (p : Number → Bool) : Value → Bool
  | .number n => p n
  | .list items => allNumbersItems p items
  | .map entries => allNumbersEntries p entries
  | _ => true

def allNumbersItems (p : Number → Bool) : List Value → Bool
  | [] => true
  | v :: rest => v.allNumbers p && allNumbersItems p rest

def allNumbersEntries (p : Number → Bool) : List (String × Value) → Bool
  | [] => true
  | (_, v) :: rest => v.allNumbers p && allNumbersEntries p rest

end

mutual

/-- The tree with every number replaced by what a function makes of it. -/
def mapNumbers (f : Number → Number) : Value → Value
  | .number n => .number (f n)
  | .list items => .list (mapNumbersItems f items)
  | .map entries => .map (mapNumbersEntries f entries)
  | v => v

def mapNumbersItems (f : Number → Number) : List Value → List Value
  | [] => []
  | v :: rest => v.mapNumbers f :: mapNumbersItems f rest

def mapNumbersEntries (f : Number → Number) : List (String × Value) → List (String × Value)
  | [] => []
  | (k, v) :: rest => (k, v.mapNumbers f) :: mapNumbersEntries f rest

end

variable {p : Number → Bool} {f : Number → Number} {v : Value} {items : List Value}
  {entries : Dict Value} {n : Nat}

/-- What holds of leaves, and of a container if it holds of its children, holds of all values. -/
theorem induction_on_children {motive : Value → Prop} (bool : ∀ b, motive (.bool b))
    (number : ∀ n, motive (.number n)) (string : ∀ s, motive (.string s))
    (list : ∀ items, (∀ v ∈ items, motive v) → motive (.list items))
    (map : ∀ entries : Dict Value, (∀ entry ∈ entries, motive entry.2) → motive (.map entries)) :
    ∀ v, motive v
  | .bool b => bool b
  | .number n => number n
  | .string s => string s
  | .list items => list items fun v _ => induction_on_children bool number string list map v
  | .map entries =>
    map entries fun entry _ => induction_on_children bool number string list map entry.2
termination_by v => sizeOf v
decreasing_by
  · have hlt := List.sizeOf_lt_of_mem ‹v ∈ items›
    simp only [Value.list.sizeOf_spec]
    omega
  · have hlt := List.sizeOf_lt_of_mem ‹entry ∈ entries›
    obtain ⟨key, v⟩ := entry
    simp only [Prod.mk.sizeOf_spec, Value.map.sizeOf_spec] at hlt ⊢
    omega

theorem depthItems_le : depthItems items ≤ n ↔ ∀ v ∈ items, v.depth ≤ n := by
  induction items with
  | nil => simp [depthItems]
  | cons v rest ih => rw [depthItems, Nat.max_le, ih, List.forall_mem_cons]

theorem depthEntries_le : depthEntries entries ≤ n ↔ ∀ entry ∈ entries, entry.2.depth ≤ n := by
  induction entries with
  | nil => simp [depthEntries]
  | cons entry rest ih => rw [depthEntries, Nat.max_le, ih, List.forall_mem_cons]

theorem allNumbersItems_iff : allNumbersItems p items ↔ ∀ v ∈ items, v.allNumbers p := by
  induction items with
  | nil => simp [allNumbersItems]
  | cons v rest ih => simp [allNumbersItems, ih]

theorem allNumbersEntries_iff :
    allNumbersEntries p entries ↔ ∀ entry ∈ entries, entry.2.allNumbers p := by
  induction entries with
  | nil => simp [allNumbersEntries]
  | cons entry rest ih => simp [allNumbersEntries, ih]

theorem validItems_iff : validItems items ↔ ∀ v ∈ items, v.isValid := by
  induction items with
  | nil => simp [validItems]
  | cons v rest ih => simp [validItems, ih]

theorem validEntries_iff :
    validEntries entries ↔
      (∀ k ∈ Dict.keys entries, Text.isBlank k.toList = false) ∧
        ∀ entry ∈ entries, entry.2.isValid := by
  induction entries with
  | nil => simp [validEntries]
  | cons entry rest ih =>
    simp only [validEntries, Bool.and_eq_true, Bool.not_eq_true', ih, Dict.keys_cons,
      List.forall_mem_cons]
    tauto

theorem validate_eq_ok : v.validate = .ok () ↔ v.isValid := by
  rw [validate]
  split <;> simp_all

theorem mapNumbersItems_eq : mapNumbersItems f items = items.map (mapNumbers f) := by
  induction items with
  | nil => rfl
  | cons v rest ih => simp [mapNumbersItems, ih]

theorem mapNumbersEntries_eq :
    mapNumbersEntries f entries = entries.map fun entry => (entry.1, entry.2.mapNumbers f) := by
  induction entries with
  | nil => rfl
  | cons entry rest ih => simp [mapNumbersEntries, ih]

/-- A tree stays as it is when each of its numbers does. -/
theorem mapNumbers_eq_self (h : v.allNumbers fun n => f n = n) : v.mapNumbers f = v := by
  induction v using induction_on_children with
  | number n => exact congrArg number (of_decide_eq_true h)
  | list items ih =>
    have hitems := allNumbersItems_iff.mp h
    rw [mapNumbers, mapNumbersItems_eq, List.map_congr_left fun v hv => ih v hv (hitems v hv),
      List.map_id']
  | map entries ih =>
    have hentries := allNumbersEntries_iff.mp h
    rw [mapNumbers, mapNumbersEntries_eq,
      List.map_congr_left fun entry hentry => by rw [ih entry hentry (hentries entry hentry)],
      List.map_id']
  | _ => rfl

end TreePath.Value
