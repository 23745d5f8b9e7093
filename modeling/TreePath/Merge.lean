import TreePath.Value.Child

/-! # Merging

An overlay is merged onto a tree name by name: new names are added at the end, maps are merged and
lists appended, and a leaf takes the overlay's value, a number in its own class. Values of two
kinds under one name are a conflict, which ends the merge; what was merged before it stays. -/

namespace TreePath.Merge

mutual

/-- Merges an incoming value onto the one that stands under a path of names. The count is that of
the values written. -/
def valueOnto (path : List String) (existing : Value) :
    (incoming : Value) → Value × Except MergeConflict Nat
  | .map incoming =>
    match existing with
    | .map entries =>
      let (merged, result) := entriesInto path entries incoming
      (.map merged, result)
    | other => (other, .error ⟨path, .map, other.kind⟩)
  | .list incoming =>
    match existing with
    | .list items => (.list (items ++ incoming), .ok incoming.length)
    | other => (other, .error ⟨path, .list, other.kind⟩)
  | .number update =>
    match existing with
    | .number current => (.number (update.coerceTo current.kind), .ok 1)
    | other => (other, .error ⟨path, .number, other.kind⟩)
  | .bool b =>
    match existing with
    | .bool _ => (.bool b, .ok 1)
    | other => (other, .error ⟨path, .bool, other.kind⟩)
  | .string s =>
    match existing with
    | .string _ => (.string s, .ok 1)
    | other => (other, .error ⟨path, .string, other.kind⟩)

/-- Merges entries, one after the other, into those of a map under a path of names. -/
def entriesInto (path : List String) (target : Dict Value) :
    (incoming : List (String × Value)) → Dict Value × Except MergeConflict Nat
  | [] => (target, .ok 0)
  | (key, v) :: rest =>
    match Dict.get? key target with
    | none =>
      let (merged, result) := entriesInto path (Dict.insert key v target) rest
      (merged, result.map (1 + ·))
    | some existing =>
      let (next, written) := valueOnto (path ++ [key]) existing v
      let target := Dict.replace key next target
      match written with
      | .error conflict => (target, .error conflict)
      | .ok count =>
        let (merged, result) := entriesInto path target rest
        (merged, result.map (count + ·))

end

/-- The result of a merge, a conflict as an error. -/
def reported (result : Except MergeConflict Nat) : Except Error Nat :=
  match result with
  | .ok count => .ok count
  | .error conflict => .error (.merge conflict)

/-- Merges an overlay onto a tree: a map onto a map or a list onto a list. The overlay is checked
before anything is written. -/
def apply (target overlay : Value) : Value × Except Error Nat :=
  match overlay.validate with
  | .error e => (target, .error e)
  | .ok () =>
    match target, overlay with
    | .map entries, .map incoming =>
      let (merged, result) := entriesInto [] entries incoming
      (.map merged, reported result)
    | .list items, .list incoming => (.list (items ++ incoming), .ok incoming.length)
    | target, overlay =>
      if overlay.isContainer then
        (target, .error (.mismatch .mergeRoot (.kind overlay.kind) (.value target)))
      else (target, .error (.mismatch .mergeRoot .listOrMapOverride (.value overlay)))

end TreePath.Merge
