import TreePath.Error

/-! # Children

A map has children under names and a list under positions. A name with no entry is simply absent;
a position past the end of a list is an error, and so is a key that does not suit the value. -/

namespace TreePath.Value

/-- The error of looking up a key that does not suit the value. -/
def keyMismatch (v : Value) (key : Key) : Error :=
  let needed : Needed := match v.kind with
    | .list => .indexKey
    | .map => .nameKey
    | _ => .container
  .mismatch (.lookup key) needed (.value v)

/-- The child under a key, if there is one. -/
def child? (v : Value) (key : Key) : Except Error (Option Value) :=
  match v, key with
  | .map entries, .name text => .ok (Dict.get? text entries)
  | .list items, .index i =>
    match items[i]? with
    | some child => .ok (some child)
    | none => .error (.outOfBounds i items.length)
  | v, key => .error (v.keyMismatch key)

/-- Fails if a map key at any depth is blank. -/
def validate (v : Value) : Except Error Unit :=
  if v.isValid then .ok () else .error (.notAllowed .blankKey)

end TreePath.Value
