import TreePath.Handler.Basic
import TreePath.Literal

/-! # The built-in operations -/

namespace TreePath

namespace Operation

open Handler

/-- Reads one literal. -/
def readLiteral (name : String) : ReadDirective := fun source arguments =>
  (requireArguments source arguments "a value").bind fun text =>
    (Literal.decode text).map fun v => ⟨source, some name, .value v⟩

/-- What needs a result first, and does nothing where that fails. -/
def needing {α : Type} (container : Value) (needed : Except Error α)
    (next : α → Value × Except Error (Option Value)) : Value × Except Error (Option Value) :=
  match needed with
  | .ok a => next a
  | .error e => (container, .error e)

/-- Writes a value under a key: into a map the entry is put, in a list the element has to be
there. -/
def store (container : Value) (key : Key) (v : Value) : Value × Except Error Unit :=
  match container, key with
  | .map entries, .name text => (.map (Dict.insert text v entries), .ok ())
  | .list items, .index i =>
    if i < items.length then (.list (items.set i v), .ok ())
    else (.list items, .error (.outOfBounds i items.length))
  | container, key =>
    (container, .error (.mismatch (.store key) .matchingContainer (.value container)))

/-- The error of an operation on a child of a kind it does not suit. -/
def unsuitedChild (name : String) (needed : Needed) (child : Value) : Error :=
  .mismatch (.handler .operation name) needed (.value child)

/-- Acts in place on the child under a key, by a function that gives what is left of the child.
Where there is no child nothing is done. -/
def onChild (container : Value) (key : Key)
    (change : Value → Value × Except Error (Option Value)) : Value × Except Error (Option Value) :=
  needing container (container.child? key) fun
    | none => (container, .ok none)
    | some child =>
      let (next, outcome) := change child
      (container.replaceChild key next, outcome)

/-- Stores the operand; the result is the operand. -/
def storeValue (d : Directive) (container : Value) (key : Key) :
    Value × Except Error (Option Value) :=
  needing container d.value fun v =>
    let (next, stored) := store container key v
    (next, stored.map fun _ => some v)

/-- Puts a value under a key. -/
def set : Operation where
  name := "set"
  read := readLiteral "set"
  act := storeValue

/-- Puts a value under a key where there is none. -/
def setIfAbsent : Operation where
  name := "setIfAbsent"
  read := readLiteral "setIfAbsent"
  act := fun d container key =>
    needing container (container.child? key) fun child =>
      if child.isSome then (container, .ok none) else storeValue d container key

/-- Takes the child under a key out; the result is that child. -/
def unset : Operation where
  name := "unset"
  read := readBare "unset"
  act := fun _ container key =>
    match container, key with
    | .map entries, .name text =>
      let (taken, rest) := Dict.take text entries
      (.map rest, .ok taken)
    | .list items, .index i =>
      match items[i]? with
      | some v => (.list (items.eraseIdx i), .ok (some v))
      | none => (.list items, .error (.outOfBounds i items.length))
    | container, key =>
      (container, .error (.mismatch (.unset key) .matchingContainer (.value container)))

/-- Puts a value at the end of a list. -/
def append : Operation where
  name := "append"
  read := readLiteral "append"
  act := fun d container key =>
    needing container d.value fun v =>
      onChild container key fun
        | .list items => (.list (items ++ [v]), .ok (some v))
        | child => (child, .error (unsuitedChild "append" .list child))

/-- Puts a value at the end of a list that has no equal one. -/
def appendIfAbsent : Operation where
  name := "appendIfAbsent"
  read := readLiteral "appendIfAbsent"
  act := fun d container key =>
    needing container d.value fun v =>
      onChild container key fun
        | .list items =>
          if items.any (·.equals v) then (.list items, .ok none)
          else (.list (items ++ [v]), .ok (some v))
        | child => (child, .error (unsuitedChild "appendIfAbsent" .list child))

/-- Empties a container; the result is the empty container. -/
def clear : Operation where
  name := "clear"
  read := readBare "clear"
  act := fun _ container key =>
    onChild container key fun
      | .list _ => (.list [], .ok (some (.list [])))
      | .map _ => (.map [], .ok (some (.map [])))
      | child => (child, .error (unsuitedChild "clear" .listOrMap child))

/-- Reads a number. -/
def readFactor : ReadDirective := fun source arguments =>
  (requireArguments source arguments "a number").bind fun text =>
    match (Decimal.read? (Text.trim text.toList) : Option (Binary .double)) with
    | some x => .ok ⟨source, some "times", .number x⟩
    | none => .error (.invalidArguments source (.notANumber text))

/-- Multiplies a number; the result is the product. -/
def times : Operation where
  name := "times"
  read := readFactor
  act := fun d container key =>
    needing container d.number fun factor =>
      onChild container key fun
        | .number n => (.number (n.times factor), .ok (some (.number (n.times factor))))
        | child => (child, .error (unsuitedChild "times" .number child))

end Operation

end TreePath
