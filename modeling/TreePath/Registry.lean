import TreePath.Handler.Operation
import TreePath.Handler.Predicate
import TreePath.Handler.Select

/-! # Registries

A registry holds the handlers that commands may name. Registering a handler again under the same
name replaces the earlier one. -/

namespace TreePath

/-- The handlers by role and name, and the select of segments that name none. -/
structure Registry where
  defaultSelect : Select
  selects : Dict Select
  predicates : Dict Predicate
  operations : Dict Operation

namespace Registry

/-- A registry with no handler but the default select. -/
def empty : Registry := ⟨.literal, [], [], []⟩

variable (r : Registry)

def withDefaultSelect (s : Select) : Registry :=
  { r with defaultSelect := s }

def withSelect (s : Select) : Registry :=
  { r with selects := Dict.insert s.name s r.selects }

/-- Registers a predicate without its negation. -/
def withPredicateOnly (p : Predicate) : Registry :=
  { r with predicates := Dict.insert p.name p r.predicates }

/-- Registers a predicate and its negation. -/
def withPredicate (p : Predicate) : Registry :=
  (r.withPredicateOnly p.negation).withPredicateOnly p

def withOperation (o : Operation) : Registry :=
  { r with operations := Dict.insert o.name o r.operations }

/-- The registry of all built-in handlers. -/
def builtin : Registry :=
  let selects : List Select := [.last, .each, .eachReversed, .matching]
  let predicates : List Predicate := [.containsKey, .containsValue, .isEmpty, .equalTo]
  let operations : List Operation :=
    [.set, .setIfAbsent, .unset, .append, .appendIfAbsent, .clear, .times]
  operations.foldl withOperation (predicates.foldl withPredicate (selects.foldl withSelect empty))

def select? (name : String) : Option Select := Dict.get? name r.selects

def predicate? (name : String) : Option Predicate := Dict.get? name r.predicates

def operation? (name : String) : Option Operation := Dict.get? name r.operations

/-- The error of running a directive whose handler is not registered. -/
def unknown (role : Role) (name : String) : Error :=
  .run (.unknownDirective role name)

/-- The select of a directive; one without a name has the default select. -/
def selectFor (d : Directive) : Except Error Select :=
  match d.name with
  | none => .ok r.defaultSelect
  | some name =>
    match r.select? name with
    | some s => .ok s
    | none => .error (unknown .select name)

/-- The predicate of a directive; one without a name is looked up under the empty name. -/
def predicateFor (d : Directive) : Except Error Predicate :=
  match r.predicate? (d.name.getD "") with
  | some p => .ok p
  | none => .error (unknown .predicate (d.name.getD ""))

/-- The operation of a directive; one without a name is looked up under the empty name. -/
def operationFor (d : Directive) : Except Error Operation :=
  match r.operation? (d.name.getD "") with
  | some o => .ok o
  | none => .error (unknown .operation (d.name.getD ""))

/-- Names in order, each between quotes. -/
def shownNames (names : List String) : String :=
  "[" ++ String.intercalate ", " ((names.mergeSort fun a b => !(b < a)).map Text.quoted) ++ "]"

/-- The names of a registry as they are shown for inspection. -/
def shown : String :=
  "Registry \x7b default_select: " ++ Text.quoted r.defaultSelect.name ++ ", selects: " ++
    shownNames (Dict.keys r.selects) ++ ", predicates: " ++ shownNames (Dict.keys r.predicates) ++
    ", operations: " ++ shownNames (Dict.keys r.operations) ++ " \x7d"

end Registry

end TreePath
