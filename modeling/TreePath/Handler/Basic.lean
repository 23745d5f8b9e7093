import TreePath.Directive
import TreePath.Value.Child

/-! # Handlers

A handler reads the arguments of a directive of its name and later acts on values by that
directive. There are three roles: selects name children, predicates accept or reject a child, and
operations change a container at one of its keys. -/

namespace TreePath

/-- How a handler reads a directive, from its text and its arguments. -/
abbrev ReadDirective := String → Option String → Except Error Directive

/-- Names children of a value, in the order in which they are visited. -/
structure Select where
  name : String
  read : ReadDirective
  keys : Directive → Value → Except Error (List Key)

/-- Accepts or rejects a child. -/
structure Predicate where
  name : String
  read : ReadDirective
  accepts : Directive → Value → Except Error Bool

/-- Changes a container at a key, in place: what is left of the container is left whatever comes of
it, a result, no result or a failure. -/
structure Operation where
  name : String
  read : ReadDirective
  act : Directive → Value → Key → Value × Except Error (Option Value)

/-- What an operation did: the container after it, and the result it reports. -/
structure Change where
  container : Value
  result : Value
deriving Repr

/-- What is reported of something done in place: the change, where there is a result. -/
def Change.reported (done : Value × Except Error (Option Value)) : Except Error (Option Change) :=
  done.2.map fun result => result.map fun result => ⟨done.1, result⟩

/-- What an operation reports of acting on a container at a key. -/
def Operation.operate (o : Operation) (d : Directive) (container : Value) (key : Key) :
    Except Error (Option Change) :=
  Change.reported (o.act d container key)

namespace Handler

/-- Arguments that are there and not blank. -/
def presentArguments? (arguments : Option String) : Option String :=
  arguments.filter fun text => !Text.isBlank text.toList

/-- Fails if there are arguments. -/
def rejectArguments (source : String) (arguments : Option String) : Except Error Unit :=
  match presentArguments? arguments with
  | none => .ok ()
  | some _ => .error (.invalidArguments source .unexpected)

/-- The arguments, which have to be there. -/
def requireArguments (source : String) (arguments : Option String) (what : String) :
    Except Error String :=
  match presentArguments? arguments with
  | some text => .ok text
  | none => .error (.invalidArguments source (.missing what))

/-- Reads a directive that takes no arguments. -/
def readBare (name : String) : ReadDirective := fun source arguments =>
  (rejectArguments source arguments).map fun _ => ⟨source, some name, .none⟩

/-- A text without the blank characters at its ends. -/
def trimmed (text : String) : String :=
  String.ofList (Text.trim text.toList)

end Handler

end TreePath
