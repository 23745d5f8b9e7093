import TreePath.Error
import TreePath.Pattern
import TreePath.Text.Quoted

/-! # Directives

A directive is one step of a command as it was read: the text it came from, the name of its
handler, and what the handler made of its arguments. It can be used any number of times. -/

namespace TreePath

/-- Data of a handler that is not one of the built-in ones. -/
inductive CustomData where
  | count (n : Nat)
  | text (s : String)
deriving DecidableEq, Repr

/-- What a handler made of its arguments. -/
inductive Payload where
  | none
  | key (k : Key)
  | pattern (p : Pattern)
  | value (v : Value)
  | number (x : Binary .double)
  | text (s : String)
  | pair (a b : String)
  | custom (data : CustomData)
deriving Repr

/-- The payload as it is shown for inspection; a value is not shown. -/
def Payload.shown? : Payload → Option String
  | .none => some "None"
  | .key (.index i) => some ("Key(Index(" ++ String.ofList (Nat.toDigits 10 i) ++ "))")
  | .key (.name t) => some ("Key(Name(" ++ Text.quoted t ++ "))")
  | .pattern p => some ("Regex(" ++ Text.quoted p.text ++ ")")
  | .value _ => Option.none
  | .number x => some ("Number(" ++ String.ofList x.text ++ ")")
  | .text s => some ("Text(" ++ Text.quoted s ++ ")")
  | .pair a b => some ("Pair(" ++ Text.quoted a ++ ", " ++ Text.quoted b ++ ")")
  | .custom _ => some "Custom(..)"

/-- One step of a command. A select without a name is the default one. -/
structure Directive where
  source : String
  name : Option String
  payload : Payload
deriving Repr

namespace Directive

/-- The directive under another name. -/
def renamed (d : Directive) (name : String) : Directive :=
  { d with name := some name }

/-- The error of a directive whose payload is not of the kind its handler needs. -/
def missingPayload (d : Directive) : Error :=
  .run (.missingPayload d.source)

variable (d : Directive)

def key : Except Error Key :=
  match d.payload with
  | .key k => .ok k
  | _ => .error d.missingPayload

def pattern : Except Error Pattern :=
  match d.payload with
  | .pattern p => .ok p
  | _ => .error d.missingPayload

def value : Except Error Value :=
  match d.payload with
  | .value v => .ok v
  | _ => .error d.missingPayload

def number : Except Error (Binary .double) :=
  match d.payload with
  | .number x => .ok x
  | _ => .error d.missingPayload

def text : Except Error String :=
  match d.payload with
  | .text s => .ok s
  | _ => .error d.missingPayload

def pair : Except Error (String × String) :=
  match d.payload with
  | .pair a b => .ok (a, b)
  | _ => .error d.missingPayload

def customCount : Except Error Nat :=
  match d.payload with
  | .custom (.count n) => .ok n
  | _ => .error d.missingPayload

def customText : Except Error String :=
  match d.payload with
  | .custom (.text s) => .ok s
  | _ => .error d.missingPayload

end Directive

/-- A segment of a path: how children are selected, and which of them are kept. -/
structure Segment where
  select : Directive
  predicate : Option Directive
deriving Repr

/-- The text of a segment. -/
def Segment.text (s : Segment) : String :=
  match s.predicate with
  | some predicate => s.select.source ++ "#" ++ predicate.source
  | none => s.select.source

/-- A path, and what is to be done with what it selects; without an operation that is found. -/
structure Command where
  path : List Segment
  operation : Option Directive
deriving Repr

/-- The text of a path with two slashes at its start. -/
def pathText (path : List Segment) : String :=
  "/" ++ String.join (path.map fun s => "/" ++ s.text)

/-- The text of a command. -/
def Command.text (c : Command) : String :=
  match c.operation with
  | some operation => pathText c.path ++ "!" ++ operation.source
  | none => pathText c.path

end TreePath
