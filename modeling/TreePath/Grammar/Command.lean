import TreePath.Grammar.Scan
import TreePath.Registry

/-! # Reading commands

A command is a path, and after `!` an operation. A path is `//` and segments between slashes. A
segment is a bare key or `:` with a call of a select, and after `#` a call of a predicate. An
operation is a call. Arguments reach their handlers as they stand. -/

namespace TreePath

open Grammar

/-- A result of scanning; a fault is reported with the text that was scanned. -/
def Grammar.scanned {α : Type} (text : List Char) (result : Except GrammarFault α) :
    Except Error α :=
  match result with
  | .ok a => .ok a
  | .error fault => .error (.grammar fault (String.ofList text))

namespace Registry

variable (r : Registry)

/-- Reads a segment's select: a call of a named one after a colon, else the default select's. -/
def readSelect (segment text : List Char) : Except Error Directive := do
  let call ← scanned text (splitCall text)
  let arguments := call.arguments.map String.ofList
  match call.name with
  | ':' :: name =>
    match r.select? (String.ofList name) with
    | some s => s.read (String.ofList text) arguments
    | none =>
      .error (.parse (.unknownDirective .select (String.ofList name) (String.ofList segment)))
  | name => r.defaultSelect.read (String.ofList name) arguments

/-- Reads a segment's predicate. -/
def readPredicate (segment text : List Char) : Except Error Directive := do
  let call ← scanned text (splitCall text)
  if call.name.isEmpty then .error (.grammar .unnamedPredicate (String.ofList segment))
  else
    match r.predicate? (String.ofList call.name) with
    | some p => p.read (String.ofList text) (call.arguments.map String.ofList)
    | none =>
      .error
        (.parse (.unknownDirective .predicate (String.ofList call.name) (String.ofList segment)))

/-- Reads a segment; the first `#` ends its select. -/
def readSegment (segment : List Char) : Except Error Segment := do
  let (select, others) ← scanned segment (Grammar.split '#' segment)
  let selectDirective ← r.readSelect segment select
  if others.isEmpty then return ⟨selectDirective, none⟩
  else
    let predicate ← r.readPredicate segment (segment.drop (select.length + 1))
    return ⟨selectDirective, some predicate⟩

/-- Reads segments from left to right. -/
def readSegments : List (List Char) → Except Error (List Segment)
  | [] => .ok []
  | segment :: rest => do
    let first ← r.readSegment segment
    let others ← readSegments rest
    return first :: others

/-- Reads a path. -/
def readPath (path : List Char) : Except Error (List Segment) :=
  match path with
  | '/' :: '/' :: body => do
    let (_, operations) ← scanned path (Grammar.split '!' path)
    if !operations.isEmpty then .error (.grammar .operationInPath (String.ofList path))
    else
      let (first, others) ← scanned body (Grammar.split '/' body)
      if (first :: others).any Text.isBlank then
        .error (.grammar .emptyElement (String.ofList path))
      else r.readSegments (first :: others)
  | path => .error (.grammar .missingRoot (String.ofList path))

/-- Reads an operation. -/
def readOperation (text : List Char) : Except Error Directive :=
  if Text.isBlank text then .error (.grammar .emptyOperation (String.ofList text))
  else do
    let call ← scanned text (splitCall text)
    match r.operation? (String.ofList call.name) with
    | some o => o.read (String.ofList text) (call.arguments.map String.ofList)
    | none =>
      .error
        (.parse (.unknownDirective .operation (String.ofList call.name) (String.ofList text)))

/-- Reads a command. Its operation is read before its path. -/
def readCommand (text : List Char) : Except Error Command := do
  match ← scanned text (Grammar.split '!' text) with
  | (path, []) => return ⟨← r.readPath path, none⟩
  | (path, [operation]) =>
    let operation ← r.readOperation operation
    return ⟨← r.readPath path, some operation⟩
  | _ => .error (.grammar .severalOperations (String.ofList text))

/-- The path of a text. -/
def parsePath (text : String) : Except Error (List Segment) := r.readPath text.toList

/-- The operation of a text. -/
def parseOperation (text : String) : Except Error Directive := r.readOperation text.toList

/-- The command of a text. -/
def parseCommand (text : String) : Except Error Command := r.readCommand text.toList

end Registry

end TreePath
