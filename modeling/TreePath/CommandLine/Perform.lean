import TreePath.CommandLine.Help
import TreePath.Merge
import TreePath.Json.Read
import TreePath.Run

/-! # Performing requests

A request is performed on the texts of the files and of standard input. It either fails, and then
prints and writes nothing, or says what is to be printed and which file is to be rewritten. -/

namespace TreePath.CommandLine

/-- The texts of the files that could be read, by name, and that of standard input. -/
structure Input where
  files : Dict String
  standard : String

/-- Why a request fails. -/
inductive Failure where
  | unreadable (file : String)
  | error (e : Error)
deriving Repr

def Failure.message : Failure → String
  | .unreadable file => "cannot read " ++ file
  | .error e => e.message

/-- What a request leaves: a text to be printed, a line that reports what was done, and a file to be
rewritten with its new text. -/
structure Outcome where
  output : String
  report : Option String
  rewritten : Option (String × String)
deriving DecidableEq, Repr

/-- A result as the result of a request. -/
def checked {α : Type} : Except Error α → Except Failure α
  | .ok a => .ok a
  | .error e => .error (.error e)

namespace Input

/-- The document in a file. -/
def document (input : Input) (file : String) : Except Failure Value :=
  match Dict.get? file input.files with
  | some text => checked (Json.decode text)
  | none => .error (.unreadable file)

/-- The document in a file, or without one in standard input. -/
def documentOr (input : Input) : Option String → Except Failure Value
  | some file => input.document file
  | none => checked (Json.decode input.standard)

end Input

namespace Format

/-- A document on lines of its own. -/
def document (format : Format) (v : Value) : String :=
  Json.encode format.style v ++ "\n"

/-- A value among others: containers as documents, leaves as plain text. -/
def valueLine (v : Value) : String :=
  if v.isContainer then human.document v else v.display ++ "\n"

/-- Values one after the other for people, and as one list in JSON. -/
def values : Format → List Value → String
  | .human, found => String.join (found.map valueLine)
  | .json, found => json.document (.list found)

end Format

/-- Gets the values a path selects. -/
def get (input : Input) (format : Format) (path : String) (file : Option String) :
    Except Failure Outcome := do
  let document ← input.documentOr file
  let found ← checked (Registry.builtin.getValues path document)
  return ⟨format.values found, none, none⟩

/-- The document after a command, and a report of how many places were affected. The command is
read before the document. -/
def execute (input : Input) (command : String) (file : Option String) :
    Except Failure (Value × String) := do
  let command ← checked (Registry.builtin.parseCommand command)
  let document ← input.documentOr file
  let (document, affected) := Registry.builtin.executeCount command document
  let count ← checked affected
  return (document, String.ofList (Nat.toDigits 10 count) ++ " location(s) affected")

/-- Merges overlays onto a document, one after the other; the count is that of all values
written. -/
def mergeAll (input : Input) : Value → List String → Except Failure (Value × Nat)
  | document, [] => .ok (document, 0)
  | document, file :: rest => do
    let overlay ← input.document file
    let (document, written) := Merge.apply document overlay
    let count ← checked written
    let (document, others) ← mergeAll input document rest
    return (document, count + others)

/-- Performs a request. -/
def perform (request : Request) (input : Input) : Except Failure Outcome :=
  match request.task with
  | .get path file => get input request.format path file
  | .exec command file => do
    let (document, report) ← execute input command file
    return ⟨request.format.document document, some report, none⟩
  | .rewrite command file => do
    let (document, report) ← execute input command (some file)
    return ⟨"", some report, some (file, request.format.document document)⟩
  | .merge base overlay others => do
    let document ← input.document base
    let (document, count) ← mergeAll input document (overlay :: others)
    let report := String.ofList (Nat.toDigits 10 count) ++ " assignment(s) merged"
    return ⟨request.format.document document, some report, none⟩

end TreePath.CommandLine
