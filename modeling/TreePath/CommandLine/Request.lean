import TreePath.Json.Write

/-! # Requests

A request is what a command line asks for: to get values, to execute a command on a document, or to
merge documents, and the format of what is printed. -/

namespace TreePath.CommandLine

/-- How results are printed: set out for people, or as single lines of JSON. -/
inductive Format where
  | human
  | json
deriving DecidableEq, Repr

namespace Format

/-- The format of a name. -/
def ofName? (name : String) : Option Format :=
  if name = "human" then some .human
  else if name = "json" then some .json
  else none

/-- How documents are set out in a format. -/
def style : Format → Json.Style
  | .human => .indented
  | .json => .compact

end Format

/-- The verbs of the command line. -/
inductive Verb where
  | get
  | exec
  | merge
deriving DecidableEq, Repr

/-- The verb of a word. -/
def Verb.ofName? (name : String) : Option Verb :=
  if name = "get" then some .get
  else if name = "exec" then some .exec
  else if name = "merge" then some .merge
  else none

/-- What is to be done. Without a file the document is read from standard input. -/
inductive Task where
  | get (path : String) (file : Option String)
  | exec (command : String) (file : Option String)
  | rewrite (command file : String)
  | merge (base overlay : String) (others : List String)
deriving DecidableEq, Repr

namespace Task

/-- The files that are read. -/
def files : Task → List String
  | .get _ file | .exec _ file => file.toList
  | .rewrite _ file => [file]
  | .merge base overlay others => base :: overlay :: others

/-- Whether standard input is read. -/
def readsStandardInput (task : Task) : Bool :=
  task.files.isEmpty

end Task

structure Request where
  format : Format
  task : Task
deriving DecidableEq, Repr

end TreePath.CommandLine
