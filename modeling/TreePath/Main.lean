import TreePath.CommandLine.Perform

/-! # The program

It reads the files and the standard input that a request needs, performs the request, and prints
what it leaves. -/

namespace TreePath

open CommandLine

/-- The text of a file, if it can be read. -/
def readFile? (name : String) : IO (Option String) := do
  try
    return some (← IO.FS.readFile ⟨name⟩)
  catch _ =>
    return none

/-- The texts that a task reads. -/
def readInput (task : Task) : IO Input := do
  let mut files := []
  for name in task.files do
    if let some text ← readFile? name then files := files ++ [(name, text)]
  let standard ← if task.readsStandardInput then (← IO.getStdin).readToEnd else pure ""
  return ⟨files, standard⟩

/-- Says why nothing was done. -/
def fail (message : String) (code : UInt32) : IO UInt32 := do
  IO.eprintln ("error: " ++ message)
  return code

/-- Performs a request. -/
def performRequest (request : Request) : IO UInt32 := do
  match perform request (← readInput request.task) with
  | .error failure => fail failure.message 1
  | .ok outcome =>
    if let some report := outcome.report then IO.eprintln report
    if let some (name, text) := outcome.rewritten then IO.FS.writeFile ⟨name⟩ text
    IO.print outcome.output
    return 0

end TreePath

open TreePath TreePath.CommandLine in
def main (arguments : List String) : IO UInt32 := do
  let environment ← IO.getEnv "OBJPATH_FORMAT"
  match readArguments environment arguments with
  | .ok request =>
    try
      performRequest request
    catch e =>
      fail (toString e) 1
  | .error (.help topic) =>
    IO.print (helpText environment topic)
    return 0
  | .error .version =>
    IO.print versionText
    return 0
  | .error .usage => fail "unusable arguments; try --help" 2
