import TreePath.CommandLine.Arguments

/-! # Help texts -/

namespace TreePath.CommandLine

/-- Words set in lines of at most a given width, a longer word on a line of its own. -/
def fill (width : Nat) : (line : String) → List String → List String
  | line, [] => [line]
  | line, word :: rest =>
    if line.length + 1 + word.length ≤ width then fill width (line ++ " " ++ word) rest
    else line :: fill width word rest

/-- The description of the format option, which shows what the environment holds. -/
def formatHelp (environment : Option String) : String :=
  "Output format [env: OBJPATH_FORMAT=" ++ environment.getD "" ++
    "] [default: human] [possible values: human, json]"

/-- The first column of the options is as wide as the longest of them, with its indentation. -/
def column : Nat := 25

/-- Help lines are at most this long. -/
def lineWidth : Nat := 100

/-- A number of blanks. -/
def blanks (n : Nat) : String := String.ofList (List.replicate n ' ')

/-- A line of the list of options or arguments. -/
def entry (width : Nat) (term description : String) : String :=
  term ++ blanks (width - term.length) ++ description ++ "\n"

/-- The line of the format option. -/
def formatEntry (environment : Option String) : String :=
  let lines := match (formatHelp environment).splitOn " " with
    | [] => []
    | word :: rest => fill (lineWidth - column) word rest
  entry column "      --format <FORMAT>"
    (String.intercalate ("\n" ++ blanks column) lines)

/-- The line of the help option. -/
def helpEntry : String := entry column "  -h, --help" "Print help"

/-- The text that is printed on a topic. -/
def helpText (environment : Option String) : Topic → String
  | .program =>
    "objpath: path queries and updates over JSON documents\n\n" ++
    "Usage: objpath [OPTIONS] <COMMAND>\n\n" ++
    "Commands:\n" ++
    entry 9 "  get" "Print every value a path resolves to" ++
    entry 9 "  exec" "Run a command and print the updated document" ++
    entry 9 "  merge" "Merge overlay documents onto a base document" ++
    entry 9 "  help" "Print this message or the help of the given subcommand(s)" ++
    "\nOptions:\n" ++ formatEntry environment ++ helpEntry ++
    entry column "  -V, --version" "Print version"
  | .verb .get =>
    "Print every value a path resolves to\n\n" ++
    "Usage: objpath get [OPTIONS] <PATH> [FILE]\n\n" ++
    "Arguments:\n" ++
    entry 10 "  <PATH>" "Path to resolve, e.g. `//map/:each`" ++
    entry 10 "  [FILE]" "JSON document to read (stdin when omitted)" ++
    "\nOptions:\n" ++ formatEntry environment ++ helpEntry
  | .verb .exec =>
    "Run a command and print the updated document\n\n" ++
    "Usage: objpath exec [OPTIONS] <COMMAND> [FILE]\n\n" ++
    "Arguments:\n" ++
    entry 13 "  <COMMAND>" "Command to run, e.g. `//lists/:eachr!unset`" ++
    entry 13 "  [FILE]" "JSON document to update (stdin when omitted)" ++
    "\nOptions:\n" ++ formatEntry environment ++
    entry column "  -i, --in-place" "Rewrite FILE instead of printing the result" ++ helpEntry
  | .verb .merge =>
    "Merge overlay documents onto a base document\n\n" ++
    "Usage: objpath merge [OPTIONS] <BASE> <OVERLAYS>...\n\n" ++
    "Arguments:\n" ++
    entry 17 "  <BASE>" "Document the overlays are merged onto" ++
    entry 17 "  <OVERLAYS>..." "Overlay documents, applied in order" ++
    "\nOptions:\n" ++ formatEntry environment ++ helpEntry
  | .help =>
    "Print this message or the help of the given subcommand(s)\n\n" ++
    "Usage: objpath help [COMMAND]...\n\n" ++
    "Arguments:\n" ++
    entry 16 "  [COMMAND]..." "Print help for the subcommand(s)"

/-- The text that is printed for the version. -/
def versionText : String := "objpath 0.1.0\n"

end TreePath.CommandLine
