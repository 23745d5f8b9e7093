import TreePath.CommandLine.Request

/-! # Reading arguments

The arguments are read from left to right: options of the program, a verb, and then the options and
values of the verb in any order. A word that cannot stand where it is ends the reading, and so does
a request for help or for the version; whichever comes first decides. -/

namespace TreePath.CommandLine

/-- What a help text can be about. -/
inductive Topic where
  | program
  | verb (v : Verb)
  | help
deriving DecidableEq, Repr

/-- Why the arguments do not make a request. -/
inductive Stop where
  | usage
  | help (topic : Topic)
  | version
deriving DecidableEq, Repr

/-- The forms of a word: a plain value, the mark after which all words are values, a long option
with or without a value of its own, or a group of short options. -/
inductive Word where
  | value (text : String)
  | endOfOptions
  | long (name : String) (value : Option String)
  | short (letters : List Char)
deriving DecidableEq, Repr

/-- The form of a word; a lone hyphen is a value. -/
def Word.ofText (text : String) : Word :=
  match text.toList with
  | ['-', '-'] => .endOfOptions
  | '-' :: '-' :: option =>
    let name := String.ofList (option.takeWhile (· != '='))
    match option.dropWhile (· != '=') with
    | '=' :: own => .long name (some (String.ofList own))
    | _ => .long name none
  | '-' :: c :: letters => .short (c :: letters)
  | _ => .value text

/-- What has been read of the program's words, or of the words of its verb. The value of a format
option that stands in a word of its own is not looked at before the next option or value. -/
structure Reading where
  format : Option Format
  waiting : Option String
  inPlace : Bool
  values : List String
deriving DecidableEq, Repr

namespace Reading

/-- Nothing has been read. -/
def empty : Reading := ⟨none, none, false, []⟩

/-- Takes the name of a format, which can be given once. -/
def takeFormat (r : Reading) (name : String) : Except Stop Reading :=
  match r.format, Format.ofName? name with
  | none, some format => .ok { r with format := some format }
  | _, _ => .error .usage

/-- Takes the format name that waits, if one does. -/
def settle (r : Reading) : Except Stop Reading :=
  match r.waiting with
  | some name => takeFormat { r with waiting := none } name
  | none => .ok r

/-- Takes the mark of a command that rewrites its file, which can be given once. -/
def takeInPlace (r : Reading) : Except Stop Reading :=
  if r.inPlace then .error .usage else .ok { r with inPlace := true }

/-- Takes an option with a long name. -/
def takeLong (topic : Topic) (r : Reading) (name : String) (value : Option String) :
    Except Stop Reading :=
  r.settle.bind fun r =>
    match value with
    | some value => if name = "format" then r.takeFormat value else .error .usage
    | none =>
      if name = "help" then .error (.help topic)
      else if name = "version" && topic = .program then .error .version
      else if name = "in-place" && topic = .verb .exec then r.takeInPlace
      else .error .usage

/-- Takes a group of short options. -/
def takeShort (topic : Topic) (r : Reading) : List Char → Except Stop Reading
  | [] => .ok r
  | c :: rest =>
    r.settle.bind fun r =>
      if c = 'h' then .error (.help topic)
      else if c = 'V' && topic = .program then .error .version
      else if c = 'i' && topic = .verb .exec then
        r.takeInPlace.bind fun r => takeShort topic r rest
      else .error .usage

/-- Whether a verb takes a value after some others. A path or a command comes before at most one
file; there can be any number of files to merge. Names of files are not empty. -/
def admits (verb : Verb) (earlier : List String) (value : String) : Bool :=
  match verb, earlier with
  | .merge, _ => value ≠ ""
  | _, [] => true
  | _, [_] => value ≠ ""
  | _, _ => false

/-- Takes a value of a verb. -/
def takeValue (verb : Verb) (r : Reading) (value : String) : Except Stop Reading :=
  r.settle.bind fun r =>
    if admits verb r.values value then .ok { r with values := r.values ++ [value] }
    else .error .usage

/-- Reads the words that follow a verb. -/
def words (verb : Verb) (r : Reading) : List String → Except Stop Reading
  | [] => r.settle
  | word :: rest =>
    match Word.ofText word with
    | .value value => (r.takeValue verb value).bind fun r => words verb r rest
    | .endOfOptions => rest.foldlM (takeValue verb) r
    | .short letters => (r.takeShort (.verb verb) letters).bind fun r => words verb r rest
    | .long name value =>
      if name = "format" && value.isNone then
        match rest with
        | next :: rest =>
          match Word.ofText next with
          | .value name => r.settle.bind fun r => words verb { r with waiting := some name } rest
          | _ => .error .usage
        | [] => .error .usage
      else (r.takeLong (.verb verb) name value).bind fun r => words verb r rest

/-- The task of a verb and what was read after it. -/
def task (verb : Verb) (r : Reading) : Except Stop Task :=
  match verb, r.values with
  | .get, path :: file => .ok (.get path file.head?)
  | .exec, [command, file] =>
    .ok (if r.inPlace then .rewrite command file else .exec command (some file))
  | .exec, [command] => if r.inPlace then .error .usage else .ok (.exec command none)
  | .merge, base :: overlay :: others => .ok (.merge base overlay others)
  | _, _ => .error .usage

/-- The format given by an option, or else by the environment, where only a format may stand. -/
def orEnvironment (environment : Option String) (r : Reading) :
    Except Stop (Option Format × Option Format) :=
  match r.format, environment with
  | some format, _ => .ok (some format, none)
  | none, none => .ok (none, none)
  | none, some name =>
    match Format.ofName? name with
    | some format => .ok (none, some format)
    | none => .error .usage

end Reading

/-- The topic of the words after `help`. -/
def helpTopic : List String → Stop
  | [] => .help .program
  | ["help"] => .help .help
  | [name] =>
    match Verb.ofName? name with
    | some verb => .help (.verb verb)
    | none => .usage
  | _ => .usage

/-- The request of a verb, from what was read before it and after it. An option after the verb
counts before one in front of it, and both before the environment. -/
def request (environment : Option String) (verb : Verb) (outer inner : Reading) :
    Except Stop Request := do
  let task ← inner.task verb
  let (innerOption, fromEnvironment) ← inner.orEnvironment environment
  let outer ← outer.settle
  let (outerOption, _) ← outer.orEnvironment environment
  let chosen := (innerOption.or outerOption).or fromEnvironment
  return ⟨chosen.getD .human, task⟩

/-- Reads the words from the program's options on. -/
def readFrom (environment : Option String) (r : Reading) : List String → Except Stop Request
  | [] => .error .usage
  | word :: rest =>
    match Word.ofText word with
    | .value name =>
      if name = "help" then .error (helpTopic rest)
      else
        match Verb.ofName? name with
        | some verb => (Reading.empty.words verb rest).bind (request environment verb r)
        | none => .error .usage
    | .endOfOptions => .error .usage
    | .short letters =>
      (r.takeShort .program letters).bind fun r => readFrom environment r rest
    | .long name value =>
      if name = "format" && value.isNone then
        match rest with
        | next :: rest =>
          match Word.ofText next with
          | .value name =>
            r.settle.bind fun r => readFrom environment { r with waiting := some name } rest
          | _ => .error .usage
        | [] => .error .usage
      else (r.takeLong .program name value).bind fun r => readFrom environment r rest

/-- The request of the arguments, given the format that the environment names. -/
def readArguments (environment : Option String) (arguments : List String) :
    Except Stop Request :=
  readFrom environment .empty arguments

end TreePath.CommandLine
