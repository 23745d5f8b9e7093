import TreePath.Handler.Basic

/-! # The built-in selects -/

namespace TreePath

namespace Select

open Handler

/-- Whether a text is a name that can stand bare in a path: ASCII letters, digits and underscores,
no digit first. -/
def isIdentifier : List Char → Bool
  | [] => false
  | c :: rest => (c.isAlpha || c == '_') && rest.all fun c => c.isAlphanum || c == '_'

/-- The error of a select on a value of a kind it does not suit. -/
def unsuited (name : String) (needed : Needed) (v : Value) : Error :=
  .mismatch (.handler .select name) needed (.kind v.kind)

/-- The key that a bare segment stands for: a position below `2 ^ 64`, or a name. -/
def literalKey? (source : String) : Option Key :=
  match Text.naturalBelow? (Nat.pow 2 64) source.toList with
  | some i => some (.index i)
  | none => if isIdentifier source.toList then some (.name source) else none

/-- Reads a bare segment. -/
def readLiteral : ReadDirective := fun source arguments =>
  if arguments.isSome then .error (.invalidArguments source .literalWithArguments)
  else
    match literalKey? source with
    | some key => .ok ⟨source, none, .key key⟩
    | none => .error (.grammar .invalidSegment source)

/-- The one key of a bare segment, if it suits the container. -/
def literalKeys (d : Directive) (v : Value) : Except Error (List Key) :=
  d.key.bind fun key =>
    match v, key with
    | .list _, .index _ | .map _, .name _ => .ok [key]
    | .list _, .name text => .error (.mismatch (.segment text) .map (.kind .list))
    | .map _, .index _ => .error (.mismatch (.segment key.text) .list (.kind .map))
    | v, _ => .error (unsuited "default" .container v)

/-- The select of bare segments, which names one child by its key. -/
def literal : Select := ⟨"default", readLiteral, literalKeys⟩

/-- The positions of a list, or the names of a map. -/
def allKeys (name : String) : Value → Except Error (List Key)
  | .list items => .ok ((List.range items.length).map .index)
  | .map entries => .ok ((Dict.keys entries).map .name)
  | v => .error (unsuited name .container v)

/-- The last element of a list, if it has one. -/
def last : Select where
  name := "last"
  read := readBare "last"
  keys := fun _ v =>
    match v with
    | .list [] => .ok []
    | .list items => .ok [.index (items.length - 1)]
    | v => .error (unsuited "last" .list v)

/-- All children in order. -/
def each : Select where
  name := "each"
  read := readBare "each"
  keys := fun _ v => allKeys "each" v

/-- The elements of a list from the last to the first; the entries of a map in order. -/
def eachReversed : Select where
  name := "eachr"
  read := readBare "eachr"
  keys := fun _ v =>
    match v with
    | .list items => .ok ((List.range items.length).reverse.map .index)
    | v => allKeys "eachr" v

/-- Reads a pattern, which has to match whole names. -/
def readMatching : ReadDirective := fun source arguments =>
  (requireArguments source arguments "a regex").bind fun text =>
    match Pattern.ofText (Pattern.anchoredText text) with
    | .ok p => .ok ⟨source, some "match", .pattern p⟩
    | .error fault => .error (.invalidArguments source (.badPattern fault.message))

/-- The entries of a map whose names match a pattern. -/
def matching : Select where
  name := "match"
  read := readMatching
  keys := fun d v =>
    d.pattern.bind fun p =>
      match v with
      | .map entries => .ok (((Dict.keys entries).filter p.foundIn).map .name)
      | v => .error (unsuited "match" .map v)

end Select

end TreePath
