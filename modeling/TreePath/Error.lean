import TreePath.Value
import TreePath.Json.Fault

/-! # Errors

Every failure is one of these causes; the wording of each is in one place, the function `message`
of its type. -/

namespace TreePath

/-- The three roles a directive can have. -/
inductive Role where
  | select
  | predicate
  | operation
deriving DecidableEq, Repr

def Role.name : Role → String
  | .select => "select"
  | .predicate => "predicate"
  | .operation => "operation"

/-- Why a text does not follow the grammar of commands. -/
inductive GrammarFault where
  | unbalancedClose
  | unterminatedQuote
  | unbalancedOpen
  | textAfterArguments (offset : Nat)
  | unclosedArguments
  | severalOperations
  | missingRoot
  | operationInPath
  | emptyElement
  | emptyOperation
  | unnamedPredicate
  | invalidSegment
  | emptyPath
deriving DecidableEq, Repr

def GrammarFault.message : GrammarFault → String
  | .unbalancedClose => "unbalanced ')'"
  | .unterminatedQuote => "unterminated quote"
  | .unbalancedOpen => "unbalanced '('"
  | .textAfterArguments offset =>
    "unexpected text after arguments at offset " ++ String.ofList (Nat.toDigits 10 offset)
  | .unclosedArguments => "directive input must be between '(' and ')'"
  | .severalOperations => "invalid command, unable to split path from operation"
  | .missingRoot => "path must start with '//'"
  | .operationInPath => "an operation is not allowed in the path"
  | .emptyElement => "path must not have empty elements"
  | .emptyOperation => "operation must not be empty"
  | .unnamedPredicate => "predicate name must not be empty"
  | .invalidSegment => "invalid path segment"
  | .emptyPath => "path must not be empty"

/-- Why a directive does not take its arguments. -/
inductive ArgumentFault where
  | missing (what : String)
  | unexpected
  | literalWithArguments
  | notAPair
  | notANumber (text : String)
  | badPattern (reason : String)
  | other (reason : String)
deriving DecidableEq, Repr

def ArgumentFault.message : ArgumentFault → String
  | .missing what => "requires " ++ what
  | .unexpected => "arguments are not expected"
  | .literalWithArguments => "a literal path segment does not take arguments"
  | .notAPair => "input requires two values: eq(\x7bkey\x7d, \x7bvalue\x7d)"
  | .notANumber text => "invalid number format '" ++ text ++ "'"
  | .badPattern reason => reason
  | .other reason => reason

inductive ParseError where
  | grammar (fault : GrammarFault) (fragment : String)
  | unknownDirective (role : Role) (name fragment : String)
  | invalidArguments (directive : String) (fault : ArgumentFault)
deriving DecidableEq, Repr

def ParseError.message : ParseError → String
  | .grammar fault fragment => fault.message ++ ": " ++ fragment
  | .unknownDirective role name fragment =>
    role.name ++ " directive handler not found (" ++ fragment ++ "): " ++ name
  | .invalidArguments directive fault =>
    "invalid arguments for " ++ directive ++ ": " ++ fault.message

/-- Where a value of another kind was needed. -/
inductive Place where
  | segment (text : String)
  | handler (role : Role) (name : String)
  | lookup (key : Key)
  | store (key : Key)
  | unset (key : Key)
  | mergeRoot
deriving DecidableEq, Repr

def Place.message : Place → String
  | .segment text => "segment '" ++ text ++ "'"
  | .handler role name => name ++ " " ++ role.name
  | .lookup key => "lookup of '" ++ key.text ++ "'"
  | .store key => "store at '" ++ key.text ++ "'"
  | .unset key => "unset at '" ++ key.text ++ "'"
  | .mergeRoot => "merge root"

/-- What was needed there. -/
inductive Needed where
  | list
  | map
  | container
  | indexKey
  | nameKey
  | matchingContainer
  | comparable
  | number
  | listOrMap
  | listOrMapOverride
  | kind (k : Kind)
deriving DecidableEq, Repr

def Needed.message : Needed → String
  | .list => "a list"
  | .map => "a map"
  | .container => "a container"
  | .indexKey => "an index key"
  | .nameKey => "a name key"
  | .matchingContainer => "a container matching the key"
  | .comparable => "a Bool, Number or String to compare"
  | .number => "a number"
  | .listOrMap => "a list or map"
  | .listOrMapOverride => "a List or Map override"
  | .kind k => k.name

/-- What was found instead: reported by its kind alone, or shown whole. -/
inductive Found where
  | kind (k : Kind)
  | value (v : Value)
deriving Repr

def Found.message : Found → String
  | .kind k => k.name
  | .value v => v.describe

/-- Why a value may not stand in a tree. -/
inductive Refusal where
  | blankKey
  | nullRoot
  | nonFinite (text : String)
  | nullContent (place : String)
deriving DecidableEq, Repr

def Refusal.message : Refusal → String
  | .blankKey => "map keys must not be blank"
  | .nullRoot => "null has no canonical representation"
  | .nonFinite text => "non-finite number " ++ text
  | .nullContent place => place ++ " must not be null"

/-- Why data has no tree at all. -/
inductive MappingFault where
  | keyKind (found : Option Kind)
  | valueBeforeKey
  | unsupported (what : String)
  | custom (text : String)
deriving DecidableEq, Repr

def MappingFault.message : MappingFault → String
  | .keyKind found =>
    "map key must be a string, number or bool, found " ++
      match found with
      | some k => k.name
      | none => "null"
  | .valueBeforeKey => "map value serialized before its key"
  | .unsupported what => what ++ " is not supported"
  | .custom text => text

inductive ValueError where
  | typeMismatch (place : Place) (needed : Needed) (found : Found)
  | notAllowed (refusal : Refusal)
  | indexOutOfBounds (index size : Nat)
  | decode (fault : Json.Fault)
  | mapping (fault : MappingFault)
deriving Repr

def ValueError.message : ValueError → String
  | .typeMismatch place needed found =>
    "type mismatch in " ++ place.message ++ ": expected " ++ needed.message ++ ", found " ++
      found.message
  | .notAllowed refusal => "value not allowed: " ++ refusal.message
  | .indexOutOfBounds index size =>
    "index " ++ String.ofList (Nat.toDigits 10 index) ++ " out of bounds for list of length " ++
      String.ofList (Nat.toDigits 10 size)
  | .decode fault => "unable to decode value: " ++ fault.message
  | .mapping fault => "unable to map value: " ++ fault.message

/-- How many values a query has to find. -/
inductive Cardinality where
  | exactlyOne
  | atMostOne
deriving DecidableEq, Repr

def Cardinality.message : Cardinality → String
  | .exactlyOne => "exactly one"
  | .atMostOne => "at most one"

inductive RunError where
  | leafTraversal (leaf : Value)
  | unknownDirective (role : Role) (name : String)
  | missingPayload (source : String)
  | cardinality (expected : Cardinality) (found : Nat) (path : String)
deriving Repr

def RunError.message : RunError → String
  | .leafTraversal leaf => "cannot traverse into leaf value: " ++ leaf.describe
  | .unknownDirective role name =>
    role.name ++ " directive handler not found (" ++ name ++
      "): are you using the same registry for parsing and executing?"
  | .missingPayload source => "directive is missing its payload: " ++ source
  | .cardinality expected found path =>
    expected.message ++ " value expected but found " ++ String.ofList (Nat.toDigits 10 found) ++
      ": " ++ path

/-- Two trees hold values of different kinds under the same names. -/
structure MergeConflict where
  path : List String
  found : Kind
  required : Kind
deriving DecidableEq, Repr

def MergeConflict.message (c : MergeConflict) : String :=
  "structure mismatch at //" ++ String.intercalate "/" c.path ++ ": found " ++ c.found.name ++
    ", required " ++ c.required.name

/-- Why a tree does not fit the shape of typed data. -/
inductive ShapeFault where
  | unfit (expected : String)
  | missingField (name : String)
  | value (fault : Json.Fault)
deriving DecidableEq, Repr

def ShapeFault.message : ShapeFault → String
  | .unfit expected => "expected " ++ expected
  | .missingField name => "missing field " ++ name
  | .value fault => fault.message

inductive Error where
  | parse (e : ParseError)
  | value (e : ValueError)
  | run (e : RunError)
  | merge (e : MergeConflict)
  | shape (e : ShapeFault)
deriving Repr

namespace Error

/-- The text of an error. -/
def message : Error → String
  | .parse e => e.message
  | .value e => e.message
  | .run e => e.message
  | .merge e => e.message
  | .shape e => "Serialization error: " ++ e.message

def isParse : Error → Bool
  | .parse _ => true
  | _ => false

def isGrammar : Error → Bool
  | .parse (.grammar ..) => true
  | _ => false

def isInvalidArguments : Error → Bool
  | .parse (.invalidArguments ..) => true
  | _ => false

/-- A name that no handler has, noticed while reading or while running. -/
def isUnknownDirective : Error → Bool
  | .parse (.unknownDirective ..) | .run (.unknownDirective ..) => true
  | _ => false

def isTypeMismatch : Error → Bool
  | .value (.typeMismatch ..) => true
  | _ => false

def isNotAllowed : Error → Bool
  | .value (.notAllowed _) => true
  | _ => false

def isOutOfBounds : Error → Bool
  | .value (.indexOutOfBounds ..) => true
  | _ => false

/-- A failure to turn text or data into a tree, or a tree into data. -/
def isDecode : Error → Bool
  | .value (.decode _) | .value (.mapping _) | .shape _ => true
  | _ => false

def isLeafTraversal : Error → Bool
  | .run (.leafTraversal _) => true
  | _ => false

def isMissingPayload : Error → Bool
  | .run (.missingPayload _) => true
  | _ => false

def isCardinality : Error → Bool
  | .run (.cardinality ..) => true
  | _ => false

def isConflict : Error → Bool
  | .merge _ => true
  | _ => false

/-- A value of a kind that does not suit its place. -/
def mismatch (place : Place) (needed : Needed) (found : Found) : Error :=
  .value (.typeMismatch place needed found)

def outOfBounds (index size : Nat) : Error :=
  .value (.indexOutOfBounds index size)

def notAllowed (refusal : Refusal) : Error :=
  .value (.notAllowed refusal)

def grammar (fault : GrammarFault) (fragment : String) : Error :=
  .parse (.grammar fault fragment)

def invalidArguments (directive : String) (fault : ArgumentFault) : Error :=
  .parse (.invalidArguments directive fault)

end Error

end TreePath
