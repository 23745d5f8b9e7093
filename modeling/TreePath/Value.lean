import TreePath.Number
import TreePath.Dict
import TreePath.Text.Blank

/-! # Value trees

A value is a boolean, a number, a text, a list of values, or a map from names to values that keeps
the order of its entries. Lists and maps are containers, all else are leaves. -/

namespace TreePath

/-- The kinds of values. -/
inductive Kind where
  | bool
  | number
  | string
  | list
  | map
deriving DecidableEq, Repr

namespace Kind

def isContainer : Kind → Bool
  | .list | .map => true
  | .bool | .number | .string => false

def name : Kind → String
  | .bool => "Bool"
  | .number => "Number"
  | .string => "String"
  | .list => "List"
  | .map => "Map"

end Kind

/-- A key of a container: a position in a list, or a name in a map. -/
inductive Key where
  | index (i : Nat)
  | name (text : String)
deriving DecidableEq, Repr

/-- The text of a key. -/
def Key.text : Key → String
  | .index i => String.ofList (Nat.toDigits 10 i)
  | .name text => text

inductive Value where
  | bool (b : Bool)
  | number (n : Number)
  | string (s : String)
  | list (items : List Value)
  | map (entries : List (String × Value))
deriving Inhabited, Repr

namespace Value

def kind : Value → Kind
  | .bool _ => .bool
  | .number _ => .number
  | .string _ => .string
  | .list _ => .list
  | .map _ => .map

def isContainer (v : Value) : Bool := v.kind.isContainer

def isLeaf (v : Value) : Bool := !v.isContainer

def bool? : Value → Option Bool
  | .bool b => some b
  | _ => none

def number? : Value → Option Number
  | .number n => some n
  | _ => none

def string? : Value → Option String
  | .string s => some s
  | _ => none

def list? : Value → Option (List Value)
  | .list items => some items
  | _ => none

def map? : Value → Option (Dict Value)
  | .map entries => some entries
  | _ => none

/-- The number of children of a container. -/
def size? : Value → Option Nat
  | .list items => some items.length
  | .map entries => some entries.length
  | _ => none

mutual

/-- Equal kind, class and contents, maps in the same order. Not-a-number makes a value differ from
itself. -/
def equals : Value → Value → Bool
  | .bool a, .bool b => a == b
  | .number m, .number n => m.equals n
  | .string s, .string t => s == t
  | .list xs, .list ys => equalItems xs ys
  | .map xs, .map ys => equalEntries xs ys
  | _, _ => false

def equalItems : List Value → List Value → Bool
  | [], [] => true
  | x :: xs, y :: ys => x.equals y && equalItems xs ys
  | _, _ => false

def equalEntries : List (String × Value) → List (String × Value) → Bool
  | [], [] => true
  | (k, x) :: xs, (l, y) :: ys => k == l && x.equals y && equalEntries xs ys
  | _, _ => false

end

mutual

/-- The plain text of a value: texts stand as they are, lists in square and maps in curly
brackets. -/
def text : Value → List Char
  | .bool b => if b then "true".toList else "false".toList
  | .number n => n.text
  | .string s => s.toList
  | .list items => '[' :: itemsText items ++ [']']
  | .map entries => '\x7b' :: entriesText entries ++ ['\x7d']

def itemsText : List Value → List Char
  | [] => []
  | [v] => v.text
  | v :: rest => v.text ++ ',' :: ' ' :: itemsText rest

def entriesText : List (String × Value) → List Char
  | [] => []
  | [(k, v)] => k.toList ++ '=' :: v.text
  | (k, v) :: rest => k.toList ++ '=' :: v.text ++ ',' :: ' ' :: entriesText rest

end

/-- The plain text of a value as a string. -/
def display (v : Value) : String :=
  String.ofList v.text

/-- The kind and the plain text of a value. -/
def describe (v : Value) : String :=
  v.kind.name ++ " " ++ v.display

mutual

/-- No map key at any depth is blank. -/
def isValid : Value → Bool
  | .list items => validItems items
  | .map entries => validEntries entries
  | _ => true

def validItems : List Value → Bool
  | [] => true
  | v :: rest => v.isValid && validItems rest

def validEntries : List (String × Value) → Bool
  | [] => true
  | (k, v) :: rest => !Text.isBlank k.toList && v.isValid && validEntries rest

end

/-- The value with the child under a key replaced; a key with no child changes nothing. -/
def replaceChild (v : Value) (key : Key) (child : Value) : Value :=
  match v, key with
  | .list items, .index i => .list (items.set i child)
  | .map entries, .name text => .map (Dict.replace text child entries)
  | v, _ => v

end Value

end TreePath
