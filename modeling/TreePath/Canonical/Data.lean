import TreePath.Value

/-! # Typed data

Data as programs hold it, described by what it is made of: scalars of many types, options,
sequences, maps with keys of any type, records, and the variants of an enumeration. -/

namespace TreePath.Canonical

inductive Data where
  | bool (b : Bool)
  | signed (width : Width) (n : Sized width)
  | unsigned (width : Width) (n : Fin (Nat.pow 2 width.bits))
  | float (precision : Precision) (x : Binary precision.format)
  | char (c : Char)
  | text (s : String)
  | bytes (content : List UInt8)
  | absent
  | present (content : Data)
  | unit
  | wrapped (content : Data)
  | sequence (items : List Data)
  | map (entries : List (Data × Data))
  | record (fields : List (String × Data))
  | unitVariant (name : String)
  | wrappedVariant (name : String) (content : Data)
  | sequenceVariant (name : String) (items : List Data)
  | recordVariant (name : String) (fields : List (String × Data))
  | valueWithoutKey (value : Data)
  | unsupported (what : String)
  | failing (reason : String)
deriving Inhabited, Repr

namespace Data

/-- A number as data of its own class. -/
def ofNumber : Number → Data
  | .int w n => .signed w n
  | .float p x => .float p x

mutual

/-- A value as data: lists as sequences and maps as maps with texts for keys. -/
def ofValue : Value → Data
  | .bool b => .bool b
  | .number n => ofNumber n
  | .string s => .text s
  | .list items => .sequence (ofItems items)
  | .map entries => .map (ofEntries entries)

def ofItems : List Value → List Data
  | [] => []
  | v :: rest => ofValue v :: ofItems rest

def ofEntries : List (String × Value) → List (Data × Data)
  | [] => []
  | (k, v) :: rest => (.text k, ofValue v) :: ofEntries rest

end

end Data

end TreePath.Canonical
