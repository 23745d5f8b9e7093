import TreePath.Canonical.Data
import TreePath.Json.Read
import TreePath.Json.Write

/-! # From trees to data

A shape says what typed data looks like. Reading a tree under a shape takes it as its JSON
document: integers lose their width, binary values are read back from their text, and one that is
not finite stands for `null`. -/

namespace TreePath.Canonical

/-- The forms of typed data. -/
inductive Shape where
  | value
  | bool
  | text
  | char
  | signed (width : Width)
  | unsigned (width : Width)
  | float (precision : Precision)
  | list (item : Shape)
  | sortedMap (item : Shape)
  | optional (item : Shape)
  | record (fields : List (String × Shape))
  | choice (names : List String)
deriving Repr

/-- Whether a value stands for `null` in a document. -/
def isNull : Value → Bool
  | .number n => !n.isFinite
  | _ => false

/-- A finite binary value as it is read back from a document. -/
def readBack (n : Number) : Except ShapeFault Number :=
  match (Json.Numeral.read (Json.numberText n)).bind fun (numeral, _) => numeral.value with
  | .ok n => .ok n
  | .error fault => .error (.value fault)

mutual

/-- A value as it is read back from a document, or nothing for `null`. `room` is the number of
containers that may still be opened. -/
def reread (room : Nat) : Value → Except ShapeFault (Option Value)
  | .bool b => .ok (some (.bool b))
  | .number n =>
    if n.isFinite then (readBack n).map fun n => some (.number n) else .ok none
  | .string s => .ok (some (.string s))
  | .list items =>
    match room with
    | 0 => .error (.value .tooDeep)
    | room + 1 => (rereadItems room items).map fun vs => some (.list vs)
  | .map entries =>
    match room with
    | 0 => .error (.value .tooDeep)
    | room + 1 => (rereadEntries room [] entries).map fun es => some (.map es)

def rereadItems (room : Nat) : List Value → Except ShapeFault (List Value)
  | [] => .ok []
  | v :: rest =>
    (reread room v).bind fun
      | some v => (rereadItems room rest).map fun vs => v :: vs
      | none => .error (.value .null)

def rereadEntries (room : Nat) (done : Dict Value) :
    List (String × Value) → Except ShapeFault (Dict Value)
  | [] => .ok done
  | (k, v) :: rest =>
    (reread room v).bind fun v =>
      if Text.isBlank k.toList then .error (.value .blankKey)
      else
        rereadEntries room
          (match v with
            | some v => Dict.insert k v done
            | none => done)
          rest

end

namespace Shape

/-- An integer that a document writes as one. -/
def integer? : Value → Option Int
  | .number (.int _ n) => some n.val
  | _ => none

/-- A number read in a precision: integers and finite binary values are rounded to it. -/
def readFloat (p : Precision) : Value → Except ShapeFault Data
  | .number n =>
    match n with
    | .int _ z => .ok (.float p (Binary.ofInt z.val))
    | .float _ x =>
      if x.isFinite then
        (readBack n).map fun m =>
          match p with
          | .single => .float .single m.toDouble.convert
          | .double => .float .double m.toDouble
      else .error (.unfit "a number")
  | _ => .error (.unfit "a number")

/-- One of some names: a text, or a map of one entry under the name with nothing in it. -/
def readChoice (names : List String) : Value → Except ShapeFault Data
  | .string s => if names.contains s then .ok (.unitVariant s) else .error (.unfit "a variant")
  | .map [(k, v)] =>
    if names.contains k && isNull v then .ok (.unitVariant k) else .error (.unfit "a variant")
  | _ => .error (.unfit "a variant")

/-- The entries in the order of their keys. -/
def sorted (entries : List (String × Data)) : List (String × Data) :=
  entries.mergeSort fun a b => !(b.1 < a.1)

/-- Reads each of some values. -/
def readAll (read : Value → Except ShapeFault Data) : List Value → Except ShapeFault (List Data)
  | [] => .ok []
  | v :: rest => (read v).bind fun d => (readAll read rest).map fun ds => d :: ds

/-- Reads the value of each of some entries. -/
def readEach (read : Value → Except ShapeFault Data) :
    List (String × Value) → Except ShapeFault (List (String × Data))
  | [] => .ok []
  | (k, v) :: rest => (read v).bind fun d => (readEach read rest).map fun ds => (k, d) :: ds

mutual

/-- Reads a value under a shape. `room` is the number of containers that may still be opened. -/
def read (room : Nat) (shape : Shape) (v : Value) : Except ShapeFault Data :=
  match shape with
  | .value =>
    (reread room v).bind fun
      | some v => .ok (Data.ofValue v)
      | none => .error (.value .null)
  | .bool =>
    match v with
    | .bool b => .ok (.bool b)
    | _ => .error (.unfit "a bool")
  | .text =>
    match v with
    | .string s => .ok (.text s)
    | _ => .error (.unfit "a string")
  | .char =>
    match v with
    | .string s =>
      match s.toList with
      | [c] => .ok (.char c)
      | _ => .error (.unfit "a character")
    | _ => .error (.unfit "a character")
  | .signed w =>
    match (integer? v).bind (Sized.ofInt? w) with
    | some n => .ok (.signed w n)
    | none => .error (.unfit "an integer")
  | .unsigned w =>
    match integer? v with
    | some z =>
      if h : 0 ≤ z ∧ z.toNat < Nat.pow 2 w.bits then .ok (.unsigned w ⟨z.toNat, h.2⟩)
      else .error (.unfit "an unsigned integer")
    | none => .error (.unfit "an unsigned integer")
  | .float p => readFloat p v
  | .list item =>
    match v, room with
    | .list items, room + 1 => (readAll (read room item) items).map .sequence
    | _, _ => .error (.unfit "a list")
  | .sortedMap item =>
    match v, room with
    | .map entries, room + 1 =>
      (readEach (read room item) entries).map fun es =>
        .map ((sorted (Dict.ofPairs es)).map fun (k, d) => (.text k, d))
    | _, _ => .error (.unfit "a map")
  | .optional item =>
    if isNull v then .ok .absent else (read room item v).map .present
  | .record fields =>
    match v, room with
    | .map entries, room + 1 => (readFields room fields entries).map .record
    | .list items, room + 1 => (readPositions room fields items).map .record
    | _, _ => .error (.unfit "a record")
  | .choice names => if room = 0 && v.isContainer then .error (.value .tooDeep) else readChoice names v

/-- Reads the fields of a record by name. An optional field may be missing; entries that are no
field are passed over. -/
def readFields (room : Nat) (fields : List (String × Shape)) (entries : List (String × Value)) :
    Except ShapeFault (List (String × Data)) :=
  match fields with
  | [] => .ok []
  | (name, shape) :: rest =>
    let field : Except ShapeFault Data :=
      match Dict.get? name entries with
      | some v => read room shape v
      | none =>
        match shape with
        | .optional _ => .ok .absent
        | _ => .error (.missingField name)
    field.bind fun d => (readFields room rest entries).map fun ds => (name, d) :: ds

/-- Reads the fields of a record by position; there has to be one value for each. -/
def readPositions (room : Nat) (fields : List (String × Shape)) (items : List Value) :
    Except ShapeFault (List (String × Data)) :=
  match fields, items with
  | [], [] => .ok []
  | (name, shape) :: rest, v :: vs =>
    (read room shape v).bind fun d =>
      (readPositions room rest vs).map fun ds => (name, d) :: ds
  | _, _ => .error (.unfit "one value for each field")

end

/-- Data of a shape from a tree. -/
def fromCanonical (shape : Shape) (v : Value) : Except Error Data :=
  match shape.read Json.depthLimit v with
  | .ok d => .ok d
  | .error fault => .error (.shape fault)

end Shape

/-- A value read back from a document, or nothing for `null`. -/
def valueFromCanonical? (v : Value) : Except Error (Option Value) :=
  match reread Json.depthLimit v with
  | .ok v => .ok v
  | .error fault => .error (.shape fault)

end TreePath.Canonical
