import TreePath.Canonical.Data
import TreePath.Value.Child

/-! # From data to trees

Absent options and units have no value: an entry or a field of theirs is left out, and where a
value has to stand they are refused. Variants other than plain names become maps of one entry. -/

namespace TreePath.Canonical

/-- The width of the signed integers that hold the unsigned ones of a width, if there is one. -/
def widened? : Width → Option Width
  | .w8 => some .w16
  | .w16 => some .w32
  | .w32 => some .w64
  | .w64 => none

/-- An unsigned integer as a number: signed of the next width, or of 64 bits where it fits, else
the nearest binary value. -/
def unsignedNumber (width : Width) (n : Nat) : Number :=
  match widened? width with
  | some wider => Number.fromInt n (.int wider)
  | none =>
    if (n : Int) ≤ Width.greatest .w64 then Number.fromInt n (.int .w64)
    else Number.fromInt n (.float .double)

/-- A binary value as a number, which has to be finite. -/
def finiteNumber (p : Precision) (x : Binary p.format) : Except Error Value :=
  if x.isFinite then .ok (.number (.float p x))
  else .error (.notAllowed (.nonFinite (String.ofList x.text)))

/-- The bytes of a byte string as a list of numbers. -/
def byteList (content : List UInt8) : Value :=
  .list (content.map fun b => .number (Number.fromInt b.toNat (.int .w16)))

/-- A value that has to be there. -/
def required (place : String) (v : Option Value) : Except Error Value :=
  match v with
  | some v => .ok v
  | none => .error (.notAllowed (.nullContent place))

/-- The name that a key's value stands for. -/
def keyName (v : Option Value) : Except Error String :=
  match v with
  | some (.string s) => .ok s
  | some (.number n) => .ok (String.ofList n.text)
  | some (.bool b) => .ok (Value.bool b).display
  | some v => .error (.value (.mapping (.keyKind (some v.kind))))
  | none => .error (.value (.mapping (.keyKind none)))

/-- The content of a variant under the variant's name. -/
def tagged (name : String) (v : Value) : Value :=
  .map [(name, v)]

/-- The entries with a value put in, if there is one. -/
def insertPresent (key : String) (v : Option Value) (done : Dict Value) : Dict Value :=
  match v with
  | some v => Dict.insert key v done
  | none => done

namespace Data

mutual

/-- The value of data, if it has one. -/
def lower : Data → Except Error (Option Value)
  | .bool b => .ok (some (.bool b))
  | .signed w n => .ok (some (.number (.int w n)))
  | .unsigned w n => .ok (some (.number (unsignedNumber w n.val)))
  | .float p x => (finiteNumber p x).map some
  | .char c => .ok (some (.string c.toString))
  | .text s => .ok (some (.string s))
  | .bytes content => .ok (some (byteList content))
  | .absent => .ok none
  | .present content => content.lower
  | .unit => .ok none
  | .wrapped content => content.lower
  | .sequence items => (lowerItems items).map fun vs => some (.list vs)
  | .map entries => (lowerEntries [] entries).map fun es => some (.map es)
  | .record fields => (lowerFields [] fields).map fun es => some (.map es)
  | .unitVariant name => .ok (some (.string name))
  | .wrappedVariant name content =>
    content.lower.bind fun v => (required name v).map fun v => some (tagged name v)
  | .sequenceVariant name items => (lowerItems items).map fun vs => some (tagged name (.list vs))
  | .recordVariant name fields =>
    (lowerFields [] fields).map fun es => some (tagged name (.map es))
  | .valueWithoutKey _ => .error (.value (.mapping .valueBeforeKey))
  | .unsupported what => .error (.value (.mapping (.unsupported what)))
  | .failing reason => .error (.value (.mapping (.custom reason)))

/-- The values of a sequence, which all have to be there. -/
def lowerItems : List Data → Except Error (List Value)
  | [] => .ok []
  | d :: rest =>
    d.lower.bind fun v =>
      (required "list element" v).bind fun v => (lowerItems rest).map fun vs => v :: vs

/-- The entries of a map, put into those already there. -/
def lowerEntries (done : Dict Value) : List (Data × Data) → Except Error (Dict Value)
  | [] => .ok done
  | (k, d) :: rest =>
    k.lower.bind fun key =>
      (keyName key).bind fun name =>
        d.lower.bind fun v => lowerEntries (insertPresent name v done) rest

/-- The fields of a record, put into those already there. -/
def lowerFields (done : Dict Value) : List (String × Data) → Except Error (Dict Value)
  | [] => .ok done
  | (name, d) :: rest => d.lower.bind fun v => lowerFields (insertPresent name v done) rest

end

/-- The tree of data. It has to have a value, and no blank key at any depth. -/
def toCanonical (d : Data) : Except Error Value :=
  d.lower.bind fun v =>
    match v with
    | none => .error (.notAllowed .nullRoot)
    | some v => v.validate.map fun _ => v

end Data

end TreePath.Canonical
