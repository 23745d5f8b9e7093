import TreePath.Handler.Basic

/-! # Handlers beyond the built-in ones

Two handlers that a registry can be given: a select of every other element, and a predicate on the
length of texts whose directive carries data of its own. -/

namespace TreePath

open Handler

/-- The elements of a list at odd positions. -/
def Select.odd : Select where
  name := "odd"
  read := readBare "odd"
  keys := fun _ v =>
    match v with
    | .list items => .ok (((List.range items.length).filter (· % 2 == 1)).map .index)
    | v => .error (.mismatch (.handler .select "odd") .list (.kind v.kind))

/-- Texts of more bytes than a given number; no other value is accepted. -/
def Predicate.longer : Predicate where
  name := "longer"
  read := fun source arguments =>
    match Text.naturalBelow? (Nat.pow 2 64) (Text.trim ((arguments.getD "").toList)) with
    | some n => .ok ⟨source, some "longer", .custom (.count n)⟩
    | none => .error (.invalidArguments source (.other "expected a length"))
  accepts := fun d v =>
    d.customCount.map fun n =>
      match v with
      | .string s => n < s.utf8ByteSize
      | _ => false

end TreePath
