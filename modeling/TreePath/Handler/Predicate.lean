import TreePath.Handler.Basic

/-! # The built-in predicates -/

namespace TreePath

namespace Predicate

open Handler

/-- The error of a predicate on a value of a kind it does not suit. -/
def unsuited (name : String) (needed : Needed) (v : Value) : Error :=
  .mismatch (.handler .predicate name) needed (.kind v.kind)

/-- Whether the plain text of a leaf is a given one; containers cannot be compared. -/
def leafMatches (name : String) (v : Value) (text : String) : Except Error Bool :=
  if v.isContainer then .error (.mismatch (.handler .predicate name) .comparable (.value v))
  else .ok (v.display == text)

/-- Whether some leaf of a list matches a text; the first that matches ends the search. -/
def anyLeafMatches (name : String) (text : String) : List Value → Except Error Bool
  | [] => .ok false
  | v :: rest =>
    (leafMatches name v text).bind fun found =>
      if found then .ok true else anyLeafMatches name text rest

/-- Reads one text, without the blank characters at its ends. -/
def readText (name what : String) : ReadDirective := fun source arguments =>
  (requireArguments source arguments what).map fun text =>
    ⟨source, some name, .text (trimmed text)⟩

/-- A map has an entry of a name. -/
def containsKey : Predicate where
  name := "containsKey"
  read := readText "containsKey" "a key"
  accepts := fun d v =>
    d.text.bind fun key =>
      match v with
      | .map entries => .ok (Dict.contains key entries)
      | v => .error (unsuited "containsKey" .map v)

/-- A container has a leaf of a plain text among its children. -/
def containsValue : Predicate where
  name := "containsValue"
  read := readText "containsValue" "a value"
  accepts := fun d v =>
    d.text.bind fun text =>
      match v with
      | .list items => anyLeafMatches "containsValue" text items
      | .map entries => anyLeafMatches "containsValue" text (Dict.values entries)
      | v => .error (unsuited "containsValue" .container v)

/-- A container has no children. -/
def isEmpty : Predicate where
  name := "isEmpty"
  read := readBare "isEmpty"
  accepts := fun _ v =>
    match v.size? with
    | some n => .ok (n == 0)
    | none => .error (unsuited "isEmpty" .container v)

/-- Reads two texts, cut at the first comma, without the blank characters at their ends. -/
def readPair : ReadDirective := fun source arguments =>
  (requireArguments source arguments "eq(\x7bkey\x7d, \x7bvalue\x7d)").bind fun text =>
    let cs := text.toList
    match cs.dropWhile (· != ',') with
    | ',' :: rest =>
      .ok ⟨source, some "eq",
        .pair (String.ofList (Text.trim (cs.takeWhile (· != ','))))
          (String.ofList (Text.trim rest))⟩
    | _ => .error (.invalidArguments source .notAPair)

/-- A map has an entry of a name whose value is a leaf of a plain text. -/
def equalTo : Predicate where
  name := "eq"
  read := readPair
  accepts := fun d v =>
    d.pair.bind fun (key, expected) =>
      match v with
      | .map entries =>
        match Dict.get? key entries with
        | some field => leafMatches "eq" field expected
        | none => .ok false
      | v => .error (unsuited "eq" .map v)

/-- The opposite of a predicate, under its name with a tilde in front. It fails where the
predicate fails. -/
def negation (p : Predicate) : Predicate where
  name := "~" ++ p.name
  read := fun source arguments => (p.read source arguments).map (·.renamed ("~" ++ p.name))
  accepts := fun d v => (p.accepts d v).map (!·)

end Predicate

end TreePath
