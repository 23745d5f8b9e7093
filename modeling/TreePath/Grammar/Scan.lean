import TreePath.Error

/-! # Scanning a text for its structure

Brackets nest, quotes pair up and hide brackets, and a backslash hides the character after it.
A character that separates parts counts only at the top level: outside quotes and brackets, and
not behind a backslash. -/

namespace TreePath.Grammar

/-- What is known between two characters of a text. -/
structure Scan where
  depth : Nat
  quoted : Bool
  escaped : Bool
deriving DecidableEq, Repr

namespace Scan

/-- The state at the start of a text. -/
def start : Scan := ⟨0, false, false⟩

/-- The state after a character; a closing bracket with no open one has none. -/
def step (s : Scan) (c : Char) : Option Scan :=
  if s.escaped then some { s with escaped := false }
  else if c = '\\' then some { s with escaped := true }
  else if c = '"' then some { s with quoted := !s.quoted }
  else if s.quoted then some s
  else if c = '(' then some { s with depth := s.depth + 1 }
  else if c = ')' then
    match s.depth with
    | 0 => none
    | depth + 1 => some { s with depth := depth }
  else some s

/-- Whether a text may end here. A backslash at the end hides nothing and does no harm. -/
def finish (s : Scan) : Except GrammarFault Unit :=
  if s.quoted then .error .unterminatedQuote
  else if 0 < s.depth then .error .unbalancedOpen
  else .ok ()

/-- Whether a character separates two parts here. A closing bracket does so if it closes a group
that was opened at the top level. -/
def separates (s : Scan) (separator c : Char) : Bool :=
  c == separator && !s.quoted && !s.escaped && s.depth == (if separator = ')' then 1 else 0)

end Scan

/-- Cuts a text at its separators from a state on: the first part and the others. -/
def splitFrom (separator : Char) (s : Scan) :
    List Char → Except GrammarFault (List Char × List (List Char))
  | [] => s.finish.map fun _ => ([], [])
  | c :: rest =>
    match s.step c with
    | none => .error .unbalancedClose
    | some next =>
      (splitFrom separator next rest).map fun (part, parts) =>
        if s.separates separator c then ([], part :: parts) else (c :: part, parts)

/-- Cuts a text at its top-level separators: the first part and the others. -/
def split (separator : Char) (text : List Char) :
    Except GrammarFault (List Char × List (List Char)) :=
  splitFrom separator .start text

/-- The length of a text in bytes. -/
def byteLength (text : List Char) : Nat :=
  text.foldr (fun c length => c.utf8Size + length) 0

/-- A name, and the arguments in brackets after it. -/
structure Call where
  name : List Char
  arguments : Option (List Char)
deriving DecidableEq, Repr

/-- Takes a call apart. There is at most one group of brackets at the top level, and it ends the
text. -/
def splitCall (text : List Char) : Except GrammarFault Call :=
  (split '(' text).bind fun
    | (_, []) => .ok ⟨text, none⟩
    | (name, [_]) =>
      (split ')' text).bind fun
        | (inside, [[]]) => .ok ⟨name, some (inside.drop (name.length + 1))⟩
        | _ => .error .unclosedArguments
    | (name, first :: _ :: _) =>
      .error (.textAfterArguments (byteLength name + 1 + byteLength first))

end TreePath.Grammar
