import TreePath.Pattern.CharSet

/-! # Patterns

A pattern is built from sets of characters and conditions on a position by sequence, choice and
repetition. -/

namespace TreePath.Pattern

/-- Conditions on a position in a text. -/
inductive Look where
  | textStart
  | textEnd
  | lineStart
  | lineEnd
  | crlfLineStart
  | crlfLineEnd
  | wordBoundary
  | notWordBoundary
  | wordStart
  | wordEnd
  | wordStartHalf
  | wordEndHalf
deriving DecidableEq, Repr

inductive Node where
  | empty
  | chars (set : CharSet)
  | look (place : Look) (word : CharSet)
  | seq (a b : Node)
  | either (a b : Node)
  | times (a : Node) (least : Nat) (most : Option Nat)
deriving Repr

namespace Node

/-- One node after the other. -/
def ofSequence : List Node → Node
  | [] => .empty
  | [a] => a
  | a :: rest => .seq a (ofSequence rest)

/-- One node or another. -/
def ofChoice : List Node → Node
  | [] => .empty
  | [a] => a
  | a :: rest => .either a (ofChoice rest)

end Node

end TreePath.Pattern
