import TreePath.Pattern.Syntax

/-! # Matching

A node leads from a position in a text to a set of positions: those where a match that starts at
the first position can end. A pattern is found in a text if from some position the set is not
empty. -/

namespace TreePath.Pattern

/-- Whether the character before a position satisfies a test; there is none at the start. -/
def holdsBefore (text : List Char) (i : Nat) (test : Char → Bool) : Bool :=
  match i with
  | 0 => false
  | i + 1 => (text[i]?).any test

/-- Whether the character after a position satisfies a test; there is none at the end. -/
def holdsAfter (text : List Char) (i : Nat) (test : Char → Bool) : Bool :=
  (text[i]?).any test

/-- Whether a condition holds at a position; `word` tells the word characters. -/
def Look.holds (look : Look) (word : CharSet) (text : List Char) (i : Nat) : Bool :=
  let before := holdsBefore text i word.contains
  let after := holdsAfter text i word.contains
  match look with
  | .textStart => i == 0
  | .textEnd => i == text.length
  | .lineStart => i == 0 || holdsBefore text i (· == '\n')
  | .lineEnd => i == text.length || holdsAfter text i (· == '\n')
  | .crlfLineStart =>
    i == 0 || holdsBefore text i (· == '\n') ||
      (holdsBefore text i (· == '\r') && !holdsAfter text i (· == '\n'))
  | .crlfLineEnd =>
    i == text.length || holdsAfter text i (· == '\r') ||
      (holdsAfter text i (· == '\n') && !holdsBefore text i (· == '\r'))
  | .wordBoundary => before != after
  | .notWordBoundary => before == after
  | .wordStart => !before && after
  | .wordEnd => before && !after
  | .wordStartHalf => !before
  | .wordEndHalf => !after

/-- The set of positions up to `size` that are in a list, in order. -/
def positions (size : Nat) (found : List Nat) : List Nat :=
  (List.range (size + 1)).filter found.contains

/-- The positions reached by at least one step from each of a set. -/
def stepFrom (size : Nat) (next : Nat → List Nat) (here : List Nat) : List Nat :=
  positions size (here.flatMap next)

/-- The positions reached by exactly `count` steps; a set that a step does not change stays. -/
def stepsExactly (size : Nat) (next : Nat → List Nat) : Nat → List Nat → List Nat
  | 0, here => here
  | count + 1, here =>
    let there := stepFrom size next here
    if there = here then here else stepsExactly size next count there

/-- The positions reached by at most `count` steps. -/
def stepsAtMost (size : Nat) (next : Nat → List Nat) : Nat → List Nat → List Nat
  | 0, here => here
  | count + 1, here =>
    let there := positions size (here ++ here.flatMap next)
    if there = here then here else stepsAtMost size next count there

/-- The positions where a match of a node can end that starts at a position. With as many steps as
the text has characters every position is reached that any number of steps reaches. -/
def Node.ends (text : List Char) : Node → Nat → List Nat
  | .empty, i => [i]
  | .chars set, i => if holdsAfter text i set.contains then [i + 1] else []
  | .look place word, i => if place.holds word text i then [i] else []
  | .seq a b, i => positions text.length ((a.ends text i).flatMap (b.ends text))
  | .either a b, i => positions text.length (a.ends text i ++ b.ends text i)
  | .times a least most, i =>
    let atLeast := stepsExactly text.length (a.ends text) least [i]
    let more := match most with
      | some most => most - least
      | none => text.length
    stepsAtMost text.length (a.ends text) more atLeast

/-- Whether a match starts at some position of a text. -/
def Node.foundIn (node : Node) (text : List Char) : Bool :=
  (List.range (text.length + 1)).any fun i => !(node.ends text i).isEmpty

end TreePath.Pattern
