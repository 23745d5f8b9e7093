import TreePath.Pattern.Syntax

/-! # The size of patterns

A pattern is refused if the program that matches it takes more than ten mebibytes. The limit is
documented; how much room a program takes is not, and no program is built here. So the room of a
program is an assumption, made once by `Node.assumedRoom`: a program has a state for every byte of
a character that stands for itself, two states for every range of a set, a state for every choice
and condition, and as many copies of what is repeated as there may be repetitions.

Patterns whose programs are near the limit may be judged wrongly by this. What is proved of
patterns uses only that a sequence takes at least the room of its parts. -/

namespace TreePath.Pattern

/-- How much room a program may take, in bytes. -/
def roomLimit : Nat := 10 * Nat.pow 2 20

/-- The room of one state of a program. -/
def stateRoom : Nat := 32

/-- The room of one transition of a state that has several. -/
def transitionRoom : Nat := 8

/-- The room assumed for a set. -/
def CharSet.assumedRoom : CharSet → Nat
  | .table t =>
    match t with
    | [(first, last)] =>
      if first = last then stateRoom * (Char.ofNat first).utf8Size else ofRanges t
    | t => ofRanges t
  | .union a b | .inter a b | .diff a b | .symmDiff a b => a.assumedRoom + b.assumedRoom
  | .compl a => a.assumedRoom + 30 * stateRoom
  | .caseless a | .asciiCaseless a => a.assumedRoom + 2 * stateRoom
where
  ofRanges (t : Text.CodeTable) : Nat :=
    if t.all fun (_, last) => last < 0x80 then 2 * stateRoom + transitionRoom * t.length
    else 2 * stateRoom + 2 * stateRoom * t.rangeCount

/-- The room assumed for a node: a repetition takes that of all its copies. -/
def Node.assumedRoom : Node → Nat
  | .empty | .look _ _ => stateRoom
  | .chars set => set.assumedRoom
  | .seq a b => a.assumedRoom + b.assumedRoom
  | .either a b => a.assumedRoom + b.assumedRoom + stateRoom
  | .times a least most =>
    match most with
    | some most => most * a.assumedRoom + (most - least) * stateRoom
    | none => (max least 1) * a.assumedRoom + stateRoom

/-- The program of a node is within the limit. -/
def Node.Fits (node : Node) : Prop :=
  node.assumedRoom ≤ roomLimit

instance : DecidablePred Node.Fits :=
  fun _ => inferInstanceAs (Decidable (_ ≤ _))

end TreePath.Pattern
