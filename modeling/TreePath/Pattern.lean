import TreePath.Pattern.Read
import TreePath.Pattern.Size

/-! # Whole patterns

A text is a pattern if all of it can be read and what it says is neither nested too deeply nor
too large. -/

namespace TreePath

/-- A pattern: its text, and the node it was read as. -/
structure Pattern where
  text : String
  node : Pattern.Node
deriving Repr

namespace Pattern

/-- How deeply a pattern may be nested. -/
def heightLimit : Nat := 250

/-- The node of a text. -/
def readNode (text : List Char) : Except Fault Node :=
  (readBranches (text.length + 1) .initial ⟨[], [], []⟩ text).bind fun (r, rest) =>
    if !rest.isEmpty then .error .unopenedGroup
    else if heightLimit < r.finish.height then .error .tooNested
    else if ¬ r.finish.node.Fits then .error .tooLarge
    else .ok r.finish.node

/-- The pattern of a text. -/
def ofText (text : String) : Except Fault Pattern :=
  (readNode text.toList).map fun node => ⟨text, node⟩

/-- The text of a pattern set between a start and an end, so that it has to match a whole text. -/
def anchoredText (text : String) : String :=
  "^(?:" ++ text ++ ")$"

/-- Whether a pattern is found in a text. -/
def foundIn (p : Pattern) (text : String) : Bool :=
  p.node.foundIn text.toList

end Pattern

end TreePath
