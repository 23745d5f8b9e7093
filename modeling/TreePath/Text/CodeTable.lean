/-! # Tables of characters

A table lists the code points of a set of characters as ranges, first and last. -/

namespace TreePath.Text

/-- Ranges of code points, each given by its two ends. -/
abbrev CodeTable := List (Nat × Nat)

namespace CodeTable

/-- Whether a character lies in one of the ranges. -/
def contains (table : CodeTable) (c : Char) : Bool :=
  table.any fun (first, last) => first ≤ c.toNat && c.toNat ≤ last

/-- The table of one range. -/
def range (first last : Char) : CodeTable :=
  [(first.toNat, last.toNat)]

/-- The table of one character. -/
def single (c : Char) : CodeTable :=
  range c c

/-- How many ranges the characters of a table form: one that starts inside another or right behind
it belongs to the other. -/
def rangeCount (table : CodeTable) : Nat :=
  table.countP fun (first, _) => !table.any fun (start, last) => start < first && first ≤ last + 1

end CodeTable

end TreePath.Text
