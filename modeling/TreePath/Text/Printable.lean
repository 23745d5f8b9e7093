import TreePath.Text.Category.Letter
import TreePath.Text.Category.Mark
import TreePath.Text.Category.Punctuation
import TreePath.Text.Category.Symbol
import TreePath.Text.Derived
import TreePath.Text.Word

/-! # Printable characters

A character can be printed if it has a shape of its own or is the plain blank: letters, marks,
numbers, punctuation and symbols, but no controls, formats, separators, private or unassigned
characters. -/

namespace TreePath.Text

open Category Derived

/-- The categories of characters with a shape. -/
def shapedTables : List CodeTable :=
  [uppercaseLetters, lowercaseLetters, titlecaseLetters, modifierLetters, otherLetters,
    nonspacingMarks, spacingMarks, enclosingMarks, digitTable, letterNumbers, otherNumbers,
    connectors, dashes, openings, closings, initialQuotes, finalQuotes,
    otherPunctuation, mathSymbols, currencySymbols, modifierSymbols, otherSymbols]

/-- Whether a character can be printed. -/
def isPrintable (c : Char) : Bool :=
  c == ' ' || shapedTables.any (·.contains c)

/-- Whether a character joins the one before it to a single shape. -/
def extendsGrapheme (c : Char) : Bool :=
  [nonspacingMarks, enclosingMarks, otherGraphemeExtend].any (·.contains c)

end TreePath.Text
