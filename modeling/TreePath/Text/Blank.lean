import TreePath.Text.CodeTable

/-! # Blank characters

The blank characters are those with the property White_Space. They are trimmed from both ends of
arguments, and a map key made of them alone is not allowed. -/

namespace TreePath.Text

/-- The characters with the property White_Space. -/
def spaceTable : CodeTable :=
  [(0x9, 0xD), (0x20, 0x20), (0x85, 0x85), (0xA0, 0xA0), (0x1680, 0x1680), (0x2000, 0x200A),
    (0x2028, 0x2029), (0x202F, 0x202F), (0x205F, 0x205F), (0x3000, 0x3000)]

/-- Whether a character has the property White_Space. -/
def isBlankChar (c : Char) : Bool :=
  spaceTable.contains c

/-- Whether a text holds nothing but blank characters. -/
def isBlank (text : List Char) : Bool :=
  text.all isBlankChar

/-- The text without the blank characters at its two ends. -/
def trim (text : List Char) : List Char :=
  ((text.dropWhile isBlankChar).reverse.dropWhile isBlankChar).reverse

end TreePath.Text
