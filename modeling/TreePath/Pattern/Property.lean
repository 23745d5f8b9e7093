import TreePath.Pattern.CharSet
import TreePath.Text.Category.Letter
import TreePath.Text.Category.Mark
import TreePath.Text.Category.Punctuation
import TreePath.Text.Category.Symbol
import TreePath.Text.Derived
import TreePath.Text.Property
import TreePath.Text.Script

/-! # Properties of characters

The sets of characters that a pattern can name by a property: the general categories and their
groups, the scripts, and properties that a character has or has not.

Not covered are Age, Script_Extensions and the three properties by which texts are cut:
Grapheme_Cluster_Break, Word_Break and Sentence_Break. A pattern that names one of them is refused
here as one that names an unknown property is. -/

namespace TreePath.Pattern

/-- The form in which names of properties are compared: the ASCII letters as small ones, without a
leading `is` and without blanks, hyphens and underscores. -/
def propertyKey (name : List Char) : String :=
  let plain (cs : List Char) : List Char :=
    (cs.filter fun c => c.toNat < 0x80 && !(c == ' ' || c == '-' || c == '_')).map Char.toLower
  String.ofList <| match name.map Char.toLower with
    | 'i' :: 's' :: _ =>
      let rest := plain (name.drop 2)
      if rest = ['c'] then ['i', 's', 'c'] else rest
    | _ => plain name

namespace CharSet

/-- The union of tables. -/
def ofTables (tables : List Text.CodeTable) : CharSet :=
  .table tables.flatten

open Text.Category Text.Derived

/-- Letters of any kind. -/
def letter : CharSet :=
  ofTables [uppercaseLetters, lowercaseLetters, titlecaseLetters, modifierLetters, otherLetters]

/-- Marks of any kind. -/
def mark : CharSet :=
  ofTables [nonspacingMarks, spacingMarks, enclosingMarks]

/-- Numbers of any kind. -/
def number : CharSet :=
  .union digit (ofTables [letterNumbers, otherNumbers])

/-- Punctuation of any kind. -/
def punctuation : CharSet :=
  ofTables
    [connectors, dashes, openings, closings, initialQuotes, finalQuotes,
      otherPunctuation]

/-- Symbols of any kind. -/
def symbol : CharSet :=
  ofTables [mathSymbols, currencySymbols, modifierSymbols, otherSymbols]

/-- Separators of any kind. -/
def separator : CharSet :=
  ofTables [spaceSeparators, lineSeparators, paragraphSeparators]

/-- Letters, and what else is used as one. -/
def alphabetic : CharSet :=
  .union letter (ofTables [letterNumbers, otherAlphabetic])

/-- Characters that have been assigned a category other than that of the unassigned ones. -/
def assigned : CharSet :=
  .union (.union (.union letter mark) (.union number punctuation))
    (.union (.union symbol separator) (ofTables [controls, formats, privateUse]))

/-- Characters without an assignment. -/
def unassigned : CharSet := .compl assigned

/-- The set of a general category, a group of them, or one of the sets that are named as if they
were one. -/
def ofCategoryKey? : String → Option CharSet
  | "lu" | "uppercaseletter" => some (.table uppercaseLetters)
  | "ll" | "lowercaseletter" => some (.table lowercaseLetters)
  | "lt" | "titlecaseletter" => some (.table titlecaseLetters)
  | "lc" | "casedletter" =>
    some (ofTables [uppercaseLetters, lowercaseLetters, titlecaseLetters])
  | "lm" | "modifierletter" => some (.table modifierLetters)
  | "lo" | "otherletter" => some (.table otherLetters)
  | "l" | "letter" => some letter
  | "mn" | "nonspacingmark" => some (.table nonspacingMarks)
  | "mc" | "spacingmark" => some (.table spacingMarks)
  | "me" | "enclosingmark" => some (.table enclosingMarks)
  | "m" | "mark" | "combiningmark" => some mark
  | "nd" | "decimalnumber" | "digit" => some digit
  | "nl" | "letternumber" => some (.table letterNumbers)
  | "no" | "othernumber" => some (.table otherNumbers)
  | "n" | "number" => some number
  | "pc" | "connectorpunctuation" => some (.table connectors)
  | "pd" | "dashpunctuation" => some (.table dashes)
  | "ps" | "openpunctuation" => some (.table openings)
  | "pe" | "closepunctuation" => some (.table closings)
  | "pi" | "initialpunctuation" => some (.table initialQuotes)
  | "pf" | "finalpunctuation" => some (.table finalQuotes)
  | "po" | "otherpunctuation" => some (.table otherPunctuation)
  | "p" | "punctuation" | "punct" => some punctuation
  | "sm" | "mathsymbol" => some (.table mathSymbols)
  | "sc" | "currencysymbol" => some (.table currencySymbols)
  | "sk" | "modifiersymbol" => some (.table modifierSymbols)
  | "so" | "othersymbol" => some (.table otherSymbols)
  | "s" | "symbol" => some symbol
  | "zs" | "spaceseparator" => some (.table spaceSeparators)
  | "zl" | "lineseparator" => some (.table lineSeparators)
  | "zp" | "paragraphseparator" => some (.table paragraphSeparators)
  | "z" | "separator" => some separator
  | "cc" | "control" | "cntrl" => some (.table controls)
  | "cf" | "format" => some (.table formats)
  | "co" | "privateuse" => some (.table privateUse)
  | "cn" | "unassigned" => some unassigned
  | "c" | "other" => some (.union unassigned (ofTables [controls, formats, privateUse]))
  | "any" => some all
  | "assigned" => some assigned
  | "ascii" => some (.table [(0, 0x7F)])
  | _ => Option.none

/-- The set of a property that follows from general categories. -/
def ofDerivedKey? : String → Option CharSet
  | "whitespace" | "wspace" | "space" => some space
  | "alphabetic" | "alpha" => some alphabetic
  | "lowercase" | "lower" => some (ofTables [lowercaseLetters, otherLowercase])
  | "uppercase" | "upper" => some (ofTables [uppercaseLetters, otherUppercase])
  | "cased" =>
    some
      (ofTables
        [uppercaseLetters, otherUppercase, lowercaseLetters, otherLowercase, titlecaseLetters])
  | "caseignorable" | "ci" =>
    some
      (ofTables
        [nonspacingMarks, enclosingMarks, formats, modifierLetters, modifierSymbols,
          otherCaseIgnorable])
  | "idstart" | "ids" => some identifierStart
  | "idcontinue" | "idc" => some identifierPart
  | "xidstart" | "xids" => some (.diff identifierStart (.table unstableIdentifierStart))
  | "xidcontinue" | "xidc" => some (.diff identifierPart (.table unstableIdentifierPart))
  | "graphemeextend" | "grext" => some graphemeExtend
  | "graphemebase" | "grbase" =>
    some
      (.diff assigned
        (.union graphemeExtend
          (ofTables [controls, formats, privateUse, lineSeparators, paragraphSeparators])))
  | _ => Option.none
where
  identifierStart : CharSet :=
    .diff (.union letter (ofTables [letterNumbers, otherIdentifierStart]))
      (.table notIdentifierStart)
  identifierPart : CharSet :=
    .union (.union identifierStart digit)
      (ofTables [nonspacingMarks, spacingMarks, connectors, otherIdentifierPart])
  graphemeExtend : CharSet :=
    ofTables [nonspacingMarks, enclosingMarks, otherGraphemeExtend]

/-- The set of a property that a character has or has not. -/
def ofBinaryKey? (key : String) : Option CharSet :=
  (ofDerivedKey? key).or ((Text.Property.ofName? key).map .table)

/-- The set of a script. -/
def ofScriptKey? (key : String) : Option CharSet :=
  (Text.Script.ofName? key).map .table

end CharSet

/-- The set of a property given by its name. -/
def propertySet? (name : List Char) : Option CharSet :=
  let key := propertyKey name
  ((CharSet.ofBinaryKey? key).or (CharSet.ofCategoryKey? key)).or (CharSet.ofScriptKey? key)

/-- The set of a property given by the name of a property and one of its values. Of the properties
with values there are the general category and the script; `age`, `scx`, `gcb`, `wb` and `sb` are
not covered. -/
def propertyValueSet? (property value : List Char) : Option CharSet :=
  match propertyKey property with
  | "gc" | "generalcategory" => CharSet.ofCategoryKey? (propertyKey value)
  | "sc" | "script" => CharSet.ofScriptKey? (propertyKey value)
  | _ => none

end TreePath.Pattern
