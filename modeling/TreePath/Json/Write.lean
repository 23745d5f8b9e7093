import TreePath.Value

/-! # Writing JSON

Documents are written compactly or with two blanks for every level of nesting. Numbers lose their
class, and a number that is not finite is written as `null`. -/

namespace TreePath.Json

/-- The two ways a document is set out. -/
inductive Style where
  | compact
  | indented
deriving DecidableEq, Repr

namespace Style

/-- What stands before an element at a depth, and before a closing bracket. -/
def lineBreak (style : Style) (depth : Nat) : List Char :=
  match style with
  | .compact => []
  | .indented => '\n' :: List.replicate (2 * depth) ' '

/-- What stands between a key and its value. -/
def colon : Style → List Char
  | .compact => [':']
  | .indented => [':', ' ']

end Style

/-- The hexadecimal digit of a number below sixteen. -/
def hexDigit (n : Nat) : Char :=
  Nat.digitChar n

/-- The written form of a character inside a string: quotes, backslashes and control characters
are escaped, all others stand for themselves. -/
def escape (c : Char) : List Char :=
  match c with
  | '"' => ['\\', '"']
  | '\\' => ['\\', '\\']
  | '\n' => ['\\', 'n']
  | '\r' => ['\\', 'r']
  | '\t' => ['\\', 't']
  | '\x08' => ['\\', 'b']
  | '\x0c' => ['\\', 'f']
  | c =>
    if c.toNat < 0x20 then ['\\', 'u', '0', '0', hexDigit (c.toNat / 16), hexDigit (c.toNat % 16)]
    else [c]

/-- A text between quotes. -/
def quote (text : List Char) : List Char :=
  '"' :: text.flatMap escape ++ ['"']

/-- The layout of the binary values of a precision. -/
def numberLayout : Precision → Decimal.Layout
  | .single => .documentSingle
  | .double => .document

/-- The written form of a number. -/
def numberText : Number → List Char
  | .int _ n => Text.ofInt n.val
  | .float _ .nan => ['n', 'u', 'l', 'l']
  | .float p (.signed negative rank) =>
    if rank.val < p.format.infinityRank then
      Binary.finiteText (f := p.format) (numberLayout p) negative rank.val
    else ['n', 'u', 'l', 'l']

mutual

/-- The written form of a value whose own line is at a depth. -/
def write (style : Style) (depth : Nat) : Value → List Char
  | .bool true => ['t', 'r', 'u', 'e']
  | .bool false => ['f', 'a', 'l', 's', 'e']
  | .number n => numberText n
  | .string s => quote s.toList
  | .list [] => ['[', ']']
  | .list items => '[' :: writeItems style (depth + 1) items ++ style.lineBreak depth ++ [']']
  | .map [] => ['\x7b', '\x7d']
  | .map entries =>
    '\x7b' :: writeEntries style (depth + 1) entries ++ style.lineBreak depth ++ ['\x7d']

def writeItems (style : Style) (depth : Nat) : List Value → List Char
  | [] => []
  | [v] => style.lineBreak depth ++ write style depth v
  | v :: rest => style.lineBreak depth ++ write style depth v ++ ',' :: writeItems style depth rest

def writeEntries (style : Style) (depth : Nat) : List (String × Value) → List Char
  | [] => []
  | [(k, v)] => style.lineBreak depth ++ quote k.toList ++ style.colon ++ write style depth v
  | (k, v) :: rest =>
    style.lineBreak depth ++ quote k.toList ++ style.colon ++ write style depth v ++
      ',' :: writeEntries style depth rest

end

/-- The document of a value. -/
def encode (style : Style) (v : Value) : String :=
  String.ofList (write style 0 v)

end TreePath.Json
