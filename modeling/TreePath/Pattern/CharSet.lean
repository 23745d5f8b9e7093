import TreePath.Text.Blank
import TreePath.Text.CaseFold
import TreePath.Text.Word

/-! # Sets of characters

The sets that a pattern can name: tables, their combinations, and the closure of a set under
change of case. -/

namespace TreePath.Pattern

inductive CharSet where
  | table (t : Text.CodeTable)
  | union (a b : CharSet)
  | inter (a b : CharSet)
  | diff (a b : CharSet)
  | symmDiff (a b : CharSet)
  | compl (a : CharSet)
  | caseless (a : CharSet)
  | asciiCaseless (a : CharSet)
deriving Repr

namespace CharSet

/-- Whether a character belongs to a set. A set closed under change of case holds the characters
that have a variant in the set. -/
def contains : CharSet → Char → Bool
  | .table t, c => t.contains c
  | .union a b, c => a.contains c || b.contains c
  | .inter a b, c => a.contains c && b.contains c
  | .diff a b, c => a.contains c && !b.contains c
  | .symmDiff a b, c => a.contains c != b.contains c
  | .compl a, c => !a.contains c
  | .caseless a, c => (Text.caseVariants c).any a.contains
  | .asciiCaseless a, c => (Text.asciiCaseVariants c).any a.contains

/-- No character. -/
def none : CharSet := .table []

/-- Every character. -/
def all : CharSet := .table [(0, 0x10FFFF)]

def single (c : Char) : CharSet := .table (.single c)

def range (first last : Char) : CharSet := .table (.range first last)

/-- Word characters. -/
def word : CharSet := .table Text.wordTable

/-- Decimal digits. -/
def digit : CharSet := .table Text.digitTable

/-- Blank characters. -/
def space : CharSet := .table Text.spaceTable

/-- Word characters of ASCII. -/
def asciiWord : CharSet := .table [(0x30, 0x39), (0x41, 0x5A), (0x5F, 0x5F), (0x61, 0x7A)]

/-- Decimal digits of ASCII. -/
def asciiDigit : CharSet := .table [(0x30, 0x39)]

/-- Blank characters of ASCII. -/
def asciiSpace : CharSet := .table [(0x09, 0x0D), (0x20, 0x20)]

/-- The sets that can be named inside brackets, as in `[:alpha:]`. -/
def ofAsciiName? : String → Option CharSet
  | "alnum" => some (.table [(0x30, 0x39), (0x41, 0x5A), (0x61, 0x7A)])
  | "alpha" => some (.table [(0x41, 0x5A), (0x61, 0x7A)])
  | "ascii" => some (.table [(0x00, 0x7F)])
  | "blank" => some (.table [(0x09, 0x09), (0x20, 0x20)])
  | "cntrl" => some (.table [(0x00, 0x1F), (0x7F, 0x7F)])
  | "digit" => some asciiDigit
  | "graph" => some (.table [(0x21, 0x7E)])
  | "lower" => some (.table [(0x61, 0x7A)])
  | "print" => some (.table [(0x20, 0x7E)])
  | "punct" => some (.table [(0x21, 0x2F), (0x3A, 0x40), (0x5B, 0x60), (0x7B, 0x7E)])
  | "space" => some asciiSpace
  | "upper" => some (.table [(0x41, 0x5A)])
  | "word" => some asciiWord
  | "xdigit" => some (.table [(0x30, 0x39), (0x41, 0x46), (0x61, 0x66)])
  | _ => Option.none

end CharSet

end TreePath.Pattern
