/-! # Reading integers

An integer is an optional sign and one or more ASCII digits, leading zeros allowed, and must lie
in a given range. -/

namespace TreePath.Text

/-- The number written by one or more decimal digits. -/
def natural? (text : List Char) : Option Nat :=
  if text.isEmpty || !text.all Char.isDigit then none
  else some (Nat.ofDigitChars 10 text 0)

/-- A natural number below `limit`; a plus sign may stand in front. -/
def naturalBelow? (limit : Nat) (text : List Char) : Option Nat :=
  let digits := match text with
    | '+' :: rest => rest
    | _ => text
  (natural? digits).filter (· < limit)

/-- An integer from `least` to `greatest`; either sign may stand in front. -/
def integerWithin? (least greatest : Int) (text : List Char) : Option Int :=
  let read := match text with
    | '-' :: rest => (natural? rest).map fun n => -(n : Int)
    | '+' :: rest => (natural? rest).map Int.ofNat
    | _ => (natural? text).map Int.ofNat
  read.filter fun z => least ≤ z && z ≤ greatest

/-- The decimal text of an integer. -/
def ofInt (z : Int) : List Char :=
  (if z < 0 then ['-'] else []) ++ Nat.toDigits 10 z.natAbs

end TreePath.Text
