import TreePath.Number
import TreePath.Json.Fault

/-! # JSON numbers

A number is read as its digits. Without a point or an exponent it is an integer if it fits 64 bits
and has a sign other than that of a negative zero. Every other number takes as many of its digits
as fit 64 bits, and is that integer times or over a power of ten, each step rounded. -/

namespace TreePath.Json

/-- A number as it is written: its sign, the digits before and after the point, its exponent. -/
structure Numeral where
  negative : Bool
  whole : List Char
  fraction : Option (List Char)
  exponent : Option Int
deriving DecidableEq, Repr

namespace Numeral

/-- The digits up to the point: a single zero, or digits that do not start with one. -/
def readWhole : List Char → Except Fault (List Char × List Char)
  | [] => .error .endOfText
  | c :: rest =>
    if c = '0' then
      match rest with
      | d :: _ => if d.isDigit then .error (.unexpected d) else .ok (['0'], rest)
      | [] => .ok (['0'], [])
    else if c.isDigit then .ok (c :: rest.takeWhile Char.isDigit, rest.dropWhile Char.isDigit)
    else .error (.unexpected c)

/-- One or more digits. -/
def readDigits (text : List Char) : Except Fault (List Char × List Char) :=
  match text.takeWhile Char.isDigit, text.dropWhile Char.isDigit with
  | [], [] => .error .endOfText
  | [], c :: _ => .error (.unexpected c)
  | digits, rest => .ok (digits, rest)

/-- A point with digits, if there is one. -/
def readFraction : List Char → Except Fault (Option (List Char) × List Char)
  | '.' :: rest => (readDigits rest).map fun (digits, rest) => (some digits, rest)
  | text => .ok (none, text)

/-- An exponent, if there is one. -/
def readExponent : List Char → Except Fault (Option Int × List Char)
  | [] => .ok (none, [])
  | c :: rest =>
    if c = 'e' ∨ c = 'E' then
      let (negative, digits) := match rest with
        | '-' :: tail => (true, tail)
        | '+' :: tail => (false, tail)
        | tail => (false, tail)
      (readDigits digits).map fun (digits, rest) =>
        (some (Binary.signedInt negative (Nat.ofDigitChars 10 digits 0)), rest)
    else .ok (none, c :: rest)

/-- A number at the start of a text, and the rest of the text. -/
def read (text : List Char) : Except Fault (Numeral × List Char) := do
  let (negative, text) := match text with
    | '-' :: rest => (true, rest)
    | text => (false, text)
  let (whole, text) ← readWhole text
  let (fraction, text) ← readFraction text
  let (exponent, text) ← readExponent text
  return (⟨negative, whole, fraction, exponent⟩, text)

/-- Takes digits onto a number while it stays below `2 ^ 64`; gives the digits that are left. -/
def takeDigits : Nat → List Char → Nat × List Char
  | n, [] => (n, [])
  | n, d :: rest =>
    let next := 10 * n + (d.toNat - '0'.toNat)
    if next < Nat.pow 2 64 then takeDigits next rest else (n, d :: rest)

/-- The power of ten nearest to `10 ^ exponent`. -/
def powerOfTen (exponent : Nat) : Binary .double :=
  Binary.ofDecimal false 1 exponent

/-- The largest exponent of a finite power of ten. -/
def greatestPower : Nat := 308

/-- Division by a power of ten, in steps of at most `greatestPower` places; zero stays zero. -/
def divideByPower (x : Binary .double) (places : Nat) : Binary .double :=
  if places ≤ greatestPower then x.div (powerOfTen places)
  else if x.equals (Binary.zero false) then x
  else divideByPower (x.div (powerOfTen greatestPower)) (places - greatestPower)
termination_by places
decreasing_by simp only [greatestPower] at *; omega

/-- The number `digits * 10 ^ exponent` with a sign, each step rounded; it must be finite. -/
def scale (negative : Bool) (digits : Nat) (exponent : Int) : Except Fault (Binary .double) :=
  let x : Binary .double := Binary.ofInt digits
  let signed (y : Binary .double) := if negative then y.neg else y
  if exponent < 0 then .ok (signed (divideByPower x (-exponent).toNat))
  else if exponent.toNat ≤ greatestPower then
    let y := x.mul (powerOfTen exponent.toNat)
    if y.isFinite then .ok (signed y) else .error .numberTooLarge
  else if digits = 0 then .ok (signed x)
  else .error .numberTooLarge

/-- An integer of at most 64 bits in the class it is given: integers where 64 signed bits hold it
and it is not a negative zero, else the nearest binary value. -/
def integer (negative : Bool) (n : Nat) : Number :=
  if negative then
    if 0 < n ∧ n ≤ Nat.pow 2 63 then Number.ofInt (-(n : Int))
    else .float .double (Binary.ofInt (n : Int) : Binary .double).neg
  else if n < Nat.pow 2 63 then Number.ofInt n
  else .float .double (Binary.ofInt (n : Int) : Binary .double)

/-- The number that is written. -/
def value (n : Numeral) : Except Fault Number :=
  let (digits, left) := takeDigits 0 n.whole
  match n.fraction, n.exponent, left with
  | none, none, [] => .ok (integer n.negative digits)
  | fraction, exponent, left =>
    let fraction := fraction.getD []
    let (digits, dropped) := takeDigits digits fraction
    let places : Int := left.length - (fraction.length - dropped.length : Nat)
    (scale n.negative digits (places + exponent.getD 0)).map fun x => .float .double x

end Numeral

end TreePath.Json
