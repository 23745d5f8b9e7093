import TreePath.Binary.Arithmetic
import TreePath.Decimal.Layout
import TreePath.Text.Integer

/-! # Numbers that keep their class

A number is an integer of one of four widths or a binary value of one of two precisions, and every
operation here writes its result in a class that is asked for. Results that do not fit are held to
the range of the class. -/

namespace TreePath

/-- The widths of signed integers. -/
inductive Width where
  | w8
  | w16
  | w32
  | w64
deriving DecidableEq, Repr

namespace Width

def bits : Width → Nat
  | .w8 => 8
  | .w16 => 16
  | .w32 => 32
  | .w64 => 64

/-- The least integer of a width. -/
def least (w : Width) : Int := -(Nat.pow 2 (w.bits - 1) : Int)

/-- The greatest integer of a width. -/
def greatest (w : Width) : Int := (Nat.pow 2 (w.bits - 1) : Int) - 1

theorem least_le_greatest (w : Width) : w.least ≤ w.greatest := by
  cases w <;> decide

end Width

/-- An integer that fits a width. -/
structure Sized (w : Width) where
  val : Int
  least_le : w.least ≤ val
  le_greatest : val ≤ w.greatest
deriving DecidableEq, Repr

namespace Sized

variable {w : Width}

/-- The integer of the width nearest to a given one. -/
def clamp (w : Width) (z : Int) : Sized w where
  val := max w.least (min w.greatest z)
  least_le := Int.le_max_left _ _
  le_greatest := Int.max_le.2 ⟨w.least_le_greatest, Int.min_le_left _ _⟩

/-- The integer itself, if it fits the width. -/
def ofInt? (w : Width) (z : Int) : Option (Sized w) :=
  if h : w.least ≤ z ∧ z ≤ w.greatest then some ⟨z, h.1, h.2⟩ else none

end Sized

/-- The precisions of binary values. -/
inductive Precision where
  | single
  | double
deriving DecidableEq, Repr

/-- The binary format of a precision. -/
def Precision.format : Precision → Binary.Format
  | .single => .single
  | .double => .double

/-- A number: an integer of a width, or a binary value of a precision. -/
inductive Number where
  | int (width : Width) (value : Sized width)
  | float (precision : Precision) (value : Binary precision.format)
deriving DecidableEq, Repr

/-- The classes of numbers. -/
inductive NumberKind where
  | int (width : Width)
  | float (precision : Precision)
deriving DecidableEq, Repr

namespace NumberKind

def isFloat : NumberKind → Bool
  | .int _ => false
  | .float _ => true

/-- The name of a class, such as `i32` or `f64`. -/
def name : NumberKind → String
  | .int .w8 => "i8"
  | .int .w16 => "i16"
  | .int .w32 => "i32"
  | .int .w64 => "i64"
  | .float .single => "f32"
  | .float .double => "f64"

/-- All classes, from the narrowest. -/
def all : List NumberKind :=
  [.int .w8, .int .w16, .int .w32, .int .w64, .float .single, .float .double]

/-- The class of a name. -/
def ofName? (name : String) : Option NumberKind :=
  all.find? (·.name == name)

end NumberKind

namespace Number

def kind : Number → NumberKind
  | .int w _ => .int w
  | .float p _ => .float p

/-- Integers of 32 bits where they fit, else of 64: the class of an integer with no other. Beyond
64 bits the result stays at the end of the range. -/
def ofInt (z : Int) : Number :=
  match Sized.ofInt? .w32 z with
  | some small => .int .w32 small
  | none => .int .w64 (Sized.clamp .w64 z)

/-- The integer of an integer class. -/
def int? : Number → Option Int
  | .int _ n => some n.val
  | .float _ _ => none

/-- The nearest 64-bit binary value. -/
def toDouble : Number → Binary .double
  | .int _ n => Binary.ofInt n.val
  | .float .single x => x.convert
  | .float .double x => x

/-- An integer in a class: clamped to a narrower width, rounded to a precision. -/
def fromInt (z : Int) : NumberKind → Number
  | .int w => .int w (Sized.clamp w z)
  | .float p => .float p (Binary.ofInt z)

/-- A 64-bit binary value in a class: truncated and clamped to a width; in the narrower precision
a finite value stays finite. -/
def fromDouble (x : Binary .double) : NumberKind → Number
  | .int w => .int w (Sized.clamp w (x.clampToInt w.least w.greatest))
  | .float .single => .float .single (Binary.convertFinite x)
  | .float .double => .float .double x

/-- The number in another class. -/
def coerceTo (n : Number) (kind : NumberKind) : Number :=
  match n.int? with
  | some z => fromInt z kind
  | none => fromDouble n.toDouble kind

/-- The product with a factor, in the number's own class. An integer times a whole factor of at
most 64 bits is multiplied as an integer, held to 64 bits; every other product is rounded as a
64-bit binary value. -/
def times (n : Number) (factor : Binary .double) : Number :=
  let wholeFactor := factor.whole?.filter fun z => Width.least .w64 ≤ z && z ≤ Nat.pow 2 63
  match n.int?, wholeFactor with
  | some z, some k => fromInt (Sized.clamp .w64 (z * (Sized.clamp .w64 k).val)).val n.kind
  | _, _ => fromDouble (n.toDouble.mul factor) n.kind

/-- Equal class and equal value; binary values compare as numbers do. -/
def equals : Number → Number → Bool
  | .int w n, .int v m => w == v && n.val == m.val
  | .float .single x, .float .single y => x.equals y
  | .float .double x, .float .double y => x.equals y
  | _, _ => false

/-- The plain text of a number. -/
def text : Number → List Char
  | .int _ n => Text.ofInt n.val
  | .float _ x => x.text

/-- Whether the number is an integer or a finite binary value. -/
def isFinite : Number → Bool
  | .int _ _ => true
  | .float _ x => x.isFinite

end Number

end TreePath
