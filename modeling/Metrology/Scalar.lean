import Metrology.NumberText
import Metrology.Word

/-!
# Numeric representations

A scalar is a number type that quantities can be held in: floating point in two precisions and the
words of every integer format.  Scales are floating point numbers, so a scalar goes through a
float and back: words become the nearest float, and a float becomes a word by dropping its
fraction and going to the nearer end of the range if it does not fit, and zero if it is no number.
Floating point arithmetic never faults; its order leaves NaN out.
-/

namespace Metrology

/-- A representation of base values: its arithmetic, which may fault, its order, its way from and to
floating point and its text. -/
class Scalar (R : Type) where
  zero : R
  one : R
  add : R → R → Except ArithmeticFault R
  sub : R → R → Except ArithmeticFault R
  mul : R → R → Except ArithmeticFault R
  div : R → R → Except ArithmeticFault R
  neg : R → Except ArithmeticFault R
  /-- The order of two numbers, unless they cannot be compared. -/
  order : R → R → Option Ordering
  toFloat : R → Float
  ofFloat : Float → R
  text : NumberLayout → R → String

namespace Scalar

variable {R : Type} [Scalar R]

/-- Whether the numbers compare as equal. -/
def isEqual (a b : R) : Bool := order a b == some .eq

/-- Whether the first number compares as less. -/
def isLess (a b : R) : Bool := order a b == some .lt

/-- Whether `b` is not above `a`; false if they cannot be compared. -/
def isAtLeast (a b : R) : Bool := order a b == some .gt || order a b == some .eq

end Scalar

/-! ## Floating point -/

/-- The order of numbers of eight bytes; what is not a number compares with nothing. -/
def floatOrder (a b : Float) : Option Ordering :=
  if a < b then some .lt else if b < a then some .gt else if a == b then some .eq else none

/-- The order of numbers of four bytes; what is not a number compares with nothing. -/
def float32Order (a b : Float32) : Option Ordering :=
  if a < b then some .lt else if b < a then some .gt else if a == b then some .eq else none

instance : Scalar Float where
  zero := 0.0
  one := 1.0
  add a b := .ok (a + b)
  sub a b := .ok (a - b)
  mul a b := .ok (a * b)
  div a b := .ok (a / b)
  neg a := .ok (-a)
  order := floatOrder
  toFloat := id
  ofFloat := id
  text := layoutFloat

instance : Scalar Float32 where
  zero := 0.0
  one := 1.0
  add a b := .ok (a + b)
  sub a b := .ok (a - b)
  mul a b := .ok (a * b)
  div a b := .ok (a / b)
  neg a := .ok (-a)
  order := float32Order
  toFloat := Float32.toFloat
  ofFloat := Float.toFloat32
  text := layoutFloat32

/-! ## Words -/

/-- The word nearest to the whole part of a number. -/
def Word.ofDatum (f : IntFormat) : Datum → Word f
  | .nan => .zero
  | .infinite true => .clamp f f.low
  | .infinite false => .clamp f f.high
  | .finite negative m q =>
    let whole : Int := wholePart m q
    .clamp f (if negative then -whole else whole)

instance (f : IntFormat) : Scalar (Word f) where
  zero := .zero
  one := .one
  add := Word.add
  sub := Word.sub
  mul := Word.mul
  div := Word.div
  neg := Word.neg
  order a b := some (compare a.val b.val)
  toFloat a := floatOfInt a.val
  ofFloat x := Word.ofDatum f (.ofFloat x)
  text layout a := layoutInt layout a.val

end Metrology
