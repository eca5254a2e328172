import Metrology.Base
import Metrology.Word

/-!
# Dimensions

A dimension gives each base quantity an integer exponent.  Dimensions multiply by adding
exponents, and every operation faults when an exponent leaves its range.  A dimension is simple
when exactly one exponent is non-zero, and its base is then the quantity at that exponent.
-/

namespace Metrology

/-- The exponent of a base quantity. -/
abbrev Exponent : Type := Word .i32

/-- The exponents of the base quantities. -/
abbrev Dimension : Type := Slots Exponent

namespace Dimension

/-- The dimension whose exponents are all zero. -/
def dimensionless : Dimension := .replicate .zero

/-- The base quantity itself. -/
def base (b : Base) : Dimension := .single .zero b .one

/-- The exponent of the base quantity. -/
def exponent (d : Dimension) (b : Base) : Exponent := d.get b

/-! ## The group operations -/

/-- The product, whose exponents are sums. -/
def mul (a b : Dimension) : Except ArithmeticFault Dimension := Slots.zipM Word.add a b

/-- The quotient, whose exponents are differences. -/
def div (a b : Dimension) : Except ArithmeticFault Dimension := Slots.zipM Word.sub a b

/-- The power, whose exponents are multiples. -/
def powi (a : Dimension) (k : Exponent) : Except ArithmeticFault Dimension :=
  a.traverse (Word.mul · k)

/-- The power with exponent minus one. -/
def recip (a : Dimension) : Except ArithmeticFault Dimension := a.powi ⟨-1, by decide, by decide⟩

/-! ## Simple dimensions -/

/-- Whether the exponent counts. -/
def nonzero (e : Exponent) : Bool := e.val ≠ 0

/-- The number of exponents that are not zero. -/
def countNonzero (d : Dimension) : Nat := d.count nonzero

/-- Whether every exponent is zero. -/
def isDimensionless (d : Dimension) : Bool := d.countNonzero == 0

/-- Whether exactly one exponent is not zero. -/
def isSimple (d : Dimension) : Bool := d.countNonzero == 1

/-- The base quantity of the only non-zero exponent, if there is exactly one. -/
def simpleBase (d : Dimension) : Option Base :=
  if d.isSimple then
    if d.si.find nonzero < 7 then (SiBase.ofIndex? (d.si.find nonzero)).map .si
    else (ExtraBase.ofIndex? (d.extra.find nonzero)).map .extra
  else none

/-! ## Text -/

/-- A symbol with its exponent, which is left out when it is one. -/
def powerText (symbol : String) (e : Exponent) : String :=
  if e.val = 1 then symbol else symbol ++ "^" ++ e.text

/-- The symbols of the base quantities that occur, divided by a dot; `1` if none does. -/
def text (d : Dimension) : String :=
  let factors := (Base.all.filter fun b => nonzero (d.exponent b)).map fun b =>
    powerText b.symbol (d.exponent b)
  if factors.isEmpty then "1" else String.intercalate "·" factors

/-! ## Named dimensions -/

/-- The dimension of the length, mass and time exponents. -/
def mechanical (l m t : Exponent) : Dimension :=
  ⟨.cons l (.cons m (.cons t (.replicate 4 .zero))), .replicate 4 .zero⟩

/-- Length squared. -/
def area : Dimension := mechanical ⟨2, by decide, by decide⟩ .zero .zero

/-- Length cubed. -/
def volume : Dimension := mechanical ⟨3, by decide, by decide⟩ .zero .zero

/-- Mass by volume. -/
def density : Dimension := mechanical ⟨-3, by decide, by decide⟩ .one .zero

/-- Length by time. -/
def velocity : Dimension := mechanical .one .zero ⟨-1, by decide, by decide⟩

/-- Velocity by time. -/
def acceleration : Dimension := mechanical .one .zero ⟨-2, by decide, by decide⟩

/-- Mass times acceleration. -/
def force : Dimension := mechanical .one .one ⟨-2, by decide, by decide⟩

/-- Force times length. -/
def energy : Dimension := mechanical ⟨2, by decide, by decide⟩ .one ⟨-2, by decide, by decide⟩

/-- Energy by time. -/
def power : Dimension := mechanical ⟨2, by decide, by decide⟩ .one ⟨-3, by decide, by decide⟩

end Dimension

end Metrology
