import Metrology.Catalog
import Metrology.Scalar

/-!
# Quantities

A quantity is a number of units, held as its base value: the number in the coherent unit of the
dimension.  Going to another unit of the same dimension changes the marker and leaves the base
value alone.  Quantities of one marker add and subtract; quantities of any markers multiply and
divide.  Arithmetic faults as the representation does.

The marker of a product, a quotient or a power is composed of those of the operands, and its unit is
computed only where it is needed.  So there are quantities whose marker has no unit, because one of
its parts does not fit; they have a base value, and abort when their unit is asked for.
-/

namespace Metrology

/-- A base value under a marker. -/
structure Quantity (R : Type) where
  marker : Outcome Marker
  base : R

/-- Nothing, unless the dimensions differ, which aborts. -/
def Unit.demandCompatible (u v : Unit) : Outcome PUnit :=
  if u.isCompatible v then .ok ⟨⟩ else Outcome.demand (.refuse (.incompatible u.dim v.dim))

namespace Quantity

variable {R : Type} [Scalar R]

/-! ## Values -/

/-- The quantity of `value` units of the marker. -/
def ofValue (m : Marker) (value : R) : Quantity R :=
  ⟨.ok m, Scalar.ofFloat (Scalar.toFloat value * m.unit.scale)⟩

/-- The number of units. -/
def value (q : Quantity R) : Outcome R := do
  let m ← q.marker
  return Scalar.ofFloat (Scalar.toFloat q.base / m.unit.scale)

/-- No unit of the marker. -/
def zero (m : Outcome Marker) : Quantity R := ⟨m, Scalar.zero⟩

omit [Scalar R] in
/-- The same quantity in another unit of its dimension. -/
def convert (q : Quantity R) (m : Outcome Marker) : Outcome (Quantity R) := do
  (← q.marker).unit.demandCompatible (← m).unit
  return ⟨m, q.base⟩

/-! ## Arithmetic within a unit -/

/-- The sum. -/
def add (p q : Quantity R) : Outcome (Quantity R) := do
  return ⟨p.marker, ← .ofArithmetic (Scalar.add p.base q.base)⟩

/-- The difference. -/
def sub (p q : Quantity R) : Outcome (Quantity R) := do
  return ⟨p.marker, ← .ofArithmetic (Scalar.sub p.base q.base)⟩

/-- The quantity of the other sign. -/
def neg (q : Quantity R) : Outcome (Quantity R) := do
  return ⟨q.marker, ← .ofArithmetic (Scalar.neg q.base)⟩

/-- The quantity times a plain number. -/
def scale (q : Quantity R) (x : R) : Outcome (Quantity R) := do
  return ⟨q.marker, ← .ofArithmetic (Scalar.mul q.base x)⟩

/-- The quantity divided by a plain number. -/
def unscale (q : Quantity R) (x : R) : Outcome (Quantity R) := do
  return ⟨q.marker, ← .ofArithmetic (Scalar.div q.base x)⟩

/-- The smaller quantity, the left one if neither is smaller. -/
def least (p q : Quantity R) : Quantity R := if Scalar.isLess q.base p.base then q else p

/-- The larger quantity, the left one if neither is larger. -/
def greatest (p q : Quantity R) : Quantity R := if Scalar.isLess p.base q.base then q else p

/-- The sum of a list, added from zero on. -/
def sum (m : Outcome Marker) (l : List (Quantity R)) : Outcome (Quantity R) :=
  l.foldlM add (zero m)

/-! ## Arithmetic across units -/

/-- How two quantities of one dimension compare: as their base values do. -/
def order (p q : Quantity R) : Outcome (Option Ordering) := do
  (← p.marker).unit.demandCompatible (← q.marker).unit
  return Scalar.order p.base q.base

omit [Scalar R] in
/-- Two quantities of one dimension combined in their common unit. -/
def combineCommon (f : R → R → Except ArithmeticFault R) (p q : Quantity R) :
    Outcome (Quantity R) := do
  let a ← p.marker
  let b ← q.marker
  a.unit.demandCompatible b.unit
  return ⟨a.common b, ← .ofArithmetic (f p.base q.base)⟩

/-- The sum in the common unit. -/
def addCommon (p q : Quantity R) : Outcome (Quantity R) := combineCommon Scalar.add p q

/-- The difference in the common unit. -/
def subCommon (p q : Quantity R) : Outcome (Quantity R) := combineCommon Scalar.sub p q

/-- The product, whatever the unit of its marker is. -/
def mul (p q : Quantity R) : Outcome (Quantity R) := do
  let base ← .ofArithmetic (Scalar.mul p.base q.base)
  return ⟨do (← p.marker).prod (← q.marker), base⟩

/-- The quotient, whatever the unit of its marker is. -/
def div (p q : Quantity R) : Outcome (Quantity R) := do
  let base ← .ofArithmetic (Scalar.div p.base q.base)
  return ⟨do (← p.marker).quot (← q.marker), base⟩

/-- The quotient, refused when the divisor is zero. -/
def divNonzero (p q : Quantity R) : Outcome (Quantity R) :=
  if Scalar.isEqual q.base Scalar.zero then .refuse .zeroDivisor else p.div q

/-- `acc * x ^ n`, one factor after the other. -/
def powLoop (acc x : R) : Nat → Except ArithmeticFault R
  | 0 => .ok acc
  | n + 1 => do
    let acc ← Scalar.mul acc x
    powLoop acc x n

/-- The power of a base value; a negative exponent divides one by the power. -/
def basePow (x : R) (k : Exponent) : Except ArithmeticFault R := do
  let p ← powLoop Scalar.one x k.val.natAbs
  if k.val < 0 then Scalar.div Scalar.one p else return p

/-- The power, whatever the unit of its marker is. -/
def pow (q : Quantity R) (k : Exponent) : Outcome (Quantity R) := do
  let base ← .ofArithmetic (basePow q.base k)
  return ⟨do (← q.marker).pow k, base⟩

/-! ## Simplification -/

/-- The quotient of two quantities of one unit, as a plain number. -/
def simplifyRatio (q : Quantity R) : Outcome (Quantity R) := do
  return ⟨.ok Catalog.unitless, ← q.value⟩

/-- A quantity whose unit is a quotient by a quotient, in the unit that is left of it. -/
def simplifyNested (q : Quantity R) (m : Marker) : Outcome (Quantity R) := do
  return ofValue m (← q.value)

/-! ## Text -/

/-- The number of units and the symbol, divided by a blank unless the symbol is blank. -/
def text (layout : NumberLayout) (q : Quantity R) : Outcome String := do
  let m ← q.marker
  let number := Scalar.text layout (← q.value)
  return if m.isBlank then number else number ++ " " ++ m.text

/-! ## Angles -/

/-- The sine of an angle in radians. -/
def sin (q : Quantity Float) : Outcome Float := do
  return Float.sin (← q.value)

/-- The cosine of an angle in radians. -/
def cos (q : Quantity Float) : Outcome Float := do
  return Float.cos (← q.value)

end Quantity

end Metrology
