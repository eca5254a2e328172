import Metrology.Ratios

/-!
# Units

A unit has a dimension, a ratio for each base quantity, a global ratio and perhaps a real factor,
for the scales that are not rational.  Its scale is its size in the coherent unit of the
dimension.  Units multiply, divide and take powers part by part: the slot ratios come first, then
the global ratio, then the exponents.  A real factor, once there, stays.

When two units of one dimension meet in a sum, `Unit.common` keeps one of them: a unit whose
factor is one before a unit with another factor, the smaller scale between two units whose factor
is one, and the left unit otherwise.
-/

namespace Metrology

/-- A scale for a dimension: ratios of the base quantities, a global ratio and perhaps a factor. -/
structure Unit where
  dim : Dimension
  ratio : Ratios
  global : Rational
  factor : Option Float
  deriving BEq

namespace Unit

/-! ## Construction -/

/-- The coherent unit of a dimension. -/
def coherent (d : Dimension) : Unit := ⟨d, .identity, .one, none⟩

/-- The unit of plain numbers. -/
def dimensionless : Unit := coherent .dimensionless

/-- The base quantity in units of the given ratio. -/
def ofBase (b : Base) (a : Rational) : Unit := ⟨.base b, .single .one b a, .one, none⟩

/-- The unit of a simple dimension whose ratio sits at the base quantity. -/
def ofRatio (d : Dimension) (a : Rational) : Outcome Unit := do
  let ratio ← Ratios.ofSimple d a
  return ⟨d, ratio, .one, none⟩

/-- The unit of a simple dimension whose ratio sits at the base quantity; a refusal aborts. -/
def ofRatio! (d : Dimension) (a : Rational) : Outcome Unit := (ofRatio d a).demand

/-! ## Scale -/

/-- The real factor, one for a rational unit. -/
def factorValue (u : Unit) : Float := u.factor.getD 1.0

/-- Whether the unit carries a real factor. -/
def isReal (u : Unit) : Bool := u.factor.isSome

/-- The size in the coherent unit of the dimension. -/
def scale (u : Unit) : Float := u.factorValue * u.ratio.value * u.global.value

/-- The exact scale without the real factor. -/
def rationalScale (u : Unit) : Outcome Rational := do
  let si ← RatioPack.product u.ratio.si
  let extra ← RatioPack.product u.ratio.extra
  let slots ← si.mul extra
  slots.mul u.global

/-- The unit with its global ratio multiplied; there is no form that refuses. -/
def withGlobal (u : Unit) (a : Rational) : Outcome Unit := do
  let global ← u.global.mul! a
  return { u with global }

/-- The unit with its real factor multiplied, which makes it a real unit. -/
def withFactor (u : Unit) (x : Float) : Unit := { u with factor := some (u.factorValue * x) }

/-! ## Algebra -/

/-- The factor of a combination, left out when no part is real and it is one. -/
def combinedFactor (anyReal : Bool) (x : Float) : Option Float :=
  if !anyReal && x == 1.0 then none else some x

/-- `acc * x ^ e` by repeated squaring. -/
def floatPowLoop (acc x : Float) (e : Nat) : Float :=
  if e = 0 then acc else floatPowLoop (if e % 2 = 1 then acc * x else acc) (x * x) (e / 2)
termination_by e

/-- The power of a factor; a negative exponent divides one by the power. -/
def floatPow (x : Float) (k : Exponent) : Float :=
  let p := floatPowLoop 1.0 x k.val.natAbs
  if k.val < 0 then 1.0 / p else p

/-- The product. -/
def mul (u v : Unit) : Outcome Unit := do
  let ratio ← u.ratio.mul v.ratio
  let global ← u.global.mul v.global
  let dim ← .ofArithmetic (u.dim.mul v.dim)
  return ⟨dim, ratio, global,
    combinedFactor (u.isReal || v.isReal) (u.factorValue * v.factorValue)⟩

/-- The quotient. -/
def div (u v : Unit) : Outcome Unit := do
  let ratio ← u.ratio.div v.ratio
  let global ← u.global.div v.global
  let dim ← .ofArithmetic (u.dim.div v.dim)
  return ⟨dim, ratio, global,
    combinedFactor (u.isReal || v.isReal) (u.factorValue / v.factorValue)⟩

/-- The power. -/
def powi (u : Unit) (k : Exponent) : Outcome Unit := do
  let ratio ← u.ratio.powi k
  let global ← u.global.powi k
  let dim ← .ofArithmetic (u.dim.powi k)
  return ⟨dim, ratio, global, combinedFactor u.isReal (floatPow u.factorValue k)⟩

/-- The product; a refusal aborts. -/
def mul! (u v : Unit) : Outcome Unit := (u.mul v).demand

/-- The quotient; a refusal aborts. -/
def div! (u v : Unit) : Outcome Unit := (u.div v).demand

/-- The power; a refusal aborts. -/
def powi! (u : Unit) (k : Exponent) : Outcome Unit := (u.powi k).demand

/-! ## Common units -/

/-- Whether the units have one dimension. -/
def isCompatible (u v : Unit) : Bool := u.dim = v.dim

/-- Whether the factor is one, as of a rational unit. -/
def isPlain (u : Unit) : Bool := u.factorValue == 1.0

/-- Whether the common unit is the left one. -/
def keepsLeft (u v : Unit) : Outcome Bool :=
  if u.isCompatible v then
    .ok <| match u.isPlain, v.isPlain with
      | true, false => true
      | false, true => false
      | false, false => true
      | true, true => v.scale ≥ u.scale
  else .refuse (.incompatible u.dim v.dim)

/-- Whether the common unit is the left one; a refusal aborts. -/
def keepsLeft! (u v : Unit) : Outcome Bool := (u.keepsLeft v).demand

/-- The common unit. -/
def common (u v : Unit) : Outcome Unit := do
  return if ← u.keepsLeft v then u else v

/-- The common unit; a refusal aborts. -/
def common! (u v : Unit) : Outcome Unit := (u.common v).demand

end Unit

end Metrology
