import Metrology.Log
import Metrology.Quantity

/-!
# Ratios of quantities

How many times one quantity fits into another of the same dimension, as a plain number in the unit
of the numerator.  A divisor of zero is refused, or, by the tolerant form, answered with zero and a
log record.
-/

namespace Metrology.Quantity

variable {R : Type} [Scalar R]

/-- The numerator divided by the divisor, both in the unit of the numerator. -/
def ratio (numerator divisor : Quantity R) : Outcome R := do
  let divisor ← (← divisor.convert numerator.marker).value
  if Scalar.isEqual divisor Scalar.zero then .refuse .zeroDivisor
  else .ofArithmetic (Scalar.div (← numerator.value) divisor)

/-- What the tolerant form logs. -/
def zeroDivisorRecord (r : Refusal) : LogRecord :=
  ⟨.debug, "quantity_cast: " ++ r.message ++ ", returning zero"⟩

/-- The ratio, or zero with a record when it is refused. -/
def ratioOrZero (numerator divisor : Quantity R) : Outcome (R × List LogRecord) :=
  match ratio numerator divisor with
  | .ok r => .ok (r, [])
  | .error (.refused r) => .ok (Scalar.zero, [zeroDivisorRecord r])
  | .error s => .error s

end Metrology.Quantity
