import Metrology.Matcher
import Metrology.Unit.Name

/-!
# Markers

A marker is a unit with the symbol that replaces its generated name, if it has a conventional one.
Products, quotients and powers of markers have no symbol; the common marker of two keeps unit and
symbol of the same operand.  The unit of a composed marker is demanded of the operands.
-/

namespace Metrology

/-- A unit and its conventional symbol. -/
structure Marker where
  unit : Unit
  symbol : Option String := none
  deriving BEq

namespace Marker

/-! ## Composition -/

/-- The marker of a product. -/
def prod (a b : Marker) : Outcome Marker := do
  let unit ← a.unit.mul! b.unit
  return { unit }

/-- The marker of a quotient. -/
def quot (a b : Marker) : Outcome Marker := do
  let unit ← a.unit.div! b.unit
  return { unit }

/-- The marker of a power. -/
def pow (a : Marker) (k : Exponent) : Outcome Marker := do
  let unit ← a.unit.powi! k
  return { unit }

/-- The marker of a sum. -/
def common (a b : Marker) : Outcome Marker := do
  let unit ← a.unit.common! b.unit
  let keepsLeft ← a.unit.keepsLeft! b.unit
  return { unit, symbol := if keepsLeft then a.symbol else b.symbol }

/-! ## Text -/

/-- The symbol, or the generated name. -/
def text (m : Marker) : String :=
  match m.symbol with
  | some s => s
  | none => m.unit.text

/-- Whether the marker is written as the given text. -/
def isWritten (m : Marker) (t : String) : Bool :=
  match m.symbol with
  | some s => s == t
  | none => rendersAs m.unit.pieces t

/-- Whether the marker is written as nothing. -/
def isBlank (m : Marker) : Bool := m.isWritten ""

/-- Whether the unit has the dimension. -/
def hasDimension (m : Marker) (d : Dimension) : Bool := m.unit.dim = d

end Marker

end Metrology
