import Metrology.Quantity.Ratio
import Metrology.Wire.Value

/-!
# Quantities on the wire

A quantity alone is its value.  With its unit it is an object of the value and the text of the
marker; when it is read, the unit may be left out, but a unit that is there has to be the text of
the marker.  The members come in either order, and no others are allowed.  Only when every member
is accepted is a missing value reported, and only then a unit that does not match, which is logged
as well.
-/

namespace Metrology.Wire

/-- A numeric representation with its form on the wire. -/
class WireScalar (R : Type) extends Scalar R where
  write : R → Document
  read : Document → Read R

instance : WireScalar Float where
  write := writeFloat
  read := readFloat

instance : WireScalar Float32 where
  write x := writeFloat x.toFloat
  read := readFloat32

instance (f : IntFormat) : WireScalar (Word f) where
  write := writeWord
  read := readWord f

variable {R : Type} [WireScalar R]

/-! ## The value alone -/

/-- A quantity as its value. -/
def writeQuantity (q : Quantity R) : Outcome Document := do
  return WireScalar.write (← q.value)

/-- The quantity of the value that is read. -/
def readQuantity (m : Marker) (d : Document) : Read (Quantity R) :=
  Quantity.ofValue m <$> WireScalar.read d

/-! ## With the unit -/

/-- A quantity as its value and the text of its marker. -/
def writeWithUnit (q : Quantity R) : Outcome Document := do
  let m ← q.marker
  return .record [("value", WireScalar.write (← q.value)), ("unit", .string m.text)]

/-- The members that have been read. -/
structure WithUnitFields (R : Type) where
  value : Option R := none
  unit : Option String := none

/-- One member; no other name is known. -/
def WithUnitFields.field : FieldReader (WithUnitFields R) := fun s name =>
  if name = "value" then
    readOnce name s.value WireScalar.read fun x => { s with value := some x }
  else if name = "unit" then readOnce name s.unit readString fun t => { s with unit := some t }
  else .error (.data (.unknownField name ["value", "unit"]))

/-- The quantity of the members that were read. -/
def WithUnitFields.finish (m : Marker) (s : WithUnitFields R) : Read (Quantity R) := do
  let value ← require "value" s.value
  match s.unit with
  | some t =>
    if m.isWritten t then return .ofValue m value
    else .error (.data (.unitMismatch m.text t))
  | none => return .ofValue m value

/-- The quantity of a value and perhaps of a unit, which has to be the marker's. -/
def readWithUnit (m : Marker) (d : Document) : Read (Quantity R) := do
  match d with
  | .object members closed =>
    let s ← readMembers WithUnitFields.field ({} : WithUnitFields R) members closed
    s.finish m
  | d => d.mismatch "struct Quantity with value and unit fields"

/-- What reading a quantity with its unit logs. -/
def withUnitLog (r : Read (Quantity R)) : List LogRecord :=
  match r with
  | .error (.data (.unitMismatch e t)) => [⟨.warn, (DataFault.unitMismatch e t).message⟩]
  | _ => []

end Metrology.Wire
