import Metrology.Unit
import Metrology.Wire.Reader

/-!
# Values on the wire

A rational is a structure of numerator and denominator, brought into canonical form when it is
read.  A pack is a list, the slots of all base quantities are a structure of two packs, a unit is a
structure of its four parts, and a base quantity is its name.  A unit without a real factor has
none on the wire either; a factor that is no finite number is written as null.
-/

namespace Metrology.Wire

/-! ## Rationals -/

/-- A word as an integer. -/
def writeWord {f : IntFormat} (w : Word f) : Document := .int w.val

/-- A rational as the object of its numerator and denominator. -/
def writeRational (a : Rational) : Document :=
  .record [("num", writeWord a.num), ("den", writeWord a.den)]

/-- A numerator and a denominator that may not have been read yet. -/
structure FractionFields where
  num : Option (Word .i64) := none
  den : Option (Word .i64) := none

/-- The fields of a fraction; others are ignored. -/
def FractionFields.field : FieldReader FractionFields := fun s name =>
  if name = "num" then readOnce name s.num (readWord .i64) fun w => { s with num := some w }
  else if name = "den" then readOnce name s.den (readWord .i64) fun w => { s with den := some w }
  else .ok none

/-- The fraction of the fields that were read. -/
def FractionFields.finish (s : FractionFields) : Read Fraction := do
  return ⟨← require "num" s.num, ← require "den" s.den⟩

/-- Fractions, from an object or from a list. -/
def fractionReader : RecordReader FractionFields Fraction where
  name := "RawRational"
  start := {}
  field := FractionFields.field
  finish := FractionFields.finish
  elements e := do
    let expected := structLength "RawRational" 2
    let (num, e) ← e.next expected 0 (readWord .i64)
    let (den, e) ← e.next expected 1 (readWord .i64)
    return (⟨num, den⟩, e)

/-- A refusal as a fault of the data.  Reading never aborts. -/
def ofOutcome {α : Type} : Outcome α → Read α
  | .ok a => .ok a
  | .error (.refused r) => .error (.data (.refused r))
  | .error (.aborted _) => .error .malformed

/-- The canonical rational of the fraction that is read. -/
def readRational (d : Document) : Read Rational := do
  let r ← fractionReader.read d
  ofOutcome (Rational.make r.num r.den)

/-! ## Packs and slots -/

/-- A pack as the list of its values. -/
def writePack {α : Type} {n : Nat} (write : α → Document) (p : Pack α n) : Document :=
  .list (p.toList.map write) true

/-- The slots as the object of their two packs. -/
def writeSlots {α : Type} (write : α → Document) (s : Slots α) : Document :=
  .record [("si", writePack write s.si), ("extra", writePack write s.extra)]

/-- The two packs of slots that may not have been read yet. -/
structure SlotFields (α : Type) where
  si : Option (Pack α 7) := none
  extra : Option (Pack α 4) := none

/-- The packs of the slots; other fields are ignored. -/
def SlotFields.field {α : Type} (read : Document → Read α) : FieldReader (SlotFields α) :=
  fun s name =>
    if name = "si" then readOnce name s.si (readPack 7 read) fun p => { s with si := some p }
    else if name = "extra" then
      readOnce name s.extra (readPack 4 read) fun p => { s with extra := some p }
    else .ok none

/-- The slots of the packs that were read. -/
def SlotFields.finish {α : Type} (s : SlotFields α) : Read (Slots α) := do
  return ⟨← require "si" s.si, ← require "extra" s.extra⟩

/-- Slots, from an object or from a list. -/
def slotsReader {α : Type} (name : String) (read : Document → Read α) :
    RecordReader (SlotFields α) (Slots α) where
  name := name
  start := {}
  field := SlotFields.field read
  finish := SlotFields.finish
  elements e := do
    let expected := structLength name 2
    let (si, e) ← e.next expected 0 (readPack 7 read)
    let (extra, e) ← e.next expected 1 (readPack 4 read)
    return (⟨si, extra⟩, e)

/-- A dimension as its slots of exponents. -/
def writeDimension (d : Dimension) : Document := writeSlots writeWord d

/-- The dimension of the exponents that are read. -/
def readDimension (d : Document) : Read Dimension :=
  (slotsReader "Dimension" (readWord .i32)).read d

/-- Ratios as their slots of rationals. -/
def writeRatios (r : Ratios) : Document := writeSlots writeRational r

/-- The ratios of the rationals that are read. -/
def readRatios (d : Document) : Read Ratios :=
  (slotsReader "DimensionRatio" readRational).read d

/-! ## Units -/

/-- A number of eight bytes, or null for one that is not finite. -/
def writeFloat (x : Float) : Document := if x.isFinite then .float x else .null

/-- A real factor, or null for none. -/
def writeFactor : Option Float → Document
  | some x => writeFloat x
  | none => .null

/-- A unit as the object of its four parts. -/
def writeUnit (u : Unit) : Document :=
  .record [("dim", writeDimension u.dim), ("ratio", writeRatios u.ratio),
    ("global", writeRational u.global), ("factor", writeFactor u.factor)]

/-- The parts of a unit that may not have been read yet. -/
structure UnitFields where
  dim : Option Dimension := none
  ratio : Option Ratios := none
  global : Option Rational := none
  factor : Option (Option Float) := none

/-- The parts of a unit; other fields are ignored. -/
def UnitFields.field : FieldReader UnitFields := fun s name =>
  if name = "dim" then readOnce name s.dim readDimension fun d => { s with dim := some d }
  else if name = "ratio" then readOnce name s.ratio readRatios fun r => { s with ratio := some r }
  else if name = "global" then
    readOnce name s.global readRational fun a => { s with global := some a }
  else if name = "factor" then
    readOnce name s.factor (readOption readFloat) fun x => { s with factor := some x }
  else .ok none

/-- A factor that is missing is none. -/
def UnitFields.finish (s : UnitFields) : Read Unit := do
  return ⟨← require "dim" s.dim, ← require "ratio" s.ratio, ← require "global" s.global,
    s.factor.getD none⟩

/-- Units, from an object or from a list. -/
def unitReader : RecordReader UnitFields Unit where
  name := "Unit"
  start := {}
  field := UnitFields.field
  finish := UnitFields.finish
  elements e := do
    let expected := structLength "Unit" 4
    let (dim, e) ← e.next expected 0 readDimension
    let (ratio, e) ← e.next expected 1 readRatios
    let (global, e) ← e.next expected 2 readRational
    let (factor, e) ← e.next expected 3 (readOption readFloat)
    return (⟨dim, ratio, global, factor⟩, e)

/-- The unit of the parts that are read. -/
def readUnit (d : Document) : Read Unit := unitReader.read d

/-! ## Base quantities -/

/-- A base quantity as its name. -/
def writeBase (b : Base) : Document := .string b.name

/-- The base quantity of the system whose name is read. -/
def readSiBase (d : Document) : Read SiBase := readName (SiBase.all.map fun b => (b.name, b)) d

/-- The base quantity outside the system whose name is read. -/
def readExtraBase (d : Document) : Read ExtraBase :=
  readName (ExtraBase.all.map fun b => (b.name, b)) d

end Metrology.Wire
