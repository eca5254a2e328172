import Metrology.Decimal.Scientific
import Metrology.Outcome
import Metrology.Text.Quoted

/-!
# Wire documents

A document is a value of the wire format as far as a text can be read: `broken` stands where the
text stops being a value, and a list or an object is closed if its end was found.  So a reader
that goes through a document from left to right meets a fault of the text exactly where it stands,
after all data before it.  Documents that are written are never broken.

A numeral keeps the decimal that was written, because its value depends on the type that is read.
-/

namespace Metrology.Wire

/-- The number `coefficient * 10 ^ exponent`, negated if `negative`. -/
structure Numeral where
  negative : Bool
  coefficient : Nat
  exponent : Int
  /-- Whether it was written without a point and without an exponent. -/
  integral : Bool
  deriving DecidableEq

namespace Numeral

/-- An integer as it is written. -/
def ofInt (x : Int) : Numeral := ⟨x < 0, x.natAbs, 0, true⟩

/-- The coefficient with its sign. -/
def signed (n : Numeral) : Int := if n.negative then -n.coefficient else n.coefficient

/-- The integer that the numeral is read as.  Integers have 64 bits, and negative zero is none. -/
def integer? (n : Numeral) : Option Int :=
  if n.integral && !(n.negative && n.coefficient == 0) && IntFormat.i64.low ≤ n.signed &&
    n.signed ≤ IntFormat.u64.high then some n.signed
  else none

/-- More digits than this before or after the point are beyond every binary format. -/
def decimalBound : Int := 400

/-- The bits of the nearest number of a binary format, unless it is infinite. -/
def nearest? (f : BinaryFormat) (n : Numeral) : Option Nat :=
  let digits : Int := (Nat.toDigits 10 n.coefficient).length
  let sign := if n.negative then f.signBit else 0
  if n.coefficient = 0 then some sign
  else if digits + n.exponent < -decimalBound then some sign
  else if decimalBound < digits + n.exponent then none
  else
    let (p, s) := powerQuotient 10 n.exponent
    let bits := f.nearest (n.coefficient * p) s
    if bits = f.infinityBits then none else some (sign + bits)

/-- The number of eight bytes that the numeral is read as, unless it is infinite. -/
def float? (n : Numeral) : Option Float :=
  match n.integer? with
  | some x => some (floatOfInt x)
  | none => (n.nearest? .binary64).map fun bits => .ofBits (.ofNat bits)

/-- The number of four bytes that the numeral is read as, unless it is infinite. -/
def float32? (n : Numeral) : Option Float32 :=
  match n.integer? with
  | some x => some (float32OfInt x)
  | none => (n.nearest? .binary32).map fun bits => .ofBits (.ofNat bits)

end Numeral

/-- A value of the wire format, as far as its text can be read. -/
inductive Document
  | null
  | bool (b : Bool)
  | number (n : Numeral)
  /-- A number that was written to be read as exactly this float. -/
  | float (x : Float)
  | string (s : String)
  /-- A string with half of a surrogate pair, which is no text. -/
  | unpaired
  | list (items : List Document) (closed : Bool)
  | object (members : List (Document × Document)) (closed : Bool)
  | broken

namespace Document

/-- An integer as a document. -/
def int (x : Int) : Document := .number (.ofInt x)

/-- An object with the given members. -/
def record (l : List (String × Document)) : Document :=
  .object (l.map fun (k, v) => (.string k, v)) true

mutual

/-- Whether the text was a value to its end. -/
def isWhole : Document → Bool
  | .broken => false
  | .list items closed => closed && allWhole items
  | .object members closed => closed && membersWhole members
  | _ => true

/-- Whether every item of a list was a value to its end. -/
def allWhole : List Document → Bool
  | [] => true
  | d :: ds => d.isWhole && allWhole ds

/-- Whether every member of an object has a key and was a value to its end. -/
def membersWhole : List (Document × Document) → Bool
  | [] => true
  | (k, v) :: ms => k.isKey && v.isWhole && membersWhole ms

/-- Whether the document can stand for the key of a member. -/
def isKey : Document → Bool
  | .string _ => true
  | .unpaired => true
  | _ => false

end

end Document

/-! ## Faults -/

/-- What a reader found in place of what it expected. -/
inductive Found
  | null
  | bool (b : Bool)
  | integer (x : Int)
  | float (x : Float)
  | string (s : String)
  | sequence
  | map

/-- What was found, as a message says it. -/
def Found.text : Found → String
  | null => "null"
  | bool b => "boolean `" ++ (if b then "true" else "false") ++ "`"
  | integer x => "integer `" ++ x.repr ++ "`"
  | float x => "floating point `" ++ scientificText x ++ "`"
  | string s => "string " ++ quoted s
  | sequence => "sequence"
  | map => "map"

/-- Why a whole document is not a value of the type that is read. -/
inductive DataFault
  | missingField (name : String)
  | duplicateField (name : String)
  | unknownField (name : String) (known : List String)
  | unknownVariant (name : String) (known : List String)
  | invalidLength (length : Nat) (expected : String)
  | invalidType (found : Found) (expected : String)
  | invalidValue (found : Found) (expected : String)
  | refused (r : Refusal)
  | unitMismatch (expected found : String)

/-- A name as a message quotes it. -/
def ticked (s : String) : String := "`" ++ s ++ "`"

/-- The names that a message says are expected. -/
def oneOf : List String → String
  | [a] => "expected " ++ ticked a
  | [a, b] => "expected " ++ ticked a ++ " or " ++ ticked b
  | l => "expected one of " ++ String.intercalate ", " (l.map ticked)

/-- The text of the fault. -/
def DataFault.message : DataFault → String
  | missingField f => "missing field " ++ ticked f
  | duplicateField f => "duplicate field " ++ ticked f
  | unknownField f known => "unknown field " ++ ticked f ++ ", " ++ oneOf known
  | unknownVariant v known => "unknown variant " ++ ticked v ++ ", " ++ oneOf known
  | invalidLength n e => "invalid length " ++ n.repr ++ ", expected " ++ e
  | invalidType found e => "invalid type: " ++ found.text ++ ", expected " ++ e
  | invalidValue found e => "invalid value: " ++ found.text ++ ", expected " ++ e
  | refused r => r.message
  | unitMismatch e found => "unit mismatch: expected '" ++ e ++ "', found '" ++ found ++ "'"

/-- Why nothing was read: the text is no document, or the document is not of the type. -/
inductive ReadFault
  | malformed
  | data (f : DataFault)

/-- What reading a document ends with. -/
abbrev Read (α : Type) : Type := Except ReadFault α

namespace Document

/-- What a reader of another type finds. -/
def found : Document → Read Found
  | .null => .ok .null
  | .bool b => .ok (.bool b)
  | .number n =>
    match n.integer? with
    | some x => .ok (.integer x)
    | none =>
      match n.float? with
      | some x => .ok (.float x)
      | none => .error .malformed
  | .float x => .ok (.float x)
  | .string s => .ok (.string s)
  | .list _ _ => .ok .sequence
  | .object _ _ => .ok .map
  | .unpaired | .broken => .error .malformed

/-- The fault of a document of another type. -/
def mismatch {α : Type} (d : Document) (expected : String) : Read α := do
  let found ← d.found
  .error (.data (.invalidType found expected))

end Document

end Metrology.Wire
