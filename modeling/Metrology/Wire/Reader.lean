import Metrology.Wire.Parser

/-!
# Reading documents

Readers go through a document from left to right and stop at the first fault.  A structure is read
from an object, with its fields in any order, or from a list, with its fields in their own order.
Of an object the fault of a member comes first, then that of an open end, then a missing field; a
repeated field is a fault before its value is read.  Of a list the elements come first and its end
last, and elements beyond the expected ones make it malformed.
-/

namespace Metrology.Wire

variable {α β σ : Type}

/-! ## Numbers and strings -/

/-- A format with more than 64 bits takes an integer as it is written and nothing else. -/
def readWideWord (f : IntFormat) : Document → Read (Word f)
  | .number n =>
    match n.integral, Word.fit? f n.signed, f.signed || !n.negative with
    | true, some w, true => .ok w
    | _, _, _ => .error .malformed
  | _ => .error .malformed

/-- A format of at most 64 bits takes every integer in its range. -/
def readNarrowWord (f : IntFormat) (d : Document) : Read (Word f) :=
  match d with
  | .number n =>
    match n.integer? with
    | some x =>
      match Word.fit? f x with
      | some w => .ok w
      | none => .error (.data (.invalidValue (.integer x) f.name))
    | none => d.mismatch f.name
  | _ => d.mismatch f.name

/-- A word of the format. -/
def readWord (f : IntFormat) (d : Document) : Read (Word f) :=
  if f.isWide then readWideWord f d else readNarrowWord f d

/-- A number of eight bytes. -/
def readFloat (d : Document) : Read Float :=
  match d with
  | .float x => .ok x
  | .number n =>
    match n.float? with
    | some x => .ok x
    | none => .error .malformed
  | _ => d.mismatch "f64"

/-- A number of four bytes. -/
def readFloat32 (d : Document) : Read Float32 :=
  match d with
  | .float x => .ok x.toFloat32
  | .number n =>
    match n.float32? with
    | some x => .ok x
    | none => .error .malformed
  | _ => d.mismatch "f32"

/-- A text. -/
def readString (d : Document) : Read String :=
  match d with
  | .string s => .ok s
  | _ => d.mismatch "a string"

/-- A value that may be null. -/
def readOption (read : Document → Read α) : Document → Read (Option α)
  | .null => .ok none
  | d => some <$> read d

/-! ## Lists -/

/-- The elements of a list that are still to be read. -/
structure Elements where
  items : List Document
  closed : Bool

namespace Elements

/-- The next element, the `i`-th of the expected ones. -/
def next (expected : String) (i : Nat) (e : Elements) (read : Document → Read α) :
    Read (α × Elements) :=
  match e.items, e.closed with
  | d :: ds, _ => do return (← read d, { e with items := ds })
  | [], true => .error (.data (.invalidLength i expected))
  | [], false => .error .malformed

/-- The end of the list. -/
def finish (e : Elements) : Read PUnit :=
  if e.items.isEmpty && e.closed then .ok ⟨⟩ else .error .malformed

/-- The next `n` elements, from the `i`-th on. -/
def pack (expected : String) (read : Document → Read α) (i : Nat) :
    (n : Nat) → Elements → Read (Pack α n × Elements)
  | 0, e => .ok (.nil, e)
  | n + 1, e => do
    let (a, e) ← e.next expected i read
    let (p, e) ← pack expected read (i + 1) n e
    return (.cons a p, e)

end Elements

/-- A pack is read from a list of exactly its length. -/
def readPack (n : Nat) (read : Document → Read α) (d : Document) : Read (Pack α n) := do
  let expected := "a sequence of " ++ n.repr ++ " elements"
  match d with
  | .list items closed =>
    let (p, rest) ← Elements.pack expected read 0 n ⟨items, closed⟩
    rest.finish
    return p
  | d => d.mismatch expected

/-! ## Objects -/

/-- The key of a member, which has to be a text. -/
def readKey : Document → Read String
  | .string s => .ok s
  | _ => .error .malformed

/-- What to do with the value of a field: `none` if the field is unknown and ignored. -/
abbrev FieldReader (σ : Type) : Type := σ → String → Read (Option (Document → Read σ))

/-- A field that is read at most once. -/
def readOnce (name : String) (seen : Option α) (read : Document → Read α) (store : α → σ) :
    Read (Option (Document → Read σ)) :=
  if seen.isSome then .error (.data (.duplicateField name))
  else .ok (some fun d => store <$> read d)

/-- One member of an object; the value of an unknown one only has to be whole. -/
def readMember (field : FieldReader σ) (s : σ) (m : Document × Document) : Read σ := do
  let key ← readKey m.1
  match ← field s key with
  | some read => read m.2
  | none => if m.2.isWhole then .ok s else .error .malformed

/-- The members of an object, and its end. -/
def readMembers (field : FieldReader σ) (s : σ) (members : List (Document × Document))
    (closed : Bool) : Read σ := do
  let s ← members.foldlM (readMember field) s
  if closed then .ok s else .error .malformed

/-- The value of a field that has to be there. -/
def require (name : String) : Option α → Read α
  | some a => .ok a
  | none => .error (.data (.missingField name))

/-- How a structure is read from an object and from a list. -/
structure RecordReader (σ α : Type) where
  name : String
  start : σ
  field : FieldReader σ
  finish : σ → Read α
  elements : Elements → Read (α × Elements)

/-- The structure, from an object or from a list. -/
def RecordReader.read (r : RecordReader σ α) (d : Document) : Read α := do
  match d with
  | .object members closed =>
    let s ← readMembers r.field r.start members closed
    r.finish s
  | .list items closed =>
    let (a, rest) ← r.elements ⟨items, closed⟩
    rest.finish
    return a
  | d => d.mismatch ("struct " ++ r.name)

/-- The expectation that a list of the fields is measured by. -/
def structLength (name : String) (n : Nat) : String :=
  "struct " ++ name ++ " with " ++ n.repr ++ " elements"

/-! ## Names -/

/-- A name out of a table, alone or as the only key of an object whose value is null. -/
def readName (table : List (String × α)) : Document → Read α
  | .string s => pick s
  | .object ((key, value) :: more) closed => do
    let a ← match key with
      | .string s => pick s
      | k => k.mismatch "variant identifier"
    match value with
    | .null => if more.isEmpty && closed then .ok a else .error .malformed
    | v => v.mismatch "unit"
  | _ => .error .malformed
where
  pick (s : String) : Read α :=
    match table.lookup s with
    | some a => .ok a
    | none => .error (.data (.unknownVariant s (table.map (·.1))))

/-! ## Texts -/

/-- Reads a text that is one document. -/
def readText (read : Document → Read α) (s : String) : Read α := do
  let (d, ended) := Document.ofText s
  let a ← read d
  if ended then .ok a else .error .malformed

end Metrology.Wire
