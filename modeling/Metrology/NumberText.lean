import Metrology.Decimal.Shortest

/-!
# Texts of numbers

A number is laid out as a sign and a body in a field of some width.  Padding goes to the left
unless the layout says otherwise, or as zeros between the sign and the body; in a centred field the
odd blank goes to the right.  A floating point number has the shortest digits that read back, or a
fixed number of places; an integer has no places.  NaN has no sign, and zero keeps its own.
-/

namespace Metrology

/-- Where the text stands in its field, and what fills the rest. -/
inductive Padding
  | left (fill : Char)
  | right (fill : Char)
  | centre (fill : Char)
  /-- Zeros after the sign. -/
  | zeros
  deriving DecidableEq

/-- How a number is laid out: its sign, its least width and its decimal places. -/
structure NumberLayout where
  padding : Padding := .right ' '
  /-- Whether a number that is not negative has a plus sign. -/
  plus : Bool := false
  width : Nat := 0
  places : Option Nat := none

/-- A number as a sign and digits. -/
structure NumberText where
  sign : String
  body : String

namespace NumberText

/-- The character `n` times. -/
def fill (c : Char) (n : Nat) : String := String.ofList (List.replicate n c)

/-- The sign and the body in a field of the layout's width. -/
def padded (t : NumberText) (layout : NumberLayout) : String :=
  let text := t.sign ++ t.body
  let missing := layout.width - text.length
  match layout.padding with
  | .left c => text ++ fill c missing
  | .right c => fill c missing ++ text
  | .centre c => fill c (missing / 2) ++ text ++ fill c (missing - missing / 2)
  | .zeros => t.sign ++ fill '0' missing ++ t.body

/-- The sign that is written in front. -/
def signOf (negative plus : Bool) : String := if negative then "-" else if plus then "+" else ""

/-- The parts of an integer. -/
def ofInt (plus : Bool) (x : Int) : NumberText := ⟨signOf (x < 0) plus, x.natAbs.repr⟩

/-- The parts of a datum, with the shortest digits unless a number of places is asked for. -/
def ofDatum (f : BinaryFormat) (plus : Bool) (places : Option Nat) : Datum → NumberText
  | .nan => ⟨"", "NaN"⟩
  | .infinite negative => ⟨signOf negative plus, "inf"⟩
  | .finite negative m q =>
    let d := match places with
      | none => Decimal.shortest f m q
      | some k => let (n, d) := BinaryFormat.shifted m 1 (-q); Decimal.fixed k n d
    ⟨signOf negative plus, d.text⟩

end NumberText

/-- The text of an integer. -/
def layoutInt (layout : NumberLayout) (x : Int) : String :=
  (NumberText.ofInt layout.plus x).padded layout

/-- The text of a number of eight bytes. -/
def layoutFloat (layout : NumberLayout) (x : Float) : String :=
  (NumberText.ofDatum .binary64 layout.plus layout.places (.ofFloat x)).padded layout

/-- The text of a number of four bytes. -/
def layoutFloat32 (layout : NumberLayout) (x : Float32) : String :=
  (NumberText.ofDatum .binary32 layout.plus layout.places (.ofFloat32 x)).padded layout

/-- The plain text of a float. -/
def floatText (x : Float) : String := layoutFloat {} x

end Metrology
