import Metrology.NumberText
import Metrology.Rational.Root
import Metrology.Unit

/-!
# Names of units

The generated name of a unit is a sequence of pieces.  For each base quantity with a non-zero
exponent there is a slot piece: the symbol of the quantity with the prefix that its ratio implies,
the root of the ratio in the exponent, followed by the exponent unless it is one.  Some prefixes
have names of their own, and a ratio without a prefix symbol stands in brackets.  In front come
the real factor and the coefficient, unless they are one, joined with a cross: the coefficient
holds the global ratio and the ratios of the base quantities with exponent zero.
-/

namespace Metrology

/-! ## Symbols -/

/-- The prefixes with a symbol. -/
def prefixTable : List (Rational × String) :=
  [(.femto, "f"), (.pico, "p"), (.nano, "n"), (.micro, "u"), (.milli, "m"), (.centi, "c"),
    (.deci, "d"), (.one, ""), (.kilo, "k"), (.mega, "M"), (.giga, "G"), (.tera, "T")]

/-- The symbol of the prefix, if it has one. -/
def prefixSymbol (a : Rational) : Option String := prefixTable.lookup a

/-- The symbol that prefixes attach to; for mass it is the gram, not the coherent kilogram. -/
def Base.unitSymbol : Base → String
  | .si .length => "m"
  | .si .mass => "g"
  | .si .time => "s"
  | .si .current => "A"
  | .si .temperature => "K"
  | .si .amount => "mol"
  | .si .luminous => "cd"
  | .extra .angle => "rad"
  | .extra .currency => "cur"
  | .extra .information => "bit"
  | .extra .count => "ct"

/-- The multiples of the second with names. -/
def timeTable : List (Rational × String) :=
  [(.minute, "min"), (.hour, "h"), (.day, "d"), (.year, "yr")]

/-! ## Slots -/

namespace SlotName

/-- The prefix that a slot ratio implies: its root in the exponent. -/
def slotPrefix (a : Rational) (e : Exponent) : Option Rational := a.root? e

/-- The exponent, which is left out when it is one. -/
def exponentSuffix (e : Exponent) : String := if e.val = 1 then "" else "^" ++ e.text

/-- The ratio in brackets before the symbol. -/
def bracketed (a : Rational) (b : Base) : List String := ["[", a.text, "]", b.unitSymbol]

/-- The name of a prefixed base unit, if it has one of its own. -/
def ownName (b : Base) (e : Exponent) (p : Rational) : Option String :=
  match b with
  | .si .time => timeTable.lookup p
  | .si .length => if p = .angstrom ∧ e.val = 1 then some "Å" else none
  | _ => none

/-- The prefix in front of the unit symbol. -/
def shownPrefix (b : Base) (p : Rational) : Option Rational :=
  match b with
  | .si .mass => (p.mul .kilo).toOption
  | _ => some p

/-- The prefixed symbol, or the bracketed prefix if it has no symbol. -/
def prefixed (b : Base) (p : Rational) : List String :=
  match (shownPrefix b p).bind prefixSymbol with
  | some s => [s, b.unitSymbol]
  | none => bracketed p b

/-- A cube of length one tenth is a litre. -/
def isLitre (b : Base) (e : Exponent) (p : Rational) : Bool :=
  b = .si .length && p = .deci && e.val = 3

/-- The pieces for a base quantity with a non-zero exponent and its ratio. -/
def pieces (b : Base) (e : Exponent) (a : Rational) : List String :=
  match slotPrefix a e with
  | none => bracketed a b ++ [exponentSuffix e]
  | some p =>
    if isLitre b e p then ["l"]
    else
      match ownName b e p with
      | some s => [s, exponentSuffix e]
      | none => prefixed b p ++ [exponentSuffix e]

end SlotName

/-! ## Units -/

namespace Unit

/-- The exponent of the base quantity in the dimension. -/
def exponent (u : Unit) (b : Base) : Exponent := u.dim.exponent b

/-- The product of the global ratio and the ratios at exponent zero, multiplied in slot order, if
every step has a result. -/
def coefficient (u : Unit) : Option Rational :=
  (Base.all.filter fun b => (u.exponent b).val = 0).foldl
    (fun acc b => acc.bind fun c => (c.mul (u.ratio.get b)).toOption) (some u.global)

/-- The real factor, unless it is one. -/
def factorPart (u : Unit) : List (List String) :=
  if u.isReal && u.factorValue != 1.0 then [[floatText u.factorValue]] else []

/-- The coefficient, unless it is one; if it has no value, the scale divided by the factor. -/
def coefficientPart (u : Unit) : List (List String) :=
  match u.coefficient with
  | some c => if c.isOne then [] else [[c.text]]
  | none => [[floatText (u.scale / u.factorValue)]]

/-- The slots in use, unless the unit has no dimension. -/
def slotPart (u : Unit) : List (List String) :=
  if u.dim.isDimensionless then []
  else [(Base.all.filter fun b => (u.exponent b).val ≠ 0).flatMap fun b =>
    SlotName.pieces b (u.exponent b) (u.ratio.get b)]

/-- The pieces of the name in writing order. -/
def pieces (u : Unit) : List String :=
  ["×"].intercalate (u.factorPart ++ u.coefficientPart ++ u.slotPart)

/-- The generated name. -/
def text (u : Unit) : String := String.join u.pieces

end Unit

end Metrology
