import Metrology.Decimal.Shortest

/-!
# Shortest decimals in scientific notation

The shortest decimal of a float, written so that it is recognised as a floating point number: it
has a point or an exponent.  It is positional while the point stands within sixteen digits to the
right and fewer than five zeros to the left of the first digit, and in scientific notation beyond.
-/

namespace Metrology

/-- The digits after the first one, behind a point, if there are any. -/
def pointed : List Char → List Char
  | [] => []
  | [c] => [c]
  | c :: cs => c :: '.' :: cs

/-- A decimal with a point or an exponent. -/
def Decimal.scientific (d : Decimal) : List Char :=
  let ds := Nat.toDigits 10 d.coefficient
  let point : Int := ds.length + d.exponent
  if 0 ≤ d.exponent ∧ point ≤ 16 then d.digits ++ ['.', '0']
  else if -5 < point ∧ point ≤ 16 then d.digits
  else pointed ds ++ 'e' :: (point - 1).repr.toList

/-- The text of a finite float with a point or an exponent. -/
def scientificText (x : Float) : String :=
  match Datum.ofFloat x with
  | .finite negative m q =>
    let d := Decimal.shortest .binary64 m q
    (if negative then "-" else "") ++ String.ofList d.scientific
  | .infinite negative => if negative then "-inf" else "inf"
  | .nan => "NaN"

end Metrology
