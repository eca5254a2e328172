import Metrology.Binary

/-!
# Decimals

A decimal is a natural coefficient times a power of ten.  It is written positionally, with all of
its digits and never with an exponent.  `Decimal.fixed` rounds a quotient to a number of places, a
tie going to the even last digit.
-/

namespace Metrology

/-- The number `coefficient * 10 ^ exponent`. -/
structure Decimal where
  coefficient : Nat
  exponent : Int
  deriving DecidableEq

namespace Decimal

/-- At least `n` characters, filled up with zeros from the left. -/
def zeroFill (n : Nat) (l : List Char) : List Char := List.replicate (n - l.length) '0' ++ l

/-- All digits, with a point before the last `-exponent` of them. -/
def digits (d : Decimal) : List Char :=
  let all := Nat.toDigits 10 d.coefficient
  if 0 ≤ d.exponent then
    if d.coefficient = 0 then all else all ++ List.replicate d.exponent.toNat '0'
  else
    let places := (-d.exponent).toNat
    let filled := zeroFill (places + 1) all
    filled.take (filled.length - places) ++ '.' :: filled.drop (filled.length - places)

/-- The digits as a text. -/
def text (d : Decimal) : String := String.ofList d.digits

/-- `n / d` rounded to the given number of places, a tie going to the even last digit. -/
def fixed (places n d : Nat) : Decimal :=
  ⟨BinaryFormat.divHalfEven (n * Nat.pow 10 places) d, -(places : Int)⟩

end Decimal

end Metrology
