/-!
# Binary interchange formats

A binary format stores a number as a sign, an exponent and a significand.  `BinaryFormat.decode`
reads the bits as the exact number `m * 2 ^ q`, and `BinaryFormat.nearest` finds the bits of the
number nearest to a quotient of naturals, a tie going to the even significand.  Both are exact
integer computations, so they hold for quotients of any size.
-/

namespace Metrology

/-- A binary floating-point format, by the widths of its two fields. -/
structure BinaryFormat where
  /-- Stored bits of the significand. -/
  fraction : Nat
  /-- Bits of the exponent. -/
  exponent : Nat

/-- What the bits of a binary format stand for. -/
inductive Datum
  | nan
  | infinite (negative : Bool)
  /-- The number `m * 2 ^ q`, negated if `negative`. -/
  | finite (negative : Bool) (m : Nat) (q : Int)

namespace BinaryFormat

/-- The format of eight bytes. -/
def binary64 : BinaryFormat := ⟨52, 11⟩

/-- The format of four bytes. -/
def binary32 : BinaryFormat := ⟨23, 8⟩

/-- The exponent of the last place of the least numbers. -/
def leastPlace (f : BinaryFormat) : Int :=
  2 - (Nat.pow 2 (f.exponent - 1) : Nat) - f.fraction

/-- The bits of infinity. -/
def infinityBits (f : BinaryFormat) : Nat := (Nat.pow 2 f.exponent - 1) * Nat.pow 2 f.fraction

/-- The weight of the highest bit, which is set for negative numbers. -/
def signBit (f : BinaryFormat) : Nat := Nat.pow 2 (f.exponent + f.fraction)

/-- The datum that the bits stand for. -/
def decode (f : BinaryFormat) (bits : Nat) : Datum :=
  let negative := f.signBit ≤ bits
  let biased := bits / Nat.pow 2 f.fraction % Nat.pow 2 f.exponent
  let low := bits % Nat.pow 2 f.fraction
  if biased = 0 then .finite negative low f.leastPlace
  else if biased + 1 = Nat.pow 2 f.exponent then
    if low = 0 then .infinite negative else .nan
  else .finite negative (Nat.pow 2 f.fraction + low) (f.leastPlace + biased - 1)

/-- The natural number nearest to `n / d`, a tie going to the even one. -/
def divHalfEven (n d : Nat) : Nat :=
  let floor := n / d
  let twice := 2 * (n % d)
  if twice < d then floor
  else if d < twice then floor + 1
  else if floor % 2 = 0 then floor else floor + 1

/-- `n / d` as the quotient of naturals `n / (d * 2 ^ q)`. -/
def shifted (n d : Nat) (q : Int) : Nat × Nat :=
  if 0 ≤ q then (n, d * Nat.pow 2 q.toNat) else (n * Nat.pow 2 (-q).toNat, d)

/-- The place of the last bit of `n / d` in the format. -/
def lastPlace (f : BinaryFormat) (n d : Nat) : Int :=
  let guess : Int := n.log2 - d.log2 - f.fraction
  let (a, b) := shifted n d guess
  let exact := if a < b * Nat.pow 2 f.fraction then guess - 1 else guess
  if exact < f.leastPlace then f.leastPlace else exact

/-- The bits of the number nearest to `n / d`, infinity if it is too large. -/
def nearest (f : BinaryFormat) (n d : Nat) : Nat :=
  if n = 0 then 0
  else
    let q := f.lastPlace n d
    let (a, b) := shifted n d q
    let bits := (q - f.leastPlace).toNat * Nat.pow 2 f.fraction + divHalfEven a b
    if f.infinityBits < bits then f.infinityBits else bits

/-- The bits of the number nearest to an integer. -/
def ofInt (f : BinaryFormat) (x : Int) : Nat :=
  if x < 0 then f.signBit + f.nearest x.natAbs 1 else f.nearest x.natAbs 1

end BinaryFormat

/-! ## Floating point numbers -/

/-- The datum of a number of eight bytes. -/
def Datum.ofFloat (x : Float) : Datum := BinaryFormat.binary64.decode x.toBits.toNat

/-- The datum of a number of four bytes. -/
def Datum.ofFloat32 (x : Float32) : Datum := BinaryFormat.binary32.decode x.toBits.toNat

/-- The float nearest to an integer. -/
def floatOfInt (x : Int) : Float := .ofBits (.ofNat (BinaryFormat.binary64.ofInt x))

/-- The single-precision float nearest to an integer. -/
def float32OfInt (x : Int) : Float32 := .ofBits (.ofNat (BinaryFormat.binary32.ofInt x))

/-- The whole part of `m * 2 ^ q`. -/
def wholePart (m : Nat) (q : Int) : Nat :=
  if 0 ≤ q then m * Nat.pow 2 q.toNat else m / Nat.pow 2 (-q).toNat

end Metrology
