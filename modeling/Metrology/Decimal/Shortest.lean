import Metrology.Decimal

/-!
# The shortest decimal that reads back

A binary number stands for all reals that round to it, an interval whose ends belong to it exactly
when its significand is even.  The shortest decimal of the number is looked for on the grids of
one, two, three and more digits: the first grid with a point in the interval next to the number
decides, and of two such points the nearer one, the upper one when both are equally near.
-/

namespace Metrology

/-- The power `b ^ x` as a quotient of naturals. -/
def powerQuotient (b : Nat) (x : Int) : Nat × Nat :=
  if 0 ≤ x then (Nat.pow b x.toNat, 1) else (1, Nat.pow b (-x).toNat)

/-- The reals that round to a binary number: the number and the ends of the interval in units of
`2 ^ place`, and whether the ends belong to it. -/
structure RoundingInterval where
  value : Nat
  least : Nat
  greatest : Nat
  place : Int
  closed : Bool

namespace RoundingInterval

/-- The interval of `m * 2 ^ q`; below a power of two the numbers are twice as dense. -/
def ofNumber (f : BinaryFormat) (m : Nat) (q : Int) : RoundingInterval :=
  let dense := m = Nat.pow 2 f.fraction ∧ f.leastPlace < q
  ⟨4 * m, 4 * m - (if dense then 1 else 2), 4 * m + 2, q - 2, m % 2 = 0⟩

/-- The size of `2 ^ place` in units of `10 ^ x`, as a quotient. -/
def gridRatio (i : RoundingInterval) (x : Int) : Nat × Nat :=
  let (n, d) := powerQuotient 2 i.place
  let (p, s) := powerQuotient 10 x
  (n * s, d * p)

/-- Whether `c * 10 ^ x` rounds to the number. -/
def contains (i : RoundingInterval) (c : Nat) (x : Int) : Bool :=
  let (n, d) := i.gridRatio x
  if i.closed then i.least * n ≤ c * d ∧ c * d ≤ i.greatest * n
  else i.least * n < c * d ∧ c * d < i.greatest * n

/-- The point of the grid `10 ^ x` next to the number that rounds to it, if there is one. -/
def gridPoint (i : RoundingInterval) (x : Int) : Option Nat :=
  let (n, d) := i.gridRatio x
  let below := i.value * n / d
  let upper := d ≤ 2 * (i.value * n % d)
  match i.contains below x, i.contains (below + 1) x with
  | true, true => some (if upper then below + 1 else below)
  | true, false => some below
  | false, true => some (below + 1)
  | false, false => none

/-- The number `k` with `10 ^ (k - 1) ≤ v < 10 ^ k` for the number `v`, which is not zero. -/
def magnitude (i : RoundingInterval) : Int :=
  let (n, d) := i.gridRatio 0
  let v := i.value * n
  if d ≤ v then (Nat.toDigits 10 (v / d)).length else 1 - (Nat.toDigits 10 (d / v)).length

/-- `c * 10 ^ x` without a last digit zero, as a carry into a new place leaves one. -/
def withoutZero (c : Nat) (x : Int) : Decimal := if c % 10 = 0 then ⟨c / 10, x + 1⟩ else ⟨c, x⟩

/-- The first grid with a point, from the one of `digits` digits on. -/
def firstPoint (i : RoundingInterval) (k : Int) : (tries digits : Nat) → Decimal
  | 0, digits =>
    let (n, d) := i.gridRatio (k - digits)
    withoutZero (i.value * n / d) (k - digits)
  | tries + 1, digits =>
    match i.gridPoint (k - digits) with
    | some c => withoutZero c (k - digits)
    | none => firstPoint i k tries (digits + 1)

end RoundingInterval

/-- The shortest decimal that rounds to `m * 2 ^ q`.  Seventeen digits are enough for the widest
format. -/
def Decimal.shortest (f : BinaryFormat) (m : Nat) (q : Int) : Decimal :=
  if m = 0 then ⟨0, 0⟩
  else
    let i := RoundingInterval.ofNumber f m q
    i.firstPoint i.magnitude 17 1

end Metrology
