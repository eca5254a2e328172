import Metrology.Rational

/-!
# Exact roots

The `n`-th root of a 64-bit magnitude is searched by bisection and returned only when it is exact.
A power beyond 64 bits counts as greater than any magnitude.  `Rational.root?` takes the root of
numerator and denominator; since both are coprime this finds every rational root.
-/

namespace Metrology

/-- The bound of 64-bit magnitudes. -/
def magnitudeBound : Nat := 18446744073709551616

/-- `b ^ n`, if it is a 64-bit magnitude. -/
def boundedPow (b n : Nat) : Option Nat :=
  if b < 2 then some (Nat.pow b n)
  else if 64 ≤ n then none
  else if Nat.pow b n < magnitudeBound then some (Nat.pow b n) else none

/-- Where the `n`-th power of `b` lies as seen from `x`. -/
def powOrder (b n x : Nat) : Ordering :=
  match boundedPow b n with
  | none => .gt
  | some p => compare p x

/-- The candidates for a root: the numbers from `lo` to `hi`. -/
structure RootRange where
  lo : Nat
  hi : Nat
  lo_pos : 0 < lo

namespace RootRange

/-- The candidate that is tried next. -/
def mid (r : RootRange) : Nat := r.lo + (r.hi - r.lo) / 2

theorem lo_le_mid (r : RootRange) : r.lo ≤ r.mid := Nat.le_add_right _ _

theorem mid_le_hi (r : RootRange) (h : r.lo ≤ r.hi) : r.mid ≤ r.hi := by
  unfold mid; omega

theorem mid_pos (r : RootRange) : 0 < r.mid := Nat.lt_of_lt_of_le r.lo_pos r.lo_le_mid

/-- The part of the range above its middle. -/
def above (r : RootRange) : RootRange := ⟨r.mid + 1, r.hi, Nat.succ_pos _⟩

/-- The part of the range below its middle. -/
def below (r : RootRange) : RootRange := ⟨r.lo, r.mid - 1, r.lo_pos⟩

/-- The `n`-th root of `x` among the candidates. -/
def search (x n : Nat) (r : RootRange) : Option Nat :=
  if r.lo ≤ r.hi then
    match powOrder r.mid n x with
    | .eq => some r.mid
    | .lt => search x n r.above
    | .gt => search x n r.below
  else none
termination_by r.hi + 1 - r.lo
decreasing_by
  · have := r.lo_le_mid
    have := r.mid_le_hi ‹_›
    simp only [above]
    omega
  · have := r.lo_le_mid
    have := r.mid_le_hi ‹_›
    have := r.mid_pos
    simp only [below]
    omega

end RootRange

/-- The `n`-th root of `x`, if it is a natural number. -/
def exactRoot (x n : Nat) : Option Nat :=
  if n = 1 ∨ x < 2 then some x else RootRange.search x n ⟨1, x, Nat.one_pos⟩

/-- The positive rational whose power with exponent `e` is `a`. -/
def Rational.root? (a : Rational) (e : Word .i32) : Option Rational :=
  if e.val = 0 ∨ a.num.val ≤ 0 then none
  else do
    let a ← if e.val < 0 then a.recip.toOption else some a
    let num ← exactRoot a.num.val.natAbs e.val.natAbs
    let den ← exactRoot a.den.val.natAbs e.val.natAbs
    let num ← Word.fit? .i64 num
    let den ← Word.fit? .i64 den
    (Rational.make num den).toOption

end Metrology
