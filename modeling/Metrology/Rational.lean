import Metrology.Binary
import Metrology.Outcome

/-!
# Rational numbers

A fraction is a pair of 64-bit words; a rational is a canonical fraction, in lowest terms with a
positive denominator, so that equal numbers are equal rationals.  The least word is no numerator,
which makes every sign change and every inversion safe.  `Fraction.reduce` brings a pair of words
into canonical form, and all arithmetic ends with it.  An operation is refused when it inverts
zero and when its result does not fit.
-/

namespace Metrology

/-- A numerator and a denominator. -/
structure Fraction where
  num : Word .i64
  den : Word .i64
  deriving DecidableEq

namespace Fraction

/-- Lowest terms, positive denominator, and a numerator that can be negated. -/
def Canonical (r : Fraction) : Prop :=
  0 < r.den.val ∧ r.num.val.natAbs.gcd r.den.val.natAbs = 1 ∧ r.num.val ≠ IntFormat.i64.low

instance (r : Fraction) : Decidable r.Canonical := by unfold Canonical; infer_instance

/-- The greatest common divisor of the magnitudes, as a word. -/
def commonDivisor (a b : Word .i64) : Word .i64 := .wrap .i64 (a.magnitude.gcd b.magnitude).val

/-- The canonical fraction equal to `num / den`. -/
def reduce (num den : Word .i64) : Outcome Fraction :=
  if den.val = 0 then .refuse .zeroDenominator
  else if num.val = IntFormat.i64.low ∨ den.val = IntFormat.i64.low then .refuse .overflow
  else .ofArithmetic do
    let g := commonDivisor num den
    let n ← num.div g
    let d ← den.div g
    if d.val < 0 then return ⟨← n.neg, ← d.neg⟩ else return ⟨n, d⟩

theorem val_gcd_magnitude (a b : Word .i64) :
    (a.magnitude.gcd b.magnitude).val = a.val.natAbs.gcd b.val.natAbs := by
  rw [Word.val_gcd, Word.val_magnitude, Word.val_magnitude, Int.gcd_natCast_natCast]

theorem val_commonDivisor {a b : Word .i64} (h0 : b.val ≠ 0) (hb : b.val ≠ IntFormat.i64.low) :
    (commonDivisor a b).val = a.val.natAbs.gcd b.val.natAbs := by
  have hle := Word.natAbs_le_high hb
  have hg := Nat.gcd_le_right (n := b.val.natAbs) a.val.natAbs (by omega)
  rw [commonDivisor, val_gcd_magnitude]
  exact Word.val_wrap (by omega) (by omega)

/-- Reduction keeps the value. -/
theorem reduce_eq_ok {num den : Word .i64} (h0 : den.val ≠ 0) (hn : num.val ≠ IntFormat.i64.low)
    (hd : den.val ≠ IntFormat.i64.low) :
    ∃ r, reduce num den = .ok r ∧ r.Canonical ∧ r.num.val * den.val = num.val * r.den.val := by
  have hdle := Word.natAbs_le_high hd
  have hnle := Word.natAbs_le_high hn
  have hpos : 0 < num.val.natAbs.gcd den.val.natAbs := Nat.gcd_pos_of_pos_right _ (by omega)
  have hg := val_commonDivisor (a := num) h0 hd
  obtain ⟨n, hn1, hn2⟩ := Word.div_eq_ok (w := num) (g := commonDivisor num den) (by omega)
  obtain ⟨d, hd1, hd2⟩ := Word.div_eq_ok (w := den) (g := commonDivisor num den) (by omega)
  rw [hg] at hn2 hd2
  have hnm : n.val * (num.val.natAbs.gcd den.val.natAbs : Nat) = num.val := by
    rw [hn2]; exact Int.tdiv_mul_cancel (Int.ofNat_dvd_left.2 (Nat.gcd_dvd_left _ _))
  have hdm : d.val * (num.val.natAbs.gcd den.val.natAbs : Nat) = den.val := by
    rw [hd2]; exact Int.tdiv_mul_cancel (Int.ofNat_dvd_left.2 (Nat.gcd_dvd_right _ _))
  have hco : n.val.natAbs.gcd d.val.natAbs = 1 := by
    rw [hn2, hd2, Int.natAbs_tdiv, Int.natAbs_tdiv]
    exact Nat.coprime_div_gcd_div_gcd hpos
  have hnb : n.val.natAbs ≤ num.val.natAbs := by
    rw [hn2]; exact Int.natAbs_tdiv_le_natAbs _ _
  have hdb : d.val.natAbs ≤ den.val.natAbs := by
    rw [hd2]; exact Int.natAbs_tdiv_le_natAbs _ _
  have hl : IntFormat.i64.low = -IntFormat.i64.high - 1 := by decide
  have hval : n.val * den.val = num.val * d.val := by
    generalize (num.val.natAbs.gcd den.val.natAbs : Nat) = g at hnm hdm
    rw [← hnm, ← hdm]; simp only [Int.mul_comm, Int.mul_left_comm]
  have hd0 : d.val ≠ 0 := fun h => h0 (by rw [← hdm, h]; simp)
  unfold reduce
  rw [if_neg h0, if_neg (by simp [hn, hd])]
  by_cases hs : d.val < 0
  · obtain ⟨n', hn1', hn2'⟩ := Word.neg_eq_ok (w := n) rfl (by omega)
    obtain ⟨d', hd1', hd2'⟩ := Word.neg_eq_ok (w := d) rfl (by omega)
    refine ⟨⟨n', d'⟩, ?_, ⟨by simp only; omega, ?_, by simp only; omega⟩, ?_⟩
    · simp [hn1, hd1, hs, hn1', hd1', bind, Except.bind, pure, Except.pure, Outcome.ofArithmetic]
    · simpa [hn2', hd2'] using hco
    · show n'.val * den.val = num.val * d'.val
      rw [hn2', hd2', Int.neg_mul, hval, Int.mul_neg]
  · refine ⟨⟨n, d⟩, ?_, ⟨by simp only; omega, hco, by simp only; omega⟩, hval⟩
    simp [hn1, hd1, hs, bind, Except.bind, pure, Except.pure, Outcome.ofArithmetic]

theorem reduce_canonical {num den : Word .i64} {r : Fraction} (h : reduce num den = .ok r) :
    r.Canonical := by
  by_cases h0 : den.val = 0
  · simp [reduce, h0, Outcome.refuse] at h
  by_cases h1 : num.val = IntFormat.i64.low ∨ den.val = IntFormat.i64.low
  · simp [reduce, h0, h1, Outcome.refuse] at h
  · obtain ⟨r', hr, hc, -⟩ := reduce_eq_ok h0 (fun h => h1 (.inl h)) (fun h => h1 (.inr h))
    rw [hr, Except.ok.injEq] at h
    exact h ▸ hc

end Fraction

/-- A canonical fraction. -/
structure Rational extends Fraction where
  canonical : toFraction.Canonical
  deriving DecidableEq

namespace Rational

/-! ## Construction -/

/-- The rational `num / den`. -/
def make (num den : Word .i64) : Outcome Rational :=
  match h : Fraction.reduce num den with
  | .ok r => .ok ⟨r, Fraction.reduce_canonical h⟩
  | .error e => .error e

/-- The rational `num / den`; a refusal aborts. -/
def make! (num den : Word .i64) : Outcome Rational := (make num den).demand

/-- The rational of an integer. -/
def ofWord (n : Word .i64) : Outcome Rational := make! n .one

/-- A rational written out in lowest terms. -/
def literal (num den : Int)
    (hn : IntFormat.i64.low ≤ num ∧ num ≤ IntFormat.i64.high := by decide)
    (hd : IntFormat.i64.low ≤ den ∧ den ≤ IntFormat.i64.high := by decide)
    (hc : 0 < den ∧ num.natAbs.gcd den.natAbs = 1 ∧ num ≠ IntFormat.i64.low := by decide) :
    Rational :=
  ⟨⟨⟨num, hn.1, hn.2⟩, ⟨den, hd.1, hd.2⟩⟩, hc⟩

/-- The number zero. -/
def zero : Rational := literal 0 1
/-- The number one. -/
def one : Rational := literal 1 1

/-! The prefixes. -/

/-- The prefix `10 ^ -15`. -/
def femto : Rational := literal 1 1000000000000000
/-- The prefix `10 ^ -12`. -/
def pico : Rational := literal 1 1000000000000
/-- The prefix `10 ^ -9`. -/
def nano : Rational := literal 1 1000000000
/-- The prefix `10 ^ -6`. -/
def micro : Rational := literal 1 1000000
/-- The prefix `10 ^ -3`. -/
def milli : Rational := literal 1 1000
/-- The prefix `10 ^ -2`. -/
def centi : Rational := literal 1 100
/-- The prefix `10 ^ -1`. -/
def deci : Rational := literal 1 10
/-- The prefix `10 ^ 3`. -/
def kilo : Rational := literal 1000 1
/-- The prefix `10 ^ 6`. -/
def mega : Rational := literal 1000000 1
/-- The prefix `10 ^ 9`. -/
def giga : Rational := literal 1000000000 1
/-- The prefix `10 ^ 12`. -/
def tera : Rational := literal 1000000000000 1

/-! The sizes of the units that have names outside the powers of a thousand. -/

/-- A minute in seconds. -/
def minute : Rational := literal 60 1
/-- An hour in seconds. -/
def hour : Rational := literal 3600 1
/-- A day in seconds. -/
def day : Rational := literal 86400 1
/-- A year of 365 days in seconds. -/
def year : Rational := literal 31536000 1
/-- An ångström in meters. -/
def angstrom : Rational := literal 1 10000000000

instance : Inhabited Rational := ⟨zero⟩

/-- Whether the number is zero. -/
def isZero (a : Rational) : Bool := a.num.val == 0

/-- Whether the number is one. -/
def isOne (a : Rational) : Bool := a.num.val == 1 && a.den.val == 1

/-! ## Arithmetic -/

/-- The product of two words, refused when it is none. -/
def wordProduct (a b : Word .i64) : Outcome (Word .i64) :=
  match Word.fit? .i64 (a.val * b.val) with
  | some w => .ok w
  | none => .refuse .overflow

/-- The product; both diagonals are reduced before anything is multiplied. -/
def mul (a b : Rational) : Outcome Rational := do
  let g := Fraction.commonDivisor a.num b.den
  let h := Fraction.commonDivisor b.num a.den
  let num ← wordProduct (← .ofArithmetic (a.num.div g)) (← .ofArithmetic (b.num.div h))
  let den ← wordProduct (← .ofArithmetic (a.den.div h)) (← .ofArithmetic (b.den.div g))
  make num den

/-- The product; a refusal aborts. -/
def mul! (a b : Rational) : Outcome Rational := (a.mul b).demand

/-- The inverse. -/
def recip (a : Rational) : Outcome Rational := make a.den a.num

/-- The inverse; a refusal aborts. -/
def recip! (a : Rational) : Outcome Rational := a.recip.demand

/-- The quotient, by way of the inverse of the divisor. -/
def div (a b : Rational) : Outcome Rational := do
  let inverse ← b.recip
  a.mul inverse

/-- The quotient; a refusal aborts. -/
def div! (a b : Rational) : Outcome Rational := (a.div b).demand

/-- `acc * base ^ e` by repeated squaring; the base is squared only while bits of `e` remain. -/
def powLoop (acc base : Rational) (e : Nat) : Outcome Rational :=
  if e = 0 then .ok acc
  else do
    let acc ← if e % 2 = 1 then acc.mul base else .ok acc
    if e / 2 = 0 then .ok acc
    else
      let square ← base.mul base
      powLoop acc square (e / 2)
termination_by e

/-- The power; a negative exponent inverts first, and the zeroth power of zero is one. -/
def powi (a : Rational) (k : Word .i32) : Outcome Rational :=
  if k.val = 0 then .ok one
  else do
    let base ← if k.val < 0 then a.recip else .ok a
    powLoop one base k.val.natAbs

/-- The power; a refusal aborts. -/
def powi! (a : Rational) (k : Word .i32) : Outcome Rational := (a.powi k).demand

/-! ## Order -/

/-- The two sides of the comparison after multiplying by both denominators. -/
def crossProducts (a b : Rational) : Int × Int :=
  (a.num.val * b.den.val, b.num.val * a.den.val)

/-- How two rationals compare: as their cross products do. -/
def order (a b : Rational) : Ordering :=
  let (l, r) := crossProducts a b
  if l < r then .lt else if r < l then .gt else .eq

/-- The smaller rational, the left one if neither is smaller. -/
def least (a b : Rational) : Rational := if b.order a = .lt then b else a

/-- The larger rational, the right one if neither is larger. -/
def greatest (a b : Rational) : Rational := if b.order a = .lt then a else b

/-- The rationals in order. -/
def sort (l : List Rational) : List Rational := l.mergeSort fun a b => a.order b != .gt

/-! ## Value and text -/

/-- The quotient of the nearest floats. -/
def value (a : Rational) : Float := floatOfInt a.num.val / floatOfInt a.den.val

/-- The numerator and, unless it is one, the denominator behind a slash. -/
def text (a : Rational) : String :=
  if a.den.val = 1 then a.num.text else a.num.text ++ "/" ++ a.den.text

end Rational

end Metrology
