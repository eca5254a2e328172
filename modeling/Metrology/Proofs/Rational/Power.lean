import Mathlib.Tactic.Ring
import Metrology.Proofs.Rational.Exact

/-!
# Exactness of powers

Repeated squaring keeps an accumulator and a square that are powers of one number, and no square
is formed beyond the highest bit of the exponent.  The parts of a reduced fraction grow with its
powers, so a step that does not fit is a step towards a result that does not fit either: `powi_eq`
says that powers are exact and refused only when the result does not fit or zero is inverted.
Multiplying one factor after the other stops for the same reasons, so both ways to a power agree in
their values and in their refusals (`powi_outcome`).
-/

namespace Metrology

namespace Rational

/-! ## Powers that fit -/

theorem natCast_pow_le {n i j : ℕ} {m : ℤ} (h : i ≤ j) (hm : 0 < m)
    (hj : ((n ^ j : ℕ) : ℤ) ≤ m) : ((n ^ i : ℕ) : ℤ) ≤ m := by
  obtain rfl | hn := Nat.eq_zero_or_pos n
  · have : 0 ^ i ≤ 1 ^ i := Nat.pow_le_pow_left (Nat.zero_le 1) i
    rw [Nat.one_pow] at this
    omega
  · have := Nat.pow_le_pow_right hn h
    omega

/-- A power that fits has only lower powers that fit. -/
theorem Representable.pow_of_le {x : ℚ} {i j : ℕ} (hj : Representable (x ^ j)) (h : i ≤ j) :
    Representable (x ^ i) := by
  obtain ⟨hn, hd⟩ := hj
  rw [Rat.num_pow, Int.natAbs_pow] at hn
  rw [Rat.den_pow] at hd
  refine ⟨?_, ?_⟩
  · rw [Rat.num_pow, Int.natAbs_pow]
    exact natCast_pow_le h high_i64_pos hn
  · rw [Rat.den_pow]
    exact natCast_pow_le h high_i64_pos hd

/-! ## Repeated squaring -/

/-- The power `x ^ i`, or the refusal that every power from the `i`-th on ends in. -/
def ReachesPow (x : ℚ) (i : ℕ) (o : Outcome Rational) : Prop :=
  (∃ c, o = .ok c ∧ c.toRat = x ^ i) ∨
    o = .refuse .overflow ∧ ∀ k, i ≤ k → exactly (x ^ k) = .refuse .overflow

theorem reachesPow_ok {x : ℚ} {i : ℕ} {a : Rational} (h : a.toRat = x ^ i) :
    ReachesPow x i (.ok a) := .inl ⟨a, rfl, h⟩

theorem reachesPow_exactly (x : ℚ) (i : ℕ) : ReachesPow x i (exactly (x ^ i)) := by
  by_cases h : Representable (x ^ i)
  · exact .inl ⟨ofRat _ h, dif_pos h, toRat_ofRat _ h⟩
  · exact .inr ⟨exactly_of_not h, fun k hk => exactly_of_not fun h' => h (h'.pow_of_le hk)⟩

theorem reachesPow_mul {x : ℚ} {a b : Rational} {i j : ℕ} (ha : a.toRat = x ^ i)
    (hb : b.toRat = x ^ j) : ReachesPow x (i + j) (a.mul b) := by
  rw [mul_eq, ha, hb, ← pow_add]
  exact reachesPow_exactly x (i + j)

theorem ReachesPow.bind_eq {x : ℚ} {i k : ℕ} {o : Outcome Rational}
    {f : Rational → Outcome Rational} (h : ReachesPow x i o) (hk : i ≤ k)
    (hf : ∀ c : Rational, c.toRat = x ^ i → f c = exactly (x ^ k)) :
    o >>= f = exactly (x ^ k) := by
  obtain ⟨c, rfl, hc⟩ | ⟨rfl, hbig⟩ := h
  · exact hf c hc
  · exact (hbig k hk).symm

theorem powLoop_of_ne_zero {acc base : Rational} {e : ℕ} (h : e ≠ 0) :
    powLoop acc base e =
      (if e % 2 = 1 then acc.mul base else .ok acc) >>= fun acc =>
        if e / 2 = 0 then .ok acc
        else base.mul base >>= fun square => powLoop acc square (e / 2) := by
  rw [powLoop, if_neg h]
  split_ifs <;> rfl

/-- Accumulator and base stay powers of one number `x`. -/
theorem powLoop_eq {x : ℚ} {acc base : Rational} {m n e : ℕ} (ha : acc.toRat = x ^ m)
    (hb : base.toRat = x ^ n) : powLoop acc base e = exactly (x ^ (m + n * e)) := by
  induction e using Nat.strong_induction_on generalizing acc base m n with
  | _ e ih =>
    by_cases h0 : e = 0
    · rw [powLoop, if_pos h0, h0, Nat.mul_zero, Nat.add_zero, ← ha, exactly_toRat]
    have hbit : ReachesPow x (m + n * (e % 2)) (if e % 2 = 1 then acc.mul base else .ok acc) := by
      split_ifs with h1
      · rw [h1, Nat.mul_one]
        exact reachesPow_mul ha hb
      · rw [show e % 2 = 0 by omega]
        exact reachesPow_ok ha
    have he : m + n * e = m + n * (e % 2) + (n + n) * (e / 2) := by
      conv_lhs => rw [← Nat.mod_add_div e 2]
      ring
    rw [powLoop_of_ne_zero h0, he]
    refine hbit.bind_eq (Nat.le_add_right _ _) fun acc' ha' => ?_
    split_ifs with h2
    · rw [h2, Nat.mul_zero, Nat.add_zero, ← ha', exactly_toRat]
    · have hle : n + n ≤ m + n * (e % 2) + (n + n) * (e / 2) :=
        (Nat.le_mul_of_pos_right _ (Nat.pos_of_ne_zero h2)).trans (Nat.le_add_left _ _)
      exact (reachesPow_mul hb hb).bind_eq hle fun square hs => ih _ (by omega) ha' hs

/-! ## Powers -/

theorem powi_zero (a : Rational) {k : Word .i32} (hk : k.val = 0) : a.powi k = .ok one :=
  if_pos hk

theorem zero_powi_neg {k : Word .i32} (hk : k.val < 0) :
    zero.powi k = .refuse .zeroDenominator := by
  rw [powi, if_neg hk.ne, if_pos hk, recip_of_zero]
  rfl

theorem pow_natAbs {x : ℚ} {k : ℤ} (h : 0 ≤ k) : x ^ k.natAbs = x ^ k := by
  rw [← zpow_natCast, Int.natAbs_of_nonneg h]

theorem inv_pow_natAbs {x : ℚ} {k : ℤ} (h : k < 0) : x⁻¹ ^ k.natAbs = x ^ k := by
  rw [inv_pow, ← zpow_natCast, ← zpow_neg, Int.ofNat_natAbs_of_nonpos h.le, neg_neg]

/-- The power is exact unless zero is inverted. -/
theorem powi_eq (a : Rational) {k : Word .i32} (h : a = zero → 0 ≤ k.val) :
    a.powi k = exactly (a.toRat ^ k.val) := by
  rw [powi]
  split_ifs with h0 h1
  · rw [h0, zpow_zero, ← toRat_one, exactly_toRat]
  · obtain ⟨r, hr, hv⟩ := recip_eq_ok (a := a) fun ha => not_le.2 h1 (h ha)
    rw [hr]
    refine (powLoop_eq (pow_zero _).symm (pow_one r.toRat).symm).trans ?_
    rw [zero_add, one_mul, hv, inv_pow_natAbs h1]
  · refine (powLoop_eq (pow_zero _).symm (pow_one a.toRat).symm).trans ?_
    rw [zero_add, one_mul, pow_natAbs (not_lt.1 h1)]

theorem powi_eq_ok_iff {a c : Rational} {k : Word .i32} (h : a = zero → 0 ≤ k.val) :
    a.powi k = .ok c ↔ c.toRat = a.toRat ^ k.val := by
  rw [powi_eq a h, exactly_eq_ok_iff]

/-! ## Repeated products -/

/-- The product of `n` factors `a`, multiplied one after the other. -/
def repeatedProduct (a : Rational) : ℕ → Outcome Rational
  | 0 => .ok one
  | n + 1 => do
    let c ← a.repeatedProduct n
    c.mul a

/-- The product of as many factors as the exponent says; a negative exponent takes inverses. -/
def repeatedPower (a : Rational) (k : Word .i32) : Outcome Rational :=
  if k.val < 0 then a.recip >>= fun r => r.repeatedProduct k.val.natAbs
  else a.repeatedProduct k.val.natAbs

theorem repeatedProduct_eq (a : Rational) (n : ℕ) :
    a.repeatedProduct n = exactly (a.toRat ^ n) := by
  induction n with
  | zero => rw [repeatedProduct, pow_zero, ← toRat_one, exactly_toRat]
  | succ n ih =>
    rw [repeatedProduct, ih]
    -- a product that is too big too early is too big in the end
    refine (reachesPow_exactly a.toRat n).bind_eq n.le_succ fun c hc => ?_
    rw [mul_eq, hc, pow_succ]

theorem zero_repeatedPower_neg {k : Word .i32} (hk : k.val < 0) :
    zero.repeatedPower k = .refuse .zeroDenominator := by
  rw [repeatedPower, if_pos hk, recip_of_zero]
  rfl

theorem repeatedPower_eq (a : Rational) {k : Word .i32} (h : a = zero → 0 ≤ k.val) :
    a.repeatedPower k = exactly (a.toRat ^ k.val) := by
  rw [repeatedPower]
  split_ifs with h1
  · obtain ⟨r, hr, hv⟩ := recip_eq_ok (a := a) fun ha => not_le.2 h1 (h ha)
    rw [hr]
    refine (r.repeatedProduct_eq _).trans ?_
    rw [hv, inv_pow_natAbs h1]
  · rw [repeatedProduct_eq, pow_natAbs (not_lt.1 h1)]

/-- The zeroth power is one, a negative power of zero is refused as an inverse, and every other
power is the exact one, refused only when that does not fit.  So squaring gives what multiplying
one factor after the other gives, the refusals included. -/
theorem powi_outcome (a : Rational) (k : Word .i32) :
    (k.val = 0 → a.powi k = .ok one) ∧
      (k.val < 0 → a = zero → a.powi k = .refuse .zeroDenominator) ∧
      (¬(k.val < 0 ∧ a = zero) → a.powi k = exactly (a.toRat ^ k.val)) ∧
      a.powi k = a.repeatedPower k := by
  have hexact (h : ¬(k.val < 0 ∧ a = zero)) : a = zero → 0 ≤ k.val :=
    fun ha => not_lt.1 fun hk => h ⟨hk, ha⟩
  refine ⟨powi_zero a, fun hk ha => ha ▸ zero_powi_neg hk, fun h => powi_eq a (hexact h), ?_⟩
  by_cases h : k.val < 0 ∧ a = zero
  · rw [h.2, zero_powi_neg h.1, zero_repeatedPower_neg h.1]
  · rw [powi_eq a (hexact h), repeatedPower_eq a (hexact h)]

/-- The least word is no numerator, so it is no power either. -/
example : (literal (-2) 1).powi ⟨63, by decide, by decide⟩ = .refuse .overflow := by
  decide +kernel

end Rational

end Metrology
