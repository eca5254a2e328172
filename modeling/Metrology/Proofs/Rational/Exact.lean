import Mathlib.Algebra.Order.Field.Rat
import Mathlib.Algebra.Order.Ring.Int
import Mathlib.Data.Rat.Lemmas
import Mathlib.Tactic.FieldSimp
import Mathlib.Tactic.Positivity
import Metrology.Rational

/-!
# Exactness of rational arithmetic

`Rational.toRat` is the number that a rational stands for.  A number is `Representable` when its
reduced numerator and denominator are words that can be negated, and `exactly q` is the rational of
value `q`, refused when there is none.  Since a rational is determined by its value
(`toRat_injective`), an operation is described completely by an equation with `exactly`: products
(`mul_eq`), quotients (`div_eq`) and inverses (`recip_eq`) are exact, and overflow is reported only
when the exact result does not fit.  A pair of words makes a rational exactly if it has a canonical
form (`Fraction.Reduces`), and then that one.
-/

namespace Metrology

namespace Rational

/-! ## Values -/

/-- The number that the rational stands for. -/
def toRat (a : Rational) : ℚ where
  num := a.num.val
  den := a.den.val.natAbs
  den_nz := by have := a.canonical.1; omega
  reduced := a.canonical.2.1

theorem den_pos (a : Rational) : 0 < a.den.val := a.canonical.1

theorem coprime (a : Rational) : a.num.val.natAbs.Coprime a.den.val.natAbs := a.canonical.2.1

theorem num_ne_low (a : Rational) : a.num.val ≠ IntFormat.i64.low := a.canonical.2.2

theorem den_ne_low (a : Rational) : a.den.val ≠ IntFormat.i64.low := by
  have h1 := a.den_pos
  have h2 := IntFormat.i64.low_le_zero
  omega

@[simp] theorem num_toRat (a : Rational) : a.toRat.num = a.num.val := rfl

@[simp] theorem den_toRat (a : Rational) : (a.toRat.den : Int) = a.den.val := by
  have := a.den_pos
  simp only [toRat]
  omega

theorem toRat_injective : Function.Injective toRat := by
  intro a b h
  have hn : a.num = b.num := Word.ext (congrArg Rat.num h)
  have hd : a.den = b.den := Word.ext (by rw [← den_toRat, ← den_toRat, h])
  obtain ⟨⟨an, ad⟩, ha⟩ := a
  obtain ⟨⟨bn, bd⟩, hb⟩ := b
  simp only at hn hd
  subst hn hd
  rfl

theorem toRat_inj {a b : Rational} : a.toRat = b.toRat ↔ a = b := toRat_injective.eq_iff

theorem toRat_eq_div (a : Rational) : a.toRat = a.num.val / a.den.val := by
  rw [← den_toRat, ← num_toRat]
  exact (Rat.num_div_den a.toRat).symm

theorem toRat_eq_of_cross {a : Rational} {n d : Int} (hd : d ≠ 0)
    (h : a.num.val * d = n * a.den.val) : a.toRat = n / d := by
  have had : (a.den.val : ℚ) ≠ 0 := Int.cast_ne_zero.2 a.den_pos.ne'
  rw [toRat_eq_div, div_eq_div_iff had (Int.cast_ne_zero.2 hd)]
  exact_mod_cast h

@[simp] theorem toRat_zero : zero.toRat = 0 := rfl

@[simp] theorem toRat_one : one.toRat = 1 := rfl

theorem toRat_milli : milli.toRat = 1 / 1000 := by
  rw [toRat_eq_div]
  norm_num [milli, literal]

@[simp] theorem toRat_eq_zero_iff {a : Rational} : a.toRat = 0 ↔ a = zero := by
  rw [← toRat_zero, toRat_inj]

theorem eq_zero_iff_num {a : Rational} : a = zero ↔ a.num.val = 0 := by
  rw [← toRat_eq_zero_iff, ← Rat.num_eq_zero, num_toRat]

/-! ## Representable numbers -/

/-- The reduced numerator and the reduced denominator are words, and so is minus the numerator. -/
def Representable (q : ℚ) : Prop :=
  (q.num.natAbs : Int) ≤ IntFormat.i64.high ∧ (q.den : Int) ≤ IntFormat.i64.high

instance (q : ℚ) : Decidable (Representable q) := by unfold Representable; infer_instance

theorem low_i64 : IntFormat.i64.low = -IntFormat.i64.high - 1 := by decide

theorem high_i64_pos : 0 < IntFormat.i64.high := by decide

/-- The rational of a representable value. -/
def ofRat (q : ℚ) (h : Representable q) : Rational where
  num := ⟨q.num, by have := h.1; have := low_i64; omega, by have := h.1; omega⟩
  den := ⟨q.den, by have := low_i64; have := high_i64_pos; omega, h.2⟩
  canonical := by
    refine ⟨Int.natCast_pos.2 q.den_pos, ?_, ?_⟩
    · simpa using q.reduced
    · have := h.1
      have := low_i64
      simp only
      omega

@[simp] theorem toRat_ofRat (q : ℚ) (h : Representable q) : (ofRat q h).toRat = q :=
  Rat.ext rfl rfl

theorem representable_toRat (a : Rational) : Representable a.toRat := by
  refine ⟨?_, ?_⟩
  · rw [num_toRat]
    exact Word.natAbs_le_high a.num_ne_low
  · rw [den_toRat]
    exact a.den.le_high

/-- The rational of value `q`, refused when there is none. -/
def exactly (q : ℚ) : Outcome Rational :=
  if h : Representable q then .ok (ofRat q h) else .refuse .overflow

theorem exactly_eq_ok_iff {q : ℚ} {c : Rational} : exactly q = .ok c ↔ c.toRat = q := by
  unfold exactly
  split_ifs with h
  · rw [Except.ok.injEq, ← toRat_inj, toRat_ofRat, eq_comm]
  · simp only [Outcome.refuse, reduceCtorEq, false_iff]
    rintro rfl
    exact h c.representable_toRat

theorem exactly_of_not {q : ℚ} (h : ¬Representable q) : exactly q = .refuse .overflow := dif_neg h

theorem exactly_eq_refuse_iff {q : ℚ} {r : Refusal} :
    exactly q = .refuse r ↔ r = .overflow ∧ ¬Representable q := by
  unfold exactly
  split_ifs with h
  · simp [Outcome.refuse, h]
  · simp [Outcome.refuse, h, eq_comm]

@[simp] theorem exactly_toRat (a : Rational) : exactly a.toRat = .ok a := exactly_eq_ok_iff.2 rfl

/-! ## Construction -/

theorem make_of_reduce_eq_ok {num den : Word .i64} {r : Fraction}
    (h : Fraction.reduce num den = .ok r) :
    make num den = .ok ⟨r, Fraction.reduce_canonical h⟩ := by
  unfold make
  split
  · next r' h' => simp only [h, Except.ok.injEq] at h'; simp only [h']
  · next e h' => simp [h] at h'

theorem make_of_reduce_eq_error {num den : Word .i64} {e : Stop}
    (h : Fraction.reduce num den = .error e) : make num den = .error e := by
  unfold make
  split
  · next r h' => simp [h] at h'
  · next e' h' => rw [h, Except.error.injEq] at h'; rw [h']

theorem make_of_den_zero {num den : Word .i64} (h : den.val = 0) :
    make num den = .refuse .zeroDenominator :=
  make_of_reduce_eq_error (if_pos h)

theorem make_of_num_low {num den : Word .i64} (h0 : den.val ≠ 0)
    (h : num.val = IntFormat.i64.low) : make num den = .refuse .overflow :=
  make_of_reduce_eq_error (by rw [Fraction.reduce, if_neg h0, if_pos (.inl h)]; rfl)

theorem make_eq_exactly {num den : Word .i64} (h0 : den.val ≠ 0)
    (hn : num.val ≠ IntFormat.i64.low) (hd : den.val ≠ IntFormat.i64.low) :
    make num den = exactly (num.val / den.val) := by
  obtain ⟨r, hr, -, hv⟩ := Fraction.reduce_eq_ok h0 hn hd
  rw [make_of_reduce_eq_ok hr]
  exact (exactly_eq_ok_iff.2 (toRat_eq_of_cross h0 hv)).symm

/-- The least word is refused as a numerator in lowest terms, and so is its value. -/
theorem make_eq_exactly_of_coprime {num den : Word .i64} (h0 : 0 < den.val)
    (hc : num.val.natAbs.Coprime den.val.natAbs) :
    make num den = exactly (num.val / den.val) := by
  have := low_i64
  by_cases hn : num.val = IntFormat.i64.low
  · rw [make_of_num_low h0.ne' hn, exactly_of_not]
    rintro ⟨h, -⟩
    rw [Rat.num_div_eq_of_coprime h0 hc, hn] at h
    omega
  · have := high_i64_pos
    exact make_eq_exactly h0.ne' hn (by omega)

/-! ## Products -/

/-- Dividing a word by a common divisor leaves no remainder. -/
theorem div_of_dvd {w g : Word .i64} (h0 : 0 < g.val) (h : g.val ∣ w.val) :
    ∃ v, w.div g = .ok v ∧ v.val * g.val = w.val := by
  obtain ⟨v, hv, hval⟩ := Word.div_eq_ok (w := w) h0
  exact ⟨v, hv, by rw [hval, Int.tdiv_mul_cancel h]⟩

/-- Two fractions in lowest terms multiply to one once both diagonals are reduced. -/
theorem coprime_of_cross {n₁ d₁ n₂ d₂ g h : ℕ} (h₁ : (n₁ * g).Coprime (d₁ * h))
    (h₂ : (n₂ * h).Coprime (d₂ * g)) (hg : (n₁ * g).gcd (d₂ * g) = g)
    (hh : (n₂ * h).gcd (d₁ * h) = h) (g0 : 0 < g) (h0 : 0 < h) :
    (n₁ * n₂).Coprime (d₁ * d₂) := by
  have hn₁ : n₁.Coprime d₁ := h₁.coprime_mul_right.coprime_mul_right_right
  have hn₂ : n₂.Coprime d₂ := h₂.coprime_mul_right.coprime_mul_right_right
  have hc₁ : n₁.Coprime d₂ := by
    rw [Nat.gcd_mul_right] at hg
    exact Nat.eq_of_mul_eq_mul_right g0 (by rw [hg, Nat.one_mul])
  have hc₂ : n₂.Coprime d₁ := by
    rw [Nat.gcd_mul_right] at hh
    exact Nat.eq_of_mul_eq_mul_right h0 (by rw [hh, Nat.one_mul])
  exact (hn₁.mul_right hc₁).mul_left (hc₂.mul_right hn₂)

theorem wordProduct_cases (a b : Word .i64) :
    (∃ w, wordProduct a b = .ok w ∧ w.val = a.val * b.val) ∨
      wordProduct a b = .refuse .overflow ∧ IntFormat.i64.high < (a.val * b.val).natAbs := by
  unfold wordProduct
  cases hf : Word.fit? .i64 (a.val * b.val) with
  | some w => exact .inl ⟨w, rfl, Word.fit?_eq_some_iff.1 hf⟩
  | none =>
    refine .inr ⟨rfl, ?_⟩
    have := Word.fit?_eq_none_iff.1 hf
    have := low_i64
    omega

/-- The numerator of `a` and the denominator of `b`, divided by their greatest common divisor. -/
structure Diagonal (a b : Rational) where
  num : Word .i64
  den : Word .i64
  divisor : ℕ
  num_eq : a.num.div (Fraction.commonDivisor a.num b.den) = .ok num
  den_eq : b.den.div (Fraction.commonDivisor a.num b.den) = .ok den
  divisor_pos : 0 < divisor
  num_mul : num.val * divisor = a.num.val
  den_mul : den.val * divisor = b.den.val
  gcd_eq : a.num.val.natAbs.gcd b.den.val.natAbs = divisor

theorem nonempty_diagonal (a b : Rational) : Nonempty (Diagonal a b) := by
  have hb := b.den_pos
  have hg := Fraction.val_commonDivisor (a := a.num) hb.ne' b.den_ne_low
  have hpos : 0 < a.num.val.natAbs.gcd b.den.val.natAbs :=
    Nat.gcd_pos_of_pos_right _ (by omega)
  obtain ⟨n, hn, en⟩ := div_of_dvd (w := a.num) (g := Fraction.commonDivisor a.num b.den)
    (by omega) (by rw [hg]; exact Int.ofNat_dvd_left.2 (Nat.gcd_dvd_left _ _))
  obtain ⟨d, hd, ed⟩ := div_of_dvd (w := b.den) (g := Fraction.commonDivisor a.num b.den)
    (by omega) (by rw [hg]; exact Int.ofNat_dvd_left.2 (Nat.gcd_dvd_right _ _))
  rw [hg] at en ed
  exact ⟨⟨n, d, _, hn, hd, hpos, en, ed, rfl⟩⟩

namespace Diagonal

variable {a b : Rational}

theorem den_pos (p : Diagonal a b) : 0 < p.den.val := by
  have h := b.den_pos
  rw [← p.den_mul] at h
  exact pos_of_mul_pos_left h (Int.natCast_nonneg _)

theorem natAbs_num (p : Diagonal a b) : a.num.val.natAbs = p.num.val.natAbs * p.divisor := by
  rw [← p.num_mul, Int.natAbs_mul, Int.natAbs_natCast]

theorem natAbs_den (p : Diagonal a b) : b.den.val.natAbs = p.den.val.natAbs * p.divisor := by
  rw [← p.den_mul, Int.natAbs_mul, Int.natAbs_natCast]

/-- The product is in lowest terms. -/
theorem coprime (p : Diagonal a b) (q : Diagonal b a) :
    (p.num.val * q.num.val).natAbs.Coprime (q.den.val * p.den.val).natAbs := by
  have ha := a.coprime
  have hb := b.coprime
  have hp := p.gcd_eq
  have hq := q.gcd_eq
  rw [p.natAbs_num, q.natAbs_den] at ha
  rw [q.natAbs_num, p.natAbs_den] at hb
  rw [p.natAbs_num, p.natAbs_den] at hp
  rw [q.natAbs_num, q.natAbs_den] at hq
  rw [Int.natAbs_mul, Int.natAbs_mul]
  exact coprime_of_cross ha hb hp hq p.divisor_pos q.divisor_pos

theorem value (p : Diagonal a b) (q : Diagonal b a) :
    ((p.num.val * q.num.val : ℤ) : ℚ) / ((q.den.val * p.den.val : ℤ) : ℚ) =
      a.toRat * b.toRat := by
  have hp : (p.divisor : ℚ) ≠ 0 := by exact_mod_cast p.divisor_pos.ne'
  have hq : (q.divisor : ℚ) ≠ 0 := by exact_mod_cast q.divisor_pos.ne'
  have hpd : (p.den.val : ℚ) ≠ 0 := by exact_mod_cast p.den_pos.ne'
  have hqd : (q.den.val : ℚ) ≠ 0 := by exact_mod_cast q.den_pos.ne'
  rw [toRat_eq_div, toRat_eq_div, ← p.num_mul, ← p.den_mul, ← q.num_mul, ← q.den_mul]
  push_cast
  field_simp

end Diagonal

/-- The product is exact, and refused only when its value does not fit. -/
theorem mul_eq (a b : Rational) : a.mul b = exactly (a.toRat * b.toRat) := by
  obtain ⟨p⟩ := nonempty_diagonal a b
  obtain ⟨q⟩ := nonempty_diagonal b a
  have hpos : 0 < q.den.val * p.den.val := mul_pos q.den_pos p.den_pos
  have hc := p.coprime q
  have hnum := Rat.num_div_eq_of_coprime hpos hc
  have hden := Rat.den_div_eq_of_coprime hpos hc
  rw [← p.value q]
  unfold mul
  simp only [p.num_eq, p.den_eq, q.num_eq, q.den_eq, Outcome.ofArithmetic, bind, Except.bind]
  obtain ⟨n, hn, en⟩ | ⟨hn, big⟩ := wordProduct_cases p.num q.num
  · obtain ⟨d, hd, ed⟩ | ⟨hd, big⟩ := wordProduct_cases q.den p.den
    · simp only [hn, hd]
      rw [← en, ← ed] at hc ⊢
      exact make_eq_exactly_of_coprime (by rwa [ed]) hc
    · simp only [hn, hd]
      refine (exactly_of_not fun h => ?_).symm
      have := h.2
      omega
  · simp only [hn]
    refine (exactly_of_not fun h => ?_).symm
    have := h.1
    omega

theorem one_mul_eq (a : Rational) : one.mul a = .ok a := by
  rw [mul_eq, toRat_one, one_mul, exactly_toRat]

theorem mul_one_eq (a : Rational) : a.mul one = .ok a := by
  rw [mul_eq, toRat_one, mul_one, exactly_toRat]

/-! ## Inverses and quotients -/

theorem recip_of_zero : zero.recip = .refuse .zeroDenominator := make_of_den_zero rfl

/-- Every rational but zero has an inverse. -/
theorem recip_eq_ok {a : Rational} (h : a ≠ zero) :
    ∃ r : Rational, a.recip = .ok r ∧ r.toRat = a.toRat⁻¹ := by
  have hn : a.num.val ≠ 0 := mt eq_zero_iff_num.2 h
  obtain ⟨r, hr, -, hv⟩ := Fraction.reduce_eq_ok hn a.den_ne_low a.num_ne_low
  refine ⟨_, make_of_reduce_eq_ok hr, ?_⟩
  rw [toRat_eq_div a, inv_div]
  exact toRat_eq_of_cross hn hv

theorem recip_recip {a r : Rational} (h : a.recip = .ok r) : r.recip = .ok a := by
  have ha : a ≠ zero := by
    rintro rfl
    simp [recip_of_zero, Outcome.refuse] at h
  obtain ⟨r', hr, hv⟩ := recip_eq_ok ha
  rw [h, Except.ok.injEq] at hr
  subst hr
  have hr0 : r ≠ zero := by
    rw [Ne, ← toRat_eq_zero_iff, hv, inv_eq_zero, toRat_eq_zero_iff]
    exact ha
  obtain ⟨b, hb, hbv⟩ := recip_eq_ok hr0
  rw [hb, Except.ok.injEq, ← toRat_inj, hbv, hv, inv_inv]

theorem div_of_zero (a : Rational) : a.div zero = .refuse .zeroDenominator := by
  unfold div
  rw [recip_of_zero]
  rfl

theorem div_eq_of_ne (a : Rational) {b : Rational} (h : b ≠ zero) :
    a.div b = exactly (a.toRat / b.toRat) := by
  obtain ⟨r, hr, hv⟩ := recip_eq_ok h
  unfold div
  rw [hr, div_eq_mul_inv, ← hv]
  exact a.mul_eq r

theorem mul_div_cancel {a b c : Rational} (h : a.mul b = .ok c) (hb : b ≠ zero) :
    c.div b = .ok a := by
  rw [mul_eq, exactly_eq_ok_iff] at h
  have hb' : b.toRat ≠ 0 := mt toRat_eq_zero_iff.1 hb
  rw [div_eq_of_ne c hb, h, mul_div_cancel_right₀ _ hb', exactly_toRat]

/-- Products and quotients are exact whenever their reduced value fits, and refused for overflow
otherwise; dividing by zero and inverting zero are the only other refusals, inversion undoes
itself, and a quotient takes back a product. -/
theorem mul_div_recip_exact (a b : Rational) :
    a.mul b = exactly (a.toRat * b.toRat) ∧
      (a.div b = .refuse .zeroDenominator ↔ b = zero) ∧
      (b ≠ zero → a.div b = exactly (a.toRat / b.toRat)) ∧
      (b.recip = .refuse .zeroDenominator ↔ b = zero) ∧
      (b ≠ zero → ∃ r, b.recip = .ok r ∧ r.toRat = b.toRat⁻¹ ∧ r.recip = .ok b) ∧
      ∀ c, a.mul b = .ok c → b ≠ zero → c.div b = .ok a := by
  refine ⟨mul_eq a b, ⟨fun h => ?_, ?_⟩, div_eq_of_ne a, ⟨fun h => ?_, ?_⟩, fun hb => ?_,
    fun c h hb => mul_div_cancel h hb⟩
  · by_contra hb
    rw [div_eq_of_ne a hb] at h
    exact absurd (exactly_eq_refuse_iff.1 h).1 (by decide)
  · rintro rfl
    exact div_of_zero a
  · by_contra hb
    obtain ⟨r, hr, -⟩ := recip_eq_ok hb
    simp [hr, Outcome.refuse] at h
  · rintro rfl
    exact recip_of_zero
  · obtain ⟨r, hr, hv⟩ := recip_eq_ok hb
    exact ⟨r, hr, hv, recip_recip hr⟩

end Rational

/-! ## Reduction -/

/-- The fraction can be reduced, and the other one is its canonical form. -/
structure Fraction.Reduces (raw r : Fraction) : Prop where
  den_ne_zero : raw.den.val ≠ 0
  num_ne_low : raw.num.val ≠ IntFormat.i64.low
  den_ne_low : raw.den.val ≠ IntFormat.i64.low
  canonical : r.Canonical
  cross : r.num.val * raw.den.val = raw.num.val * r.den.val

namespace Rational

theorem make_eq_error_iff {num den : Word .i64} :
    (∃ s, make num den = .error s) ↔
      den.val = 0 ∨ num.val = IntFormat.i64.low ∨ den.val = IntFormat.i64.low := by
  constructor
  · rintro ⟨s, hs⟩
    by_contra h
    rw [not_or, not_or] at h
    obtain ⟨r, hr, -⟩ := Fraction.reduce_eq_ok h.1 h.2.1 h.2.2
    rw [make_of_reduce_eq_ok hr] at hs
    cases hs
  · intro h
    by_cases h0 : den.val = 0
    · exact ⟨_, make_of_den_zero h0⟩
    · refine ⟨.refused .overflow, make_of_reduce_eq_error ?_⟩
      rw [Fraction.reduce, if_neg h0, if_pos (h.resolve_left h0)]
      rfl

/-- A rational is made exactly of the fractions that it is the canonical form of. -/
theorem make_eq_ok_iff {num den : Word .i64} {a : Rational} :
    make num den = .ok a ↔ Fraction.Reduces ⟨num, den⟩ a.toFraction := by
  constructor
  · intro h
    have hno : ¬∃ s, make num den = .error s := by simp [h]
    rw [make_eq_error_iff, not_or, not_or] at hno
    obtain ⟨h0, hn, hd⟩ := hno
    obtain ⟨r, hr, hc, hv⟩ := Fraction.reduce_eq_ok h0 hn hd
    rw [make_of_reduce_eq_ok hr, Except.ok.injEq] at h
    subst h
    exact ⟨h0, hn, hd, hc, hv⟩
  · rintro ⟨h0, hn, hd, -, hv⟩
    rw [make_eq_exactly h0 hn hd, exactly_eq_ok_iff]
    exact toRat_eq_of_cross h0 hv

end Rational

end Metrology
