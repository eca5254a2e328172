import Metrology.Proofs.Outcome
import Metrology.Proofs.Rational.Power
import Metrology.Rational.Root

/-!
# Roots are exact

A power is compared exactly with a magnitude, also when it is none itself (`powOrder_eq`), so the
search finds the root that lies among its candidates, and `exactRoot` finds every root of a
magnitude (`exactRoot_eq_some_iff`).  Numerator and denominator of a power in lowest terms are
powers, and the parts of a root are smaller than those of its power.  So the root of a rational in
an exponent is found whenever there is a positive one (`Rational.root?_eq_some_iff`), and it is not
missed because it does not fit (`Rational.root?_eq_none_iff`).
-/

namespace Metrology

/-! ## Magnitudes -/

theorem boundedPow_eq (b n : ℕ) :
    boundedPow b n = if b ^ n < magnitudeBound then some (b ^ n) else none := by
  simp only [boundedPow, Nat.pow_eq]
  by_cases hb : b < 2
  · have : b ^ n ≤ 1 ^ n := Nat.pow_le_pow_left (by omega) n
    rw [Nat.one_pow] at this
    rw [if_pos hb, if_pos (this.trans_lt (by decide))]
  rw [if_neg hb]
  by_cases hn : 64 ≤ n
  · have : magnitudeBound ≤ b ^ n :=
      (Nat.pow_le_pow_right (n := 2) (by decide) hn).trans (Nat.pow_le_pow_left (by omega) n)
    rw [if_pos hn, if_neg (not_lt.2 this)]
  · rw [if_neg hn]

/-- A power beyond all magnitudes is greater than each of them. -/
theorem powOrder_eq {b n x : ℕ} (hx : x < magnitudeBound) :
    powOrder b n x = compare (b ^ n) x := by
  rw [powOrder, boundedPow_eq]
  split_ifs with h
  · rfl
  · exact (Nat.compare_eq_gt.2 (hx.trans_le (not_lt.1 h))).symm

/-- The search finds the root that lies among the candidates. -/
theorem RootRange.search_eq_some_iff {x n m : ℕ} {r : RootRange} (hn : n ≠ 0)
    (hx : x < magnitudeBound) : search x n r = some m ↔ r.lo ≤ m ∧ m ≤ r.hi ∧ m ^ n = x := by
  fun_induction search x n r with
  | case1 r hle ho =>
    rw [powOrder_eq hx, Nat.compare_eq_eq] at ho
    have hlo := r.lo_le_mid
    have hhi := r.mid_le_hi hle
    rw [Option.some.injEq]
    constructor
    · rintro rfl
      exact ⟨hlo, hhi, ho⟩
    · rintro ⟨-, -, h⟩
      exact Nat.pow_left_injective hn (ho.trans h.symm)
  | case2 r hle ho ih =>
    rw [powOrder_eq hx, Nat.compare_eq_lt] at ho
    have hlo := r.lo_le_mid
    rw [ih]
    -- below the middle every power is too small
    have hmid (h : m ^ n = x) : r.mid < m := lt_of_pow_lt_pow_left₀ n (Nat.zero_le m) (h ▸ ho)
    simp only [above]
    exact ⟨fun ⟨h1, h2, h3⟩ => ⟨by omega, h2, h3⟩, fun ⟨_, h2, h3⟩ => ⟨hmid h3, h2, h3⟩⟩
  | case3 r hle ho ih =>
    rw [powOrder_eq hx, Nat.compare_eq_gt] at ho
    have hhi := r.mid_le_hi hle
    rw [ih]
    -- above the middle every power is too large
    have hmid (h : m ^ n = x) : m < r.mid := lt_of_pow_lt_pow_left₀ n (Nat.zero_le _) (h ▸ ho)
    simp only [below]
    refine ⟨fun ⟨h1, h2, h3⟩ => ⟨h1, by omega, h3⟩, fun ⟨h1, _, h3⟩ => ⟨h1, ?_, h3⟩⟩
    have := hmid h3
    omega
  | case4 r hle =>
    simp only [reduceCtorEq, false_iff]
    omega

/-- The root of a magnitude is found exactly if it is a natural number. -/
theorem exactRoot_eq_some_iff {x n m : ℕ} (hn : n ≠ 0) (hx : x < magnitudeBound) :
    exactRoot x n = some m ↔ m ^ n = x := by
  unfold exactRoot
  split_ifs with h
  · rw [Option.some.injEq, eq_comm]
    obtain rfl | hx2 := h
    · rw [Nat.pow_one]
    · obtain rfl | rfl : x = 0 ∨ x = 1 := by omega
      · exact (pow_eq_zero_iff hn).symm
      · exact (Nat.pow_eq_one.trans (or_iff_left hn)).symm
  · rw [RootRange.search_eq_some_iff hn hx]
    refine ⟨fun h => h.2.2, fun hm => ⟨?_, ?_, hm⟩⟩
    · by_contra h0
      obtain rfl : m = 0 := Nat.lt_one_iff.1 (not_le.1 h0)
      rw [zero_pow hn] at hm
      omega
    · exact (Nat.le_self_pow hn m).trans_eq hm

/-! ## Rationals -/

namespace Rational

theorem num_pos_iff {a : Rational} : 0 < a.num.val ↔ 0 < a.toRat := by
  rw [← Rat.num_pos, num_toRat]

theorem natAbs_lt_magnitudeBound (w : Word .i64) : w.val.natAbs < magnitudeBound := by
  have h1 := w.low_le
  have h2 := w.le_high
  have h3 : IntFormat.i64.low = -9223372036854775808 := by decide
  have h4 : IntFormat.i64.high = 9223372036854775807 := by decide
  simp only [magnitudeBound]
  omega

/-- The rational is made of its own parts. -/
theorem make_self (a : Rational) : make a.num a.den = .ok a := by
  rw [make_eq_exactly a.den_pos.ne' a.num_ne_low a.den_ne_low, ← toRat_eq_div, exactly_toRat]

/-- The positive rational whose `n`-th power is `c`. -/
def natRoot? (c : Rational) (n : ℕ) : Option Rational := do
  let num ← exactRoot c.num.val.natAbs n
  let den ← exactRoot c.den.val.natAbs n
  let num ← Word.fit? .i64 num
  let den ← Word.fit? .i64 den
  (make num den).toOption

theorem root?_eq (a : Rational) (e : Word .i32) :
    a.root? e = if e.val = 0 ∨ a.num.val ≤ 0 then none
      else (if e.val < 0 then a.recip.toOption else some a).bind
        fun c => c.natRoot? e.val.natAbs := by
  unfold root?
  split_ifs <;> rfl

variable {a c p : Rational} {n : ℕ}

theorem natAbs_pow_of_pow (h : p.toRat ^ n = c.toRat) :
    p.num.val.natAbs ^ n = c.num.val.natAbs ∧ p.den.val.natAbs ^ n = c.den.val.natAbs := by
  rw [← num_toRat c, ← den_toRat c, ← h, Rat.num_pow, Rat.den_pow, num_toRat, Int.natAbs_pow]
  exact ⟨rfl, (congrArg (· ^ n) (congrArg Int.natAbs (den_toRat p))).symm⟩

theorem pow_of_natRoot? (hn : n ≠ 0) (hc : 0 < c.toRat) (h : c.natRoot? n = some p) :
    0 < p.toRat ∧ p.toRat ^ n = c.toRat := by
  simp only [natRoot?, Option.bind_eq_bind, Option.bind_eq_some_iff] at h
  obtain ⟨x, hx, y, hy, num, hnum, den, hden, hp⟩ := h
  rw [exactRoot_eq_some_iff hn (natAbs_lt_magnitudeBound _)] at hx hy
  rw [Word.fit?_eq_some_iff] at hnum hden
  have hcn := num_pos_iff.2 hc
  have hcd := c.den_pos
  have hx0 : x ≠ 0 := by
    rintro rfl
    rw [zero_pow hn] at hx
    omega
  have hy0 : y ≠ 0 := by
    rintro rfl
    rw [zero_pow hn] at hy
    omega
  have := low_i64
  have := high_i64_pos
  rw [toOption_eq_some_iff, make_eq_exactly (by omega) (by omega) (by omega), exactly_eq_ok_iff,
    hnum, hden] at hp
  have ex : c.num.val = (x : ℤ) ^ n := by
    rw [← Nat.cast_pow, hx, Int.natAbs_of_nonneg hcn.le]
  have ey : c.den.val = (y : ℤ) ^ n := by
    rw [← Nat.cast_pow, hy, Int.natAbs_of_nonneg hcd.le]
  rw [hp]
  refine ⟨by positivity, ?_⟩
  rw [toRat_eq_div, ex, ey, div_pow]
  push_cast
  rfl

theorem natRoot?_of_pow (hn : n ≠ 0) (hp : 0 < p.toRat) (h : p.toRat ^ n = c.toRat) :
    c.natRoot? n = some p := by
  obtain ⟨hnum, hden⟩ := natAbs_pow_of_pow h
  have hx := (exactRoot_eq_some_iff hn (natAbs_lt_magnitudeBound _)).2 hnum
  have hy := (exactRoot_eq_some_iff hn (natAbs_lt_magnitudeBound _)).2 hden
  have hpn := Int.natAbs_of_nonneg (num_pos_iff.2 hp).le
  have hpd := Int.natAbs_of_nonneg p.den_pos.le
  simp only [natRoot?, hx, hy, hpn, hpd, Word.fit?_val, make_self, Option.bind_eq_bind,
    Option.bind_some]
  rfl

/-- The root of a rational in a non-zero exponent is found exactly if there is a positive one. -/
theorem root?_eq_some_iff {e : Word .i32} :
    a.root? e = some p ↔ e.val ≠ 0 ∧ 0 < p.toRat ∧ p.toRat ^ e.val = a.toRat := by
  have hroot {c : Rational} (hn : e.val.natAbs ≠ 0) (hc : 0 < c.toRat) :
      c.natRoot? e.val.natAbs = some p ↔ 0 < p.toRat ∧ p.toRat ^ e.val.natAbs = c.toRat :=
    ⟨pow_of_natRoot? hn hc, fun h => natRoot?_of_pow hn h.1 h.2⟩
  rw [root?_eq]
  split_ifs with h0 hs
  · rw [false_iff]
    rintro ⟨he, hp, h⟩
    have ha := num_pos_iff.2 (h ▸ zpow_pos hp e.val)
    omega
  · obtain ⟨he, ha⟩ : e.val ≠ 0 ∧ 0 < a.num.val := by omega
    obtain ⟨r, hr, hv⟩ := recip_eq_ok (mt eq_zero_iff_num.1 ha.ne')
    have hr0 : 0 < r.toRat := hv ▸ inv_pos.2 (num_pos_iff.1 ha)
    rw [hr]
    show r.natRoot? e.val.natAbs = some p ↔ _
    rw [hroot (by omega) hr0, hv, ← inv_pow_natAbs hs, inv_pow, inv_eq_iff_eq_inv]
    exact (and_iff_right he).symm
  · obtain ⟨he, ha⟩ : e.val ≠ 0 ∧ 0 < a.num.val := by omega
    rw [Option.bind_some, hroot (by omega) (num_pos_iff.1 ha), pow_natAbs (not_lt.1 hs)]
    exact (and_iff_right he).symm

/-- The power of a root is the number that it is the root of, and that number is positive. -/
theorem root?_zpow {e : Word .i32} (h : a.root? e = some p) :
    e.val ≠ 0 ∧ 0 < a.toRat ∧ p.toRat ^ e.val = a.toRat := by
  obtain ⟨he, hp, hpow⟩ := root?_eq_some_iff.1 h
  exact ⟨he, hpow ▸ zpow_pos hp _, hpow⟩

theorem root?_one {e : Exponent} (h : e.val ≠ 0) : one.root? e = some one :=
  root?_eq_some_iff.2 ⟨h, zero_lt_one, one_zpow _⟩

/-! ## Roots that are missing -/

/-- The parts of a root are smaller than those of its power. -/
theorem Representable.of_zpow {x : ℚ} {k : ℤ} (hk : k ≠ 0) (hx : x ≠ 0)
    (h : Representable (x ^ k)) : Representable x := by
  by_cases hs : k < 0
  · rw [← inv_pow_natAbs hs] at h
    have hinv : Representable x⁻¹ := by simpa using h.pow_of_le (i := 1) (by omega)
    have h0 : ofRat x⁻¹ hinv ≠ zero := by
      rw [Ne, ← toRat_eq_zero_iff, toRat_ofRat]
      exact inv_ne_zero hx
    obtain ⟨r, -, hv⟩ := recip_eq_ok h0
    rw [toRat_ofRat, inv_inv] at hv
    exact hv ▸ r.representable_toRat
  · rw [← pow_natAbs (not_lt.1 hs)] at h
    simpa using h.pow_of_le (i := 1) (by omega)

/-- No root is missed because it does not fit. -/
theorem root?_eq_none_iff {e : Word .i32} :
    a.root? e = none ↔
      e.val = 0 ∨ a.toRat ≤ 0 ∨ ¬∃ x : ℚ, 0 < x ∧ x ^ e.val = a.toRat := by
  constructor
  · intro h
    by_contra hno
    rw [not_or, not_or, not_not] at hno
    obtain ⟨he, -, x, hx, hpow⟩ := hno
    have hrep : Representable x := .of_zpow he hx.ne' (hpow ▸ a.representable_toRat)
    have hsome : a.root? e = some (ofRat x hrep) :=
      root?_eq_some_iff.2 ⟨he, by rwa [toRat_ofRat], by rwa [toRat_ofRat]⟩
    simp [h] at hsome
  · intro h
    by_contra hne
    obtain ⟨p, hp⟩ := Option.ne_none_iff_exists'.1 hne
    obtain ⟨he, hp0, hpow⟩ := root?_eq_some_iff.1 hp
    obtain h | h | h := h
    · exact he h
    · exact absurd (zpow_pos hp0 e.val) (not_lt.2 (hpow ▸ h))
    · exact h ⟨p.toRat, hp0, hpow⟩

end Rational

end Metrology
