import Mathlib.Algebra.Order.Field.Basic
import Mathlib.Order.Compare
import Metrology.Proofs.Rational.Exact

/-!
# The order of rationals

Rationals are ordered by their cross products, which are exact because a product of two 64-bit words
is a 128-bit word (`crossProducts_words`).  Denominators are positive, so this is the order of the
values (`order_eq_cmp`), hence a total order; equal values have one reduced form, so rationals that
are neither smaller nor greater are the same.  What holds of the order of numbers holds of
rationals: inversion of positive ones reverses it (`order_recip`) and a positive factor keeps it
(`order_mul_right`).
-/

namespace Metrology.Rational

variable {a b c : Rational}

/-! ## The order of the values -/

theorem toRat_lt_iff :
    a.toRat < b.toRat ↔ a.num.val * b.den.val < b.num.val * a.den.val := by
  have ha : (0 : ℚ) < a.den.val := Int.cast_pos.2 a.den_pos
  have hb : (0 : ℚ) < b.den.val := Int.cast_pos.2 b.den_pos
  rw [toRat_eq_div, toRat_eq_div, div_lt_div_iff₀ ha hb]
  norm_cast

/-- Cross products compare as the values do, since denominators are positive. -/
theorem order_eq_cmp (a b : Rational) : a.order b = cmp a.toRat b.toRat := by
  have hcross : a.order b = if a.num.val * b.den.val < b.num.val * a.den.val then .lt
      else if b.num.val * a.den.val < a.num.val * b.den.val then .gt else .eq := rfl
  rcases lt_trichotomy a.toRat b.toRat with h | h | h
  · rw [(cmp_eq_lt_iff _ _).2 h, hcross, if_pos (toRat_lt_iff.1 h)]
  · have hab := mt toRat_lt_iff.2 h.not_lt
    have hba := mt toRat_lt_iff.2 h.not_gt
    rw [(cmp_eq_eq_iff _ _).2 h, hcross, if_neg hab, if_neg hba]
  · have hab := mt toRat_lt_iff.2 h.not_gt
    rw [(cmp_eq_gt_iff _ _).2 h, hcross, if_neg hab, if_pos (toRat_lt_iff.1 h)]

theorem isLE_order_iff : (a.order b).isLE ↔ a.toRat ≤ b.toRat := by
  rw [Ordering.isLE_iff_ne_gt, order_eq_cmp, cmp_eq_gt_iff, not_lt]

theorem order_eq_eq_iff : a.order b = .eq ↔ a = b := by
  rw [order_eq_cmp, cmp_eq_eq_iff, toRat_inj]

instance : Std.TransCmp order where
  eq_swap {a b} := by rw [order_eq_cmp, order_eq_cmp, cmp_swap]
  isLE_trans {a b c} hab hbc := by
    rw [isLE_order_iff] at hab hbc ⊢
    exact hab.trans hbc

instance : Std.LawfulEqCmp order where
  compare_self := order_eq_eq_iff.2 rfl
  eq_of_compare := order_eq_eq_iff.1

/-! ## Cross products -/

theorem exists_word_mul (v w : Word .i64) : ∃ p : Word .i128, p.val = v.val * w.val := by
  have hbound (w : Word .i64) : w.val.natAbs ≤ 2 ^ 63 := by
    have h1 := w.low_le
    have h2 := w.le_high
    have h3 : IntFormat.i64.low = -2 ^ 63 := by decide
    have h4 : IntFormat.i64.high = 2 ^ 63 - 1 := by decide
    omega
  have hmul : (v.val * w.val).natAbs ≤ 2 ^ 63 * 2 ^ 63 := by
    rw [Int.natAbs_mul]
    exact Nat.mul_le_mul (hbound v) (hbound w)
  have hlow : IntFormat.i128.low = -2 ^ 127 := by decide
  have hhigh : IntFormat.i128.high = 2 ^ 127 - 1 := by decide
  exact ⟨⟨v.val * w.val, by omega, by omega⟩, rfl⟩

/-- Both cross products are 128-bit words. -/
theorem crossProducts_words (a b : Rational) :
    ∃ l r : Word .i128, crossProducts a b = (l.val, r.val) := by
  obtain ⟨l, hl⟩ := exists_word_mul a.num b.den
  obtain ⟨r, hr⟩ := exists_word_mul b.num a.den
  exact ⟨l, r, Prod.ext hl.symm hr.symm⟩

/-! ## Equality -/

theorem eq_iff_parts : a = b ↔ a.num.val = b.num.val ∧ a.den.val = b.den.val := by
  constructor
  · rintro rfl
    exact ⟨rfl, rfl⟩
  · rintro ⟨hn, hd⟩
    apply toRat_injective
    rw [toRat_eq_div, toRat_eq_div, hn, hd]

/-! ## Inverses and products -/

theorem ne_zero_of_pos (h : 0 < a.toRat) : a ≠ zero := by
  rintro rfl
  exact h.ne' toRat_zero

/-- Inverting two positive rationals reverses their order. -/
theorem order_recip (ha : 0 < a.toRat) (hb : 0 < b.toRat) :
    ∃ r s : Rational, a.recip = .ok r ∧ b.recip = .ok s ∧ r.order s = b.order a := by
  obtain ⟨r, hr, hrv⟩ := recip_eq_ok (ne_zero_of_pos ha)
  obtain ⟨s, hs, hsv⟩ := recip_eq_ok (ne_zero_of_pos hb)
  refine ⟨r, s, hr, hs, ?_⟩
  rw [order_eq_cmp, order_eq_cmp, hrv, hsv]
  exact strictAntiOn_inv_pos.cmp_map_eq ha hb

/-- A positive factor keeps the order. -/
theorem order_mul_right {p q : Rational} (hc : 0 < c.toRat) (hp : a.mul c = .ok p)
    (hq : b.mul c = .ok q) : p.order q = a.order b := by
  rw [mul_eq, exactly_eq_ok_iff] at hp hq
  rw [order_eq_cmp, order_eq_cmp, hp, hq]
  exact cmp_mul_pos_right hc _ _

/-- Rationals are ordered as their values are, by cross products that fit into 128 bits.  This is a
total order, and two rationals that it does not tell apart have the same numerator and the same
denominator.  Inverting two positive rationals reverses it, and multiplying both by a positive one
keeps it. -/
theorem order_outcome (a b c : Rational) :
    ((a.order b = .lt ↔ a.toRat < b.toRat) ∧ (a.order b = .eq ↔ a.toRat = b.toRat) ∧
      (a.order b = .gt ↔ b.toRat < a.toRat)) ∧
    (∃ l r : Word .i128, crossProducts a b = (l.val, r.val)) ∧
    (((a.order b).isLE ∨ (b.order a).isLE) ∧ b.order a = (a.order b).swap ∧
      ((a.order b).isLE → (b.order a).isLE → a = b) ∧
      ((a.order b).isLE → (b.order c).isLE → (a.order c).isLE)) ∧
    ((a.order b = .eq ↔ a = b) ∧
      (a = b ↔ a.num.val = b.num.val ∧ a.den.val = b.den.val)) ∧
    (0 < a.toRat → 0 < b.toRat →
      ∃ r s : Rational, a.recip = .ok r ∧ b.recip = .ok s ∧ r.order s = b.order a) ∧
    (0 < c.toRat → ∀ p q : Rational, a.mul c = .ok p → b.mul c = .ok q →
      p.order q = a.order b) := by
  refine ⟨⟨?_, ?_, ?_⟩, crossProducts_words a b, ⟨?_, Std.OrientedCmp.eq_swap, ?_, ?_⟩,
    ⟨order_eq_eq_iff, eq_iff_parts⟩, order_recip, fun hc p q => order_mul_right hc⟩
  · rw [order_eq_cmp, cmp_eq_lt_iff]
  · rw [order_eq_cmp, cmp_eq_eq_iff]
  · rw [order_eq_cmp, cmp_eq_gt_iff]
  · rw [isLE_order_iff, isLE_order_iff]
    exact le_total a.toRat b.toRat
  · intro hab hba
    rw [isLE_order_iff] at hab hba
    exact toRat_injective (hab.antisymm hba)
  · intro hab hbc
    exact Std.TransCmp.isLE_trans hab hbc

/-- Both numerators and both denominators are at the ends of their range. -/
example : (literal 9223372036854775807 9223372036854775806).order
    (literal 9223372036854775806 9223372036854775805) = .lt := by decide

end Metrology.Rational
