import Mathlib.Algebra.Order.Ring.Int
import Mathlib.Algebra.Ring.Int.Parity
import Metrology.Proofs.Outcome
import Metrology.Quantity

/-!
# Powers of words

A word is raised to a power by multiplying one factor after the other, and every product has to be a
word.  The powers of an integer beyond one double in magnitude with every factor, and a format that
holds a negative power of it holds all that is half as far from zero; the powers of the other
integers repeat.  So a power that the format holds has only lower powers that it holds
(`IntFormat.Holds.pow_of_le`), and the loop faults exactly if the format does not hold its result
(`Quantity.powLoop_eq`).  A negative exponent divides one by that result (`Word.one_div_eq_ok`).  A
quantity has the power that its base value has, whatever its marker is (`Quantity.pow_eq_ok_iff`).
-/

namespace Metrology

/-! ## The integers of a format -/

namespace IntFormat

variable {f : IntFormat} {x : ℤ} {i n : ℕ}

/-- The integer is in the range of the format. -/
def Holds (f : IntFormat) (x : ℤ) : Prop := f.low ≤ x ∧ x ≤ f.high

instance (f : IntFormat) (x : ℤ) : Decidable (f.Holds x) := by unfold Holds; infer_instance

theorem holds_val (w : Word f) : f.Holds w.val := ⟨w.low_le, w.le_high⟩

/-- A range begins at zero or reaches one further below zero than above. -/
theorem low_cases (f : IntFormat) : f.low = 0 ∨ f.low = -f.high - 1 := by
  cases f <;> decide

theorem pow_cases_of_natAbs_le_one (h : x.natAbs ≤ 1) (i : ℕ) :
    x ^ i = 0 ∨ x ^ i = 1 ∨ x ^ i = x := by
  obtain rfl | rfl | rfl : x = 0 ∨ x = 1 ∨ x = -1 := by omega
  · rcases Nat.eq_zero_or_pos i with rfl | hi
    · exact .inr (.inl (pow_zero 0))
    · exact .inl (zero_pow hi.ne')
  · exact .inr (.inl (one_pow i))
  · exact .inr (neg_one_pow_eq_or ℤ i)

theorem two_mul_natAbs_pow_le (h : 2 ≤ x.natAbs) (hi : i < n) :
    2 * (x ^ i).natAbs ≤ (x ^ n).natAbs := by
  rw [Int.natAbs_pow, Int.natAbs_pow]
  calc 2 * x.natAbs ^ i ≤ x.natAbs * x.natAbs ^ i := Nat.mul_le_mul_right _ h
    _ = x.natAbs ^ (i + 1) := (pow_succ' _ _).symm
    _ ≤ x.natAbs ^ n := Nat.pow_le_pow_right (by omega) hi

/-- A power that the format holds has only lower powers that it holds. -/
theorem Holds.pow_of_le (h : f.Holds (x ^ n)) (hx : f.Holds x) (hi : i ≤ n) :
    f.Holds (x ^ i) := by
  have hlow := f.low_le_zero
  have hhigh := f.one_le_high
  by_cases hbig : 2 ≤ x.natAbs
  · rcases hi.eq_or_lt with rfl | hi
    · exact h
    have hhalf := two_mul_natAbs_pow_le hbig hi
    obtain ⟨hnl, hnh⟩ := h
    rcases f.low_cases with h0 | hneg
    · have hpos : 0 ≤ x ^ i := pow_nonneg (h0 ▸ hx.1) i
      exact ⟨by omega, by omega⟩
    · exact ⟨by omega, by omega⟩
  · have hsmall : x.natAbs ≤ 1 := by omega
    rcases pow_cases_of_natAbs_le_one hsmall i with h0 | h1 | hself
    · rw [h0]
      exact ⟨hlow, by omega⟩
    · rw [h1]
      exact ⟨by omega, hhigh⟩
    · rw [hself]
      exact hx

end IntFormat

/-! ## One divided by a word -/

/-- The quotient is between minus one and one, and not negative unless the word is. -/
theorem Word.one_div_eq_ok {f : IntFormat} {p : Word f} (h : p.val ≠ 0) :
    ∃ w : Word f, one.div p = .ok w ∧ w.val = Int.tdiv 1 p.val := by
  rcases lt_or_gt_of_ne h with hneg | hpos
  · have hle : (Int.tdiv 1 p.val).natAbs ≤ 1 := Int.natAbs_tdiv_le_natAbs 1 p.val
    have hlow := p.low_le
    have hhigh := f.one_le_high
    refine ⟨⟨Int.tdiv 1 p.val, by omega, by omega⟩, ?_, rfl⟩
    rw [div, if_neg h]
    exact fit_eq_ok _ _
  · exact div_eq_ok hpos

namespace Quantity

variable {f : IntFormat}

/-! ## The loop -/

/-- The accumulator stays a power of the factor, and the loop goes on as long as it is a word. -/
theorem powLoop_eq {acc x : Word f} {m n : ℕ} (ha : acc.val = x.val ^ m) :
    powLoop acc x n = Word.fit .mulOverflow (x.val ^ (m + n)) := by
  induction n generalizing acc m with
  | zero =>
    rw [powLoop]
    exact (Word.fit_eq_ok_iff.2 ha).symm
  | succ n ih =>
    have hmul : Scalar.mul acc x = Word.fit .mulOverflow (x.val ^ (m + 1)) := by
      rw [pow_succ, ← ha]
      rfl
    rw [powLoop, hmul]
    by_cases h : f.Holds (x.val ^ (m + 1))
    · rw [Word.fit_eq_ok h.1 h.2, show m + (n + 1) = m + 1 + n by omega]
      exact ih rfl
    · have hlast : ¬f.Holds (x.val ^ (m + (n + 1))) :=
        fun hn => h (hn.pow_of_le (IntFormat.holds_val x) (by omega))
      rw [Word.fit_eq_error_iff.2 ⟨rfl, h⟩, Word.fit_eq_error_iff.2 ⟨rfl, hlast⟩]
      rfl

theorem basePow_eq (x : Word f) (k : Exponent) :
    basePow x k = Word.fit .mulOverflow (x.val ^ k.val.natAbs) >>= fun p =>
      if k.val < 0 then Word.one.div p else .ok p := by
  have hloop : powLoop Scalar.one x k.val.natAbs =
      Word.fit .mulOverflow (x.val ^ k.val.natAbs) := by
    rw [powLoop_eq (m := 0) (pow_zero x.val).symm, Nat.zero_add]
  unfold basePow
  rw [hloop]
  rfl

/-! ## The power of a word -/

section Power

variable {x : Word f} {k : Exponent}

theorem basePow_of_not_holds (h : ¬f.Holds (x.val ^ k.val.natAbs)) :
    basePow x k = .error .mulOverflow := by
  rw [basePow_eq, Word.fit_eq_error_iff.2 ⟨rfl, h⟩]
  rfl

theorem basePow_of_nonneg (h : f.Holds (x.val ^ k.val.natAbs)) (hk : 0 ≤ k.val) :
    ∃ w, basePow x k = .ok w ∧ w.val = x.val ^ k.val.natAbs := by
  refine ⟨⟨x.val ^ k.val.natAbs, h.1, h.2⟩, ?_, rfl⟩
  rw [basePow_eq, Word.fit_eq_ok h.1 h.2]
  exact if_neg (not_lt.2 hk)

theorem basePow_of_neg (h : f.Holds (x.val ^ k.val.natAbs)) (hk : k.val < 0) (hx : x.val ≠ 0) :
    ∃ w, basePow x k = .ok w ∧ w.val = Int.tdiv 1 (x.val ^ k.val.natAbs) := by
  obtain ⟨w, hw, hval⟩ := Word.one_div_eq_ok (p := ⟨x.val ^ k.val.natAbs, h.1, h.2⟩)
    (pow_ne_zero _ hx)
  refine ⟨w, ?_, hval⟩
  rw [basePow_eq, Word.fit_eq_ok h.1 h.2]
  exact (if_pos hk).trans hw

theorem basePow_zero_of_neg (hk : k.val < 0) (hx : x.val = 0) :
    basePow x k = .error .divByZero := by
  have hpow : x.val ^ k.val.natAbs = (Word.zero : Word f).val := by
    rw [hx, zero_pow (by omega)]
    rfl
  rw [basePow_eq, Word.fit_eq_ok_iff.2 hpow.symm]
  exact (if_pos hk).trans (if_pos rfl)

/-- A power that the format holds is the result or is divided by. -/
theorem basePow_cases (h : f.Holds (x.val ^ k.val.natAbs)) :
    (0 ≤ k.val ∧ ∃ w, basePow x k = .ok w ∧ w.val = x.val ^ k.val.natAbs) ∨
      (k.val < 0 ∧ x.val ≠ 0 ∧
        ∃ w, basePow x k = .ok w ∧ w.val = Int.tdiv 1 (x.val ^ k.val.natAbs)) ∨
      k.val < 0 ∧ x.val = 0 ∧ basePow x k = .error .divByZero := by
  rcases le_or_gt 0 k.val with hk | hk
  · exact .inl ⟨hk, basePow_of_nonneg h hk⟩
  · by_cases hx : x.val = 0
    · exact .inr (.inr ⟨hk, hx, basePow_zero_of_neg hk hx⟩)
    · exact .inr (.inl ⟨hk, hx, basePow_of_neg h hk hx⟩)

theorem basePow_eq_mulOverflow_iff :
    basePow x k = .error .mulOverflow ↔ ¬f.Holds (x.val ^ k.val.natAbs) := by
  refine ⟨fun h hfits => ?_, basePow_of_not_holds⟩
  obtain ⟨-, w, hw, -⟩ | ⟨-, -, w, hw, -⟩ | ⟨-, -, hw⟩ := basePow_cases hfits
  all_goals simp [hw] at h

theorem basePow_eq_divByZero_iff :
    basePow x k = .error .divByZero ↔ k.val < 0 ∧ x.val = 0 := by
  refine ⟨fun h => ?_, fun h => basePow_zero_of_neg h.1 h.2⟩
  by_cases hfits : f.Holds (x.val ^ k.val.natAbs)
  · obtain ⟨-, w, hw, -⟩ | ⟨-, -, w, hw, -⟩ | ⟨hk, hx, -⟩ := basePow_cases hfits
    · simp [hw] at h
    · simp [hw] at h
    · exact ⟨hk, hx⟩
  · simp [basePow_of_not_holds hfits] at h

end Power

/-! ## The power of a quantity -/

section Quantity

variable {q p : Quantity (Word f)} {k : Exponent}

/-- A quantity has a power if its base value has one; the marker is not asked for its unit. -/
theorem pow_eq_ok_iff :
    q.pow k = .ok p ↔ ∃ w, basePow q.base k = .ok w ∧ p = ⟨do (← q.marker).pow k, w⟩ := by
  unfold pow
  cases basePow q.base k <;>
    simp [Outcome.ofArithmetic, bind, Except.bind, pure, Except.pure, eq_comm]

theorem pow_eq_abort_iff {e : ArithmeticFault} :
    q.pow k = .error (.aborted (.arithmetic e)) ↔ basePow q.base k = .error e := by
  unfold pow
  cases basePow q.base k <;> simp [Outcome.ofArithmetic, bind, Except.bind, pure, Except.pure]

/-- The quantity whose base value is the given power. -/
theorem exists_pow_of_basePow {w : Word f} (h : basePow q.base k = .ok w) :
    ∃ p, q.pow k = .ok p ∧ p.base = w :=
  ⟨_, pow_eq_ok_iff.2 ⟨w, h, rfl⟩, rfl⟩

end Quantity

/-- A power of a quantity of words aborts with an overflow exactly if the format does not hold the
exact power of the base value; otherwise the base value is that power, and for a negative exponent
the quotient of one by it, which is missing exactly for zero.  This is so whatever the marker is:
its power is the marker of the result, and may have no unit. -/
theorem pow_outcome (q : Quantity (Word f)) (k : Exponent) :
    (q.pow k = .error (.aborted (.arithmetic .mulOverflow)) ↔
      ¬f.Holds (q.base.val ^ k.val.natAbs)) ∧
    (f.Holds (q.base.val ^ k.val.natAbs) → 0 ≤ k.val →
      ∃ p, q.pow k = .ok p ∧ p.base.val = q.base.val ^ k.val.natAbs) ∧
    (f.Holds (q.base.val ^ k.val.natAbs) → k.val < 0 → q.base.val ≠ 0 →
      ∃ p, q.pow k = .ok p ∧ p.base.val = Int.tdiv 1 (q.base.val ^ k.val.natAbs) ∧
        (p.base.val = 1 ∨ p.base.val = -1 ∨ p.base.val = 0)) ∧
    (q.pow k = .error (.aborted (.arithmetic .divByZero)) ↔ k.val < 0 ∧ q.base.val = 0) ∧
    ∀ p, q.pow k = .ok p → p.marker = (do (← q.marker).pow k) := by
  refine ⟨?_, fun h hk => ?_, fun h hk hx => ?_, ?_, fun p hp => ?_⟩
  · rw [pow_eq_abort_iff]
    exact basePow_eq_mulOverflow_iff
  · obtain ⟨w, hw, hval⟩ := basePow_of_nonneg h hk
    obtain ⟨p, hp, rfl⟩ := exists_pow_of_basePow hw
    exact ⟨p, hp, hval⟩
  · obtain ⟨w, hw, hval⟩ := basePow_of_neg h hk hx
    obtain ⟨p, hp, rfl⟩ := exists_pow_of_basePow hw
    have hle : p.base.val.natAbs ≤ 1 := hval ▸ Int.natAbs_tdiv_le_natAbs 1 _
    exact ⟨p, hp, hval, by omega⟩
  · rw [pow_eq_abort_iff]
    exact basePow_eq_divByZero_iff
  · obtain ⟨w, -, rfl⟩ := pow_eq_ok_iff.1 hp
    rfl

/-- Kilometers in eight bits; no unit holds the seventh power of a kilometer. -/
def kilometers (base : Word .i8) : Quantity (Word .i8) := ⟨.ok Catalog.kilometer, base⟩

/-- Without a unit for the marker, the least word is a power although its negative is no word, minus
one has a negative power, and the two faults are those of the words. -/
theorem pow_kilometers :
    (∃ p, (kilometers ⟨-2, by decide, by decide⟩).pow ⟨7, by decide, by decide⟩ = .ok p ∧
        p.base.val = -128 ∧ p.marker.isOk = false) ∧
      (∃ p, (kilometers ⟨-1, by decide, by decide⟩).pow ⟨-7, by decide, by decide⟩ = .ok p ∧
        p.base.val = -1 ∧ p.marker.isOk = false) ∧
      (kilometers ⟨2, by decide, by decide⟩).pow ⟨7, by decide, by decide⟩ =
        .error (.aborted (.arithmetic .mulOverflow)) ∧
      (kilometers .zero).pow ⟨-7, by decide, by decide⟩ =
        .error (.aborted (.arithmetic .divByZero)) := by
  refine ⟨?_, ?_, ?_, ?_⟩
  · obtain ⟨-, hpow, -, -, hmarker⟩ :=
      pow_outcome (kilometers ⟨-2, by decide, by decide⟩) ⟨7, by decide, by decide⟩
    obtain ⟨p, hp, hval⟩ := hpow (by decide) (by decide)
    refine ⟨p, hp, hval, ?_⟩
    rw [hmarker p hp]
    decide +kernel
  · obtain ⟨-, -, hpow, -, hmarker⟩ :=
      pow_outcome (kilometers ⟨-1, by decide, by decide⟩) ⟨-7, by decide, by decide⟩
    obtain ⟨p, hp, hval, -⟩ := hpow (by decide) (by decide) (by decide)
    refine ⟨p, hp, hval, ?_⟩
    rw [hmarker p hp]
    decide +kernel
  · exact (pow_outcome _ _).1.2 (by decide)
  · exact (pow_outcome _ _).2.2.2.1.2 ⟨by decide, rfl⟩

end Quantity

end Metrology
