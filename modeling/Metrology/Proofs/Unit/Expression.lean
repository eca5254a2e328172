import Mathlib.Algebra.BigOperators.GroupWithZero.Finset
import Mathlib.Algebra.BigOperators.Pi
import Mathlib.Algebra.BigOperators.Ring.Finset
import Metrology.Proofs.Unit.Operation

/-!
# Expressions of units

An expression combines unit leaves by products, quotients and powers.  Read in the free abelian
group on the leaves it is a vector of exponents (`UnitExpr.exponents`), and `UnitExpr.eval` computes
its unit.  When an expression of rational units has a value, every part of the value is the
monomial of the exponents in that part of the leaves (`UnitExpr.normal_of_eval`), so the exponents
determine the unit (`UnitExpr.eval_eq_of_exponents_eq`).

A leaf part may be zero.  An evaluation that succeeds inverts no zero, so zero parts occur with
exponents that are not negative, and a zeroth power of zero counts as one on both sides.
-/

namespace Metrology

/-! ## Monomials -/

section Monomial

variable {ι : Type}

/-- No zero is inverted. -/
def InvertsNoZero (x : ι → ℚ) (e : ι → ℤ) : Prop := ∀ i, x i = 0 → 0 ≤ e i

theorem InvertsNoZero.add {x : ι → ℚ} {e e' : ι → ℤ} (h : InvertsNoZero x e)
    (h' : InvertsNoZero x e') : InvertsNoZero x (e + e') :=
  fun i hi => add_nonneg (h i hi) (h' i hi)

theorem invertsNoZero_single [DecidableEq ι] (x : ι → ℚ) (i : ι) :
    InvertsNoZero x (Pi.single i 1) := by
  intro j _
  by_cases hj : j = i
  · subst hj
    rw [Pi.single_eq_same]
    exact Int.one_nonneg
  · rw [Pi.single_eq_of_ne hj]

theorem zpow_add_of_nonneg {a : ℚ} {m n : ℤ} (hm : a = 0 → 0 ≤ m) (hn : a = 0 → 0 ≤ n) :
    a ^ (m + n) = a ^ m * a ^ n := by
  apply zpow_add'
  by_cases ha : a = 0
  · have := hm ha
    have := hn ha
    omega
  · exact .inl ha

variable [Fintype ι]

/-- The product of the powers. -/
def monomial (x : ι → ℚ) (e : ι → ℤ) : ℚ := ∏ i, x i ^ e i

variable {x : ι → ℚ} {e e' : ι → ℤ}

theorem monomial_single [DecidableEq ι] (x : ι → ℚ) (i : ι) :
    monomial x (Pi.single i 1) = x i := by
  unfold monomial
  rw [Finset.prod_eq_single i]
  · rw [Pi.single_eq_same, zpow_one]
  · intro j _ hj
    rw [Pi.single_eq_of_ne hj, zpow_zero]
  · exact fun h => absurd (Finset.mem_univ i) h

theorem monomial_add (h : InvertsNoZero x e) (h' : InvertsNoZero x e') :
    monomial x (e + e') = monomial x e * monomial x e' := by
  unfold monomial
  rw [← Finset.prod_mul_distrib]
  exact Finset.prod_congr rfl fun i _ => zpow_add_of_nonneg (h i) (h' i)

theorem monomial_neg : monomial x (-e) = (monomial x e)⁻¹ := by
  unfold monomial
  rw [← Finset.prod_inv_distrib]
  exact Finset.prod_congr rfl fun i _ => zpow_neg _ _

theorem monomial_smul (k : ℤ) : monomial x (k • e) = monomial x e ^ k := by
  unfold monomial
  rw [← Finset.prod_zpow]
  refine Finset.prod_congr rfl fun i _ => ?_
  rw [Pi.smul_apply, smul_eq_mul, mul_comm, zpow_mul]

/-- Zeros do not occur in a monomial that is not zero. -/
theorem exponent_eq_zero (hx : monomial x e ≠ 0) {i : ι} (hi : x i = 0) : e i = 0 := by
  by_contra he
  refine hx (Finset.prod_eq_zero (Finset.mem_univ i) ?_)
  rw [hi, zero_zpow _ he]

theorem invertsNoZero_neg (hx : monomial x e ≠ 0) : InvertsNoZero x (-e) :=
  fun i hi => by rw [Pi.neg_apply, exponent_eq_zero hx hi, neg_zero]

theorem InvertsNoZero.smul {k : ℤ} (h : InvertsNoZero x e) (hx : k < 0 → monomial x e ≠ 0) :
    InvertsNoZero x (k • e) := by
  intro i hi
  rw [Pi.smul_apply, smul_eq_mul]
  by_cases hk : k < 0
  · rw [exponent_eq_zero (hx hk) hi, mul_zero]
  · exact mul_nonneg (not_lt.1 hk) (h i hi)

end Monomial

/-! ## Factors of rational units -/

theorem float_one_mul_one : (1.0 * 1.0 : Float) = 1.0 := by decide +kernel

theorem float_one_div_one : (1.0 / 1.0 : Float) = 1.0 := by decide +kernel

theorem float_one_beq_one : ((1.0 : Float) == 1.0) = true := by decide +kernel

namespace Unit

theorem floatPowLoop_one (e : ℕ) : floatPowLoop 1.0 1.0 e = 1.0 := by
  induction e using Nat.strong_induction_on with
  | _ e ih =>
    rw [floatPowLoop, float_one_mul_one, ite_self]
    split_ifs with h0
    · rfl
    · exact ih _ (by omega)

theorem floatPow_one (k : Exponent) : floatPow 1.0 k = 1.0 := by
  rw [floatPow, floatPowLoop_one, float_one_div_one, ite_self]

theorem combinedFactor_one : combinedFactor false 1.0 = none := by
  rw [combinedFactor, float_one_beq_one]
  rfl

theorem factorValue_of_none {u : Unit} (h : u.factor = none) : u.factorValue = 1.0 := by
  rw [factorValue, h, Option.getD_none]

theorem beq_self_of_none {u : Unit} (h : u.factor = none) : (u == u) = true := by
  obtain ⟨d, r, g, f⟩ := u
  simp only at h
  subst h
  simp [BEq.beq, instBEqUnit.beq, Option.instBEq.beq]

theorem isReal_of_none {u : Unit} (h : u.factor = none) : u.isReal = false := by
  rw [isReal, h, Option.isSome_none]

end Unit

/-- An operation on rational units leaves the factor out. -/
theorem Operation.factor_eq_none {o : Operation} {u : Unit} (hu : u.factor = none)
    (ho : ∀ v, o = .mul v ∨ o = .div v → v.factor = none) : o.factor u = none := by
  cases o with
  | mul v =>
    have hv := ho v (.inl rfl)
    rw [factor, Unit.isReal_of_none hu, Unit.isReal_of_none hv, Unit.factorValue_of_none hu,
      Unit.factorValue_of_none hv, float_one_mul_one]
    exact Unit.combinedFactor_one
  | div v =>
    have hv := ho v (.inr rfl)
    rw [factor, Unit.isReal_of_none hu, Unit.isReal_of_none hv, Unit.factorValue_of_none hu,
      Unit.factorValue_of_none hv, float_one_div_one]
    exact Unit.combinedFactor_one
  | powi k =>
    rw [factor, Unit.isReal_of_none hu, Unit.factorValue_of_none hu, Unit.floatPow_one]
    exact Unit.combinedFactor_one

/-! ## Expressions -/

/-- An expression over unit leaves. -/
inductive UnitExpr (ι : Type)
  | leaf (i : ι)
  | mul (s t : UnitExpr ι)
  | div (s t : UnitExpr ι)
  | powi (t : UnitExpr ι) (k : Exponent)

namespace UnitExpr

variable {ι : Type}

/-- The unit of the expression, if every operation has one. -/
def eval (leaves : ι → Unit) : UnitExpr ι → Outcome Unit
  | leaf i => .ok (leaves i)
  | mul s t => do
    let u ← s.eval leaves
    let v ← t.eval leaves
    u.mul v
  | div s t => do
    let u ← s.eval leaves
    let v ← t.eval leaves
    u.div v
  | powi t k => do
    let u ← t.eval leaves
    u.powi k

/-- The expression in the free abelian group on the leaves. -/
def exponents [DecidableEq ι] : UnitExpr ι → ι → ℤ
  | leaf i => Pi.single i 1
  | mul s t => s.exponents + t.exponents
  | div s t => s.exponents - t.exponents
  | powi t k => k.val • t.exponents

/-- The value of an expression with the given exponents over rational leaves. -/
structure Normal [Fintype ι] (leaves : ι → Unit) (e : ι → ℤ) (w : Unit) : Prop where
  invertsNoZero : ∀ p, InvertsNoZero (fun i => ((leaves i).part p).toRat) e
  part : ∀ p, (w.part p).toRat = monomial (fun i => ((leaves i).part p).toRat) e
  exponent : ∀ b, (w.dim.exponent b).val = ∑ i, e i * ((leaves i).dim.exponent b).val
  factor : w.factor = none

namespace Normal

variable [Fintype ι] {leaves : ι → Unit} {e e' : ι → ℤ} {u v w : Unit}

/-- The exponents determine the value. -/
theorem unique (hu : Normal leaves e u) (hv : Normal leaves e v) : u = v := by
  refine Unit.ext_part (fun b => Word.ext ?_) (fun p => Rational.toRat_inj.1 ?_) ?_
  · rw [hu.exponent, hv.exponent]
  · rw [hu.part, hv.part]
  · rw [hu.factor, hv.factor]

theorem leaf [DecidableEq ι] {i : ι} (h : (leaves i).factor = none) :
    Normal leaves (Pi.single i 1) (leaves i) where
  invertsNoZero p := invertsNoZero_single _ i
  part p := (monomial_single (fun i => ((leaves i).part p).toRat) i).symm
  exponent b := by simp [Pi.single_apply]
  factor := h

theorem mul (hu : Normal leaves e u) (hv : Normal leaves e' v) (h : u.mul v = .ok w) :
    Normal leaves (e + e') w := by
  obtain ⟨hp, hb, hf⟩ := Operation.apply_eq_ok_iff (o := .mul v).1 h
  refine ⟨fun p => (hu.invertsNoZero p).add (hv.invertsNoZero p), fun p => ?_, fun b => ?_, ?_⟩
  · rw [Operation.value_of_part (hp p), monomial_add (hu.invertsNoZero p) (hv.invertsNoZero p),
      ← hu.part, ← hv.part]
    rfl
  · rw [hb, Operation.exponent, hu.exponent, hv.exponent, ← Finset.sum_add_distrib]
    exact Finset.sum_congr rfl fun i _ => (add_mul _ _ _).symm
  · rw [hf]
    exact Operation.factor_eq_none hu.factor (by rintro v' (h' | h') <;> cases h'; exact hv.factor)

theorem div (hu : Normal leaves e u) (hv : Normal leaves e' v) (h : u.div v = .ok w) :
    Normal leaves (e - e') w := by
  obtain ⟨hp, hb, hf⟩ := Operation.apply_eq_ok_iff (o := .div v).1 h
  have hne : ∀ p, monomial (fun i => ((leaves i).part p).toRat) e' ≠ 0 := fun p => by
    rw [← hv.part, Ne, Rational.toRat_eq_zero_iff]
    exact Operation.part_ne_zero_of_div h p
  rw [sub_eq_add_neg]
  refine ⟨fun p => (hu.invertsNoZero p).add (invertsNoZero_neg (hne p)), fun p => ?_,
    fun b => ?_, ?_⟩
  · rw [Operation.value_of_part (hp p),
      monomial_add (hu.invertsNoZero p) (invertsNoZero_neg (hne p)), monomial_neg, ← hu.part,
      ← hv.part]
    exact div_eq_mul_inv _ _
  · rw [hb, Operation.exponent, hu.exponent, hv.exponent, ← Finset.sum_sub_distrib]
    refine Finset.sum_congr rfl fun i _ => ?_
    rw [← sub_mul, sub_eq_add_neg]
    rfl
  · rw [hf]
    exact Operation.factor_eq_none hu.factor (by rintro v' (h' | h') <;> cases h'; exact hv.factor)

theorem powi {k : Exponent} (hu : Normal leaves e u) (h : u.powi k = .ok w) :
    Normal leaves (k.val • e) w := by
  obtain ⟨hp, hb, hf⟩ := Operation.apply_eq_ok_iff (o := .powi k).1 h
  have hne : ∀ p, k.val < 0 → monomial (fun i => ((leaves i).part p).toRat) e ≠ 0 := fun p hk => by
    rw [← hu.part, Ne, Rational.toRat_eq_zero_iff]
    exact Operation.part_ne_zero_of_powi hk h p
  refine ⟨fun p => (hu.invertsNoZero p).smul (hne p), fun p => ?_, fun b => ?_, ?_⟩
  · rw [Operation.value_of_part (hp p), monomial_smul, ← hu.part]
    rfl
  · rw [hb, Operation.exponent, hu.exponent, Finset.sum_mul]
    refine Finset.sum_congr rfl fun i _ => ?_
    rw [Pi.smul_apply, smul_eq_mul]
    ring
  · rw [hf]
    exact Operation.factor_eq_none hu.factor (by rintro v' (h' | h') <;> cases h')

end Normal

/-- Every value of an expression over rational units is the monomial of its exponents. -/
theorem normal_of_eval [Fintype ι] [DecidableEq ι] {leaves : ι → Unit}
    (hl : ∀ i, (leaves i).factor = none) {t : UnitExpr ι} {w : Unit}
    (h : t.eval leaves = .ok w) : Normal leaves t.exponents w := by
  induction t generalizing w with
  | leaf i =>
    cases h
    exact Normal.leaf (hl i)
  | mul s t ihs iht =>
    obtain ⟨u, hu, h⟩ := bind_eq_ok_iff.1 h
    obtain ⟨v, hv, h⟩ := bind_eq_ok_iff.1 h
    exact (ihs hu).mul (iht hv) h
  | div s t ihs iht =>
    obtain ⟨u, hu, h⟩ := bind_eq_ok_iff.1 h
    obtain ⟨v, hv, h⟩ := bind_eq_ok_iff.1 h
    exact (ihs hu).div (iht hv) h
  | powi t k ih =>
    obtain ⟨u, hu, h⟩ := bind_eq_ok_iff.1 h
    exact (ih hu).powi h

/-- Two expressions over rational units that agree in the free abelian group on the leaves have the
same value, if they have values at all. -/
theorem eval_eq_of_exponents_eq [Fintype ι] [DecidableEq ι] {leaves : ι → Unit}
    (hl : ∀ i, (leaves i).factor = none) {s t : UnitExpr ι} (h : s.exponents = t.exponents)
    {u v : Unit} (hs : s.eval leaves = .ok u) (ht : t.eval leaves = .ok v) :
    u = v ∧ u.factor = none ∧ (u == v) = true := by
  have hu := normal_of_eval hl hs
  have huv : u = v := hu.unique (h ▸ normal_of_eval hl ht)
  refine ⟨huv, hu.factor, ?_⟩
  rw [← huv]
  exact Unit.beq_self_of_none hu.factor

/-- A kilometer with a ratio of zero for the count, which it has no exponent of, and an hour. -/
def roadLeaves : Bool → Unit
  | false => { Unit.ofBase (.si .length) .kilo with ratio := ⟨.cons .kilo (.replicate 6 .one),
      .cons .one (.cons .one (.cons .one (.cons .zero .nil)))⟩ }
  | true => Unit.ofBase (.si .time) .hour

theorem eval_road_mul_div :
    (∀ i, (roadLeaves i).factor = none) ∧
      (((leaf false).mul (leaf true)).div (leaf true)).exponents = (leaf false).exponents ∧
      (((leaf false).mul (leaf true)).div (leaf true)).eval roadLeaves = .ok (roadLeaves false) ∧
      (leaf false).eval roadLeaves = .ok (roadLeaves false) ∧
      (roadLeaves false == roadLeaves false) = true := by
  have hl : ∀ i, (roadLeaves i).factor = none := by decide
  have he : (((leaf false).mul (leaf true)).div (leaf true)).exponents = (leaf false).exponents :=
    add_sub_cancel_right _ _
  have hok : ((((leaf false).mul (leaf true)).div (leaf true)).eval roadLeaves).isOk = true := by
    decide +kernel
  have ht : (leaf false).eval roadLeaves = .ok (roadLeaves false) := rfl
  obtain ⟨u, hs⟩ : ∃ u, (((leaf false).mul (leaf true)).div (leaf true)).eval roadLeaves = .ok u := by
    cases h : (((leaf false).mul (leaf true)).div (leaf true)).eval roadLeaves with
    | ok u => exact ⟨u, rfl⟩
    | error e => rw [h] at hok; cases hok
  obtain ⟨rfl, -, hbeq⟩ := eval_eq_of_exponents_eq hl he hs ht
  exact ⟨hl, he, hs, ht, hbeq⟩

end UnitExpr

end Metrology
