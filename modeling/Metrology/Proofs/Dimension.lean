import Mathlib.Algebra.Group.Pi.Basic
import Mathlib.Algebra.Module.Basic
import Metrology.Dimension
import Metrology.Proofs.Slots

/-!
# The group of dimensions

The exponents of a dimension are an element of the free abelian group on the base quantities, the
integer functions on `Base`, as far as they fit a word.  Each operation computes the exact element
of that group and faults if and only if one of its exponents leaves the range (`Computes`).  So
every law of the group holds of dimensions wherever both of its sides have a value, whatever
expressions they are (`Expr.agrees_of_exponents_eq`); `group_laws` puts both together and names
the laws that hold without exception.
-/

namespace Metrology

namespace Dimension

/-! ## Exact exponents -/

/-- The exponents as integers. -/
def exponents (d : Dimension) (b : Base) : ℤ := (d.exponent b).val

theorem exponents_injective : Function.Injective exponents := fun _ _ h =>
  Slots.ext_get fun b => Word.ext (congrFun h b)

/-- Every exponent is in the range of exponents. -/
def Fits (v : Base → ℤ) : Prop := ∀ b, IntFormat.i32.low ≤ v b ∧ v b ≤ IntFormat.i32.high

theorem fits_exponents (d : Dimension) : Fits d.exponents := fun b =>
  ⟨(d.exponent b).low_le, (d.exponent b).le_high⟩

/-- The outcome is the dimension of the exponents `v` if they all fit, and the fault if not. -/
structure Computes (o : Except ArithmeticFault Dimension) (fault : ArithmeticFault)
    (v : Base → ℤ) : Prop where
  exists_ok : Fits v → ∃ d, o = .ok d ∧ d.exponents = v
  eq_error : ¬Fits v → o = .error fault

namespace Computes

variable {o o' : Except ArithmeticFault Dimension} {fault : ArithmeticFault} {v : Base → ℤ}
  {d : Dimension}

theorem exponents_eq (h : Computes o fault v) (ho : o = .ok d) : d.exponents = v := by
  by_cases hv : Fits v
  · obtain ⟨d', hd', he⟩ := h.exists_ok hv
    rw [ho, Except.ok.injEq] at hd'
    rw [hd', he]
  · simp [h.eq_error hv] at ho

theorem eq_ok (h : Computes o fault v) (hd : d.exponents = v) : o = .ok d := by
  obtain ⟨d', hd', he⟩ := h.exists_ok (hd ▸ d.fits_exponents)
  rw [hd', exponents_injective (hd.trans he.symm)]

theorem eq_error_iff (h : Computes o fault v) : o = .error fault ↔ ¬Fits v := by
  refine ⟨fun ho hv => ?_, h.eq_error⟩
  obtain ⟨d, hd, -⟩ := h.exists_ok hv
  simp [hd] at ho

/-- The exponents and the fault determine the outcome. -/
theorem unique (h : Computes o fault v) (h' : Computes o' fault v) : o = o' := by
  by_cases hv : Fits v
  · obtain ⟨d, hd, he⟩ := h.exists_ok hv
    rw [hd, h'.eq_ok he]
  · rw [h.eq_error hv, h'.eq_error hv]

/-- A run that puts every exponent into its range. -/
theorem of_isRun (h : Slots.IsRun o fun b => Word.fit fault (v b)) : Computes o fault v := by
  refine ⟨fun hv => ?_, fun hv => ?_⟩
  · obtain ⟨d, hd⟩ := h.exists_ok fun b => ⟨_, Word.fit_eq_ok (hv b).1 (hv b).2⟩
    exact ⟨d, hd, funext fun b => Word.fit_eq_ok_iff.1 (h.eq_ok_iff.1 hd b)⟩
  · cases ho : o with
    | ok d =>
      have hd : d.exponents = v := funext fun b => Word.fit_eq_ok_iff.1 (h.eq_ok_iff.1 ho b)
      exact absurd (hd ▸ d.fits_exponents) hv
    | error e =>
      obtain ⟨b, hb⟩ := h.exists_error ho
      rw [(Word.fit_eq_error_iff.1 hb).1]

end Computes

section Operations

variable (a b : Dimension) (k : Exponent)

theorem mul_computes : Computes (a.mul b) .addOverflow (a.exponents + b.exponents) :=
  .of_isRun (Slots.isRun_zipM Word.add a b)

theorem div_computes : Computes (a.div b) .subOverflow (a.exponents - b.exponents) :=
  .of_isRun (Slots.isRun_zipM Word.sub a b)

theorem powi_computes : Computes (a.powi k) .mulOverflow (k.val • a.exponents) := by
  have h : k.val • a.exponents = fun x => a.exponents x * k.val := by
    funext x
    rw [Pi.smul_apply, smul_eq_mul, mul_comm]
  rw [h]
  exact .of_isRun (Slots.isRun_traverse (Word.mul · k) a)

theorem recip_computes : Computes a.recip .mulOverflow (-a.exponents) := by
  rw [← neg_one_zsmul]
  exact a.powi_computes ⟨-1, by decide, by decide⟩

end Operations

/-- Only the least exponent has no negative. -/
theorem fits_neg_iff (a : Dimension) :
    Fits (-a.exponents) ↔ ∀ b, a.exponents b ≠ IntFormat.i32.low := by
  have hlow : IntFormat.i32.low = -IntFormat.i32.high - 1 := by decide
  refine forall_congr' fun b => ?_
  have := a.fits_exponents b
  rw [Pi.neg_apply]
  omega

/-! ## Expressions -/

/-- A dimension computed from others. -/
inductive Expr
  | leaf (d : Dimension)
  | mul (s t : Expr)
  | div (s t : Expr)
  | powi (s : Expr) (k : Exponent)
  | recip (s : Expr)

namespace Expr

instance : Coe Dimension Expr := ⟨leaf⟩

/-- The dimension of the expression, if no exponent leaves its range. -/
def eval : Expr → Except ArithmeticFault Dimension
  | leaf d => .ok d
  | mul s t => do (← s.eval).mul (← t.eval)
  | div s t => do (← s.eval).div (← t.eval)
  | powi s k => do (← s.eval).powi k
  | recip s => do (← s.eval).recip

/-- What the expression stands for in the free abelian group. -/
def exponents : Expr → Base → ℤ
  | leaf d => d.exponents
  | mul s t => s.exponents + t.exponents
  | div s t => s.exponents - t.exponents
  | powi s k => k.val • s.exponents
  | recip s => -s.exponents

/-- An expression that has a value has the exact one. -/
theorem exponents_of_eval {e : Expr} {d : Dimension} (h : e.eval = .ok d) :
    d.exponents = e.exponents := by
  induction e generalizing d with
  | leaf a =>
    cases h
    rfl
  | mul s t ihs iht =>
    obtain ⟨a, ha, h⟩ := bind_eq_ok_iff.1 h
    obtain ⟨b, hb, h⟩ := bind_eq_ok_iff.1 h
    rw [(mul_computes a b).exponents_eq h, ihs ha, iht hb, exponents]
  | div s t ihs iht =>
    obtain ⟨a, ha, h⟩ := bind_eq_ok_iff.1 h
    obtain ⟨b, hb, h⟩ := bind_eq_ok_iff.1 h
    rw [(div_computes a b).exponents_eq h, ihs ha, iht hb, exponents]
  | powi s k ih =>
    obtain ⟨a, ha, h⟩ := bind_eq_ok_iff.1 h
    rw [(powi_computes a k).exponents_eq h, ih ha, exponents]
  | recip s ih =>
    obtain ⟨a, ha, h⟩ := bind_eq_ok_iff.1 h
    rw [(recip_computes a).exponents_eq h, ih ha, exponents]

/-- Both expressions have the same value, unless one of them faults. -/
def Agrees (s t : Expr) : Prop := ∀ x y, s.eval = .ok x → t.eval = .ok y → x = y

/-- What holds in the free abelian group holds of dimensions up to faults. -/
theorem agrees_of_exponents_eq {s t : Expr} (h : s.exponents = t.exponents) : s.Agrees t :=
  fun _ _ hx hy => exponents_injective ((exponents_of_eval hx).trans (h.trans
    (exponents_of_eval hy).symm))

end Expr

/-! ## Laws -/

section Laws

variable (a b c : Dimension) (j k : Exponent)

protected theorem mul_comm : a.mul b = b.mul a := by
  have h := b.mul_computes a
  rw [add_comm] at h
  exact (a.mul_computes b).unique h

theorem exponents_dimensionless : dimensionless.exponents = 0 :=
  funext fun x => by cases x with | si x | extra x => cases x <;> rfl

protected theorem div_self : a.div a = .ok dimensionless :=
  (a.div_computes a).eq_ok (by rw [exponents_dimensionless, sub_self])

theorem powi_zero : a.powi .zero = .ok dimensionless :=
  (a.powi_computes .zero).eq_ok (by rw [exponents_dimensionless, Word.val_zero, zero_smul])

theorem div_of_mul {a b d : Dimension} (h : a.mul b = .ok d) : d.div b = .ok a :=
  (d.div_computes b).eq_ok (by rw [(a.mul_computes b).exponents_eq h, add_sub_cancel_right])

/-- Every operation is exact and faults only when an exponent leaves its range.  Products commute,
faults included, and nothing is left of a quotient of equals, of a zeroth power and of a factor
divided out again.  The other laws hold where both sides have a value: all those of the free
abelian group, and so the laws of products and powers. -/
theorem group_laws :
    (Computes (a.mul b) .addOverflow (a.exponents + b.exponents) ∧
      Computes (a.div b) .subOverflow (a.exponents - b.exponents) ∧
      Computes (a.powi k) .mulOverflow (k.val • a.exponents) ∧
      Computes a.recip .mulOverflow (-a.exponents) ∧
      (a.recip = .error .mulOverflow ↔ ∃ x, a.exponents x = IntFormat.i32.low)) ∧
    (a.mul b = b.mul a ∧ a.div a = .ok dimensionless ∧ a.powi .zero = .ok dimensionless ∧
      ∀ d, a.mul b = .ok d → d.div b = .ok a) ∧
    (∀ s t : Expr, s.exponents = t.exponents → s.Agrees t) ∧
    Expr.Agrees (.mul (.mul a b) c) (.mul a (.mul b c)) ∧
    Expr.Agrees (.powi (.mul a b) k) (.mul (.powi a k) (.powi b k)) ∧
    (∀ n : Exponent, n.val = j.val + k.val →
      Expr.Agrees (.mul (.powi a j) (.powi a k)) (.powi a n)) ∧
    ∀ n : Exponent, n.val = j.val * k.val → Expr.Agrees (.powi (.powi a j) k) (.powi a n) := by
  refine ⟨⟨a.mul_computes b, a.div_computes b, a.powi_computes k, a.recip_computes, ?_⟩,
    ⟨a.mul_comm b, a.div_self, a.powi_zero, fun d => div_of_mul⟩,
    fun s t => Expr.agrees_of_exponents_eq, ?_, ?_, fun n hn => ?_, fun n hn => ?_⟩
  · rw [a.recip_computes.eq_error_iff, fits_neg_iff]
    simp only [ne_eq, not_forall, not_not]
  · exact Expr.agrees_of_exponents_eq (add_assoc _ _ _)
  · exact Expr.agrees_of_exponents_eq (smul_add _ _ _)
  · refine Expr.agrees_of_exponents_eq ?_
    simp only [Expr.exponents, hn, add_smul]
  · refine Expr.agrees_of_exponents_eq ?_
    simp only [Expr.exponents, hn, mul_smul, smul_comm j.val k.val]

end Laws

end Dimension

end Metrology
