import Metrology.Catalog
import Metrology.Proofs.Unit.Expression

/-!
# Real factors of constructed units

A unit is constructed from leaves by products, quotients and powers and by global ratios and real
factors.  A combination carries a factor exactly if one of its operands does
(`Operation.isReal_of_apply`): a factor that comes out as one is kept, and the zeroth power keeps it
too, while the powers, products and quotients of one are one.  So a constructed unit is real exactly
if a leaf is or a real factor was applied on the way, and otherwise its factor is one
(`Construction.isReal_of_eval`).
-/

namespace Metrology

namespace Unit

theorem factor_of_not_isReal {u : Unit} (h : u.isReal = false) : u.factor = none := by
  rw [isReal, Option.isSome_eq_false_iff] at h
  exact Option.isNone_iff_eq_none.1 h

theorem isReal_of_withGlobal {u w : Unit} {a : Rational} (h : u.withGlobal a = .ok w) :
    w.isReal = u.isReal := by
  obtain ⟨g, -, h⟩ := bind_eq_ok_iff.1 h
  cases h
  rfl

theorem isReal_withFactor (u : Unit) (x : Float) : (u.withFactor x).isReal = true := rfl

end Unit

/-! ## Operations -/

namespace Operation

/-- Whether one of the operands carries a real factor. -/
def anyReal (o : Operation) (u : Unit) : Bool :=
  match o with
  | mul v | div v => u.isReal || v.isReal
  | powi _ => u.isReal

theorem factor_of_anyReal {o : Operation} {u : Unit} (h : o.anyReal u = true) :
    (o.factor u).isSome = true := by
  cases o with
  | mul v | div v =>
    simp only [anyReal] at h
    rw [factor, h]
    rfl
  | powi k =>
    simp only [anyReal] at h
    rw [factor, h]
    rfl

theorem factor_of_not_anyReal {o : Operation} {u : Unit} (h : o.anyReal u = false) :
    o.factor u = none := by
  cases o with
  | mul v | div v =>
    simp only [anyReal, Bool.or_eq_false_iff] at h
    refine factor_eq_none (Unit.factor_of_not_isReal h.1) ?_
    rintro v' (h' | h') <;> cases h'
    exact Unit.factor_of_not_isReal h.2
  | powi k =>
    refine factor_eq_none (Unit.factor_of_not_isReal h) ?_
    rintro v' (h' | h') <;> cases h'

/-- A result is real exactly if an operand is, whatever the factors are. -/
theorem isReal_of_apply {o : Operation} {u w : Unit} (h : o.apply u = .ok w) :
    w.isReal = o.anyReal u := by
  obtain ⟨-, -, hf⟩ := apply_eq_ok_iff.1 h
  rw [Unit.isReal, hf]
  cases hr : o.anyReal u with
  | true => exact factor_of_anyReal hr
  | false =>
    rw [factor_of_not_anyReal hr]
    rfl

end Operation

/-! ## Constructions -/

/-- How a unit is made of leaves. -/
inductive Construction (ι : Type)
  | leaf (i : ι)
  | mul (s t : Construction ι)
  | div (s t : Construction ι)
  | powi (t : Construction ι) (k : Exponent)
  | withGlobal (t : Construction ι) (a : Rational)
  | withFactor (t : Construction ι) (x : Float)

namespace Construction

variable {ι : Type}

/-- The unit that is constructed, if every operation has one. -/
def eval (units : ι → Unit) : Construction ι → Outcome Unit
  | leaf i => .ok (units i)
  | mul s t => do
    let u ← s.eval units
    let v ← t.eval units
    u.mul v
  | div s t => do
    let u ← s.eval units
    let v ← t.eval units
    u.div v
  | powi t k => do
    let u ← t.eval units
    u.powi k
  | withGlobal t a => do
    let u ← t.eval units
    u.withGlobal a
  | withFactor t x => do
    let u ← t.eval units
    return u.withFactor x

/-- The leaves that occur. -/
def leaves : Construction ι → List ι
  | leaf i => [i]
  | mul s t | div s t => s.leaves ++ t.leaves
  | powi t _ | withGlobal t _ | withFactor t _ => t.leaves

/-- The real factors that are applied. -/
def factors : Construction ι → List Float
  | leaf _ => []
  | mul s t | div s t => s.factors ++ t.factors
  | powi t _ | withGlobal t _ => t.factors
  | withFactor t x => x :: t.factors

variable {units : ι → Unit} {t : Construction ι} {w : Unit}

theorem exists_isReal_append {l l' : List ι} {m m' : List Float} :
    ((∃ i ∈ l ++ l', (units i).isReal) ∨ m ++ m' ≠ []) ↔
      ((∃ i ∈ l, (units i).isReal) ∨ m ≠ []) ∨ (∃ i ∈ l', (units i).isReal) ∨ m' ≠ [] := by
  simp only [List.mem_append, or_and_right, exists_or, ne_eq, List.append_eq_nil_iff, not_and_or]
  exact or_or_or_comm

/-- Something real in the result comes from something real on the way, and stays. -/
theorem isReal_iff_of_eval (h : t.eval units = .ok w) :
    w.isReal ↔ (∃ i ∈ t.leaves, (units i).isReal) ∨ t.factors ≠ [] := by
  induction t generalizing w with
  | leaf i =>
    cases h
    simp [leaves, factors]
  | mul s t ihs iht =>
    obtain ⟨u, hu, h⟩ := bind_eq_ok_iff.1 h
    obtain ⟨v, hv, h⟩ := bind_eq_ok_iff.1 h
    rw [Operation.isReal_of_apply (o := .mul v) h, Operation.anyReal, Bool.or_eq_true, ihs hu,
      iht hv]
    exact exists_isReal_append.symm
  | div s t ihs iht =>
    obtain ⟨u, hu, h⟩ := bind_eq_ok_iff.1 h
    obtain ⟨v, hv, h⟩ := bind_eq_ok_iff.1 h
    rw [Operation.isReal_of_apply (o := .div v) h, Operation.anyReal, Bool.or_eq_true, ihs hu,
      iht hv]
    exact exists_isReal_append.symm
  | powi t k ih =>
    obtain ⟨u, hu, h⟩ := bind_eq_ok_iff.1 h
    rw [Operation.isReal_of_apply (o := .powi k) h]
    exact ih hu
  | withGlobal t a ih =>
    obtain ⟨u, hu, h⟩ := bind_eq_ok_iff.1 h
    rw [Unit.isReal_of_withGlobal h]
    exact ih hu
  | withFactor t x ih =>
    obtain ⟨u, -, h⟩ := bind_eq_ok_iff.1 h
    cases h
    rw [Unit.isReal_withFactor]
    exact iff_of_true rfl (.inr (List.cons_ne_nil _ _))

/-- A constructed unit carries a factor exactly if a leaf does or a real factor was applied, also
when the factors cancel or a zeroth power is taken; without one its factor is one. -/
theorem isReal_of_eval (h : t.eval units = .ok w) :
    (w.isReal ↔ (∃ i ∈ t.leaves, (units i).isReal) ∨ t.factors ≠ []) ∧
      (w.isReal = false → w.factorValue = 1.0) :=
  ⟨isReal_iff_of_eval h, fun hw => Unit.factorValue_of_none (Unit.factor_of_not_isReal hw)⟩

/-- A calorie and a joule. -/
def energyLeaves : Bool → Unit
  | true => Catalog.calorie.unit
  | false => Catalog.joule.unit

/-- The zeroth power of a calorie per calorie, a thousand times. -/
def cancelled : Construction Bool :=
  withGlobal (powi (div (leaf true) (leaf true)) .zero) .kilo

/-- The inverse cube of a square joule. -/
def inverted : Construction Bool :=
  powi (mul (leaf false) (leaf false)) (.clamp .i32 (-3))

theorem isReal_of_energies :
    (∃ w, cancelled.eval energyLeaves = .ok w ∧ (w.factorValue == 1.0) = true ∧ w.isReal = true) ∧
      ∃ w, inverted.eval energyLeaves = .ok w ∧ w.isReal = false ∧ w.factorValue = 1.0 := by
  obtain ⟨u, hu, hone⟩ := bind_eq_ok_iff.1 (show cancelled.eval energyLeaves >>=
    (fun w => .ok (w.factorValue == 1.0)) = .ok true by decide +kernel)
  obtain ⟨v, hv, hnone⟩ := bind_eq_ok_iff.1 (show inverted.eval energyLeaves >>=
    (fun w => .ok w.isReal) = .ok false by decide +kernel)
  have hleaf : ∃ i ∈ cancelled.leaves, (energyLeaves i).isReal := ⟨true, by decide, rfl⟩
  exact ⟨⟨u, hu, Except.ok.inj hone, (isReal_of_eval hu).1.2 (.inl hleaf)⟩,
    v, hv, Except.ok.inj hnone, (isReal_of_eval hv).2 (Except.ok.inj hnone)⟩

end Construction

end Metrology
