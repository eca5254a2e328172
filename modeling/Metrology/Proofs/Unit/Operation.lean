import Metrology.Proofs.Rational.Power
import Metrology.Proofs.Slots
import Metrology.Unit

/-!
# Outcomes of unit operations

A unit has twelve rational parts, a ratio for each base quantity and the global ratio, and an
operation on units computes the parts of its result one after the other in that order
(`Part.all`).  `Operation.value` is the exact value of a part of the result and
`Operation.refusal?` the reason why a part has no result.  The main statement,
`Operation.apply_outcome`, says that an operation is refused with the first of these reasons and
with no other, and that without one it has the exact result as soon as the exponents fit.  Exponents
are not refused: an exponent that leaves its range aborts the operation (`apply_eq_abort_iff`).
-/

namespace Metrology

/-! ## Parts -/

/-- The rational parts of a unit. -/
inductive Part
  | slot (b : Base)
  | global
  deriving DecidableEq

namespace Part

/-- The order in which parts are computed. -/
def all : List Part := Base.all.map slot ++ [global]

theorem mem_all (p : Part) : p ∈ all := by
  cases p with
  | slot b => exact List.mem_append_left _ (List.mem_map_of_mem b.mem_all)
  | global => exact List.mem_append_right _ (List.mem_singleton.2 rfl)

end Part

namespace Unit

/-- The rational of the part. -/
def part (u : Unit) : Part → Rational
  | .slot b => u.ratio.get b
  | .global => u.global

theorem ext_part {u v : Unit} (hd : ∀ b, u.dim.exponent b = v.dim.exponent b)
    (hp : ∀ p, u.part p = v.part p) (hf : u.factor = v.factor) : u = v := by
  have h1 : u.dim = v.dim := Slots.ext_get hd
  have h2 : u.ratio = v.ratio := Slots.ext_get fun b => hp (.slot b)
  have h3 : u.global = v.global := hp .global
  obtain ⟨ud, ur, ug, uf⟩ := u
  obtain ⟨vd, vr, vg, vf⟩ := v
  simp only at h1 h2 h3 hf
  rw [h1, h2, h3, hf]

/-- The product of all parts. -/
def exactScale (u : Unit) : ℚ := (Part.all.map fun p => (u.part p).toRat).prod

theorem exactScale_eq_prod (u : Unit) :
    u.exactScale = (Base.all.map fun b => (u.ratio.get b).toRat).prod * u.global.toRat := by
  rw [exactScale, Part.all, List.map_append, List.prod_append, List.map_map, List.map_singleton,
    List.prod_singleton]
  rfl

/-! ## Putting a result together -/

/-- The unit of computed parts: the slot ratios come first, then the global ratio, then the
exponents. -/
def assemble (ratio : Outcome Ratios) (global : Outcome Rational)
    (dim : Except ArithmeticFault Dimension) (factor : Option Float) : Outcome Unit := do
  let ratio ← ratio
  let global ← global
  let dim ← .ofArithmetic dim
  return ⟨dim, ratio, global, factor⟩

section Assemble

variable {ratio : Outcome Ratios} {dim : Except ArithmeticFault Dimension}
  {factor : Option Float} {f : Part → Outcome Rational} {e : Base → Except ArithmeticFault Exponent}

theorem assemble_eq_ok_iff (hr : Slots.IsRun ratio fun b => f (.slot b)) (hd : Slots.IsRun dim e)
    {w : Unit} :
    assemble ratio (f .global) dim factor = .ok w ↔
      (∀ p, f p = .ok (w.part p)) ∧ (∀ b, e b = .ok (w.dim.exponent b)) ∧ w.factor = factor := by
  have hparts : (∀ p, f p = .ok (w.part p)) ↔ ratio = .ok w.ratio ∧ f .global = .ok w.global := by
    rw [hr.eq_ok_iff]
    refine ⟨fun h => ⟨fun b => h (.slot b), h .global⟩, fun h p => ?_⟩
    cases p with
    | slot b => exact h.1 b
    | global => exact h.2
  have hexp : (∀ b, e b = .ok (w.dim.exponent b)) ↔ dim = .ok w.dim := hd.eq_ok_iff.symm
  rw [hparts, hexp]
  obtain ⟨wd, wr, wg, wf⟩ := w
  unfold assemble
  cases ratio with
  | error s => simp [bind, Except.bind]
  | ok r =>
    cases f .global with
    | error s => simp [bind, Except.bind]
    | ok g =>
      cases dim with
      | error s => simp [bind, Except.bind, Outcome.ofArithmetic]
      | ok d =>
        simp only [bind, Except.bind, Outcome.ofArithmetic, pure, Except.pure, Except.ok.injEq,
          Unit.mk.injEq]
        tauto

/-- The first part without a result decides the error. -/
theorem assemble_eq_error (hr : Slots.IsRun ratio fun b => f (.slot b)) {s : Stop}
    (h : Part.all.findSome? (fun p => error? (f p)) = some s) :
    assemble ratio (f .global) dim factor = .error s := by
  rw [Part.all, List.findSome?_append, List.findSome?_map] at h
  unfold assemble
  cases hc : ratio with
  | error s' =>
    have := hr.eq_error_iff.1 hc
    rw [show (fun b => error? (f (.slot b))) = (fun p => error? (f p)) ∘ Part.slot from rfl] at this
    rw [this, Option.some_or, Option.some.injEq] at h
    rw [h]
    rfl
  | ok r =>
    have hnone : Base.all.findSome? ((fun p => error? (f p)) ∘ Part.slot) = none := by
      rw [List.findSome?_eq_none_iff]
      intro b _
      simp [hr.eq_ok_iff.1 hc b]
    rw [hnone, Option.none_or] at h
    cases hg : f .global with
    | error s' => simpa [hg, bind, Except.bind] using h
    | ok g => simp [hg] at h

/-- No refusal comes from the exponents. -/
theorem assemble_ne_refuse (hr : Slots.IsRun ratio fun b => f (.slot b)) {r : Refusal}
    (h : Part.all.findSome? (fun p => error? (f p)) = none) :
    assemble ratio (f .global) dim factor ≠ .refuse r := by
  rw [List.findSome?_eq_none_iff] at h
  have hf : ∀ p, ∃ a, f p = .ok a := fun p => by
    have := h p p.mem_all
    cases hp : f p with
    | error s => simp [hp] at this
    | ok a => exact ⟨a, rfl⟩
  obtain ⟨a, rfl⟩ := hr.exists_ok fun b => hf (.slot b)
  obtain ⟨g, hg⟩ := hf .global
  unfold assemble
  rw [hg]
  cases dim <;> simp [bind, Except.bind, pure, Except.pure, Outcome.ofArithmetic, Outcome.refuse]

end Assemble

end Unit

/-! ## Operations -/

/-- What can be done to a unit. -/
inductive Operation
  | mul (v : Unit)
  | div (v : Unit)
  | powi (k : Exponent)

namespace Operation

/-- The operation on a unit. -/
def apply (o : Operation) (u : Unit) : Outcome Unit :=
  match o with
  | mul v => u.mul v
  | div v => u.div v
  | powi k => u.powi k

/-- The exact value of a part of the result. -/
def value (o : Operation) (u : Unit) (p : Part) : ℚ :=
  match o with
  | mul v => (u.part p).toRat * (v.part p).toRat
  | div v => (u.part p).toRat / (v.part p).toRat
  | powi k => (u.part p).toRat ^ k.val

/-- The exact exponent of the result. -/
def exponent (o : Operation) (u : Unit) (b : Base) : ℤ :=
  match o with
  | mul v => (u.dim.exponent b).val + (v.dim.exponent b).val
  | div v => (u.dim.exponent b).val - (v.dim.exponent b).val
  | powi k => (u.dim.exponent b).val * k.val

/-- Whether the part needs the inverse of zero. -/
def invertsZero (o : Operation) (u : Unit) (p : Part) : Bool :=
  match o with
  | mul _ => false
  | div v => v.part p = .zero
  | powi k => k.val < 0 ∧ u.part p = .zero

/-- Why a part has no result. -/
def refusal? (o : Operation) (u : Unit) (p : Part) : Option Refusal :=
  if o.invertsZero u p then some .zeroDenominator
  else if Rational.Representable (o.value u p) then none
  else some .overflow

/-- Why the first part without a result has none. -/
def firstRefusal (o : Operation) (u : Unit) : Option Refusal := Part.all.findSome? (o.refusal? u)

/-- The real factor of the result. -/
def factor (o : Operation) (u : Unit) : Option Float :=
  match o with
  | mul v => Unit.combinedFactor (u.isReal || v.isReal) (u.factorValue * v.factorValue)
  | div v => Unit.combinedFactor (u.isReal || v.isReal) (u.factorValue / v.factorValue)
  | powi k => Unit.combinedFactor u.isReal (Unit.floatPow u.factorValue k)

/-- How one part is computed. -/
def part (o : Operation) (u : Unit) (p : Part) : Outcome Rational :=
  match o with
  | mul v => (u.part p).mul (v.part p)
  | div v => (u.part p).div (v.part p)
  | powi k => (u.part p).powi k

theorem part_eq (o : Operation) (u : Unit) (p : Part) :
    o.part u p =
      if o.invertsZero u p then .refuse .zeroDenominator else Rational.exactly (o.value u p) := by
  cases o with
  | mul v => exact Rational.mul_eq _ _
  | div v =>
    simp only [part, invertsZero, value, decide_eq_true_eq]
    split_ifs with h
    · rw [h]
      exact Rational.div_of_zero _
    · exact Rational.div_eq_of_ne _ h
  | powi k =>
    simp only [part, invertsZero, value, decide_eq_true_eq]
    split_ifs with h
    · rw [h.2]
      exact Rational.zero_powi_neg h.1
    · exact Rational.powi_eq _ fun h0 => not_lt.1 fun hk => h ⟨hk, h0⟩

theorem error?_part (o : Operation) (u : Unit) (p : Part) :
    error? (o.part u p) = (o.refusal? u p).map .refused := by
  rw [part_eq, refusal?, Rational.exactly]
  split_ifs <;> rfl

theorem value_of_part {o : Operation} {u : Unit} {p : Part} {a : Rational}
    (h : o.part u p = .ok a) : a.toRat = o.value u p := by
  rw [part_eq] at h
  split_ifs at h
  · simp [Outcome.refuse] at h
  · exact Rational.exactly_eq_ok_iff.1 h

theorem findSome?_error?_part (o : Operation) (u : Unit) :
    Part.all.findSome? (fun p => error? (o.part u p)) = (o.firstRefusal u).map .refused := by
  rw [firstRefusal, List.map_findSome?]
  exact congrArg (Part.all.findSome? ·) (funext (o.error?_part u))

/-- The fault of an exponent that leaves its range. -/
def fault : Operation → ArithmeticFault
  | mul _ => .addOverflow
  | div _ => .subOverflow
  | powi _ => .mulOverflow

theorem apply_eq_assemble (o : Operation) (u : Unit) :
    ∃ ratio dim, Slots.IsRun ratio (fun b => o.part u (.slot b)) ∧
      Slots.IsRun dim (fun b => Word.fit o.fault (o.exponent u b)) ∧
      o.apply u = Unit.assemble ratio (o.part u .global) dim (o.factor u) := by
  cases o with
  | mul v => exact ⟨_, _, Slots.isRun_zipM _ _ _, Slots.isRun_zipM _ _ _, rfl⟩
  | div v => exact ⟨_, _, Slots.isRun_zipM _ _ _, Slots.isRun_zipM _ _ _, rfl⟩
  | powi k => exact ⟨_, _, Slots.isRun_traverse _ _, Slots.isRun_traverse _ _, rfl⟩

/-- An operation has a result exactly if every part and every exponent has one. -/
theorem apply_eq_ok_iff {o : Operation} {u w : Unit} :
    o.apply u = .ok w ↔
      (∀ p, o.part u p = .ok (w.part p)) ∧
        (∀ b, (w.dim.exponent b).val = o.exponent u b) ∧ w.factor = o.factor u := by
  obtain ⟨ratio, dim, hr, hd, h⟩ := o.apply_eq_assemble u
  rw [h, Unit.assemble_eq_ok_iff hr hd]
  simp only [Word.fit_eq_ok_iff]

/-- An operation that has a result inverts no zero. -/
theorem invertsZero_of_apply {o : Operation} {u w : Unit} (h : o.apply u = .ok w) (p : Part) :
    o.invertsZero u p = false := by
  have hp := (apply_eq_ok_iff.1 h).1 p
  rw [part_eq] at hp
  by_contra hz
  rw [if_pos (Bool.eq_true_of_not_eq_false hz)] at hp
  cases hp

/-- The divisor of a quotient that has a value has no part zero. -/
theorem part_ne_zero_of_div {u v w : Unit} (h : u.div v = .ok w) (p : Part) :
    v.part p ≠ .zero :=
  of_decide_eq_false (invertsZero_of_apply (o := .div v) h p)

/-- The base of a negative power that has a value has no part zero. -/
theorem part_ne_zero_of_powi {u w : Unit} {k : Exponent} (hk : k.val < 0)
    (h : u.powi k = .ok w) (p : Part) : u.part p ≠ .zero := fun h0 =>
  of_decide_eq_false (invertsZero_of_apply (o := .powi k) h p) ⟨hk, h0⟩

theorem apply_eq_refuse_iff {o : Operation} {u : Unit} {r : Refusal} :
    o.apply u = .refuse r ↔ o.firstRefusal u = some r := by
  obtain ⟨ratio, dim, hr, -, h⟩ := o.apply_eq_assemble u
  have hfirst := o.findSome?_error?_part u
  rw [h]
  cases hf : o.firstRefusal u with
  | none =>
    rw [hf, Option.map_none] at hfirst
    simp [Unit.assemble_ne_refuse hr hfirst]
  | some r' =>
    rw [hf, Option.map_some] at hfirst
    rw [Unit.assemble_eq_error hr hfirst]
    simp [Outcome.refuse]

theorem part_ok_of_firstRefusal {o : Operation} {u : Unit} (h : o.firstRefusal u = none) (p : Part) :
    ∃ a, o.part u p = .ok a := by
  have hp := List.findSome?_eq_none_iff.1 h p p.mem_all
  have := o.error?_part u p
  rw [hp, Option.map_none] at this
  cases hc : o.part u p with
  | ok a => exact ⟨a, rfl⟩
  | error s => simp [hc] at this

/-- The result of an operation whose parts and exponents all fit. -/
theorem exists_apply_eq_ok {o : Operation} {u : Unit} (h : o.firstRefusal u = none)
    (he : ∀ b, IntFormat.i32.low ≤ o.exponent u b ∧ o.exponent u b ≤ IntFormat.i32.high) :
    ∃ w, o.apply u = .ok w := by
  obtain ⟨ratio, dim, hr, hd, ha⟩ := o.apply_eq_assemble u
  obtain ⟨r, rfl⟩ := hr.exists_ok fun b => part_ok_of_firstRefusal h (.slot b)
  obtain ⟨d, rfl⟩ := hd.exists_ok fun b => ⟨_, Word.fit_eq_ok (he b).1 (he b).2⟩
  obtain ⟨g, hg⟩ := part_ok_of_firstRefusal h .global
  exact ⟨⟨d, r, g, o.factor u⟩, by rw [ha, hg]; rfl⟩

/-- An operation is refused for the first part that has no exact result, whatever the exponents
are, and for nothing else; without such a part it has the exact result if the exponents fit. -/
theorem apply_outcome (o : Operation) (u : Unit) :
    (∀ r, o.apply u = .refuse r ↔ o.firstRefusal u = some r) ∧
      (o.firstRefusal u = none →
        (∀ b, IntFormat.i32.low ≤ o.exponent u b ∧ o.exponent u b ≤ IntFormat.i32.high) →
        ∃ w, o.apply u = .ok w ∧ (∀ p, (w.part p).toRat = o.value u p) ∧
          ∀ b, (w.dim.exponent b).val = o.exponent u b) := by
  refine ⟨fun r => apply_eq_refuse_iff, fun h he => ?_⟩
  obtain ⟨w, hw⟩ := exists_apply_eq_ok h he
  obtain ⟨hp, hb, -⟩ := apply_eq_ok_iff.1 hw
  exact ⟨w, hw, fun p => value_of_part (hp p), hb⟩

/-! ## Aborts -/

/-- Some exponent of the result leaves its range. -/
def Overflows (o : Operation) (u : Unit) : Prop :=
  ∃ b, ¬(IntFormat.i32.low ≤ o.exponent u b ∧ o.exponent u b ≤ IntFormat.i32.high)

/-- Once every part has a result, only the exponents are left to fail. -/
theorem apply_of_firstRefusal {o : Operation} {u : Unit} (h : o.firstRefusal u = none) :
    (¬o.Overflows u ∧ ∃ w, o.apply u = .ok w) ∨
      o.Overflows u ∧ o.apply u = .error (.aborted (.arithmetic o.fault)) := by
  obtain ⟨ratio, dim, hr, hd, ha⟩ := o.apply_eq_assemble u
  obtain ⟨r, rfl⟩ := hr.exists_ok fun b => part_ok_of_firstRefusal h (.slot b)
  obtain ⟨g, hg⟩ := part_ok_of_firstRefusal h .global
  rw [ha, hg]
  cases hdim : dim with
  | ok d =>
    refine .inl ⟨?_, ⟨d, r, g, o.factor u⟩, rfl⟩
    rintro ⟨b, hb⟩
    have hfit := Word.fit_eq_ok_iff.1 (hd.eq_ok_iff.1 hdim b)
    rw [← hfit] at hb
    exact hb ⟨(d.get b).low_le, (d.get b).le_high⟩
  | error f =>
    obtain ⟨b, hb⟩ := hd.exists_error hdim
    obtain ⟨rfl, hout⟩ := Word.fit_eq_error_iff.1 hb
    exact .inr ⟨⟨b, hout⟩, rfl⟩

/-- An operation aborts exactly if every part has a result and an exponent leaves its range, and the
abort names the operation; everything else has a value or is refused. -/
theorem apply_eq_abort_iff {o : Operation} {u : Unit} {a : Abort} :
    o.apply u = .error (.aborted a) ↔
      o.firstRefusal u = none ∧ o.Overflows u ∧ a = .arithmetic o.fault := by
  cases hf : o.firstRefusal u with
  | some r =>
    rw [apply_eq_refuse_iff.2 hf]
    simp [Outcome.refuse]
  | none =>
    obtain ⟨hno, w, hw⟩ | ⟨hover, ha⟩ := apply_of_firstRefusal hf
    · rw [hw]
      simp [hno]
    · rw [ha]
      simp [hover, eq_comm]

/-- The coherent unit of a length to the power `e`. -/
def lengthPower (e : Exponent) : Unit := .coherent (.single .zero (.si .length) e)

/-- At both ends of the exponents no operation has a value, and none is refused. -/
theorem apply_lengthPower :
    (mul (lengthPower .one)).apply (lengthPower (.clamp .i32 IntFormat.i32.high)) =
        .error (.aborted (.arithmetic .addOverflow)) ∧
      (div (lengthPower .one)).apply (lengthPower (.clamp .i32 IntFormat.i32.low)) =
        .error (.aborted (.arithmetic .subOverflow)) ∧
      (powi (.clamp .i32 2)).apply (lengthPower (.clamp .i32 IntFormat.i32.high)) =
        .error (.aborted (.arithmetic .mulOverflow)) := by
  refine ⟨error?_eq_some_iff.1 ?_, error?_eq_some_iff.1 ?_, error?_eq_some_iff.1 ?_⟩ <;>
    decide +kernel

end Operation

end Metrology
