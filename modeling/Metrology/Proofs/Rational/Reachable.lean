import Metrology.Proofs.Outcome
import Metrology.Proofs.Rational.Power
import Metrology.Wire.Value

/-!
# Canonical form along runs

A rational carries the proof that it is canonical.  Here its operations are given once more, on bare
fractions and with every machine operation watched: one that divides by zero, leaves the range or
casts a greatest common divisor to another value traps.  The remainders on the way to that divisor
need no watch, since `Word.rem` takes a proof that its divisor is not zero.  On canonical fractions
the watched operations are those of rationals (`Rational.Step.watched_map`), and a fraction is
reached by them exactly if it is canonical (`Fraction.reachable_iff`).  So canonical form is kept
along every run, and no watched operation traps.
-/

namespace Metrology

/-! ## Watched computations -/

/-- What ends a watched computation. -/
inductive Trap
  | stop (s : Stop)
  | lossyCast
  deriving DecidableEq

/-- What a watched computation ends with. -/
abbrev Watched (α : Type) : Type := Except Trap α

namespace Watched

variable {α β : Type}

/-- A computation of which every fault is a trap. -/
def ofOutcome : Outcome α → Watched α
  | .ok a => .ok a
  | .error s => .error (.stop s)

/-- The signed word that agrees with an unsigned one modulo the span, if their values are equal. -/
def cast (w : Word .u64) : Watched (Word .i64) :=
  if (Word.wrap .i64 w.val).val = w.val then .ok (.wrap .i64 w.val) else .error .lossyCast

/-- The computation has a value or is refused. -/
def Safe (o : Watched α) : Prop := (∃ a, o = .ok a) ∨ ∃ r, o = .error (.stop (.refused r))

@[simp] theorem ofOutcome_ok (a : α) : ofOutcome (.ok a) = .ok a := rfl

@[simp] theorem ofOutcome_bind (o : Outcome α) (f : α → Outcome β) :
    ofOutcome (o >>= f) = ofOutcome o >>= fun a => ofOutcome (f a) := by
  cases o <;> rfl

@[simp] theorem ofOutcome_map (o : Outcome α) (f : α → β) :
    ofOutcome (f <$> o) = f <$> ofOutcome o := by
  cases o <;> rfl

theorem ofArithmetic_bind (o : Except ArithmeticFault α) (f : α → Except ArithmeticFault β) :
    Outcome.ofArithmetic (o >>= f) = Outcome.ofArithmetic o >>= fun a => .ofArithmetic (f a) := by
  cases o <;> rfl

theorem toOption_ofOutcome (o : Outcome α) : (ofOutcome o).toOption = o.toOption := by
  cases o <;> rfl

theorem safe_ok (a : α) : Safe (.ok a) := .inl ⟨a, rfl⟩

theorem safe_refuse (r : Refusal) : Safe (ofOutcome (.refuse r : Outcome α)) := .inr ⟨r, rfl⟩

theorem Safe.map {o : Watched α} (h : o.Safe) (f : α → β) : Safe (f <$> o) := by
  obtain ⟨a, rfl⟩ | ⟨r, rfl⟩ := h
  · exact safe_ok (f a)
  · exact .inr ⟨r, rfl⟩

/-! ## The operations on fractions -/

/-- The greatest common divisor of the magnitudes, cast to a word. -/
def commonDivisor (a b : Word .i64) : Watched (Word .i64) := cast (a.magnitude.gcd b.magnitude)

/-- The quotient of two words. -/
def quotient (a b : Word .i64) : Watched (Word .i64) := ofOutcome (.ofArithmetic (a.div b))

/-- The negative of a word. -/
def negative (a : Word .i64) : Watched (Word .i64) := ofOutcome (.ofArithmetic a.neg)

/-- The product of two words, which is refused if it is no word. -/
def product (a b : Word .i64) : Watched (Word .i64) := ofOutcome (Rational.wordProduct a b)

/-- The canonical fraction equal to `num / den`. -/
def reduce (num den : Word .i64) : Watched Fraction :=
  if den.val = 0 then ofOutcome (.refuse .zeroDenominator)
  else if num.val = IntFormat.i64.low ∨ den.val = IntFormat.i64.low then
    ofOutcome (.refuse .overflow)
  else do
    let g ← commonDivisor num den
    let n ← quotient num g
    let d ← quotient den g
    if d.val < 0 then return ⟨← negative n, ← negative d⟩ else return ⟨n, d⟩

/-- The product of canonical fractions. -/
def mul (a b : Fraction) : Watched Fraction := do
  let g ← commonDivisor a.num b.den
  let h ← commonDivisor b.num a.den
  let num ← product (← quotient a.num g) (← quotient b.num h)
  let den ← product (← quotient a.den h) (← quotient b.den g)
  reduce num den

/-- The inverse. -/
def recip (a : Fraction) : Watched Fraction := reduce a.den a.num

/-- The quotient. -/
def div (a b : Fraction) : Watched Fraction := do
  let inverse ← recip b
  mul a inverse

/-- `acc * base ^ e`, by squaring. -/
def powLoop (acc base : Fraction) (e : ℕ) : Watched Fraction :=
  if e = 0 then .ok acc
  else do
    let acc ← if e % 2 = 1 then mul acc base else .ok acc
    if e / 2 = 0 then .ok acc
    else
      let square ← mul base base
      powLoop acc square (e / 2)
termination_by e

/-- The power. -/
def powi (a : Fraction) (k : Word .i32) : Watched Fraction :=
  if k.val = 0 then .ok Rational.one.toFraction
  else do
    let base ← if k.val < 0 then recip a else .ok a
    powLoop Rational.one.toFraction base k.val.natAbs

/-! ## No operation on canonical fractions traps -/

/-- The cast keeps every greatest common divisor that the operations take. -/
theorem commonDivisor_eq_ok {a b : Word .i64} (h0 : b.val ≠ 0)
    (hb : b.val ≠ IntFormat.i64.low) :
    commonDivisor a b = .ok (Fraction.commonDivisor a b) :=
  if_pos ((Fraction.val_commonDivisor h0 hb).trans (Fraction.val_gcd_magnitude a b).symm)

theorem reduce_eq (num den : Word .i64) :
    reduce num den = ofOutcome (Fraction.reduce num den) := by
  unfold reduce Fraction.reduce
  split_ifs with h0 hlow
  · rfl
  · rfl
  · rw [not_or] at hlow
    rw [commonDivisor_eq_ok h0 hlow.2]
    simp only [ofArithmetic_bind, ofOutcome_bind, apply_ite Outcome.ofArithmetic,
      apply_ite ofOutcome]
    rfl

variable (a b : Rational)

theorem reduce_eq_make (num den : Word .i64) :
    reduce num den = ofOutcome (Rational.toFraction <$> Rational.make num den) := by
  rw [reduce_eq]
  cases h : Fraction.reduce num den with
  | ok r => rw [Rational.make_of_reduce_eq_ok h]; rfl
  | error e => rw [Rational.make_of_reduce_eq_error h]; rfl

theorem mul_toFraction :
    mul a.toFraction b.toFraction = ofOutcome (Rational.toFraction <$> a.mul b) := by
  unfold mul Rational.mul
  rw [commonDivisor_eq_ok b.den_pos.ne' b.den_ne_low, commonDivisor_eq_ok a.den_pos.ne' a.den_ne_low]
  simp only [ofOutcome_map, ofOutcome_bind, map_bind, quotient, product, reduce_eq_make]
  rfl

theorem recip_toFraction :
    recip a.toFraction = ofOutcome (Rational.toFraction <$> a.recip) := reduce_eq_make _ _

theorem div_toFraction :
    div a.toFraction b.toFraction = ofOutcome (Rational.toFraction <$> a.div b) := by
  unfold div Rational.div
  rw [recip_toFraction]
  simp only [ofOutcome_map, ofOutcome_bind, map_bind, bind_map_left, mul_toFraction]

theorem powLoop_of_ne_zero {acc base : Fraction} {e : ℕ} (h : e ≠ 0) :
    powLoop acc base e =
      (if e % 2 = 1 then mul acc base else .ok acc) >>= fun acc =>
        if e / 2 = 0 then .ok acc
        else mul base base >>= fun square => powLoop acc square (e / 2) := by
  rw [powLoop, if_neg h]
  split_ifs <;> rfl

theorem powLoop_toFraction (acc base : Rational) (e : ℕ) :
    powLoop acc.toFraction base.toFraction e =
      ofOutcome (Rational.toFraction <$> Rational.powLoop acc base e) := by
  induction e using Nat.strong_induction_on generalizing acc base with
  | _ e ih =>
    by_cases h0 : e = 0
    · rw [powLoop, Rational.powLoop, if_pos h0, if_pos h0]
      rfl
    have hbit : (if e % 2 = 1 then mul acc.toFraction base.toFraction else .ok acc.toFraction) =
        ofOutcome (Rational.toFraction <$> if e % 2 = 1 then acc.mul base else .ok acc) := by
      split_ifs
      · exact mul_toFraction acc base
      · rfl
    have hrest (acc : Rational) :
        (if e / 2 = 0 then .ok acc.toFraction
          else mul base.toFraction base.toFraction >>= fun square =>
            powLoop acc.toFraction square (e / 2)) =
        ofOutcome (Rational.toFraction <$> if e / 2 = 0 then .ok acc
          else base.mul base >>= fun square => Rational.powLoop acc square (e / 2)) := by
      split_ifs
      · rfl
      · rw [mul_toFraction]
        simp only [ofOutcome_map, ofOutcome_bind, map_bind, bind_map_left]
        congr 1
        funext square
        rw [ih _ (by omega), ofOutcome_map]
    rw [Rational.powLoop_of_ne_zero h0, powLoop_of_ne_zero h0, hbit]
    simp only [ofOutcome_map, ofOutcome_bind, map_bind, bind_map_left, hrest]

theorem powi_toFraction (k : Word .i32) :
    powi a.toFraction k = ofOutcome (Rational.toFraction <$> a.powi k) := by
  unfold powi Rational.powi
  split_ifs
  · rfl
  · simp only [recip_toFraction, ofOutcome_map, ofOutcome_bind, map_bind, bind_map_left,
      powLoop_toFraction]
  · exact powLoop_toFraction Rational.one a k.val.natAbs

/-! ## The operations on rationals are safe -/

theorem safe_exactly (q : ℚ) : Safe (ofOutcome (Rational.exactly q)) := by
  unfold Rational.exactly
  split_ifs
  · exact safe_ok _
  · exact safe_refuse _

theorem safe_reduce (num den : Word .i64) : Safe (ofOutcome (Fraction.reduce num den)) := by
  by_cases h0 : den.val = 0
  · rw [Fraction.reduce, if_pos h0]
    exact safe_refuse _
  by_cases hlow : num.val = IntFormat.i64.low ∨ den.val = IntFormat.i64.low
  · rw [Fraction.reduce, if_neg h0, if_pos hlow]
    exact safe_refuse _
  · rw [not_or] at hlow
    obtain ⟨r, hr, -⟩ := Fraction.reduce_eq_ok h0 hlow.1 hlow.2
    rw [hr]
    exact safe_ok r

theorem safe_mul : Safe (ofOutcome (a.mul b)) := by
  rw [Rational.mul_eq]
  exact safe_exactly _

theorem safe_recip : Safe (ofOutcome a.recip) := by
  by_cases h : a = .zero
  · rw [h, Rational.recip_of_zero]
    exact safe_refuse _
  · obtain ⟨r, hr, -⟩ := Rational.recip_eq_ok h
    rw [hr]
    exact safe_ok r

theorem safe_div : Safe (ofOutcome (a.div b)) := by
  by_cases h : b = .zero
  · rw [h, Rational.div_of_zero]
    exact safe_refuse _
  · rw [Rational.div_eq_of_ne a h]
    exact safe_exactly _

theorem safe_powi (k : Word .i32) : Safe (ofOutcome (a.powi k)) := by
  by_cases h : a = .zero ∧ k.val < 0
  · rw [h.1, Rational.zero_powi_neg h.2]
    exact safe_refuse _
  · rw [Rational.powi_eq a fun ha => not_lt.1 fun hk => h ⟨ha, hk⟩]
    exact safe_exactly _

end Watched

/-! ## Runs -/

section Run

variable {α β σ τ ε δ : Type}

/-- The values that are held along a run.  A step that fails leaves the value as it was. -/
def history (run : σ → α → Except ε α) : α → List σ → List α
  | a, [] => [a]
  | a, s :: l => a :: history run ((run s a).toOption.getD a) l

variable {run : σ → α → Except ε α} {l : List σ}

/-- What every step keeps, holds along the run. -/
theorem history_forall {P : α → Prop} (hl : ∀ s ∈ l, ∀ a c, P a → run s a = .ok c → P c) {a : α}
    (ha : P a) : ∀ x ∈ history run a l, P x := by
  induction l generalizing a with
  | nil => simpa [history] using ha
  | cons s l ih =>
    rw [history, List.forall_mem_cons]
    refine ⟨ha, ih (fun t ht => hl t (List.mem_cons_of_mem s ht)) ?_⟩
    cases h : run s a with
    | ok c => exact hl s List.mem_cons_self a c ha h
    | error e => exact ha

/-- A run is followed by every run whose steps follow its steps. -/
theorem history_map {run' : τ → β → Except δ β} {f : α → β} {g : σ → τ}
    (h : ∀ s a, (run' (g s) (f a)).toOption = (run s a).toOption.map f) (a : α) :
    history run' (f a) (l.map g) = (history run a l).map f := by
  induction l generalizing a with
  | nil => rfl
  | cons s l ih =>
    rw [List.map_cons, history, history, List.map_cons, h, ← ih]
    cases (run s a).toOption <;> rfl

end Run

/-! ## Steps -/

namespace Rational

/-- An operation on the number that is held. -/
inductive Step (α : Type)
  | mul (b : α)
  | div (b : α)
  | recip
  | powi (k : Word .i32)

namespace Step

variable {α β : Type}

/-- The other number of the step, if there is one. -/
def operand? : Step α → Option α
  | mul b | div b => some b
  | recip | powi _ => none

/-- The step with another operand. -/
def map (f : α → β) : Step α → Step β
  | mul b => mul (f b)
  | div b => div (f b)
  | recip => recip
  | powi k => powi k

/-- The step on a rational. -/
def apply (s : Step Rational) (a : Rational) : Outcome Rational :=
  match s with
  | mul b => a.mul b
  | div b => a.div b
  | recip => a.recip
  | powi k => a.powi k

/-- The step on a fraction, with every machine operation watched. -/
def watched (s : Step Fraction) (a : Fraction) : Watched Fraction :=
  match s with
  | mul b => .mul a b
  | div b => .div a b
  | recip => .recip a
  | powi k => .powi a k

theorem watched_map (s : Step Rational) (a : Rational) :
    (s.map toFraction).watched a.toFraction = .ofOutcome (toFraction <$> s.apply a) := by
  cases s with
  | mul b => exact Watched.mul_toFraction a b
  | div b => exact Watched.div_toFraction a b
  | recip => exact Watched.recip_toFraction a
  | powi k => exact Watched.powi_toFraction a k

theorem safe_apply (s : Step Rational) (a : Rational) : (Watched.ofOutcome (s.apply a)).Safe := by
  cases s with
  | mul b => exact Watched.safe_mul a b
  | div b => exact Watched.safe_div a b
  | recip => exact Watched.safe_recip a
  | powi k => exact Watched.safe_powi a k

/-- A step with a canonical operand is a step of rationals. -/
theorem exists_map_eq {s : Step Fraction} (h : ∀ b ∈ s.operand?, b.Canonical) :
    ∃ t : Step Rational, t.map toFraction = s := by
  cases s with
  | mul b => exact ⟨mul ⟨b, h b rfl⟩, rfl⟩
  | div b => exact ⟨div ⟨b, h b rfl⟩, rfl⟩
  | recip => exact ⟨recip, rfl⟩
  | powi k => exact ⟨powi k, rfl⟩

end Step

end Rational

theorem Watched.reduce_canonical {num den : Word .i64} {r : Fraction}
    (h : reduce num den = .ok r) : r.Canonical := by
  rw [reduce_eq_make, ofOutcome_map] at h
  obtain ⟨a, -, rfl⟩ := map_eq_ok_iff.1 h
  exact a.canonical

namespace Fraction

open Rational (Step toFraction)

/-- A watched step on canonical fractions is safe and ends with a canonical fraction. -/
theorem Canonical.step {a : Fraction} {s : Step Fraction} (ha : a.Canonical)
    (hs : ∀ b ∈ s.operand?, b.Canonical) :
    (s.watched a).Safe ∧ ∀ c, s.watched a = .ok c → c.Canonical := by
  obtain ⟨t, rfl⟩ := Step.exists_map_eq hs
  have h : (t.map toFraction).watched a = toFraction <$> Watched.ofOutcome (t.apply ⟨a, ha⟩) :=
    (t.watched_map ⟨a, ha⟩).trans (Watched.ofOutcome_map _ _)
  refine ⟨?_, fun c hc => ?_⟩
  · rw [h]
    exact (t.safe_apply ⟨a, ha⟩).map toFraction
  · obtain ⟨r, -, rfl⟩ := map_eq_ok_iff.1 (h.symm.trans hc)
    exact r.canonical

theorem Canonical.eq_zero {r : Fraction} (h : r.Canonical) (h0 : r.num.val = 0) :
    r.den.val = 1 := by
  obtain ⟨hpos, hc, -⟩ := h
  rw [h0, Int.natAbs_zero, Nat.gcd_zero_left] at hc
  omega

/-! ## Reachable fractions -/

/-- What is made of a pair of words, of an integer or of a document, and what steps make of it. -/
inductive Reachable : Fraction → Prop
  | make {num den : Word .i64} {r : Fraction} : Watched.reduce num den = .ok r → Reachable r
  | integer {n : Word .i64} {r : Fraction} : Watched.reduce n .one = .ok r → Reachable r
  | read {d : Wire.Document} {raw r : Fraction} : Wire.fractionReader.read d = .ok raw →
      Watched.reduce raw.num raw.den = .ok r → Reachable r
  | step {a c : Fraction} {s : Step Fraction} : Reachable a →
      (∀ b ∈ s.operand?, Reachable b) → s.watched a = .ok c → Reachable c

theorem Reachable.canonical {r : Fraction} (h : Reachable r) : r.Canonical := by
  induction h with
  | make h => exact Watched.reduce_canonical h
  | integer h => exact Watched.reduce_canonical h
  | read _ h => exact Watched.reduce_canonical h
  | step _ _ hc iha ihs => exact (iha.step ihs).2 _ hc

/-- Canonical form says exactly which fractions are reached. -/
theorem reachable_iff {r : Fraction} : Reachable r ↔ r.Canonical := by
  refine ⟨Reachable.canonical, fun h => ?_⟩
  have hmake : Rational.make r.num r.den = .ok ⟨r, h⟩ :=
    (Rational.make_eq_exactly_of_coprime h.1 h.2.1).trans
      (Rational.exactly_eq_ok_iff.2 (Rational.toRat_eq_div ⟨r, h⟩))
  have hreduce : Watched.reduce r.num r.den = .ok r := by
    rw [Watched.reduce_eq_make, hmake]
    rfl
  exact .make hreduce

/-- What is read from a document is reached. -/
theorem Reachable.of_readRational {d : Wire.Document} {a : Rational}
    (h : Wire.readRational d = .ok a) : Reachable a.toFraction := by
  obtain ⟨raw, hraw, h⟩ := bind_eq_ok_iff.1 h
  refine .read hraw ?_
  rw [Watched.reduce_eq_make]
  unfold Wire.ofOutcome at h
  split at h
  · next hm => rw [hm, Except.ok.inj h]; rfl
  all_goals cases h

/-! ## Runs of steps -/

theorem history_watched (a : Rational) (l : List (Step Rational)) :
    history Step.watched a.toFraction (l.map (Step.map toFraction)) =
      (history Step.apply a l).map toFraction := by
  refine history_map (fun s a => ?_) a
  rw [Step.watched_map, Watched.toOption_ofOutcome]
  cases s.apply a <;> rfl

theorem exists_map_eq_of_reachable {l : List (Step Fraction)}
    (hl : ∀ s ∈ l, ∀ b ∈ s.operand?, Reachable b) :
    ∃ t : List (Step Rational), t.map (Step.map toFraction) = l := by
  have hrange : l ∈ Set.range (List.map (Step.map toFraction)) := by
    rw [Set.range_list_map]
    exact fun s hs => Step.exists_map_eq fun b hb => (hl s hs b hb).canonical
  exact hrange

/-- Along every run from a reachable fraction, by steps with reachable operands, every fraction that
is held is canonical and zero is held only as `0 / 1`; no machine operation of a step or of a
construction traps; what is read from a document is reached; and the run is a run of rationals. -/
theorem history_canonical {a : Fraction} {l : List (Step Fraction)} (ha : Reachable a)
    (hl : ∀ s ∈ l, ∀ b ∈ s.operand?, Reachable b) :
    (∀ x ∈ history Step.watched a l, x.Canonical ∧ (x.num.val = 0 → x.den.val = 1) ∧
        ∀ s ∈ l, (s.watched x).Safe) ∧
      (∀ num den, Watched.reduce num den = .ofOutcome (reduce num den) ∧
        (Watched.reduce num den).Safe) ∧
      (∀ d r, Wire.readRational d = .ok r → Reachable r.toFraction) ∧
      ∃ (r : Rational) (t : List (Step Rational)), r.toFraction = a ∧
        t.map (Step.map toFraction) = l ∧
        history Step.watched a l = (history Step.apply r t).map toFraction := by
  have hcanon : ∀ x ∈ history Step.watched a l, x.Canonical :=
    history_forall (fun s hs a c h hc => (h.step fun b hb => (hl s hs b hb).canonical).2 c hc)
      ha.canonical
  refine ⟨fun x hx => ⟨hcanon x hx, (hcanon x hx).eq_zero, fun s hs =>
    ((hcanon x hx).step fun b hb => (hl s hs b hb).canonical).1⟩, fun num den => ?_,
    fun d r => Reachable.of_readRational, ?_⟩
  · rw [Watched.reduce_eq]
    exact ⟨rfl, Watched.safe_reduce num den⟩
  · obtain ⟨t, rfl⟩ := exists_map_eq_of_reachable hl
    exact ⟨⟨a, ha.canonical⟩, t, rfl, rfl, history_watched ⟨a, ha.canonical⟩ t⟩

/-- From `6 / -4`: a product that overflows, the power with exponent minus three, a quotient by zero
and an inverse. -/
theorem history_of_six_fourths :
    ∃ (a : Fraction) (l : List (Step Fraction)),
      Watched.reduce ⟨6, by decide, by decide⟩ ⟨-4, by decide, by decide⟩ = .ok a ∧
      l = [.mul ⟨.clamp .i64 IntFormat.i64.high, .one⟩, .powi ⟨-3, by decide, by decide⟩,
        .div ⟨.zero, .one⟩, .recip] ∧
      (history Step.watched a l).map (fun x => (x.num.val, x.den.val)) =
        [(-3, 2), (-3, 2), (-8, 27), (-8, 27), (-27, 8)] ∧
      ∀ x ∈ history Step.watched a l, x.Canonical := by
  have ha : Watched.reduce ⟨6, by decide, by decide⟩ ⟨-4, by decide, by decide⟩ =
      .ok (Rational.literal (-3) 2).toFraction := by decide +kernel
  refine ⟨_, _, ha, rfl, by decide +kernel,
    fun x hx => ((history_canonical (.make ha) ?_).1 x hx).1⟩
  have hmax : Reachable ⟨.clamp .i64 IntFormat.i64.high, .one⟩ := reachable_iff.2 (by decide)
  have hzero : Reachable ⟨.zero, .one⟩ := reachable_iff.2 (by decide)
  simp [Step.operand?, hmax, hzero]

end Fraction

end Metrology
