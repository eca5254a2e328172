import Metrology.Rational

/-!
# Slot ratios

A unit scales each base quantity by a ratio of its own.  A pack of ratios and the slots of all
base quantities multiply, divide and take powers slot by slot, in slot order, and the first slot
without a result decides the refusal.  The product over the slots is exact for rationals and
rounded step by step for floats.
-/

namespace Metrology

/-- A pack of ratios. -/
abbrev RatioPack (n : Nat) : Type := Pack Rational n

namespace RatioPack

variable {n : Nat}

/-- The products of the slots. -/
def mul (p q : RatioPack n) : Outcome (RatioPack n) := Pack.zipM Rational.mul p q

/-- The products of the slots; a refusal aborts. -/
def mul! (p q : RatioPack n) : Outcome (RatioPack n) := (mul p q).demand

/-- The quotients of the slots. -/
def div (p q : RatioPack n) : Outcome (RatioPack n) := Pack.zipM Rational.div p q

/-- The quotients of the slots; a refusal aborts. -/
def div! (p q : RatioPack n) : Outcome (RatioPack n) := (div p q).demand

/-- The powers of the slots. -/
def powi (p : RatioPack n) (k : Exponent) : Outcome (RatioPack n) :=
  p.traverse (Rational.powi · k)

/-- The powers of the slots; a refusal aborts. -/
def powi! (p : RatioPack n) (k : Exponent) : Outcome (RatioPack n) := (powi p k).demand

/-- The exact product of the slots, from left to right. -/
def product (p : RatioPack n) : Outcome Rational := Pack.foldM Rational.mul .one p

/-- The exact product of the slots; a refusal aborts. -/
def product! (p : RatioPack n) : Outcome Rational := (product p).demand

/-- The product of the slots in floating point, from left to right. -/
def value (p : RatioPack n) : Float := Pack.foldl (fun acc a => acc * a.value) 1.0 p

/-- The number of slots whose ratio is not one. -/
def countNonIdentity (p : RatioPack n) : Nat := Pack.count (fun a => !a.isOne) p

end RatioPack

/-- A ratio for each base quantity. -/
abbrev Ratios : Type := Slots Rational

namespace Ratios

/-- The ratio one for each base quantity. -/
def identity : Ratios := .replicate .one

/-- The ratio at the base quantity of a simple dimension, and one elsewhere. -/
def ofSimple (d : Dimension) (a : Rational) : Outcome Ratios :=
  match d.simpleBase with
  | some b => .ok (.single .one b a)
  | none => .refuse (.notSimple d)

/-- The ratio at the base quantity of a simple dimension; a refusal aborts. -/
def ofSimple! (d : Dimension) (a : Rational) : Outcome Ratios := (ofSimple d a).demand

/-- The products of the ratios. -/
def mul (r s : Ratios) : Outcome Ratios := Slots.zipM Rational.mul r s

/-- The products of the ratios; a refusal aborts. -/
def mul! (r s : Ratios) : Outcome Ratios := (r.mul s).demand

/-- The quotients of the ratios. -/
def div (r s : Ratios) : Outcome Ratios := Slots.zipM Rational.div r s

/-- The quotients of the ratios; a refusal aborts. -/
def div! (r s : Ratios) : Outcome Ratios := (r.div s).demand

/-- The powers of the ratios. -/
def powi (r : Ratios) (k : Exponent) : Outcome Ratios := Slots.traverse (Rational.powi · k) r

/-- The powers of the ratios; a refusal aborts. -/
def powi! (r : Ratios) (k : Exponent) : Outcome Ratios := (r.powi k).demand

/-- The product of all ratios in floating point. -/
def value (r : Ratios) : Float := RatioPack.value r.si * RatioPack.value r.extra

/-- Whether all ratios are one. -/
def isIdentity (r : Ratios) : Bool :=
  RatioPack.countNonIdentity r.si == 0 && RatioPack.countNonIdentity r.extra == 0

end Ratios

end Metrology
