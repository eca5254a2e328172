import Metrology.Dimension

/-!
# Outcomes

A computation of the unit algebra ends with a value, with a refusal, or with an abort.  A refusal
names the precondition that its input failed and is reported to the caller; an abort ends the
program.  `demand` turns a computation that may refuse into one that aborts instead, with a
shorter message that names no dimension; of an operation that may refuse, the form whose name ends
in an exclamation mark is the demanded one.
-/

namespace Metrology

/-- A precondition of the unit algebra that an input fails. -/
inductive Refusal
  | zeroDenominator
  | overflow
  | notSimple (d : Dimension)
  | incompatible (left right : Dimension)
  | zeroDivisor
  deriving DecidableEq

/-- The text of a refusal; it names the dimensions. -/
def Refusal.message : Refusal → String
  | zeroDenominator => "rational denominator must be non-zero"
  | overflow => "rational arithmetic overflowed the 64-bit numerator or denominator"
  | notSimple d =>
    "dimension `" ++ d.text ++ "` is not simple: exactly one non-zero exponent is required"
  | incompatible l r =>
    "incompatible units: `" ++ l.text ++ "` and `" ++ r.text ++ "` have different dimensions"
  | zeroDivisor => "division by a zero-valued quantity"

/-- What ends the program. -/
inductive Abort
  | arithmetic (f : ArithmeticFault)
  | index (f : IndexFault)
  | demanded (r : Refusal)
  deriving DecidableEq

/-- The text of an abort; it names no dimension. -/
def Abort.message : Abort → String
  | arithmetic f => f.message
  | index f => f.message
  | demanded (.notSimple _) =>
    "dimension is not simple: exactly one non-zero exponent is required"
  | demanded (.incompatible _ _) => "incompatible units: dimensions differ"
  | demanded r => r.message

/-- Why a computation has no value. -/
inductive Stop
  | refused (r : Refusal)
  | aborted (a : Abort)
  deriving DecidableEq

/-- What a computation of the unit algebra ends with. -/
abbrev Outcome (α : Type) : Type := Except Stop α

namespace Outcome

variable {α : Type}

/-- The computation that is refused. -/
def refuse (r : Refusal) : Outcome α := .error (.refused r)

/-- Arithmetic that is not expected to fault. -/
def ofArithmetic : Except ArithmeticFault α → Outcome α
  | .ok a => .ok a
  | .error f => .error (.aborted (.arithmetic f))

/-- Indexing that is not expected to fault. -/
def ofIndex : Except IndexFault α → Outcome α
  | .ok a => .ok a
  | .error f => .error (.aborted (.index f))

/-- The value of a computation that is known to have one. -/
def get (o : Outcome α) (h : o.isOk = true := by decide +kernel) : α :=
  match o, h with
  | .ok a, _ => a

/-- The same computation with every refusal turned into an abort. -/
def demand : Outcome α → Outcome α
  | .error (.refused r) => .error (.aborted (.demanded r))
  | o => o

theorem demand_eq_ok_iff {o : Outcome α} {a : α} : demand o = .ok a ↔ o = .ok a := by
  rcases o with ⟨_ | _⟩ | _ <;> simp [demand]

end Outcome

end Metrology
