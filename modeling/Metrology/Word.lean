/-!
# Machine words

An integer format is a sign convention and a width; a word of a format is an integer inside the
range of the format.  Arithmetic on words is exact integer arithmetic that faults when the result
leaves the range, and each fault names the operation it came from.  `Word.wrap` and `Word.clamp`
are the two ways to force an arbitrary integer into the range: modulo the width, and to the
nearer end.  `Word.gcd` is Euclid's algorithm on unsigned words; every turn keeps the common
divisors, so it ends with the greatest one (`Word.val_gcd`).
-/

namespace Metrology

/-- The integer formats; the two `size` formats have the width of an address, 64 bits. -/
inductive IntFormat
  | i8 | i16 | i32 | i64 | i128 | isize
  | u8 | u16 | u32 | u64 | u128 | usize
  deriving DecidableEq

namespace IntFormat

/-- Whether the format has negative integers. -/
def signed : IntFormat → Bool
  | i8 | i16 | i32 | i64 | i128 | isize => true
  | u8 | u16 | u32 | u64 | u128 | usize => false

/-- The width. -/
def bits : IntFormat → Nat
  | i8 | u8 => 8
  | i16 | u16 => 16
  | i32 | u32 => 32
  | i64 | u64 | isize | usize => 64
  | i128 | u128 => 128

/-- Whether the format has more than 64 bits. -/
def isWide (f : IntFormat) : Bool := 64 < f.bits

/-- The name of the format. -/
def name : IntFormat → String
  | i8 => "i8" | i16 => "i16" | i32 => "i32" | i64 => "i64" | i128 => "i128" | isize => "isize"
  | u8 => "u8" | u16 => "u16" | u32 => "u32" | u64 => "u64" | u128 => "u128" | usize => "usize"

/-- How many integers the format holds. -/
def span (f : IntFormat) : Int := Nat.pow 2 f.bits

/-- The least integer of the format. -/
def low (f : IntFormat) : Int := if f.signed then -(Nat.pow 2 (f.bits - 1) : Nat) else 0

/-- The greatest integer of the format. -/
def high (f : IntFormat) : Int :=
  if f.signed then (Nat.pow 2 (f.bits - 1) : Nat) - 1 else (Nat.pow 2 f.bits : Nat) - 1

theorem low_le_zero (f : IntFormat) : f.low ≤ 0 := by cases f <;> decide

theorem one_le_high (f : IntFormat) : 1 ≤ f.high := by cases f <;> decide

theorem span_eq (f : IntFormat) : f.span = f.high - f.low + 1 := by cases f <;> decide

end IntFormat

/-- What stops an operation on words. -/
inductive ArithmeticFault
  | addOverflow | subOverflow | mulOverflow | negOverflow | divByZero | divOverflow
  deriving DecidableEq

/-- The text of a fault. -/
def ArithmeticFault.message : ArithmeticFault → String
  | addOverflow => "attempt to add with overflow"
  | subOverflow => "attempt to subtract with overflow"
  | mulOverflow => "attempt to multiply with overflow"
  | negOverflow => "attempt to negate with overflow"
  | divByZero => "attempt to divide by zero"
  | divOverflow => "attempt to divide with overflow"

/-- An integer in the range of the format. -/
@[ext] structure Word (f : IntFormat) where
  val : Int
  low_le : f.low ≤ val
  le_high : val ≤ f.high
  deriving DecidableEq

namespace Word

variable {f : IntFormat}

/-- Zero, which every format holds. -/
def zero : Word f := ⟨0, f.low_le_zero, Int.le_trans (by decide) f.one_le_high⟩

/-- One, which every format holds. -/
def one : Word f := ⟨1, Int.le_trans f.low_le_zero (by decide), f.one_le_high⟩

instance : Inhabited (Word f) := ⟨zero⟩

/-! ## Into the range -/

/-- The word of value `x`, when there is one. -/
def fit? (f : IntFormat) (x : Int) : Option (Word f) :=
  if h : f.low ≤ x ∧ x ≤ f.high then some ⟨x, h.1, h.2⟩ else none

/-- The word of value `x`, or the fault. -/
def fit (fault : ArithmeticFault) (x : Int) : Except ArithmeticFault (Word f) :=
  match fit? f x with
  | some w => .ok w
  | none => .error fault

/-- The end of the range nearer to `x`, or `x` itself. -/
def clamp (f : IntFormat) (x : Int) : Word f :=
  if hl : x < f.low then ⟨f.low, Int.le_refl _, by
    have := f.low_le_zero; have := f.one_le_high; omega⟩
  else if hh : f.high < x then ⟨f.high, by
    have := f.low_le_zero; have := f.one_le_high; omega, Int.le_refl _⟩
  else ⟨x, by omega, by omega⟩

/-- The word that agrees with `x` modulo the span of the format. -/
def wrap (f : IntFormat) (x : Int) : Word f :=
  have hs := f.span_eq
  have hl := f.low_le_zero
  have hh := f.one_le_high
  have h0 := Int.emod_nonneg x (b := f.span) (by omega)
  have h1 := Int.emod_lt_of_pos x (b := f.span) (by omega)
  if h : x % f.span ≤ f.high then ⟨x % f.span, by omega, h⟩
  else ⟨x % f.span - f.span, by omega, by omega⟩

/-! ## Arithmetic -/

/-- The sum. -/
def add (a b : Word f) : Except ArithmeticFault (Word f) := fit .addOverflow (a.val + b.val)

/-- The difference. -/
def sub (a b : Word f) : Except ArithmeticFault (Word f) := fit .subOverflow (a.val - b.val)

/-- The product. -/
def mul (a b : Word f) : Except ArithmeticFault (Word f) := fit .mulOverflow (a.val * b.val)

/-- The word of the other sign; only the least word of a signed format has none. -/
def neg (a : Word f) : Except ArithmeticFault (Word f) := fit .negOverflow (-a.val)

/-- The quotient, truncated toward zero. -/
def div (a b : Word f) : Except ArithmeticFault (Word f) :=
  if b.val = 0 then .error .divByZero else fit .divOverflow (a.val.tdiv b.val)

/-! ## Text -/

/-- The decimal digits, behind a minus sign if the word is negative. -/
def text (a : Word f) : String := a.val.repr

/-! ## Values -/

@[simp] theorem val_zero : (zero : Word f).val = 0 := rfl

@[simp] theorem val_one : (one : Word f).val = 1 := rfl

theorem fit?_eq_some_iff {x : Int} {w : Word f} : fit? f x = some w ↔ w.val = x := by
  unfold fit?
  split
  · next h =>
    simp only [Option.some.injEq, Word.ext_iff]
    exact eq_comm
  · next h =>
    simp only [reduceCtorEq, false_iff]
    rintro rfl
    exact h ⟨w.low_le, w.le_high⟩

theorem fit?_eq_none_iff {x : Int} : fit? f x = none ↔ ¬(f.low ≤ x ∧ x ≤ f.high) := by
  unfold fit?; split <;> simp_all

@[simp] theorem fit?_val (w : Word f) : fit? f w.val = some w := fit?_eq_some_iff.2 rfl

theorem fit_eq_ok_iff {fault : ArithmeticFault} {x : Int} {w : Word f} :
    fit fault x = .ok w ↔ w.val = x := by
  rw [← fit?_eq_some_iff, fit]
  split <;> simp_all

theorem fit_eq_error_iff {fault e : ArithmeticFault} {x : Int} :
    fit (f := f) fault x = .error e ↔ e = fault ∧ ¬(f.low ≤ x ∧ x ≤ f.high) := by
  rw [← fit?_eq_none_iff, fit]
  cases fit? f x <;> simp [eq_comm]

theorem natAbs_le_high {w : Word f} (h : w.val ≠ f.low) : (w.val.natAbs : Int) ≤ f.high := by
  have h1 := w.low_le
  have h2 := w.le_high
  have : -f.low ≤ f.high + 1 := by cases f <;> decide
  omega

theorem val_wrap {x : Int} (h0 : 0 ≤ x) (h1 : x ≤ f.high) : (wrap f x).val = x := by
  have hs := f.span_eq
  have hl := f.low_le_zero
  have : x % f.span = x := Int.emod_eq_of_lt h0 (by omega)
  unfold wrap
  simp [this, h1]

theorem fit_eq_ok {fault : ArithmeticFault} {x : Int} (h0 : f.low ≤ x) (h1 : x ≤ f.high) :
    fit fault x = .ok (⟨x, h0, h1⟩ : Word f) := fit_eq_ok_iff.2 rfl

theorem neg_eq_ok {w : Word f} (hf : f.signed) (h : w.val ≠ f.low) :
    ∃ v : Word f, w.neg = .ok v ∧ v.val = -w.val := by
  have h0 : -f.high = f.low + 1 := by revert hf; cases f <;> decide
  have h1 := w.low_le
  have h2 := w.le_high
  exact ⟨⟨-w.val, by omega, by omega⟩, fit_eq_ok _ _, rfl⟩

theorem div_eq_ok {w g : Word f} (h : 0 < g.val) :
    ∃ v : Word f, w.div g = .ok v ∧ v.val = w.val.tdiv g.val := by
  have hb : (w.val.tdiv g.val).natAbs ≤ w.val.natAbs := Int.natAbs_tdiv_le_natAbs _ _
  have h1 := w.low_le
  have h2 := w.le_high
  have hl := f.low_le_zero
  have hh := f.one_le_high
  have h3 : 0 ≤ w.val → 0 ≤ w.val.tdiv g.val := fun h' => Int.tdiv_nonneg h' (by omega)
  have h4 : w.val ≤ 0 → w.val.tdiv g.val ≤ 0 := fun h' => by
    have := Int.tdiv_nonneg (a := -w.val) (b := g.val) (by omega) (by omega)
    rw [Int.neg_tdiv] at this
    omega
  refine ⟨⟨w.val.tdiv g.val, by omega, by omega⟩, ?_, rfl⟩
  rw [div, if_neg (by omega)]
  exact fit_eq_ok _ _

/-! ## Greatest common divisors -/

theorem low_u64 : IntFormat.u64.low = 0 := by decide

/-- The magnitude as an unsigned word; the least word has one too. -/
def magnitude (a : Word .i64) : Word .u64 :=
  have h1 := a.low_le
  have h2 := a.le_high
  have h3 : -IntFormat.i64.low ≤ IntFormat.u64.high := by decide
  have h4 : IntFormat.i64.high ≤ IntFormat.u64.high := by decide
  ⟨a.val.natAbs, by rw [low_u64]; omega, by omega⟩

theorem val_magnitude (a : Word .i64) : a.magnitude.val = a.val.natAbs := rfl

/-- The remainder by a word other than zero. -/
def rem (a b : Word .u64) (h : b.val ≠ 0) : Word .u64 :=
  have h0 := low_u64 ▸ b.low_le
  have h1 := b.le_high
  have h2 := Int.emod_nonneg a.val h
  have h3 := Int.emod_lt_of_pos a.val (b := b.val) (by omega)
  ⟨a.val % b.val, by rw [low_u64]; exact h2, by omega⟩

theorem val_rem {a b : Word .u64} (h : b.val ≠ 0) : (a.rem b h).val = a.val % b.val := rfl

theorem toNat_rem_lt {a b : Word .u64} (h : b.val ≠ 0) :
    (a.rem b h).val.toNat < b.val.toNat := by
  have h0 := low_u64 ▸ b.low_le
  have h1 := Int.emod_nonneg a.val h
  have h2 := Int.emod_lt_of_pos a.val (b := b.val) (by omega)
  rw [val_rem]
  omega

/-- Euclid's algorithm: while the second word is not zero, it takes the place of the first, and the
remainder takes its own. -/
def gcd (a b : Word .u64) : Word .u64 :=
  if h : b.val = 0 then a else gcd b (a.rem b h)
termination_by b.val.toNat
decreasing_by exact toNat_rem_lt h

/-- One turn keeps the greatest common divisor. -/
theorem gcd_val_rem {a b : Word .u64} (h : b.val ≠ 0) :
    b.val.gcd (a.rem b h).val = a.val.gcd b.val := by
  rw [val_rem, Int.emod_def, Int.gcd_sub_mul_left_right, Int.gcd_comm]

/-- The loop ends with the greatest common divisor. -/
theorem val_gcd (a b : Word .u64) : (gcd a b).val = a.val.gcd b.val := by
  fun_induction gcd a b with
  | case1 a b h =>
    -- the first word is its own magnitude, because it is not negative
    have h0 := low_u64 ▸ a.low_le
    rw [h, Int.gcd_zero_right]
    omega
  | case2 a b h ih => rw [ih, gcd_val_rem h]

end Word

end Metrology
