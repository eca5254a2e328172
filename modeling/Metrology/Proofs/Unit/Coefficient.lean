import Metrology.Proofs.Unit.Scale
import Metrology.Unit.Name

/-!
# The number in front of a name

The coefficient of a unit is the product of its global ratio and of its parked ratios, those at
base quantities without an exponent.  A name computes it step by step in slot order.  When every
step fits, the name begins with the exact coefficient, or with nothing if that is one, and the
other ratios have no part in it.  When a step does not fit, the name begins with the scale of the
whole unit in floating point (`Unit.text_of_not_isReal`).  That counts the ratios which the slots
express once more, so a kilometer of coefficient one is written with a thousand in front of it.
-/

namespace Metrology

namespace Unit

/-! ## The coefficient -/

/-- The ratios at base quantities without an exponent, in slot order. -/
def parkedRatios (u : Unit) : List Rational :=
  (Base.all.filter fun b => (u.exponent b).val = 0).map u.ratio.get

/-- The product of the global ratio and the parked ratios. -/
def exactCoefficient (u : Unit) : ℚ := u.global.toRat * (u.parkedRatios.map Rational.toRat).prod

/-- Every step of the product fits, from the global ratio through the parked ratios. -/
def CoefficientFits (u : Unit) : Prop :=
  ∀ l, l <+: u.parkedRatios →
    Rational.Representable (u.global.toRat * (l.map Rational.toRat).prod)

/-- A running product whose refusals are dropped. -/
theorem foldl_bind_mul (f : Base → Rational) (l : List Base) (o : Outcome Rational) :
    l.foldl (fun acc b => acc.bind fun c => (c.mul (f b)).toOption) o.toOption =
      (o >>= (l.map f).foldlM Rational.mul).toOption := by
  induction l generalizing o with
  | nil => cases o <;> rfl
  | cons b l ih =>
    have hstep : (o.toOption.bind fun c => (c.mul (f b)).toOption) =
        (o >>= fun c => c.mul (f b)).toOption := by cases o <;> rfl
    rw [List.foldl_cons, hstep, ih]
    cases o <;> rfl

/-- The coefficient is found exactly if every step fits, and then it is exact. -/
theorem coefficient_eq_some_iff {u : Unit} {c : Rational} :
    u.coefficient = some c ↔ u.CoefficientFits ∧ c.toRat = u.exactCoefficient := by
  have h : u.coefficient = (u.parkedRatios.foldlM Rational.mul u.global).toOption :=
    foldl_bind_mul u.ratio.get _ (.ok u.global)
  rw [h, toOption_eq_some_iff, Rational.foldlM_mul_eq_ok_iff]
  rfl

theorem CoefficientFits.representable {u : Unit} (h : u.CoefficientFits) :
    Rational.Representable u.exactCoefficient := h _ (List.prefix_refl _)

theorem CoefficientFits.coefficient_eq {u : Unit} (h : u.CoefficientFits) :
    u.coefficient = some (.ofRat u.exactCoefficient h.representable) :=
  coefficient_eq_some_iff.2 ⟨h, Rational.toRat_ofRat _ _⟩

theorem coefficient_eq_none_iff {u : Unit} : u.coefficient = none ↔ ¬u.CoefficientFits := by
  refine ⟨fun h hfit => ?_, fun h => ?_⟩
  · simp [hfit.coefficient_eq] at h
  · cases hc : u.coefficient with
    | none => rfl
    | some c => exact absurd (coefficient_eq_some_iff.1 hc).1 h

/-- The ratios that slots express are not parked. -/
theorem parkedRatios_congr {u v : Unit} (hd : u.dim = v.dim)
    (hr : ∀ b, (u.exponent b).val = 0 → u.ratio.get b = v.ratio.get b) :
    u.parkedRatios = v.parkedRatios := by
  have he : v.exponent = u.exponent := funext fun b => by rw [exponent, exponent, hd]
  rw [parkedRatios, parkedRatios, he]
  exact List.map_congr_left fun b hb => hr b (by simpa using (List.mem_filter.1 hb).2)

/-! ## Names -/

theorem join_intercalate (s : String) : ∀ l : List (List String),
    String.join ([s].intercalate l) = s.intercalate (l.map String.join)
  | [] => rfl
  | [a] => by simp
  | a :: b :: l => by
    rw [List.intercalate_cons_cons, String.join_append, String.join_append,
      join_intercalate s (b :: l), List.map_cons, List.map_cons, List.map_cons,
      String.intercalate_cons_cons]
    simp

/-- The slots that the name writes, as one text. -/
def slotTexts (u : Unit) : List String := u.slotPart.map String.join

theorem text_of_part {u : Unit} (hu : u.isReal = false) {l : List String}
    (h : u.coefficientPart.map String.join = l) :
    u.text = "×".intercalate (l ++ u.slotTexts) := by
  rw [text, pieces, join_intercalate, factorPart, hu, Bool.false_and, if_neg Bool.false_ne_true,
    List.nil_append, List.map_append, h, slotTexts]

theorem isOne_iff {c : Rational} : c.isOne = true ↔ c = .one := by
  rw [Rational.isOne, Bool.and_eq_true, beq_iff_eq, beq_iff_eq]
  constructor
  · rintro ⟨hn, hd⟩
    rw [← Rational.toRat_inj, Rational.toRat_eq_div, hn, hd, Rational.toRat_one, Int.cast_one,
      div_one]
  · rintro rfl
    exact ⟨rfl, rfl⟩

/-- The name of a unit without a real factor begins with its exact coefficient, which is left out
when it is one, if every step of the coefficient fits; the ratios that slots express have no part
in that number and in the steps.  If a step does not fit, the name begins with the scale of the
whole unit. -/
theorem text_of_not_isReal {u : Unit} (hu : u.isReal = false) :
    (u.CoefficientFits → ∃ c : Rational, c.toRat = u.exactCoefficient ∧
      u.text = "×".intercalate ((if c = .one then [] else [c.text]) ++ u.slotTexts)) ∧
    (¬u.CoefficientFits →
      u.text = "×".intercalate (floatText (u.scale / u.factorValue) :: u.slotTexts)) ∧
    ∀ v : Unit, u.dim = v.dim → u.global = v.global →
      (∀ b, (u.exponent b).val = 0 → u.ratio.get b = v.ratio.get b) →
      (u.CoefficientFits ↔ v.CoefficientFits) ∧ u.exactCoefficient = v.exactCoefficient := by
  refine ⟨fun h => ?_, fun h => ?_, fun v hd hg hr => ?_⟩
  · refine ⟨_, Rational.toRat_ofRat _ h.representable, text_of_part hu ?_⟩
    rw [coefficientPart, h.coefficient_eq]
    simp only [isOne_iff]
    split_ifs
    · rfl
    · simp
  · refine text_of_part (l := [_]) hu ?_
    rw [coefficientPart, coefficient_eq_none_iff.2 h]
    simp
  · have hp := parkedRatios_congr hd hr
    exact ⟨by rw [CoefficientFits, CoefficientFits, hp, hg],
      by rw [exactCoefficient, exactCoefficient, hp, hg]⟩

/-! ## Parked ratios that grow too large -/

/-- A length in which the mass, the time and the current are parked. -/
def crowdedLength (length mass time current : Rational) : Unit where
  dim := .base (.si .length)
  ratio := ⟨.cons length (.cons mass (.cons time (.cons current (.replicate 3 .one)))),
    .replicate 4 .one⟩
  global := .giga
  factor := none

/-- A kilometer whose small parked ratio comes before the large one. -/
def femtoFirst : Unit := crowdedLength .kilo .femto .tera .one

/-- A kilometer whose large parked ratio comes before the small one. -/
def teraFirst : Unit := crowdedLength .kilo .tera .femto .one

/-- The same parked ratios in two orders: one coefficient is exact, the other is not found. -/
theorem text_crowded_orders :
    femtoFirst.isReal = false ∧ femtoFirst.CoefficientFits ∧
      (∃ c : Rational, c.toRat = femtoFirst.exactCoefficient ∧ femtoFirst.text =
        "×".intercalate ((if c = .one then [] else [c.text]) ++ femtoFirst.slotTexts)) ∧
      teraFirst.isReal = false ∧ ¬teraFirst.CoefficientFits ∧
      teraFirst.text = "×".intercalate
        (floatText (teraFirst.scale / teraFirst.factorValue) :: teraFirst.slotTexts) ∧
      teraFirst.exactCoefficient = (crowdedLength .one .tera .femto .one).exactCoefficient := by
  have hfit : femtoFirst.CoefficientFits :=
    (coefficient_eq_some_iff (c := .mega)).1 (by decide +kernel) |>.1
  have hno : ¬teraFirst.CoefficientFits := coefficient_eq_none_iff.1 (by decide +kernel)
  have hparked (b : Base) (h : (teraFirst.exponent b).val = 0) :
      teraFirst.ratio.get b = (crowdedLength .one .tera .femto .one).ratio.get b := by
    have hb : b ≠ .si .length := by
      rintro rfl
      exact absurd h (by decide)
    rcases b with b | b <;> cases b <;> first | rfl | exact absurd rfl hb
  exact ⟨rfl, hfit, (text_of_not_isReal rfl).1 hfit, rfl, hno, (text_of_not_isReal rfl).2.1 hno,
    ((text_of_not_isReal (u := teraFirst) rfl).2.2 (crowdedLength .one _ _ _) rfl rfl hparked).2⟩

/-- A kilometer whose coefficient is one is written with a thousand in front, and of two lengths of
one coefficient that does not fit each shows its own ratio in front. -/
theorem text_crowdedLength :
    (crowdedLength .kilo .tera .femto .micro).exactCoefficient = 1 ∧
      (crowdedLength .kilo .tera .femto .micro).text = "1000×km" ∧
      (crowdedLength .one .tera .one .one).text = "1000000000000000000000×m" ∧
      (crowdedLength .kilo .tera .one .one).text = "1000000000000000000000000×km" := by
  refine ⟨by decide +kernel, by decide +kernel, by decide +kernel, by decide +kernel⟩

end Unit

end Metrology
