import Metrology.Proofs.Rational.Exact
import Metrology.Proofs.Slots
import Metrology.Unit

/-!
# Units of simple dimensions

Whether a dimension is simple, and at which base quantity, depends only on which exponents are
non-zero, and the two searches for it meet at the right place (`Dimension.simpleBase_eq_some_iff`).
A ratio that is put there is the only one of its unit, so the scale of the unit is that ratio, and
no step of computing it overflows (`Unit.rationalScale_single`).
-/

namespace Metrology

/-! ## The base quantity of a simple dimension -/

namespace Dimension

variable {d : Dimension} {b : Base}

/-- The exponent of the base quantity is the only one that is not zero. -/
def IsSimpleAt (d : Dimension) (b : Base) : Prop :=
  (d.exponent b).val ≠ 0 ∧ ∀ c, c ≠ b → (d.exponent c).val = 0

theorem isSimpleAt_iff : d.IsSimpleAt b ↔ ∀ c, nonzero (d.exponent c) = decide (c = b) := by
  constructor
  · rintro ⟨hb, hc⟩ c
    by_cases h : c = b
    · simp [nonzero, h, hb]
    · simp [nonzero, h, hc c h]
  · intro h
    refine ⟨?_, fun c hc => ?_⟩
    · simpa [nonzero] using h b
    · simpa [nonzero, hc] using h c

theorem IsSimpleAt.simpleBase_eq (h : d.IsSimpleAt b) : d.simpleBase = some b := by
  have hp := isSimpleAt_iff.1 h
  have hcount : d.countNonzero = Base.all.countP fun c => decide (c = b) := by
    rw [countNonzero, Slots.count_eq_countP]
    exact List.countP_congr fun c _ => by rw [← hp c]; rfl
  have hsi : d.si.find nonzero = SiBase.all.findIdx fun c => decide (.si c = b) := by
    rw [Pack.find_eq_findIdx, Slots.toList_si, List.findIdx_map]
    exact congrArg (SiBase.all.findIdx ·) (funext fun c => hp (.si c))
  have hextra : d.extra.find nonzero = ExtraBase.all.findIdx fun c => decide (.extra c = b) := by
    rw [Pack.find_eq_findIdx, Slots.toList_extra, List.findIdx_map]
    exact congrArg (ExtraBase.all.findIdx ·) (funext fun c => hp (.extra c))
  rw [simpleBase, isSimple, hcount, hsi, hextra]
  rcases b with b | b <;> cases b <;> decide

theorem exists_isSimpleAt (h : d.isSimple = true) : ∃ b, d.IsSimpleAt b := by
  rw [isSimple, beq_iff_eq, countNonzero, Slots.count_eq_countP, List.countP_eq_length_filter,
    List.length_eq_one_iff] at h
  obtain ⟨b, hb⟩ := h
  refine ⟨b, isSimpleAt_iff.2 fun c => ?_⟩
  have hc : c ∈ Base.all.filter (fun c => nonzero (d.get c)) ↔ c = b := by
    rw [hb, List.mem_singleton]
  rw [List.mem_filter, and_iff_right c.mem_all] at hc
  rw [Bool.eq_iff_iff, decide_eq_true_iff]
  exact hc

theorem simpleBase_eq_some_iff : d.simpleBase = some b ↔ d.IsSimpleAt b := by
  refine ⟨fun h => ?_, IsSimpleAt.simpleBase_eq⟩
  have hsimple : d.isSimple = true := by
    by_contra hn
    rw [simpleBase, if_neg hn] at h
    cases h
  obtain ⟨c, hc⟩ := exists_isSimpleAt hsimple
  rw [hc.simpleBase_eq, Option.some.injEq] at h
  exact h ▸ hc

theorem simpleBase_base (b : Base) : (base b).simpleBase = some b := by
  refine simpleBase_eq_some_iff.2 (isSimpleAt_iff.2 fun c => ?_)
  rw [exponent, base, Slots.get_single]
  by_cases h : c = b <;> simp [h, nonzero]

end Dimension

/-! ## A single ratio -/

namespace RatioPack

theorem foldM_mul_replicate (a : Rational) : ∀ n : Nat,
    Pack.foldM Rational.mul a (.replicate n .one) = .ok a
  | 0 => rfl
  | n + 1 => by
    rw [Pack.replicate, Pack.foldM, Rational.mul_one_eq]
    exact foldM_mul_replicate a n

theorem product_replicate (n : Nat) : product (.replicate n .one) = .ok .one :=
  foldM_mul_replicate .one n

/-- Every partial product is one before the slot and the ratio from there on. -/
theorem product_set (a : Rational) : ∀ {n : Nat} (i : Fin n),
    product ((Pack.replicate n .one).set i a) = .ok a
  | n + 1, ⟨0, _⟩ => by
    rw [product, Pack.replicate, Pack.set, Pack.foldM, Rational.one_mul_eq]
    exact foldM_mul_replicate a n
  | n + 1, ⟨i + 1, h⟩ => by
    rw [product, Pack.replicate, Pack.set, Pack.foldM, Rational.mul_one_eq]
    exact product_set a ⟨i, Nat.lt_of_succ_lt_succ h⟩

end RatioPack

namespace Unit

/-- The scale is found from the products of both packs. -/
theorem rationalScale_of_products {u : Unit} {si extra slots c : Rational}
    (hsi : RatioPack.product u.ratio.si = .ok si)
    (hextra : RatioPack.product u.ratio.extra = .ok extra) (hslots : si.mul extra = .ok slots)
    (hc : slots.mul u.global = .ok c) : u.rationalScale = .ok c := by
  unfold rationalScale
  rw [hsi, hextra]
  show (si.mul extra >>= fun slots => slots.mul u.global) = .ok c
  rw [hslots]
  exact hc

/-- The scale of a unit with a single ratio is that ratio. -/
theorem rationalScale_single (d : Dimension) (b : Base) (a : Rational) (x : Option Float) :
    rationalScale ⟨d, .single .one b a, .one, x⟩ = .ok a := by
  cases b with
  | si b =>
    exact rationalScale_of_products (RatioPack.product_set a b.index)
      (RatioPack.product_replicate 4) a.mul_one_eq a.mul_one_eq
  | extra b =>
    exact rationalScale_of_products (RatioPack.product_replicate 7)
      (RatioPack.product_set a b.index) a.one_mul_eq a.mul_one_eq

/-- A dimension has a base quantity exactly if the exponent there is the only one that is not zero.
Without one a single ratio is refused, and so is the unit; otherwise the ratio stands at the base
quantity and one everywhere else, and the scale of the unit is the ratio. -/
theorem ofRatio_outcome (d : Dimension) (a : Rational) :
    (∀ b, d.simpleBase = some b ↔
        (d.exponent b).val ≠ 0 ∧ ∀ c, c ≠ b → (d.exponent c).val = 0) ∧
      (Ratios.ofSimple d a = .refuse (.notSimple d) ↔ d.simpleBase = none) ∧
      (ofRatio d a = .refuse (.notSimple d) ↔ d.simpleBase = none) ∧
      ∀ b, d.simpleBase = some b → ∃ r : Ratios, Ratios.ofSimple d a = .ok r ∧
        (∀ c, r.get c = if c = b then a else .one) ∧
        ofRatio d a = .ok ⟨d, r, .one, none⟩ ∧
        rationalScale ⟨d, r, .one, none⟩ = .ok a := by
  refine ⟨fun b => Dimension.simpleBase_eq_some_iff, ?_, ?_, fun b hb => ?_⟩
  · unfold Ratios.ofSimple
    cases d.simpleBase <;> simp [Outcome.refuse]
  · unfold ofRatio Ratios.ofSimple
    cases d.simpleBase <;> simp [Outcome.refuse, bind, Except.bind, pure, Except.pure]
  · have hr : Ratios.ofSimple d a = .ok (.single .one b a) := by rw [Ratios.ofSimple, hb]
    refine ⟨_, hr, Slots.get_single .one a b, ?_, rationalScale_single d b a none⟩
    rw [ofRatio, hr]
    rfl

end Unit

end Metrology
