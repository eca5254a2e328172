import Mathlib.Algebra.BigOperators.Ring.List
import Metrology.Proofs.Unit.Operation

/-!
# Scales of combined units

The rational scale of a unit is an ordered product: first the two packs of slot ratios, each from
left to right, then both products, then the global ratio.  When it has a value, the value is the
product of all parts (`Unit.toRat_of_rationalScale`).  An operation on units acts on each part
alone, so it acts on the product in the same way (`Operation.exactScale_of_apply`): scales multiply,
divide and take powers with their units (`Unit.rationalScale_multiplicative`).
-/

namespace Metrology

/-! ## Products of rationals -/

theorem Pack.foldM_eq_foldlM {α β ε : Type} (f : β → α → Except ε β) :
    ∀ {n : Nat} (b : β) (p : Pack α n), p.foldM f b = p.toList.foldlM f b
  | _, _, nil => rfl
  | _, b, cons a p => by
    rw [toList_cons, List.foldlM_cons, foldM]
    exact bind_congr fun c => foldM_eq_foldlM f c p

/-- A running product has a value exactly if every step of it fits, and then the exact one. -/
theorem Rational.foldlM_mul_eq_ok_iff {l : List Rational} {b c : Rational} :
    l.foldlM mul b = .ok c ↔
      (∀ p, p <+: l → Representable (b.toRat * (p.map toRat).prod)) ∧
        c.toRat = b.toRat * (l.map toRat).prod := by
  induction l generalizing b with
  | nil =>
    simp only [List.foldlM_nil, pure, Except.pure, Except.ok.injEq, List.prefix_nil, forall_eq,
      List.map_nil, List.prod_nil, mul_one, b.representable_toRat, true_and, toRat_inj, eq_comm]
  | cons a l ih =>
    simp only [List.foldlM_cons, bind_eq_ok_iff, ih, mul_eq, exactly_eq_ok_iff, List.map_cons,
      List.prod_cons, ← mul_assoc]
    constructor
    · rintro ⟨d, hd, hp, hc⟩
      refine ⟨fun p hp' => ?_, hd ▸ hc⟩
      obtain rfl | ⟨t, rfl, ht⟩ := List.prefix_cons_iff.1 hp'
      · simpa using b.representable_toRat
      · rw [List.map_cons, List.prod_cons, ← mul_assoc, ← hd]
        exact hp t ht
    · rintro ⟨hp, hc⟩
      have hfit : Representable (b.toRat * a.toRat) := by
        simpa using hp [a] (List.prefix_iff_eq_take.2 rfl)
      refine ⟨ofRat _ hfit, toRat_ofRat _ hfit, fun t ht => ?_, ?_⟩
      · simpa [mul_assoc] using hp (a :: t) (List.prefix_cons_iff.2 (.inr ⟨t, rfl, ht⟩))
      · rw [toRat_ofRat, hc]

/-- A running product that has a value is exact. -/
theorem Rational.toRat_of_foldlM_mul {l : List Rational} {b c : Rational}
    (h : l.foldlM mul b = .ok c) : c.toRat = b.toRat * (l.map toRat).prod :=
  (foldlM_mul_eq_ok_iff.1 h).2

theorem RatioPack.toRat_of_product {n : ℕ} {p : RatioPack n} {c : Rational}
    (h : p.product = .ok c) : c.toRat = (p.toList.map Rational.toRat).prod := by
  rw [product, Pack.foldM_eq_foldlM] at h
  rw [Rational.toRat_of_foldlM_mul h, Rational.toRat_one, one_mul]

namespace Unit

/-- The rational scale is the product of all parts, in whatever order it is computed. -/
theorem toRat_of_rationalScale {u : Unit} {a : Rational} (h : u.rationalScale = .ok a) :
    a.toRat = u.exactScale := by
  obtain ⟨si, hsi, h⟩ := bind_eq_ok_iff.1 h
  obtain ⟨extra, hextra, h⟩ := bind_eq_ok_iff.1 h
  obtain ⟨slots, hslots, h⟩ := bind_eq_ok_iff.1 h
  rw [Rational.mul_eq, Rational.exactly_eq_ok_iff] at hslots h
  have hall : (Base.all.map fun b => (u.ratio.get b).toRat) =
      u.ratio.si.toList.map Rational.toRat ++ u.ratio.extra.toList.map Rational.toRat := by
    rw [← List.map_append, ← Slots.toList, Slots.toList_eq, List.map_map]
    rfl
  rw [h, hslots, RatioPack.toRat_of_product hsi, RatioPack.toRat_of_product hextra,
    exactScale_eq_prod, hall, List.prod_append]

end Unit

/-! ## Operations -/

namespace Operation

/-- The exact scale of the result. -/
def scale (o : Operation) (u : Unit) : ℚ :=
  match o with
  | mul v => u.exactScale * v.exactScale
  | div v => u.exactScale / v.exactScale
  | powi k => u.exactScale ^ k.val

/-- What is done to every part is done to their product. -/
theorem prod_value (o : Operation) (u : Unit) : (Part.all.map (o.value u)).prod = o.scale u := by
  cases o with
  | mul v => exact List.prod_map_mul
  | div v =>
    have hinv : (Part.all.map fun p => (v.part p).toRat⁻¹).prod = v.exactScale⁻¹ := by
      rw [Unit.exactScale, List.prod_inv, List.map_map]
      rfl
    rw [scale, div_eq_mul_inv, ← hinv]
    exact List.prod_map_mul
  | powi k =>
    rw [scale, Unit.exactScale, ← zpowGroupHom_apply, map_list_prod, List.map_map]
    rfl

theorem exactScale_of_apply {o : Operation} {u w : Unit} (h : o.apply u = .ok w) :
    w.exactScale = o.scale u := by
  have hp : ∀ p, (w.part p).toRat = o.value u p := fun p => value_of_part ((apply_eq_ok_iff.1 h).1 p)
  rw [← prod_value, Unit.exactScale]
  exact congrArg List.prod (List.map_congr_left fun p _ => hp p)

end Operation

namespace Unit

/-- A product of parts is zero only if one of the parts is. -/
theorem exactScale_ne_zero {u : Unit} (h : ∀ p, u.part p ≠ .zero) : u.exactScale ≠ 0 := by
  refine List.prod_ne_zero fun h0 => ?_
  obtain ⟨p, -, hp⟩ := List.mem_map.1 h0
  exact h p (Rational.toRat_eq_zero_iff.1 hp)

theorem exactScale_of_withGlobal {u w : Unit} {g : Rational} (h : u.withGlobal g = .ok w) :
    w.exactScale = u.exactScale * g.toRat := by
  obtain ⟨c, hc, h⟩ := bind_eq_ok_iff.1 h
  cases h
  rw [Rational.mul!, Outcome.demand_eq_ok_iff, Rational.mul_eq, Rational.exactly_eq_ok_iff] at hc
  rw [exactScale_eq_prod, exactScale_eq_prod, hc, mul_assoc]

/-- Where units combine and all scales have values, the scale of the product is the product of the
scales, the scale of the quotient their quotient and the scale of a power the power; a global ratio
multiplies the scale.  No zero is divided by on the way. -/
theorem rationalScale_multiplicative {u v : Unit} {a b : Rational} (hu : u.rationalScale = .ok a)
    (hv : v.rationalScale = .ok b) :
    (∀ w c, u.mul v = .ok w → w.rationalScale = .ok c → c.toRat = a.toRat * b.toRat) ∧
      (∀ w c, u.div v = .ok w → w.rationalScale = .ok c →
        b.toRat ≠ 0 ∧ c.toRat = a.toRat / b.toRat) ∧
      (∀ k w c, u.powi k = .ok w → w.rationalScale = .ok c →
        (k.val < 0 → a.toRat ≠ 0) ∧ c.toRat = a.toRat ^ k.val) ∧
      ∀ g w c, u.withGlobal g = .ok w → w.rationalScale = .ok c → c.toRat = a.toRat * g.toRat := by
  rw [toRat_of_rationalScale hu, toRat_of_rationalScale hv]
  refine ⟨fun w c h hw => ?_, fun w c h hw => ⟨?_, ?_⟩, fun k w c h hw => ⟨fun hk => ?_, ?_⟩,
    fun g w c h hw => ?_⟩
  · rw [toRat_of_rationalScale hw]
    exact Operation.exactScale_of_apply (o := .mul v) h
  · exact exactScale_ne_zero (Operation.part_ne_zero_of_div h)
  · rw [toRat_of_rationalScale hw]
    exact Operation.exactScale_of_apply (o := .div v) h
  · exact exactScale_ne_zero (Operation.part_ne_zero_of_powi hk h)
  · rw [toRat_of_rationalScale hw]
    exact Operation.exactScale_of_apply (o := .powi k) h
  · rw [toRat_of_rationalScale hw, exactScale_of_withGlobal h]

/-- Half a meter backwards, from two ratios that are not whole. -/
def stride : Unit := { ofBase (.si .length) (.literal (-3) 4) with global := .literal 2 3 }

/-- Two seconds and a half. -/
def beat : Unit := ofBase (.si .time) (.literal 5 2)

theorem rationalScale_stride_beat :
    stride.rationalScale = .ok (.literal (-1) 2) ∧ beat.rationalScale = .ok (.literal 5 2) ∧
      (∃ w, stride.mul beat = .ok w ∧ w.rationalScale = .ok (.literal (-5) 4)) ∧
      (∃ w, stride.div beat = .ok w ∧ w.rationalScale = .ok (.literal (-1) 5)) ∧
      (∃ w, stride.powi ⟨-3, by decide, by decide⟩ = .ok w ∧
        w.rationalScale = .ok (.literal (-8) 1)) ∧
      (∃ w, stride.withGlobal (.literal 7 1) = .ok w ∧ w.rationalScale = .ok (.literal (-7) 2)) ∧
      (Rational.literal (-5) 4).toRat =
        (Rational.literal (-1) 2).toRat * (Rational.literal 5 2).toRat ∧
      (Rational.literal (-1) 5).toRat =
        (Rational.literal (-1) 2).toRat / (Rational.literal 5 2).toRat ∧
      (Rational.literal (-8) 1).toRat = (Rational.literal (-1) 2).toRat ^ (-3 : ℤ) ∧
      (Rational.literal (-7) 2).toRat =
        (Rational.literal (-1) 2).toRat * (Rational.literal 7 1).toRat := by
  have hu : stride.rationalScale = .ok (.literal (-1) 2) := by decide +kernel
  have hv : beat.rationalScale = .ok (.literal 5 2) := by decide +kernel
  obtain ⟨p, hp, hp'⟩ := bind_eq_ok_iff.1
    (show stride.mul beat >>= rationalScale = .ok (.literal (-5) 4) by decide +kernel)
  obtain ⟨q, hq, hq'⟩ := bind_eq_ok_iff.1
    (show stride.div beat >>= rationalScale = .ok (.literal (-1) 5) by decide +kernel)
  obtain ⟨r, hr, hr'⟩ := bind_eq_ok_iff.1
    (show stride.powi ⟨-3, by decide, by decide⟩ >>= rationalScale = .ok (.literal (-8) 1) by
      decide +kernel)
  obtain ⟨g, hg, hg'⟩ := bind_eq_ok_iff.1
    (show stride.withGlobal (.literal 7 1) >>= rationalScale = .ok (.literal (-7) 2) by
      decide +kernel)
  obtain ⟨hmul, hdiv, hpow, hglobal⟩ := rationalScale_multiplicative hu hv
  exact ⟨hu, hv, ⟨p, hp, hp'⟩, ⟨q, hq, hq'⟩, ⟨r, hr, hr'⟩, ⟨g, hg, hg'⟩, hmul p _ hp hp',
    (hdiv q _ hq hq').2, (hpow _ r _ hr hr').2, hglobal _ g _ hg hg'⟩

end Unit

end Metrology
