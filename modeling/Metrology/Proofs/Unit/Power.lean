import Metrology.Proofs.Unit.Expression
import Metrology.Proofs.Unit.Name
import Metrology.Proofs.Unit.Simple

/-!
# Names of powers

The power of a unit of one base quantity has its prefix as the root of its ratio, so it is written
as the unit and the exponent (`Unit.text_powi_of_ratio`).  Two names depend on the exponent: the
cube of a decimeter is a litre, and only the first power of an angstrom has a name.
-/

namespace Metrology

/-! ## Slots -/

namespace SlotName

/-- Only the angstrom has a name that depends on the exponent. -/
theorem symbolPieces_congr {b : Base} {p : Rational} (h : ¬(b = .si .length ∧ p = .angstrom))
    (e k : Exponent) : symbolPieces b e p = symbolPieces b k p := by
  have hown : ownName b e p = ownName b k p := by
    unfold ownName
    split
    · rfl
    · have hp : p ≠ .angstrom := fun hp => h ⟨rfl, hp⟩
      rw [if_neg fun h => hp h.1, if_neg fun h => hp h.1]
    · rfl
  rw [symbolPieces, symbolPieces, hown]

theorem symbolPieces_angstrom {e : Exponent} (he : e.val ≠ 1) :
    symbolPieces (.si .length) e .angstrom = ["[", "1/10000000000", "]", "m"] := by
  have hown : ownName (.si .length) e .angstrom = none := if_neg fun h => he h.2
  rw [symbolPieces, hown]
  decide +kernel

end SlotName

/-! ## Units of one base quantity -/

namespace Unit

open SlotName

/-- A rational unit that has no base quantity but one. -/
structure IsSingle (u : Unit) (b : Base) : Prop where
  factor : u.factor = none
  global : u.global = .one
  exponent : ∀ c, c ≠ b → (u.exponent c).val = 0
  ratio : ∀ c, c ≠ b → u.ratio.get c = .one

variable {u v : Unit} {b : Base} {p : Rational} {e : Exponent}

theorem ofRatio_base (b : Base) (p : Rational) : ofRatio (.base b) p = .ok (ofBase b p) := by
  unfold ofRatio Ratios.ofSimple
  rw [Dimension.simpleBase_base]
  rfl

theorem exponent_ofBase (b : Base) (p : Rational) (c : Base) :
    (ofBase b p).exponent c = if c = b then .one else .zero := Slots.get_single _ _ _ _

theorem ratio_ofBase (b : Base) (p : Rational) (c : Base) :
    (ofBase b p).ratio.get c = if c = b then p else .one := Slots.get_single _ _ _ _

theorem isSingle_ofBase (b : Base) (p : Rational) : (ofBase b p).IsSingle b where
  factor := rfl
  global := rfl
  exponent c hc := by rw [exponent_ofBase, if_neg hc, Word.val_zero]
  ratio c hc := by rw [ratio_ofBase, if_neg hc]

/-- The parts of a power are the powers of the parts. -/
theorem part_powi (hv : u.powi e = .ok v) (q : Part) :
    (v.part q).toRat = (u.part q).toRat ^ e.val :=
  Operation.value_of_part ((Operation.apply_eq_ok_iff (o := .powi e)).1 hv |>.1 q)

theorem exponent_powi (hv : u.powi e = .ok v) (c : Base) :
    (v.exponent c).val = (u.exponent c).val * e.val :=
  (Operation.apply_eq_ok_iff (o := .powi e)).1 hv |>.2.1 c

theorem factor_powi (hv : u.powi e = .ok v) (hf : u.factor = none) : v.factor = none := by
  rw [((Operation.apply_eq_ok_iff (o := .powi e)).1 hv).2.2]
  exact Operation.factor_eq_none hf (by simp)

theorem IsSingle.powi (h : u.IsSingle b) (hv : u.powi e = .ok v) : v.IsSingle b where
  factor := factor_powi hv h.factor
  global := by
    have := part_powi hv .global
    rwa [part, part, h.global, Rational.toRat_one, one_zpow, ← Rational.toRat_one,
      Rational.toRat_inj] at this
  exponent c hc := by rw [exponent_powi hv, h.exponent c hc, zero_mul]
  ratio c hc := by
    have := part_powi hv (.slot c)
    rwa [part, part, h.ratio c hc, Rational.toRat_one, one_zpow, ← Rational.toRat_one,
      Rational.toRat_inj] at this

theorem flatMap_all_eq {f : Base → List Char} (h : ∀ c, c ≠ b → f c = []) :
    Base.all.flatMap f = f b := by
  obtain ⟨l, l', hl⟩ := List.append_of_mem b.mem_all
  have hn := Base.nodup_all
  rw [hl, List.nodup_middle, List.nodup_cons, List.mem_append, not_or] at hn
  have hb : l.flatMap f = [] :=
    List.flatMap_eq_nil_iff.2 fun c hc => h c fun hcb => hn.1.1 (hcb ▸ hc)
  have hb' : l'.flatMap f = [] :=
    List.flatMap_eq_nil_iff.2 fun c hc => h c fun hcb => hn.1.2 (hcb ▸ hc)
  rw [hl, List.flatMap_append, List.flatMap_cons, hb, hb', List.nil_append, List.append_nil]

/-- The name of a unit of one base quantity is the text of its slot. -/
theorem IsSingle.toList_text (h : u.IsSingle b) (he : (u.exponent b).val ≠ 0) :
    u.text.toList = chars b (u.exponent b) (u.ratio.get b) := by
  have hparked (c : Base) (hc : (u.exponent c).val = 0) : u.ratio.get c = .one :=
    h.ratio c fun hcb => he (hcb ▸ hc)
  rw [toList_text_of_parked h.factor h.global hparked,
    flatMap_all_eq fun c hc => slotChars_of_zero (h.exponent c hc), slotChars_of_ne he]

theorem toList_text_ofBase (b : Base) (p : Rational) :
    (ofBase b p).text.toList = chars b .one p := by
  have hb := exponent_ofBase b p b
  have hr := ratio_ofBase b p b
  rw [if_pos rfl] at hb hr
  rw [(isSingle_ofBase b p).toList_text (by rw [hb, Word.val_one]; exact one_ne_zero), hb, hr]

/-- The name of a power of a prefixed base unit is the name of the unit with the exponent, but for
the litre and the powers of an angstrom. -/
theorem text_powi_of_ratio (hp : 0 < p.toRat) (he : e.val ≠ 0) (he' : e.val ≠ 1)
    (hu : ofRatio (.base b) p = .ok u) (hv : u.powi e = .ok v) :
    v.text =
      if b = .si .length ∧ p = .deci ∧ e.val = 3 then "l"
      else if b = .si .length ∧ p = .angstrom then "[1/10000000000]m^" ++ e.text
      else u.text ++ "^" ++ e.text := by
  rw [ofRatio_base, Except.ok.injEq] at hu
  subst hu
  have hexp : v.exponent b = e := by
    rw [Word.ext_iff, exponent_powi hv, exponent_ofBase, if_pos rfl, Word.val_one, one_mul]
  have hratio : (v.ratio.get b).toRat = p.toRat ^ e.val := by
    have := part_powi hv (.slot b)
    rwa [part, part, ratio_ofBase, if_pos rfl] at this
  -- the root of the power is the prefix again, so both slots are written with it
  have hroot : slotPrefix (v.ratio.get b) e = some p :=
    Rational.root?_eq_some_iff.2 ⟨he, hp, hratio.symm⟩
  have hroot1 : slotPrefix p .one = some p :=
    Rational.root?_eq_some_iff.2 ⟨one_ne_zero, hp, zpow_one _⟩
  have htext : v.text.toList = chars b e (v.ratio.get b) := by
    rw [((isSingle_ofBase b p).powi hv).toList_text (by rwa [hexp]), hexp]
  apply String.toList_inj.1
  rw [htext]
  split_ifs with hl ha
  · exact chars_litre hroot (isLitre_iff.2 hl)
  · obtain ⟨rfl, rfl⟩ := ha
    have hnot : ¬isLitre (.si .length) e .angstrom := fun h =>
      absurd (isLitre_iff.1 h).2.1 (by decide)
    rw [chars_of_not_litre hroot hnot, symbolPieces_angstrom he', exponentSuffix_of_ne he',
      String.toList_append]
    simp
  · have hnot1 : ¬isLitre b .one p := fun h => absurd (isLitre_iff.1 h).2.2 (by decide)
    rw [chars_of_not_litre hroot (mt isLitre_iff.1 hl), exponentSuffix_of_ne he',
      String.toList_append, String.toList_append, toList_text_ofBase,
      chars_of_not_litre hroot1 hnot1, exponentSuffix_of_one rfl, symbolPieces_congr ha .one e]
    simp

/-- A mass in brackets keeps its brackets in a power. -/
theorem text_powi_of_mass :
    0 < (Rational.literal 7 2).toRat ∧ ∃ u v,
      ofRatio (.base (.si .mass)) (.literal 7 2) = .ok u ∧ u.powi (.clamp .i32 (-3)) = .ok v ∧
        u.text = "[7/2]g" ∧ v.text = "[7/2]g^-3" := by
  have hp : 0 < (Rational.literal 7 2).toRat := by decide +kernel
  have hu := ofRatio_base (.si .mass) (.literal 7 2)
  obtain ⟨v, hv, -⟩ := bind_eq_ok_iff.1
    (show (ofBase (.si .mass) (.literal 7 2)).powi (.clamp .i32 (-3)) >>= rationalScale =
      .ok (.literal 8 343) by decide +kernel)
  have htext : (ofBase (.si .mass) (.literal 7 2)).text = "[7/2]g" := by decide +kernel
  refine ⟨hp, _, v, hu, hv, htext, ?_⟩
  rw [text_powi_of_ratio hp (by decide) (by decide) hu hv, htext]
  decide +kernel

end Unit

end Metrology
