import Mathlib.Algebra.BigOperators.Group.List.Basic
import Mathlib.Data.List.Infix
import Mathlib.Data.List.Perm.Subperm
import Metrology.Proofs.Unit.Scale

/-!
# Arrangements of ratios

The product over slots is computed from the left, and it overflows as soon as a partial product
does not fit.  So an answer is always the exact product, but whether there is one depends on the
slots in which the large and the small ratios stand: tera, tera, pico, pico overflows although the
product is one, and tera, pico, tera, pico does not.  `Unit.rationalScale_outcome` lists the partial
products that have to fit.  Every arrangement of the ratios of a pack has an answer, and then the
same one, exactly if the product of every selection of them fits (`RatioPack.forall_perm_iff`).
-/

namespace Metrology

namespace Rational

/-! ## Partial products -/

/-- The product of the ratios. -/
def exactProduct (l : List Rational) : ℚ := (l.map toRat).prod

/-- The product fits at every step from the left. -/
def FitsStepwise (l : List Rational) : Prop := ∀ p, p <+: l → Representable (exactProduct p)

instance (l : List Rational) : Decidable (FitsStepwise l) :=
  decidable_of_iff (∀ p ∈ l.inits, Representable (exactProduct p)) (by
    simp only [FitsStepwise, List.mem_inits])

/-- The product of every selection of the ratios fits, in whatever order they are taken. -/
def FitsInAnyOrder (l : List Rational) : Prop := ∀ p, p.Subperm l → Representable (exactProduct p)

variable {l k : List Rational}

theorem exactProduct_eq_of_perm (h : k.Perm l) : exactProduct k = exactProduct l :=
  (h.map toRat).prod_eq

/-- The selections of a list are what its arrangements begin with. -/
theorem forall_perm_fitsStepwise_iff : (∀ k, k.Perm l → FitsStepwise k) ↔ FitsInAnyOrder l := by
  constructor
  · intro h p hp
    obtain ⟨k, hk, hpk⟩ := List.subperm_iff.1 hp
    obtain ⟨rest, hrest⟩ := hpk.exists_perm_append
    exact h (p ++ rest) (hrest.symm.trans hk) p (List.prefix_append p rest)
  · intro h k hk p hp
    exact h p (hp.sublist.subperm.trans hk.subperm)

theorem FitsInAnyOrder.fitsStepwise (h : FitsInAnyOrder l) (hk : k.Subperm l) : FitsStepwise k :=
  fun p hp => h p (hp.sublist.subperm.trans hk)

/-! ## Exact if everything on the way fits -/

/-- The computation has the exact value if what it meets on the way fits, and overflows if not. -/
structure ExactIf (fits : Prop) (q : ℚ) (o : Outcome Rational) : Prop where
  ok : fits → ∃ c, o = .ok c ∧ c.toRat = q
  overflow : ¬fits → o = .refuse .overflow

namespace ExactIf

variable {fits fits' : Prop} {q q' : ℚ} {o : Outcome Rational} {f : Rational → Outcome Rational}
  {c : Rational}

theorem eq_ok_iff (h : ExactIf fits q o) : o = .ok c ↔ fits ∧ c.toRat = q := by
  constructor
  · intro ho
    have hfits : fits := by
      by_contra hn
      rw [h.overflow hn] at ho
      cases ho
    obtain ⟨d, hd, hq⟩ := h.ok hfits
    rw [ho, Except.ok.injEq] at hd
    exact ⟨hfits, hd ▸ hq⟩
  · rintro ⟨hfits, hc⟩
    obtain ⟨d, hd, hq⟩ := h.ok hfits
    rw [hd, toRat_inj.1 (hc.trans hq.symm)]

theorem exists_ok_iff (h : ExactIf fits q o) : (∃ c, o = .ok c) ↔ fits := by
  constructor
  · rintro ⟨c, hc⟩
    exact (h.eq_ok_iff.1 hc).1
  · intro hfits
    obtain ⟨c, hc, -⟩ := h.ok hfits
    exact ⟨c, hc⟩

theorem of_exactly (q : ℚ) : ExactIf (Representable q) q (exactly q) where
  ok h := ⟨ofRat q h, dif_pos h, toRat_ofRat q h⟩
  overflow := exactly_of_not

/-- One computation after the other meets what either meets. -/
theorem bind (h : ExactIf fits q o) (hf : ∀ a, a.toRat = q → ExactIf fits' q' (f a)) :
    ExactIf (fits ∧ fits') q' (o >>= f) := by
  by_cases hfits : fits
  · obtain ⟨a, ha, hq⟩ := h.ok hfits
    rw [ha]
    exact ⟨fun hn => (hf a hq).ok hn.2, fun hn => (hf a hq).overflow fun h' => hn ⟨hfits, h'⟩⟩
  · refine ⟨fun hn => absurd hn.1 hfits, fun _ => ?_⟩
    rw [h.overflow hfits]
    rfl

end ExactIf

/-- The product of a list meets its partial products. -/
theorem foldlM_mul_exactIf (l : List Rational) :
    ExactIf (FitsStepwise l) (exactProduct l) (l.foldlM mul .one) := by
  have hstep : ∀ p : List Rational, Representable (toRat .one * (p.map toRat).prod) ↔
      Representable (exactProduct p) := fun p => by
    rw [toRat_one, one_mul, exactProduct]
  refine ⟨fun h => ?_, fun h => ?_⟩
  · refine ⟨ofRat _ (h l (List.prefix_refl l)), foldlM_mul_eq_ok_iff.2 ⟨fun p hp => ?_, ?_⟩,
      toRat_ofRat _ _⟩
    · exact (hstep p).2 (h p hp)
    · rw [toRat_ofRat, toRat_one, one_mul, exactProduct]
  · cases ho : l.foldlM mul .one with
    | ok c => exact absurd (fun p hp => (hstep p).1 ((foldlM_mul_eq_ok_iff.1 ho).1 p hp)) h
    | error e =>
      obtain ⟨l₁, a, l₂, c, -, -, he⟩ := foldlM_eq_error_iff.1 ho
      rw [mul_eq] at he
      by_cases hfit : Representable (c.toRat * a.toRat)
      · rw [exactly, dif_pos hfit] at he
        cases he
      · rw [exactly_of_not hfit] at he
        exact he.symm

end Rational

/-! ## Packs -/

theorem Pack.exists_toList_eq {α : Type} : ∀ {n : ℕ} {l : List α}, l.length = n →
    ∃ p : Pack α n, p.toList = l
  | _, [], rfl => ⟨nil, rfl⟩
  | _, a :: _, rfl => by
    obtain ⟨p, hp⟩ := exists_toList_eq rfl
    exact ⟨cons a p, congrArg (a :: ·) hp⟩

namespace RatioPack

open Rational

variable {n : ℕ}

theorem product_exactIf (p : RatioPack n) :
    ExactIf (FitsStepwise p.toList) (exactProduct p.toList) p.product := by
  rw [product, Pack.foldM_eq_foldlM]
  exact foldlM_mul_exactIf p.toList

/-- All arrangements of a pack have an answer exactly if all selections of it fit. -/
theorem forall_perm_iff {p : RatioPack n} :
    (∀ q : RatioPack n, q.toList.Perm p.toList → ∃ c, q.product = .ok c) ↔
      FitsInAnyOrder p.toList := by
  rw [← forall_perm_fitsStepwise_iff]
  constructor
  · intro h k hk
    obtain ⟨q, rfl⟩ := Pack.exists_toList_eq (hk.length_eq.trans p.length_toList)
    exact (product_exactIf q).exists_ok_iff.1 (h q hk)
  · intro h q hq
    exact (product_exactIf q).exists_ok_iff.2 (h q.toList hq)

/-- Two arrangements of a pack that have an answer have the same answer. -/
theorem product_eq_of_perm {p q : RatioPack n} (h : q.toList.Perm p.toList) {a b : Rational}
    (ha : p.product = .ok a) (hb : q.product = .ok b) : a = b := by
  rw [← toRat_inj, ((product_exactIf p).eq_ok_iff.1 ha).2, ((product_exactIf q).eq_ok_iff.1 hb).2,
    exactProduct_eq_of_perm h]

end RatioPack

/-! ## Units -/

namespace Unit

open Rational

variable {u v : Unit}

/-- Everything fits that is met on the way to the scale: the partial products of the SI ratios and
of the extra ones, the product of both packs, and the scale itself. -/
def ScaleFits (u : Unit) : Prop :=
  FitsStepwise u.ratio.si.toList ∧ FitsStepwise u.ratio.extra.toList ∧
    Representable (exactProduct u.ratio.toList) ∧ Representable u.exactScale

theorem exactScale_eq_exactProduct (u : Unit) :
    u.exactScale = exactProduct u.ratio.toList * u.global.toRat := by
  rw [exactScale_eq_prod, exactProduct, Slots.toList_eq, List.map_map]
  rfl

/-- The units have the same ratios, perhaps in other slots, and the same global ratio. -/
def Rearranges (u v : Unit) : Prop := u.ratio.toList.Perm v.ratio.toList ∧ u.global = v.global

theorem Rearranges.exactScale_eq (h : u.Rearranges v) : u.exactScale = v.exactScale := by
  rw [exactScale_eq_exactProduct, exactScale_eq_exactProduct, exactProduct_eq_of_perm h.1, h.2]

theorem rationalScale_exactIf (u : Unit) : ExactIf u.ScaleFits u.exactScale u.rationalScale := by
  refine (RatioPack.product_exactIf u.ratio.si).bind fun si hsi => ?_
  refine (RatioPack.product_exactIf u.ratio.extra).bind fun extra hextra => ?_
  have hslots : si.toRat * extra.toRat = exactProduct u.ratio.toList := by
    rw [hsi, hextra, exactProduct, exactProduct, exactProduct, Slots.toList, List.map_append,
      List.prod_append]
  have hmul : ExactIf (Representable (exactProduct u.ratio.toList))
      (exactProduct u.ratio.toList) (si.mul extra) := by
    rw [mul_eq, hslots]
    exact .of_exactly _
  refine hmul.bind fun slots hs => ?_
  rw [mul_eq, hs, ← exactScale_eq_exactProduct]
  exact .of_exactly _

/-- Where all selections of the slot ratios fit, it does not matter in which slots they stand. -/
theorem scaleFits_of_rearranges (h : FitsInAnyOrder u.ratio.toList)
    (hu : Representable u.exactScale) (hv : v.Rearranges u) : v.ScaleFits := by
  have hsi : v.ratio.si.toList.Subperm u.ratio.toList :=
    (List.sublist_append_left _ _).subperm.trans hv.1.subperm
  have hextra : v.ratio.extra.toList.Subperm u.ratio.toList :=
    (List.sublist_append_right _ _).subperm.trans hv.1.subperm
  refine ⟨h.fitsStepwise hsi, h.fitsStepwise hextra, h _ hv.1.subperm, ?_⟩
  rw [hv.exactScale_eq]
  exact hu

/-- The exact scale is reported if every product on the way to it fits, and otherwise the
computation overflows.  Units of the same ratios in other slots never report different scales, and
they all report theirs if the products of all selections of the ratios fit.  In the same way a pack
reports its exact product if every partial product fits, and all its arrangements report the same
one exactly if the products of all selections fit. -/
theorem rationalScale_outcome (u : Unit) :
    ExactIf u.ScaleFits u.exactScale u.rationalScale ∧
      (∀ v : Unit, v.Rearranges u →
        ∀ a b, u.rationalScale = .ok a → v.rationalScale = .ok b → a = b) ∧
      (FitsInAnyOrder u.ratio.toList → Representable u.exactScale →
        ∀ v : Unit, v.Rearranges u → ∃ c, v.rationalScale = .ok c ∧ c.toRat = u.exactScale) ∧
      ∀ n (p : RatioPack n),
        ExactIf (FitsStepwise p.toList) (exactProduct p.toList) (RatioPack.product p) ∧
        (∀ q : RatioPack n, q.toList.Perm p.toList →
          ∀ a b, RatioPack.product p = .ok a → RatioPack.product q = .ok b → a = b) ∧
        ((∀ q : RatioPack n, q.toList.Perm p.toList → ∃ c, RatioPack.product q = .ok c) ↔
          FitsInAnyOrder p.toList) := by
  refine ⟨u.rationalScale_exactIf, fun v hv a b ha hb => ?_, fun h hu v hv => ?_, fun n p =>
    ⟨RatioPack.product_exactIf p, fun q hq a b => RatioPack.product_eq_of_perm hq,
      RatioPack.forall_perm_iff⟩⟩
  · rw [← toRat_inj, toRat_of_rationalScale ha, toRat_of_rationalScale hb, hv.exactScale_eq]
  · rw [← hv.exactScale_eq]
    exact v.rationalScale_exactIf.ok (scaleFits_of_rearranges h hu hv)

/-! ## A product that depends on the slots -/

/-- A product of a length, a mass, a time and a current of the given ratios. -/
def fourfold (length mass time current : Rational) : Unit where
  dim := ⟨.cons .one (.cons .one (.cons .one (.cons .one (.replicate 3 .zero)))),
    .replicate 4 .zero⟩
  ratio := ⟨.cons length (.cons mass (.cons time (.cons current (.replicate 3 .one)))),
    .replicate 4 .one⟩
  global := .one
  factor := none

/-- The scale of both units is one, but only the second arrangement of the ratios reports it. -/
theorem rationalScale_fourfold :
    (fourfold .tera .tera .pico .pico).exactScale = 1 ∧ Representable 1 ∧
      (fourfold .tera .tera .pico .pico).rationalScale = .refuse .overflow ∧
      (fourfold .tera .pico .tera .pico).Rearranges (fourfold .tera .tera .pico .pico) ∧
      (fourfold .tera .pico .tera .pico).rationalScale = .ok .one ∧
      RatioPack.product (fourfold .tera .tera .pico .pico).ratio.si = .refuse .overflow ∧
      (fourfold .tera .pico .tera .pico).ratio.si.toList.Perm
        (fourfold .tera .tera .pico .pico).ratio.si.toList ∧
      RatioPack.product (fourfold .tera .pico .tera .pico).ratio.si = .ok .one := by
  refine ⟨by decide +kernel, by decide +kernel, by decide +kernel, ⟨by decide +kernel, rfl⟩,
    by decide +kernel, by decide +kernel, by decide +kernel, by decide +kernel⟩

end Unit

end Metrology
