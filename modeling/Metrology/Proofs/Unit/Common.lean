import Mathlib.Data.List.Basic
import Metrology.Catalog
import Metrology.Proofs.Outcome

/-!
# Common units of many operands

The common unit of more than two operands is taken two at a time, in some `Nesting`.  Between two
units of one dimension the left one is kept if it `Unit.precedes` the right one.  Where the scales of
the units whose factor is one can be compared (`Unit.Comparable`), this is a total preorder, and a
common unit is its first least operand (`Nesting.isLeast_common`).  So all nestings of the same
operands agree, in unit and in symbol: `Nesting.common_of_operands` says on which operand, and what
is refused when the dimensions differ.
-/

namespace Metrology

namespace Unit

/-! ## Two units -/

/-- Whether the unit is kept in front of another one of its dimension. -/
def precedes (u v : Unit) : Bool :=
  match u.isPlain, v.isPlain with
  | true, false => true
  | false, true => false
  | false, false => true
  | true, true => v.scale ≥ u.scale

theorem precedes_iff {u v : Unit} :
    u.precedes v ↔ (v.isPlain → u.isPlain ∧ v.scale ≥ u.scale) := by
  unfold precedes
  cases u.isPlain <;> cases v.isPlain <;> simp

theorem keepsLeft_of_dim_eq {u v : Unit} (h : u.dim = v.dim) :
    u.keepsLeft v = .ok (u.precedes v) :=
  if_pos (decide_eq_true h)

theorem keepsLeft_of_dim_ne {u v : Unit} (h : u.dim ≠ v.dim) :
    u.keepsLeft v = .refuse (.incompatible u.dim v.dim) :=
  if_neg (by simpa [isCompatible] using h)

theorem common_of_dim_eq {u v : Unit} (h : u.dim = v.dim) :
    u.common v = .ok (if u.precedes v then u else v) := by
  rw [common, keepsLeft_of_dim_eq h]
  rfl

theorem common_of_dim_ne {u v : Unit} (h : u.dim ≠ v.dim) :
    u.common v = .refuse (.incompatible u.dim v.dim) := by
  rw [common, keepsLeft_of_dim_ne h]
  rfl

/-! ## Comparable scales -/

/-- Among the units of the list whose factor is one, scales are in a total and transitive order. -/
structure Comparable (l : List Unit) : Prop where
  total : ∀ u ∈ l, ∀ v ∈ l, u.isPlain → v.isPlain → u.scale ≥ v.scale ∨ v.scale ≥ u.scale
  trans : ∀ u ∈ l, ∀ v ∈ l, ∀ w ∈ l, u.isPlain → v.isPlain → w.isPlain →
    u.scale ≥ v.scale → v.scale ≥ w.scale → u.scale ≥ w.scale

namespace Comparable

variable {l l' : List Unit} {u v w : Unit}

theorem mono (h : Comparable l) (hs : l' ⊆ l) : Comparable l' where
  total u hu v hv := h.total u (hs hu) v (hs hv)
  trans u hu v hv w hw := h.trans u (hs hu) v (hs hv) w (hs hw)

theorem precedes_total (h : Comparable l) (hu : u ∈ l) (hv : v ∈ l) :
    u.precedes v ∨ v.precedes u := by
  rw [precedes_iff, precedes_iff]
  by_cases pu : u.isPlain
  · by_cases pv : v.isPlain
    · obtain hs | hs := h.total u hu v hv pu pv
      · exact .inr fun _ => ⟨pv, hs⟩
      · exact .inl fun _ => ⟨pu, hs⟩
    · exact .inl fun h => absurd h pv
  · exact .inr fun h => absurd h pu

theorem precedes_trans (h : Comparable l) (hu : u ∈ l) (hv : v ∈ l) (hw : w ∈ l)
    (huv : u.precedes v) (hvw : v.precedes w) : u.precedes w := by
  rw [precedes_iff] at huv hvw ⊢
  intro pw
  obtain ⟨pv, hwv⟩ := hvw pw
  obtain ⟨pu, hvu⟩ := huv pv
  exact ⟨pu, h.trans w hw v hv u hu pw pv pu hwv hvu⟩

end Comparable

end Unit

/-! ## Operands -/

/-- An operand that precedes all that come after it and is preceded by none that comes before. -/
def IsLeast (l : List Marker) (m : Marker) : Prop :=
  ∃ before after, l = before ++ m :: after ∧ (∀ a ∈ before, ¬a.unit.precedes m.unit) ∧
    ∀ a ∈ after, m.unit.precedes a.unit

/-- The operand that a sum of the list keeps: the first of the least scale among those whose factor
is one, and the first of all if there is none. -/
def IsCommon (l : List Marker) (m : Marker) : Prop :=
  ∃ before after, l = before ++ m :: after ∧
    ((∃ a ∈ l, a.unit.isPlain) → m.unit.isPlain ∧
      (∀ a ∈ l, a.unit.isPlain → a.unit.scale ≥ m.unit.scale) ∧
      ∀ a ∈ before, a.unit.isPlain → ¬m.unit.scale ≥ a.unit.scale) ∧
    ((∀ a ∈ l, ¬a.unit.isPlain) → before = [])

namespace IsLeast

variable {l l' : List Marker} {m m' : Marker}

theorem mem (h : IsLeast l m) : m ∈ l := by
  obtain ⟨before, after, rfl, -, -⟩ := h
  exact List.mem_append_right _ List.mem_cons_self

theorem singleton (m : Marker) : IsLeast [m] m := ⟨[], [], rfl, by simp, by simp⟩

theorem unique (h : IsLeast l m) (h' : IsLeast l m') : m = m' := by
  obtain ⟨before, after, rfl, hb, ha⟩ := h
  obtain ⟨before', after', heq, hb', ha'⟩ := h'
  obtain ⟨c, rfl, hc⟩ | ⟨c, rfl, hc⟩ := List.append_eq_append_iff.1 heq
  · cases c with
    | nil => exact (List.cons.inj hc).1
    | cons x c =>
      -- the first operand stands before the second, which comes after it
      obtain ⟨rfl, rfl⟩ := List.cons.inj hc
      exact absurd (ha m' (by simp)) (hb' m (by simp))
  · cases c with
    | nil => exact (List.cons.inj hc).1.symm
    | cons x c =>
      obtain ⟨rfl, rfl⟩ := List.cons.inj hc
      exact absurd (ha' m (by simp)) (hb m' (by simp))

/-- A least operand precedes every operand. -/
theorem precedes (h : IsLeast l m) (hc : Unit.Comparable (l.map Marker.unit)) {a : Marker}
    (ha : a ∈ l) : m.unit.precedes a.unit := by
  have hm := List.mem_map_of_mem (f := Marker.unit) h.mem
  have hau := List.mem_map_of_mem (f := Marker.unit) ha
  obtain ⟨before, after, rfl, hb, hf⟩ := h
  obtain hab | ham | haf := by simpa using ha
  · exact (hc.precedes_total hm hau).resolve_right (hb a hab)
  · subst ham
    exact (hc.precedes_total hm hm).elim id id
  · exact hf a haf

/-- The least operand of two lists is that of the left one if it precedes the other. -/
theorem append_left (h : IsLeast l m) (h' : IsLeast l' m')
    (hc : Unit.Comparable ((l ++ l').map Marker.unit)) (hp : m.unit.precedes m'.unit) :
    IsLeast (l ++ l') m := by
  have hmem {a : Marker} (ha : a ∈ l ++ l') := List.mem_map_of_mem (f := Marker.unit) ha
  have hm := List.mem_append_left l' h.mem
  have hm' := List.mem_append_right l h'.mem
  have hc' : Unit.Comparable (l'.map Marker.unit) :=
    hc.mono (List.map_subset _ (List.subset_append_right l l'))
  have hl' : ∀ a ∈ l', m.unit.precedes a.unit := fun a ha =>
    hc.precedes_trans (hmem hm) (hmem hm') (hmem (List.mem_append_right l ha)) hp
      (h'.precedes hc' ha)
  obtain ⟨before, after, rfl, hb, hf⟩ := h
  refine ⟨before, after ++ l', by simp, hb, fun a ha => ?_⟩
  exact (List.mem_append.1 ha).elim (hf a) (hl' a)

/-- The least operand of two lists is that of the right one if the other does not precede it. -/
theorem append_right (h : IsLeast l m) (h' : IsLeast l' m')
    (hc : Unit.Comparable ((l ++ l').map Marker.unit)) (hp : ¬m.unit.precedes m'.unit) :
    IsLeast (l ++ l') m' := by
  have hmem {a : Marker} (ha : a ∈ l ++ l') := List.mem_map_of_mem (f := Marker.unit) ha
  have hm := List.mem_append_left l' h.mem
  have hm' := List.mem_append_right l h'.mem
  have hcl : Unit.Comparable (l.map Marker.unit) :=
    hc.mono (List.map_subset _ (List.subset_append_left l l'))
  have hl : ∀ a ∈ l, ¬a.unit.precedes m'.unit := fun a ha hap =>
    hp (hc.precedes_trans (hmem hm) (hmem (List.mem_append_left l' ha)) (hmem hm')
      (h.precedes hcl ha) hap)
  obtain ⟨before, after, rfl, hb, hf⟩ := h'
  refine ⟨l ++ before, after, by simp, fun a ha => ?_, hf⟩
  exact (List.mem_append.1 ha).elim (hl a) (hb a)

theorem isCommon (h : IsLeast l m) (hc : Unit.Comparable (l.map Marker.unit)) : IsCommon l m := by
  have hle : ∀ a ∈ l, m.unit.precedes a.unit := fun a ha => h.precedes hc ha
  obtain ⟨before, after, rfl, hb, -⟩ := h
  refine ⟨before, after, rfl, ?_, fun hnone => ?_⟩
  · rintro ⟨p, hp, pp⟩
    refine ⟨(Unit.precedes_iff.1 (hle p hp) pp).1,
      fun a ha pa => (Unit.precedes_iff.1 (hle a ha) pa).2, fun a ha pa hge => ?_⟩
    exact hb a ha (Unit.precedes_iff.2 fun _ => ⟨pa, hge⟩)
  · refine List.eq_nil_iff_forall_not_mem.2 fun a ha => hb a ha (Unit.precedes_iff.2 fun pm => ?_)
    exact absurd pm (hnone m (by simp))

end IsLeast

/-! ## Nestings -/

/-- The order in which the common markers of several operands are taken. -/
inductive Nesting
  | operand (m : Marker)
  | common (s t : Nesting)

namespace Nesting

/-- The operands from left to right. -/
def operands : Nesting → List Marker
  | operand m => [m]
  | common s t => s.operands ++ t.operands

/-- The common marker, taken two at a time. -/
def marker : Nesting → Outcome Marker
  | operand m => .ok m
  | common s t => do
    let a ← s.marker
    let b ← t.marker
    a.common b

/-- The common unit, taken two at a time. -/
def unit : Nesting → Outcome Unit
  | operand m => .ok m.unit
  | common s t => do
    let u ← s.unit
    let v ← t.unit
    u.common v

/-- The operands combined from the left. -/
def left (a : Marker) (l : List Marker) : Nesting :=
  l.foldl (fun t b => common t (operand b)) (operand a)

/-- The operands combined from the right. -/
def right : Marker → List Marker → Nesting
  | a, [] => operand a
  | a, b :: l => common (operand a) (right b l)

theorem operands_left (a : Marker) (l : List Marker) : (left a l).operands = a :: l := by
  have h : ∀ t : Nesting, (l.foldl (fun t b => common t (operand b)) t).operands =
      t.operands ++ l := by
    induction l with
    | nil => simp
    | cons b l ih => intro t; simp [ih, operands]
  exact h (operand a)

theorem operands_right (a : Marker) (l : List Marker) : (right a l).operands = a :: l := by
  induction l generalizing a with
  | nil => rfl
  | cons b l ih => simp [right, operands, ih]

/-! ## One dimension -/

theorem marker_common {a b : Marker} (h : a.unit.dim = b.unit.dim) :
    a.common b = .ok (if a.unit.precedes b.unit then a else b) := by
  rw [Marker.common, Unit.common!, Unit.keepsLeft!, Unit.common_of_dim_eq h,
    Unit.keepsLeft_of_dim_eq h]
  by_cases hp : a.unit.precedes b.unit <;>
    simp [hp, Outcome.demand, bind, Except.bind, pure, Except.pure]

/-- The common marker of operands of one dimension is the first least operand, unit and symbol. -/
theorem isLeast_common {d : Dimension} {t : Nesting} (hd : ∀ a ∈ t.operands, a.unit.dim = d)
    (hc : Unit.Comparable (t.operands.map Marker.unit)) :
    ∃ m, IsLeast t.operands m ∧ t.marker = .ok m ∧ t.unit = .ok m.unit := by
  induction t with
  | operand m => exact ⟨m, .singleton m, rfl, rfl⟩
  | common s t ihs iht =>
    rw [operands] at hd hc ⊢
    have hcs := hc.mono (List.map_subset _ (List.subset_append_left s.operands t.operands))
    have hct := hc.mono (List.map_subset _ (List.subset_append_right s.operands t.operands))
    obtain ⟨a, ha, hsm, hsu⟩ := ihs (fun x hx => hd x (List.mem_append_left _ hx)) hcs
    obtain ⟨b, hb, htm, htu⟩ := iht (fun x hx => hd x (List.mem_append_right _ hx)) hct
    have hab : a.unit.dim = b.unit.dim := by
      rw [hd a (List.mem_append_left _ ha.mem), hd b (List.mem_append_right _ hb.mem)]
    have hm : (common s t).marker = .ok (if a.unit.precedes b.unit then a else b) := by
      rw [marker, hsm, htm]
      exact marker_common hab
    have hu : (common s t).unit = .ok (if a.unit.precedes b.unit then a.unit else b.unit) := by
      rw [unit, hsu, htu]
      exact Unit.common_of_dim_eq hab
    by_cases hp : a.unit.precedes b.unit
    · rw [if_pos hp] at hm hu
      exact ⟨a, ha.append_left hb hc hp, hm, hu⟩
    · rw [if_neg hp] at hm hu
      exact ⟨b, ha.append_right hb hc hp, hm, hu⟩

/-! ## Several dimensions -/

theorem unit_foldl_of_refuse {t : Nesting} {r : Refusal} (h : t.unit = .refuse r)
    (l : List Marker) :
    (l.foldl (fun t b => common t (operand b)) t).unit = .refuse r := by
  induction l generalizing t with
  | nil => exact h
  | cons b l ih =>
    refine ih ?_
    rw [unit, h]
    rfl

/-- From the left, the first operand of another dimension is met by a unit of the first one. -/
theorem unit_foldl_of_find? {d : Dimension} {t : Nesting} {u : Unit} (ht : t.unit = .ok u)
    (hu : u.dim = d) {l : List Marker} {b : Marker}
    (h : l.find? (fun b => b.unit.dim ≠ d) = some b) :
    (l.foldl (fun t b => common t (operand b)) t).unit =
      .refuse (.incompatible d b.unit.dim) := by
  induction l generalizing t u with
  | nil => cases h
  | cons c l ih =>
    have hstep : (common t (operand c)).unit = u.common c.unit := by
      rw [unit, ht]
      rfl
    rw [List.foldl_cons]
    by_cases hc : c.unit.dim = d
    · rw [List.find?_cons_of_neg (by simpa using hc)] at h
      have hdim : u.dim = c.unit.dim := hu.trans hc.symm
      rw [Unit.common_of_dim_eq hdim] at hstep
      refine ih hstep ?_ h
      split_ifs
      · exact hu
      · exact hc
    · rw [List.find?_cons_of_pos (by simpa using hc), Option.some.injEq] at h
      subst h hu
      exact unit_foldl_of_refuse (hstep.trans (Unit.common_of_dim_ne (Ne.symm hc))) l

/-- However the commons of operands of one dimension are nested, unit and symbol are those of one
operand: the first of the least scale among those whose factor is one, or the first of all.  If the
dimensions differ, combining from the left is refused with the dimension of the first operand and
the first one that differs. -/
theorem common_of_operands (a : Marker) (l : List Marker) :
    ((∀ b ∈ l, b.unit.dim = a.unit.dim) → Unit.Comparable ((a :: l).map Marker.unit) →
        ∃ m, IsCommon (a :: l) m ∧ (left a l).unit = .ok m.unit ∧ (right a l).unit = .ok m.unit ∧
          ∀ t : Nesting, t.operands = a :: l → t.marker = .ok m ∧ t.unit = .ok m.unit) ∧
      ((∃ b ∈ l, b.unit.dim ≠ a.unit.dim) →
        ∃ b, l.find? (fun b => b.unit.dim ≠ a.unit.dim) = some b ∧
          (left a l).unit = .refuse (.incompatible a.unit.dim b.unit.dim)) := by
  refine ⟨fun hd hc => ?_, fun ⟨c, hc, hne⟩ => ?_⟩
  · have hd' : ∀ b ∈ a :: l, b.unit.dim = a.unit.dim := List.forall_mem_cons.2 ⟨rfl, hd⟩
    obtain ⟨m, hm, -⟩ := isLeast_common (t := left a l) (operands_left a l ▸ hd')
      (operands_left a l ▸ hc)
    rw [operands_left] at hm
    have hall : ∀ t : Nesting, t.operands = a :: l → t.marker = .ok m ∧ t.unit = .ok m.unit := by
      intro t ht
      obtain ⟨m', hm', h⟩ := isLeast_common (t := t) (ht ▸ hd') (ht ▸ hc)
      rw [ht] at hm'
      rwa [hm.unique hm']
    exact ⟨m, hm.isCommon hc, (hall _ (operands_left a l)).2, (hall _ (operands_right a l)).2, hall⟩
  · cases hf : l.find? (fun b => b.unit.dim ≠ a.unit.dim) with
    | none => exact absurd (List.find?_eq_none.1 hf c hc) (by simpa using hne)
    | some b => exact ⟨b, rfl, unit_foldl_of_find? rfl rfl hf⟩

/-- Energies with a factor that is not one, with none, and with one that is one. -/
def energies : List Marker :=
  [Catalog.kilojoule, Catalog.joule, Catalog.real Catalog.joule 1.0 "Nm"]

theorem common_of_energies :
    (∃ m, IsCommon (Catalog.calorie :: energies) m ∧ m.symbol = some "J" ∧
        ∀ t : Nesting, t.operands = Catalog.calorie :: energies →
          t.marker = .ok m ∧ t.unit = .ok m.unit) ∧
      (left Catalog.joule [Catalog.kilojoule, Catalog.second, Catalog.meter]).unit =
        .refuse (.incompatible Catalog.joule.unit.dim Catalog.second.unit.dim) := by
  have hd : ∀ b ∈ energies, b.unit.dim = Catalog.calorie.unit.dim := by decide +kernel
  have hc : Unit.Comparable ((Catalog.calorie :: energies).map Marker.unit) :=
    ⟨by decide +kernel, by decide +kernel⟩
  have hne : ∃ b ∈ [Catalog.kilojoule, Catalog.second, Catalog.meter],
      b.unit.dim ≠ Catalog.joule.unit.dim := by decide +kernel
  obtain ⟨m, hm, -, -, hall⟩ := (common_of_operands Catalog.calorie energies).1 hd hc
  obtain ⟨b, hb, hr⟩ := (common_of_operands Catalog.joule _).2 hne
  refine ⟨⟨m, hm, ?_, hall⟩, ?_⟩
  · have hs : (left Catalog.calorie energies).marker.map Marker.symbol = .ok (some "J") := by
      decide +kernel
    rw [(hall _ (operands_left _ _)).1] at hs
    exact Except.ok.inj hs
  · rw [List.find?_cons_of_neg (by decide +kernel), List.find?_cons_of_pos (by decide +kernel)] at hb
    cases hb
    exact hr

end Nesting

end Metrology
