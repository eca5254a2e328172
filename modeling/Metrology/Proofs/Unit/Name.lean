import Mathlib.Algebra.Order.BigOperators.GroupWithZero.List
import Metrology.Proofs.Unit.Operation
import Metrology.Proofs.Unit.Symbol

/-!
# What a name says about its unit

The name of a unit puts slots together without a mark between them.  Of two named units of one
dimension with the same name, the slots after the length are read off one by one
(`ratio_eq_of_flatMap_eq`), because the symbols of one base quantity do not begin each other and
the letter of the second, the only exception, begins nothing that follows.  The length leaves one
doubt: a meter that is followed by the letter of milli reads like a millimeter.  `ShiftsMilli` is
this situation, and by `IsNamed.text_eq_iff` there is no other.
-/

namespace Metrology

namespace Unit

/-! ## Named units -/

/-- A rational unit with every ratio at a base quantity that it has an exponent of, and no slot in
brackets. -/
structure IsNamed (u : Unit) : Prop where
  factor : u.factor = none
  global : u.global = .one
  parked : ∀ b, (u.exponent b).val = 0 → u.ratio.get b = .one
  slot : ∀ b, (u.exponent b).val ≠ 0 → SlotName.IsNamed b (u.exponent b) (u.ratio.get b)

theorem isNamed_iff {u : Unit} :
    u.IsNamed ↔ u.factor.isNone ∧ u.global = .one ∧
      (∀ b ∈ Base.all, (u.exponent b).val = 0 → u.ratio.get b = .one) ∧
      ∀ b ∈ Base.all, (u.exponent b).val ≠ 0 →
        SlotName.IsNamed b (u.exponent b) (u.ratio.get b) := by
  rw [Option.isNone_iff_eq_none]
  constructor
  · rintro ⟨hf, hg, hp, hs⟩
    exact ⟨hf, hg, fun b _ => hp b, fun b _ => hs b⟩
  · rintro ⟨hf, hg, hp, hs⟩
    exact ⟨hf, hg, fun b => hp b b.mem_all, fun b => hs b b.mem_all⟩

instance (u : Unit) : Decidable u.IsNamed := decidable_of_iff' _ isNamed_iff

/-- The text of a base quantity in the name, empty without an exponent. -/
def slotChars (u : Unit) (b : Base) : List Char :=
  if (u.exponent b).val = 0 then [] else SlotName.chars b (u.exponent b) (u.ratio.get b)

/-- The prefix that the name shows for a base quantity. -/
def shown (u : Unit) (b : Base) : Option Rational :=
  SlotName.shown b (u.exponent b) (u.ratio.get b)

theorem slotChars_of_zero {u : Unit} {b : Base} (h : (u.exponent b).val = 0) :
    u.slotChars b = [] := if_pos h

theorem slotChars_of_ne {u : Unit} {b : Base} (h : (u.exponent b).val ≠ 0) :
    u.slotChars b = SlotName.chars b (u.exponent b) (u.ratio.get b) := if_neg h

theorem flatMap_slotPart (u : Unit) :
    u.slotPart.flatten.flatMap String.toList = Base.all.flatMap u.slotChars := by
  unfold slotPart
  split_ifs with h
  · have hz : ∀ b, (u.dim.get b).val = 0 := by
      simpa [Dimension.isDimensionless, Dimension.countNonzero, Slots.count_eq_zero_iff,
        Dimension.nonzero] using h
    symm
    exact List.flatMap_eq_nil_iff.2 fun b _ => slotChars_of_zero (hz b)
  · rw [List.flatten_singleton, List.flatMap_assoc]
    induction Base.all with
    | nil => rfl
    | cons b l ih =>
      by_cases hb : (u.exponent b).val = 0
      · rw [List.filter_cons_of_neg (by simpa using hb), List.flatMap_cons, slotChars_of_zero hb, ih]
        rfl
      · rw [List.filter_cons_of_pos (by simpa using hb), List.flatMap_cons, List.flatMap_cons,
          slotChars_of_ne hb, ih]
        rfl

/-- Without parked ratios nothing stands in front of the name. -/
theorem coefficient_eq_one {u : Unit} (hg : u.global = .one)
    (hp : ∀ b, (u.exponent b).val = 0 → u.ratio.get b = .one) : u.coefficient = some .one := by
  unfold Unit.coefficient
  rw [hg]
  have : ∀ l : List Base, (∀ b ∈ l, u.ratio.get b = .one) → l.foldl (fun acc b => acc.bind fun c =>
      (c.mul (u.ratio.get b)).toOption) (some Rational.one) = some .one := by
    intro l hl
    induction l with
    | nil => rfl
    | cons b l ih =>
      rw [List.foldl_cons, hl b List.mem_cons_self, Option.bind_some, Rational.mul_one_eq]
      exact ih fun b' hb' => hl b' (List.mem_cons_of_mem b hb')
  refine this _ fun b hb => hp b ?_
  simpa using (List.mem_filter.1 hb).2

theorem toList_text_of_parked {u : Unit} (hf : u.factor = none) (hg : u.global = .one)
    (hp : ∀ b, (u.exponent b).val = 0 → u.ratio.get b = .one) :
    u.text.toList = Base.all.flatMap u.slotChars := by
  have hfactor : u.factorPart = [] := by rw [factorPart, isReal, hf]; rfl
  have hcoeff : u.coefficientPart = [] := by
    rw [coefficientPart, coefficient_eq_one hg hp]
    rfl
  have hpieces : u.pieces = u.slotPart.flatten := by
    rw [pieces, hfactor, hcoeff]
    unfold slotPart
    split_ifs <;> simp
  rw [text, String.toList_join, hpieces, flatMap_slotPart]

theorem IsNamed.toList_text {u : Unit} (h : u.IsNamed) :
    u.text.toList = Base.all.flatMap u.slotChars :=
  toList_text_of_parked h.factor h.global h.parked

/-! ## Reading a name slot by slot -/

section Text

variable {u v : Unit} {l : List Base}

/-- A base quantity other than the length is written with a symbol of the table. -/
theorem IsNamed.slotChars_eq (hu : u.IsNamed) {b : Base} (hb : b ≠ .si .length)
    (he : (u.exponent b).val ≠ 0) :
    ∃ x ∈ SlotName.symbolTable b, u.shown b = some x.1 ∧
      u.slotChars b = x.2 ++ (SlotName.exponentSuffix (u.exponent b)).toList := by
  rw [slotChars_of_ne he]
  obtain ⟨h, -⟩ | ⟨q, s, hx, hq, hs⟩ := SlotName.named_cases (hu.slot b he)
  · exact absurd h hb
  · exact ⟨(q, s), hx, hq, hs⟩

theorem exponent_eq (hd : u.dim = v.dim) (b : Base) : u.exponent b = v.exponent b := by
  rw [exponent, exponent, hd]

theorem ratio_eq_of_shown (hd : u.dim = v.dim) {b : Base} {q : Rational} (h : u.shown b = some q)
    (h' : v.shown b = some q) : u.ratio.get b = v.ratio.get b := by
  rw [shown, exponent_eq hd] at h
  exact SlotName.ratio_eq_of_shown h h'

/-- After the time no symbol begins like the second. -/
theorem IsNamed.head?_ne (hu : u.IsNamed) (hl : .si .length ∉ l) (ht : .si .time ∉ l) :
    (l.flatMap u.slotChars).head? ≠ some 's' := by
  induction l with
  | nil => simp
  | cons b l ih =>
    rw [List.mem_cons, not_or] at hl ht
    rw [List.flatMap_cons]
    by_cases he : (u.exponent b).val = 0
    · rw [slotChars_of_zero he]
      exact ih hl.2 ht.2
    · obtain ⟨x, hx, -, hc⟩ := hu.slotChars_eq (Ne.symm hl.1) he
      obtain ⟨hsome, hne⟩ := SlotName.symbol_head b (Ne.symm ht.1) x hx
      rwa [hc, List.append_assoc, List.head?_append, Option.or_of_isSome hsome]

/-- What follows a symbol does not begin like the second, if the symbol is one of the time. -/
theorem IsNamed.head?_suffix_ne (hu : u.IsNamed) {b : Base} (hn : (b :: l).Nodup)
    (hl : .si .length ∉ l) (hb : b = .si .time) :
    ((SlotName.exponentSuffix (u.exponent b)).toList ++ l.flatMap u.slotChars).head? ≠ some 's' :=
  SlotName.head?_exponentSuffix_append (hu.head?_ne hl (hb ▸ (List.nodup_cons.1 hn).1))

/-- Without the length, the text determines every ratio. -/
theorem ratio_eq_of_flatMap_eq (hu : u.IsNamed) (hv : v.IsNamed) (hd : u.dim = v.dim)
    (hn : l.Nodup) (hl : .si .length ∉ l) (h : l.flatMap u.slotChars = l.flatMap v.slotChars) :
    ∀ b ∈ l, u.ratio.get b = v.ratio.get b := by
  induction l with
  | nil => simp
  | cons b l ih =>
    rw [List.mem_cons, not_or] at hl
    rw [List.flatMap_cons, List.flatMap_cons] at h
    have ih := ih (List.nodup_cons.1 hn).2 hl.2
    by_cases he : (u.exponent b).val = 0
    · have he' : (v.exponent b).val = 0 := exponent_eq hd b ▸ he
      rw [slotChars_of_zero he, slotChars_of_zero he'] at h
      exact List.forall_mem_cons.2 ⟨(hu.parked b he).trans (hv.parked b he').symm, ih h⟩
    · have he' : (v.exponent b).val ≠ 0 := exponent_eq hd b ▸ he
      obtain ⟨x, hx, hq, hc⟩ := hu.slotChars_eq (Ne.symm hl.1) he
      obtain ⟨y, hy, hq', hc'⟩ := hv.slotChars_eq (Ne.symm hl.1) he'
      -- what follows the two symbols begins no other symbol, so both symbols are the same
      have hs := hu.head?_suffix_ne hn hl.2
      have hs' := hv.head?_suffix_ne hn hl.2
      rw [hc, hc', List.append_assoc, List.append_assoc] at h
      obtain ⟨rfl, hrest⟩ := SlotName.symbol_unique (Ne.symm hl.1) hx hy hs hs' h
      rw [exponent_eq hd, List.append_cancel_left_eq] at hrest
      exact List.forall_mem_cons.2 ⟨ratio_eq_of_shown hd hq hq', ih hrest⟩

/-- A text that differs by a leading `m` only: the first base quantity that is written shows milli
in one unit and nothing in the other. -/
theorem milli_of_flatMap_eq (hu : u.IsNamed) (hv : v.IsNamed) (hd : u.dim = v.dim) (hn : l.Nodup)
    (hl : .si .length ∉ l) (h : l.flatMap u.slotChars = 'm' :: l.flatMap v.slotChars) :
    ∃ b, l.find? (fun b => (u.exponent b).val ≠ 0) = some b ∧ u.shown b = some .milli ∧
      v.shown b = some .one ∧ ∀ b' ∈ l, b' ≠ b → u.ratio.get b' = v.ratio.get b' := by
  induction l with
  | nil => simp at h
  | cons b l ih =>
    rw [List.mem_cons, not_or] at hl
    rw [List.flatMap_cons, List.flatMap_cons] at h
    have hnl := (List.nodup_cons.1 hn).2
    by_cases he : (u.exponent b).val = 0
    · have he' : (v.exponent b).val = 0 := exponent_eq hd b ▸ he
      rw [slotChars_of_zero he, slotChars_of_zero he'] at h
      obtain ⟨c, hc, hm, ho, hr⟩ := ih hnl hl.2 h
      refine ⟨c, ?_, hm, ho, List.forall_mem_cons.2 ⟨fun _ => ?_, hr⟩⟩
      · rwa [List.find?_cons_of_neg (by simpa using he)]
      · exact (hu.parked b he).trans (hv.parked b he').symm
    · have he' : (v.exponent b).val ≠ 0 := exponent_eq hd b ▸ he
      obtain ⟨x, hx, hq, hc⟩ := hu.slotChars_eq (Ne.symm hl.1) he
      obtain ⟨y, hy, hq', hc'⟩ := hv.slotChars_eq (Ne.symm hl.1) he'
      rw [hc, hc', List.append_assoc, List.append_assoc, ← List.cons_append] at h
      obtain ⟨rfl, ho⟩ :=
        SlotName.milli_symbol_begins b (Ne.symm hl.1) x hx y hy (SlotName.begins_or_begins h)
      rw [exponent_eq hd, List.append_cancel_left_eq, List.append_cancel_left_eq] at h
      -- the letter is used up, and the rest is one text of both units
      refine ⟨b, List.find?_cons_of_pos (by simpa using he), hq, ho ▸ hq', ?_⟩
      refine List.forall_mem_cons.2 ⟨fun hb => absurd rfl hb, fun b' hb' _ => ?_⟩
      exact ratio_eq_of_flatMap_eq hu hv hd hnl hl.2 h b' hb'

end Text

/-! ## Names in doubt -/

/-- The meter of the first unit stands before the milli of `b`, and the millimeter of the second
before `b` without a prefix, so that both names have the letter twice. -/
structure ShiftsMilli (u v : Unit) (b : Base) : Prop where
  length : (u.exponent (.si .length)).val = 1
  next : Base.all.tail.find? (fun b => (u.exponent b).val ≠ 0) = some b
  meter : u.ratio.get (.si .length) = .one
  millimeter : v.ratio.get (.si .length) = .milli
  milli : u.shown b = some .milli
  plain : v.shown b = some .one
  rest : ∀ b', b' ≠ .si .length → b' ≠ b → u.ratio.get b' = v.ratio.get b'

theorem nodup_tail : Base.all.tail.Nodup := by decide

theorem length_not_mem_tail : .si .length ∉ Base.all.tail := by decide

theorem mem_tail {b : Base} (hb : b ≠ .si .length) : b ∈ Base.all.tail :=
  (List.mem_cons.1 b.mem_all).resolve_left hb

section Doubt

variable {u v : Unit} {b : Base}

theorem slotChars_eq_of_ratio_eq (hd : u.dim = v.dim) (h : u.ratio.get b = v.ratio.get b) :
    u.slotChars b = v.slotChars b := by
  rw [slotChars, slotChars, exponent_eq hd, h]

theorem IsNamed.ext (hu : u.IsNamed) (hv : v.IsNamed) (hd : u.dim = v.dim)
    (h : ∀ b, u.ratio.get b = v.ratio.get b) : u = v := by
  refine ext_part (fun b => by rw [hd]) (fun p => ?_) (hu.factor.trans hv.factor.symm)
  cases p with
  | slot b => exact h b
  | global => exact hu.global.trans hv.global.symm

theorem IsNamed.toList_text_eq_append (hu : u.IsNamed) :
    u.text.toList = u.slotChars (.si .length) ++ Base.all.tail.flatMap u.slotChars := hu.toList_text

/-- A length without an exponent leaves no doubt, and one with an exponent only that of the
symbols. -/
theorem IsNamed.length_cases (hu : u.IsNamed) (hv : v.IsNamed) (hd : u.dim = v.dim)
    {k l : List Char} (h : u.slotChars (.si .length) ++ k = v.slotChars (.si .length) ++ l) :
    u.ratio.get (.si .length) = v.ratio.get (.si .length) ∧ k = l ∨
      (u.exponent (.si .length)).val = 1 ∧ u.ratio.get (.si .length) = .one ∧
        v.ratio.get (.si .length) = .milli ∧ k = 'm' :: l ∨
      (u.exponent (.si .length)).val = 1 ∧ u.ratio.get (.si .length) = .milli ∧
        v.ratio.get (.si .length) = .one ∧ l = 'm' :: k := by
  have hee := exponent_eq hd (.si .length)
  by_cases he : (u.exponent (.si .length)).val = 0
  · have he' : (v.exponent (.si .length)).val = 0 := hee ▸ he
    rw [slotChars_of_zero he, slotChars_of_zero he'] at h
    exact .inl ⟨(hu.parked _ he).trans (hv.parked _ he').symm, h⟩
  · have he' : (v.exponent (.si .length)).val ≠ 0 := hee ▸ he
    have hsv := hv.slot _ he'
    rw [slotChars_of_ne he, slotChars_of_ne he', ← hee] at h
    rw [← hee] at hsv
    exact SlotName.length_cases (hu.slot _ he) hsv h

/-- The slots after the length determine the unit together with its ratio of the length. -/
theorem IsNamed.eq_of_tail_eq (hu : u.IsNamed) (hv : v.IsNamed) (hd : u.dim = v.dim)
    (h : u.ratio.get (.si .length) = v.ratio.get (.si .length))
    (ht : Base.all.tail.flatMap u.slotChars = Base.all.tail.flatMap v.slotChars) : u = v := by
  have hr := ratio_eq_of_flatMap_eq hu hv hd nodup_tail length_not_mem_tail ht
  refine hu.ext hv hd fun b => ?_
  by_cases hb : b = .si .length
  · rw [hb, h]
  · exact hr b (mem_tail hb)

theorem IsNamed.eq_or_shiftsMilli (hu : u.IsNamed) (hv : v.IsNamed) (hd : u.dim = v.dim)
    (h : u.text = v.text) : u = v ∨ ∃ b, u.ShiftsMilli v b ∨ v.ShiftsMilli u b := by
  have hl := congrArg String.toList h
  rw [hu.toList_text_eq_append, hv.toList_text_eq_append] at hl
  obtain ⟨h0, ht⟩ | ⟨he, hone, hmilli, ht⟩ | ⟨he, hmilli, hone, ht⟩ := hu.length_cases hv hd hl
  · exact .inl (hu.eq_of_tail_eq hv hd h0 ht)
  · obtain ⟨b, hb, hm, ho, hr⟩ := milli_of_flatMap_eq hu hv hd nodup_tail length_not_mem_tail ht
    exact .inr ⟨b, .inl ⟨he, hb, hone, hmilli, hm, ho, fun b' h1 => hr b' (mem_tail h1)⟩⟩
  · obtain ⟨b, hb, hm, ho, hr⟩ :=
      milli_of_flatMap_eq hv hu hd.symm nodup_tail length_not_mem_tail ht
    rw [exponent_eq hd] at he
    exact .inr ⟨b, .inr ⟨he, hb, hone, hmilli, hm, ho, fun b' h1 => hr b' (mem_tail h1)⟩⟩

theorem prod_all_single (b : Base) (k : ℚ) :
    (Base.all.map fun c => if c = b then k else 1).prod = k := by
  rw [List.prod_map_eq_pow_single b _ fun c hc _ => if_neg hc,
    List.count_eq_one_of_mem (by decide) b.mem_all, pow_one, if_pos rfl]

namespace ShiftsMilli

theorem ne_length (h : u.ShiftsMilli v b) : b ≠ .si .length := fun hb =>
  length_not_mem_tail (hb ▸ List.mem_of_find?_eq_some h.next)

theorem exponent_ne_zero (h : u.ShiftsMilli v b) : (u.exponent b).val ≠ 0 := by
  simpa using List.find?_some h.next

/-- The meter and the millimeter are written without an exponent. -/
theorem slotChars_length {q : Rational} (hu : u.IsNamed)
    (he : (u.exponent (.si .length)).val = 1) (hq : u.ratio.get (.si .length) = q) :
    ∃ x ∈ SlotName.symbolTable (.si .length), x.1 = q ∧ u.slotChars (.si .length) = x.2 := by
  have hne : (u.exponent (.si .length)).val ≠ 0 := by omega
  rw [slotChars_of_ne hne]
  obtain ⟨-, h3, -⟩ | ⟨p, s, hx, hp, hc⟩ := SlotName.named_cases (hu.slot _ hne)
  · omega
  · rw [SlotName.exponentSuffix_of_one he, List.append_nil] at hc
    exact ⟨(p, s), hx, (SlotName.eq_of_shown_length he hp).symm.trans hq, hc⟩

/-- After the length the first name has one letter more. -/
theorem flatMap_eq (hu : u.IsNamed) (hv : v.IsNamed) (hd : u.dim = v.dim)
    (h : u.ShiftsMilli v b) :
    Base.all.tail.flatMap u.slotChars = 'm' :: Base.all.tail.flatMap v.slotChars := by
  have he := h.exponent_ne_zero
  obtain ⟨-, l, l', hl, hz⟩ := List.find?_eq_some_iff_append.1 h.next
  have hn := nodup_tail
  have hlen := length_not_mem_tail
  rw [hl] at hn hlen ⊢
  have hskip : l.flatMap u.slotChars = [] ∧ l.flatMap v.slotChars = [] := by
    simp only [List.flatMap_eq_nil_iff]
    refine ⟨fun c hc => slotChars_of_zero ?_, fun c hc => slotChars_of_zero ?_⟩
    · simpa using hz c hc
    · rw [← exponent_eq hd]
      simpa using hz c hc
  have hrest : l'.flatMap u.slotChars = l'.flatMap v.slotChars := by
    refine List.flatMap_congr fun c hc => slotChars_eq_of_ratio_eq hd (h.rest c ?_ ?_)
    · rintro rfl
      exact hlen (List.mem_append_right _ (List.mem_cons_of_mem _ hc))
    · rintro rfl
      exact (List.nodup_cons.1 (List.nodup_append.1 hn).2.1).1 hc
  obtain ⟨x, hx, hq, hc⟩ := hu.slotChars_eq h.ne_length he
  obtain ⟨y, hy, hq', hc'⟩ := hv.slotChars_eq h.ne_length (exponent_eq hd b ▸ he)
  have hxm := SlotName.symbol_of_milli b x hx (Option.some.inj (hq.symm.trans h.milli))
  have hyo := SlotName.symbol_of_one b y hy (Option.some.inj (hq'.symm.trans h.plain))
  rw [List.flatMap_append, List.flatMap_append, List.flatMap_cons, List.flatMap_cons, hskip.1,
    hskip.2, hc, hc', hrest, hxm, hyo, exponent_eq hd]
  rfl

theorem text_eq (hu : u.IsNamed) (hv : v.IsNamed) (hd : u.dim = v.dim)
    (h : u.ShiftsMilli v b) : u.text = v.text := by
  obtain ⟨x, hx, hq, hc⟩ := slotChars_length hu h.length h.meter
  obtain ⟨y, hy, hq', hc'⟩ := slotChars_length hv (exponent_eq hd _ ▸ h.length) h.millimeter
  have hxo := SlotName.symbol_of_one _ x hx hq
  have hym := SlotName.symbol_of_milli _ y hy hq'
  apply String.toList_inj.1
  rw [hu.toList_text_eq_append, hv.toList_text_eq_append, h.flatMap_eq hu hv hd, hc, hc', hxo, hym]
  rfl

/-- The ratio at `b` grows by a power of a thousand. -/
theorem toRat_ratio (hd : u.dim = v.dim) (h : u.ShiftsMilli v b) :
    (v.ratio.get b).toRat = (u.ratio.get b).toRat * 1000 ^ (u.exponent b).val := by
  have hv := (SlotName.toRat_of_shown h.plain).2
  have hu := (SlotName.toRat_of_shown h.milli).2
  have hc := SlotName.coherentSize_ne_zero b
  rw [hv, hu, ← exponent_eq hd, ← mul_zpow]
  congr 1
  rw [Rational.toRat_one, Rational.toRat_milli]
  field_simp

/-- The ratio of the length shrinks by a thousand, so one power of a thousand is left. -/
theorem exactScale_right (hu : u.IsNamed) (hv : v.IsNamed) (hd : u.dim = v.dim)
    (h : u.ShiftsMilli v b) :
    v.exactScale = u.exactScale * 1000 ^ ((u.exponent b).val - 1) := by
  have hk : ∀ c, (v.ratio.get c).toRat = (u.ratio.get c).toRat *
      ((if c = .si .length then 1 / 1000 else 1) *
        if c = b then 1000 ^ (u.exponent b).val else 1) := by
    intro c
    by_cases hl : c = .si .length
    · subst hl
      rw [h.meter, h.millimeter, if_pos rfl, if_neg (Ne.symm h.ne_length), Rational.toRat_milli,
        Rational.toRat_one, one_mul, mul_one]
    · by_cases hb : c = b
      · subst hb
        rw [h.toRat_ratio hd, if_neg hl, if_pos rfl, one_mul]
      · rw [h.rest c hl hb, if_neg hl, if_neg hb, one_mul, mul_one]
  rw [exactScale_eq_prod, exactScale_eq_prod, hu.global, hv.global, List.map_congr_left fun c _ => hk c,
    List.prod_map_mul, List.prod_map_mul, prod_all_single, prod_all_single,
    zpow_sub₀ (by norm_num), zpow_one]
  ring

end ShiftsMilli

theorem IsNamed.ratio_pos (hu : u.IsNamed) (b : Base) : 0 < (u.ratio.get b).toRat := by
  by_cases he : (u.exponent b).val = 0
  · rw [hu.parked b he, Rational.toRat_one]
    exact zero_lt_one
  · obtain ⟨-, -, h, -⟩ | ⟨q, s, -, h, -⟩ := SlotName.named_cases (hu.slot b he)
    · exact (SlotName.toRat_of_shown h).1
    · exact (SlotName.toRat_of_shown h).1

theorem IsNamed.exactScale_pos (hu : u.IsNamed) : 0 < u.exactScale := by
  rw [exactScale_eq_prod, hu.global, Rational.toRat_one, mul_one]
  refine List.prod_pos fun x hx => ?_
  obtain ⟨b, -, rfl⟩ := List.mem_map.1 hx
  exact hu.ratio_pos b

/-- The two names of a shift belong to different scales, unless `b` has no exponent written. -/
theorem ShiftsMilli.exactScale_eq_iff (hu : u.IsNamed) (hv : v.IsNamed) (hd : u.dim = v.dim)
    (h : u.ShiftsMilli v b) : u.exactScale = v.exactScale ↔ (u.exponent b).val = 1 := by
  have h0 := hu.exactScale_pos.ne'
  rw [h.exactScale_right hu hv hd, eq_comm, mul_eq_left₀ h0,
    zpow_eq_one_iff_right₀ (by norm_num) (by norm_num), sub_eq_zero]

/-- Two named units of one dimension have the same name exactly if they are equal or one of them
shifts a milli of the other to the length. -/
theorem IsNamed.text_eq_iff (hu : u.IsNamed) (hv : v.IsNamed) (hd : u.dim = v.dim) :
    u.text = v.text ↔ u = v ∨ ∃ b, u.ShiftsMilli v b ∨ v.ShiftsMilli u b := by
  refine ⟨hu.eq_or_shiftsMilli hv hd, ?_⟩
  rintro (rfl | ⟨b, h | h⟩)
  · rfl
  · exact h.text_eq hu hv hd
  · exact (h.text_eq hv hu hd.symm).symm

/-- The same name stands for two scales exactly at a shift to a base quantity whose exponent is
not one. -/
theorem IsNamed.text_eq_and_scale_ne_iff (hu : u.IsNamed) (hv : v.IsNamed) (hd : u.dim = v.dim) :
    u.text = v.text ∧ u.exactScale ≠ v.exactScale ↔
      ∃ b, (u.ShiftsMilli v b ∨ v.ShiftsMilli u b) ∧ (u.exponent b).val ≠ 1 := by
  have shift {b : Base} (h : u.ShiftsMilli v b ∨ v.ShiftsMilli u b) :
      u.exactScale = v.exactScale ↔ (u.exponent b).val = 1 := by
    obtain h | h := h
    · exact h.exactScale_eq_iff hu hv hd
    · rw [eq_comm, h.exactScale_eq_iff hv hu hd.symm, exponent_eq hd]
  rw [hu.text_eq_iff hv hd]
  constructor
  · rintro ⟨rfl | ⟨b, h⟩, hne⟩
    · exact absurd rfl hne
    · exact ⟨b, h, mt (shift h).2 hne⟩
  · rintro ⟨b, h, hne⟩
    exact ⟨.inr ⟨b, h⟩, mt (shift h).1 hne⟩

end Doubt

end Unit

end Metrology
