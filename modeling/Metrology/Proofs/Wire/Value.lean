import Metrology.Proofs.Rational.Exact
import Metrology.Proofs.Unit.Operation
import Metrology.Proofs.Wire.Reader
import Metrology.Wire.Value

/-!
# Values there and back

Every value is read back from the document that is written for it (`Undoes`), with one exception:
a real factor that is no finite number is written as null, which is read as no factor
(`readUnit_writeUnit`).  In the other direction a pair of words is read as its canonical form and
refused if it has none (`readRational_eq_ok_iff`, `readRational_eq_error_iff`), and what is read
from a larger document has each of its rationals from a pair inside that document
(`Document.Supplies`).  The main statements are `reads_back_and_validates` and
`isReal_of_readUnit_writeUnit`.
-/

namespace Metrology.Wire

variable {α : Type}

/-! ## Words and packs -/

theorem Numeral.signed_ofInt (x : Int) : (Numeral.ofInt x).signed = x := by
  by_cases h : x < 0
  · simp only [signed, ofInt, h, decide_true, if_true]
    omega
  · simp only [signed, ofInt, h, decide_false, Bool.false_eq_true, if_false]
    omega

theorem Numeral.integer?_ofInt {x : Int} (hl : IntFormat.i64.low ≤ x)
    (hh : x ≤ IntFormat.u64.high) : (Numeral.ofInt x).integer? = some x := by
  -- The digits of a negative integer are not zero.
  have hz : (decide (x < 0) && x.natAbs == 0) = false := by
    rw [Bool.and_eq_false_imp, decide_eq_true_eq, beq_eq_false_iff_ne]
    omega
  rw [integer?, signed_ofInt, if_pos]
  simp only [ofInt, hz, hl, hh, Bool.not_false, decide_true, Bool.and_self]

theorem readWord_writeWord (f : IntFormat) : Undoes (readWord f) writeWord := by
  intro w
  have hlow := w.low_le
  unfold readWord writeWord Document.int
  split_ifs with hf
  · have hsign : (f.signed || !(Numeral.ofInt w.val).negative) = true := by
      cases hs : f.signed with
      | true => rfl
      | false =>
        have : f.low = 0 := if_neg (by simp [hs])
        simp only [Numeral.ofInt, Bool.false_or, Bool.not_eq_true', decide_eq_false_iff_not]
        omega
    simp only [readWideWord, Numeral.signed_ofInt, Word.fit?_val, hsign]
    rfl
  · have hl : IntFormat.i64.low ≤ f.low := by revert hf; cases f <;> decide
    have hh : f.high ≤ IntFormat.u64.high := by revert hf; cases f <;> decide
    simp only [readNarrowWord, Numeral.integer?_ofInt (hl.trans hlow) (w.le_high.trans hh),
      Word.fit?_val]

theorem readPack_writePack {read : Document → Read α} {write : α → Document} (n : Nat)
    (h : Undoes read write) : Undoes (readPack n read) (writePack write) := by
  intro p
  refine readPack_eq_ok_iff.2 ⟨_, rfl, ?_⟩
  rw [List.map_map]
  exact List.map_congr_left fun a _ => h a

/-! ## Rationals -/

/-- A pair of words in the form of a rational, canonical or not. -/
def writeFraction (r : Fraction) : Document :=
  .record [("num", writeWord r.num), ("den", writeWord r.den)]

theorem readFraction_writeFraction : Undoes fractionReader.read writeFraction := by
  intro r
  have h : readMembers fractionReader.field fractionReader.start
      [(.string "num", writeWord r.num), (.string "den", writeWord r.den)] true =
        .ok ⟨some r.num, some r.den⟩ := by
    rw [readMembers_cons _ _ rfl (readWord_writeWord _ r.num),
      readMembers_cons _ _ rfl (readWord_writeWord _ r.den)]
    rfl
  exact RecordReader.read_object h

theorem readRational_of_fraction {d : Document} {raw : Fraction}
    (h : fractionReader.read d = .ok raw) :
    readRational d = ofOutcome (Rational.make raw.num raw.den) := by
  rw [readRational, h]
  rfl

/-- A pair of words is read as its canonical form. -/
theorem readRational_eq_ok_iff {d : Document} {raw : Fraction} {a : Rational}
    (h : fractionReader.read d = .ok raw) :
    readRational d = .ok a ↔ raw.Reduces a.toFraction := by
  rw [← Rational.make_eq_ok_iff, readRational_of_fraction h]
  rcases Rational.make raw.num raw.den with (r | r) | a' <;> simp [ofOutcome]

/-- A pair of words is refused exactly if it has no canonical form. -/
theorem readRational_eq_error_iff {d : Document} {raw : Fraction}
    (h : fractionReader.read d = .ok raw) :
    (∃ e, readRational d = .error e) ↔ raw.den.val = 0 ∨ raw.num.val = IntFormat.i64.low ∨
      raw.den.val = IntFormat.i64.low := by
  rw [← Rational.make_eq_error_iff, readRational_of_fraction h]
  rcases Rational.make raw.num raw.den with (r | r) | a <;> simp [ofOutcome]

/-- Nothing but a pair of words is read as a rational. -/
theorem exists_fraction_of_readRational {d : Document} {a : Rational}
    (h : readRational d = .ok a) :
    ∃ raw, fractionReader.read d = .ok raw ∧ raw.Reduces a.toFraction := by
  obtain ⟨raw, hraw, -⟩ := bind_eq_ok_iff.1 h
  exact ⟨raw, hraw, (readRational_eq_ok_iff hraw).1 h⟩

theorem readRational_writeRational : Undoes readRational writeRational := fun a =>
  (readRational_eq_ok_iff (readFraction_writeFraction a.toFraction)).2
    ⟨a.den_pos.ne', a.num_ne_low, a.den_ne_low, a.canonical, rfl⟩

/-! ## Slots -/

section Slots

variable {name : String} {read : Document → Read α} {write : α → Document}

theorem readSlots_writeSlots (h : Undoes read write) :
    Undoes (slotsReader name read).read (writeSlots write) := by
  intro s
  have hm : readMembers (slotsReader name read).field (slotsReader name read).start
      [(.string "si", writePack write s.si), (.string "extra", writePack write s.extra)] true =
        .ok ⟨some s.si, some s.extra⟩ := by
    rw [readMembers_cons _ _ rfl (readPack_writePack 7 h s.si),
      readMembers_cons _ _ rfl (readPack_writePack 4 h s.extra)]
    rfl
  exact RecordReader.read_object hm

/-- A member is one of the two packs, or it is ignored. -/
theorem SlotFields.of_readMember {s s' : SlotFields α} {m : Document × Document}
    (h : readMember (field read) s m = .ok s') :
    (∃ p, readPack 7 read m.2 = .ok p ∧ s' = { s with si := some p }) ∨
      (∃ p, readPack 4 read m.2 = .ok p ∧ s' = { s with extra := some p }) ∨ s' = s := by
  obtain ⟨key, -, ⟨r, hr, hs⟩ | ⟨-, -, rfl⟩⟩ := readMember_eq_ok_iff.1 h
  · unfold field at hr
    split_ifs at hr
    · exact .inl (exists_of_readOnce hr hs)
    · exact .inr (.inl (exists_of_readOnce hr hs))
    · cases hr
  · exact .inr (.inr rfl)

theorem SlotFields.of_finish {s : SlotFields α} {t : Slots α} (h : s.finish = .ok t) :
    s = ⟨some t.si, some t.extra⟩ := by
  obtain ⟨si, extra⟩ := s
  obtain ⟨p, hp, h⟩ := bind_eq_ok_iff.1 h
  obtain ⟨q, hq, h⟩ := bind_eq_ok_iff.1 h
  cases require_eq_ok_iff.1 hp
  cases require_eq_ok_iff.1 hq
  cases h
  rfl

theorem exists_items_of_slotsReader {e e' : Elements} {t : Slots α}
    (h : (slotsReader name read).elements e = .ok (t, e')) :
    ∃ d₁ d₂, e.items = d₁ :: d₂ :: e'.items ∧ readPack 7 read d₁ = .ok t.si ∧
      readPack 4 read d₂ = .ok t.extra := by
  obtain ⟨⟨si, e₁⟩, h₁, h⟩ := bind_eq_ok_iff.1 h
  obtain ⟨⟨extra, e₂⟩, h₂, h⟩ := bind_eq_ok_iff.1 h
  cases h
  obtain ⟨d₁, hd₁, rfl⟩ := Elements.next_eq_ok_iff.1 h₁
  obtain ⟨d₂, hd₂, rfl⟩ := Elements.next_eq_ok_iff.1 h₂
  exact ⟨d₁, d₂, rfl, hd₁, hd₂⟩

theorem isField_si : (slotsReader name read).IsField SlotFields.si Slots.si (readPack 7 read) where
  start := rfl
  member h := by
    obtain ⟨p, hp, rfl⟩ | ⟨p, -, rfl⟩ | rfl := SlotFields.of_readMember h
    · exact .inr ⟨p, hp, rfl⟩
    · exact .inl rfl
    · exact .inl rfl
  finish h := by rw [SlotFields.of_finish h]
  elements h := by
    obtain ⟨d₁, d₂, he, hd, -⟩ := exists_items_of_slotsReader h
    exact ⟨d₁, by simp [he], hd⟩

theorem isField_extra :
    (slotsReader name read).IsField SlotFields.extra Slots.extra (readPack 4 read) where
  start := rfl
  member h := by
    obtain ⟨p, -, rfl⟩ | ⟨p, hp, rfl⟩ | rfl := SlotFields.of_readMember h
    · exact .inl rfl
    · exact .inr ⟨p, hp, rfl⟩
    · exact .inl rfl
  finish h := by rw [SlotFields.of_finish h]
  elements h := by
    obtain ⟨d₁, d₂, he, -, hd⟩ := exists_items_of_slotsReader h
    exact ⟨d₂, by simp [he], hd⟩

end Slots

theorem readDimension_writeDimension : Undoes readDimension writeDimension :=
  readSlots_writeSlots (readWord_writeWord .i32)

theorem readRatios_writeRatios : Undoes readRatios writeRatios :=
  readSlots_writeSlots readRational_writeRational

/-! ## Units -/

theorem readOption_writeFactor (o : Option Float) :
    readOption readFloat (writeFactor o) = .ok (o.filter Float.isFinite) := by
  cases o with
  | none => rfl
  | some x =>
    unfold writeFactor writeFloat
    cases hx : x.isFinite <;> simp [readOption, readFloat, hx, Option.filter]

/-- Only a factor that is no finite number is lost. -/
theorem readUnit_writeUnit (u : Unit) :
    readUnit (writeUnit u) = .ok { u with factor := u.factor.filter Float.isFinite } := by
  have hm : readMembers unitReader.field unitReader.start
      [(.string "dim", writeDimension u.dim), (.string "ratio", writeRatios u.ratio),
        (.string "global", writeRational u.global), (.string "factor", writeFactor u.factor)]
      true = .ok ⟨some u.dim, some u.ratio, some u.global,
        some (u.factor.filter Float.isFinite)⟩ := by
    rw [readMembers_cons _ _ rfl (readDimension_writeDimension u.dim),
      readMembers_cons _ _ rfl (readRatios_writeRatios u.ratio),
      readMembers_cons _ _ rfl (readRational_writeRational u.global),
      readMembers_cons _ _ rfl (readOption_writeFactor u.factor)]
    rfl
  exact RecordReader.read_object hm

theorem readUnit_writeUnit_of_isFinite {u : Unit} (h : ∀ x ∈ u.factor, x.isFinite) :
    readUnit (writeUnit u) = .ok u := by
  have hf : u.factor.filter Float.isFinite = u.factor := by
    cases hx : u.factor with
    | none => rfl
    | some x => exact if_pos (h x hx)
  rw [readUnit_writeUnit, hf]

theorem beq_self_of_isFinite {x : Float} (h : x.isFinite) : (x == x) = true := by
  change x.toModel.unpack.isFinite = true at h
  change (x.toModel.unpack.compare x.toModel.unpack == some .eq) = true
  cases hx : x.toModel.unpack with
  | infinity s => rw [hx] at h; cases h
  | notANumber => rw [hx] at h; cases h
  | zero s => rfl
  | finite s m e hm =>
    have hself : (compare e e).then (compare m m) = .eq := by
      rw [Std.compare_self, Std.compare_self]
      rfl
    cases s with
    | positive =>
      show (some ((compare e e).then (compare m m)) == some .eq) = true
      rw [hself]
      rfl
    | negative =>
      show (some ((compare e e).then (compare m m)).swap == some .eq) = true
      rw [hself]
      rfl

/-- A unit is equal to itself unless its factor is not a number. -/
theorem unit_beq_self {u : Unit} (h : ∀ x ∈ u.factor, x.isFinite) : (u == u) = true := by
  have hf : (u.factor == u.factor) = true := by
    cases hx : u.factor with
    | none => rfl
    | some x => exact beq_self_of_isFinite (h x hx)
  show instBEqUnit.beq u u = true
  simp [instBEqUnit.beq, hf]

/-- A member is one of the four parts, or it is ignored. -/
theorem UnitFields.of_readMember {s s' : UnitFields} {m : Document × Document}
    (h : readMember field s m = .ok s') :
    (∃ d, readDimension m.2 = .ok d ∧ s' = { s with dim := some d }) ∨
      (∃ r, readRatios m.2 = .ok r ∧ s' = { s with ratio := some r }) ∨
      (∃ a, readRational m.2 = .ok a ∧ s' = { s with global := some a }) ∨
      (∃ x, readOption readFloat m.2 = .ok x ∧ s' = { s with factor := some x }) ∨ s' = s := by
  obtain ⟨key, -, ⟨r, hr, hs⟩ | ⟨-, -, rfl⟩⟩ := readMember_eq_ok_iff.1 h
  · unfold field at hr
    split_ifs at hr
    · exact .inl (exists_of_readOnce hr hs)
    · exact .inr (.inl (exists_of_readOnce hr hs))
    · exact .inr (.inr (.inl (exists_of_readOnce hr hs)))
    · exact .inr (.inr (.inr (.inl (exists_of_readOnce hr hs))))
    · cases hr
  · exact .inr (.inr (.inr (.inr rfl)))

theorem UnitFields.of_finish {s : UnitFields} {u : Unit} (h : s.finish = .ok u) :
    s.ratio = some u.ratio ∧ s.global = some u.global := by
  obtain ⟨d, -, h⟩ := bind_eq_ok_iff.1 h
  obtain ⟨r, hr, h⟩ := bind_eq_ok_iff.1 h
  obtain ⟨a, ha, h⟩ := bind_eq_ok_iff.1 h
  cases h
  exact ⟨require_eq_ok_iff.1 hr, require_eq_ok_iff.1 ha⟩

theorem exists_items_of_unitReader {e e' : Elements} {u : Unit}
    (h : unitReader.elements e = .ok (u, e')) :
    ∃ d₁ d₂ d₃ d₄, e.items = d₁ :: d₂ :: d₃ :: d₄ :: e'.items ∧
      readRatios d₂ = .ok u.ratio ∧ readRational d₃ = .ok u.global := by
  obtain ⟨⟨dim, e₁⟩, h₁, h⟩ := bind_eq_ok_iff.1 h
  obtain ⟨⟨ratio, e₂⟩, h₂, h⟩ := bind_eq_ok_iff.1 h
  obtain ⟨⟨global, e₃⟩, h₃, h⟩ := bind_eq_ok_iff.1 h
  obtain ⟨⟨factor, e₄⟩, h₄, h⟩ := bind_eq_ok_iff.1 h
  cases h
  obtain ⟨d₁, -, rfl⟩ := Elements.next_eq_ok_iff.1 h₁
  obtain ⟨d₂, hd₂, rfl⟩ := Elements.next_eq_ok_iff.1 h₂
  obtain ⟨d₃, hd₃, rfl⟩ := Elements.next_eq_ok_iff.1 h₃
  obtain ⟨d₄, -, rfl⟩ := Elements.next_eq_ok_iff.1 h₄
  exact ⟨d₁, d₂, d₃, d₄, rfl, hd₂, hd₃⟩

theorem isField_ratio : unitReader.IsField UnitFields.ratio Unit.ratio readRatios where
  start := rfl
  member h := by
    obtain ⟨d, -, rfl⟩ | ⟨r, hr, rfl⟩ | ⟨a, -, rfl⟩ | ⟨x, -, rfl⟩ | rfl :=
      UnitFields.of_readMember h
    · exact .inl rfl
    · exact .inr ⟨r, hr, rfl⟩
    · exact .inl rfl
    · exact .inl rfl
    · exact .inl rfl
  finish h := (UnitFields.of_finish h).1
  elements h := by
    obtain ⟨d₁, d₂, d₃, d₄, he, hd, -⟩ := exists_items_of_unitReader h
    exact ⟨d₂, by simp [he], hd⟩

theorem isField_global : unitReader.IsField UnitFields.global Unit.global readRational where
  start := rfl
  member h := by
    obtain ⟨d, -, rfl⟩ | ⟨r, -, rfl⟩ | ⟨a, ha, rfl⟩ | ⟨x, -, rfl⟩ | rfl :=
      UnitFields.of_readMember h
    · exact .inl rfl
    · exact .inl rfl
    · exact .inr ⟨a, ha, rfl⟩
    · exact .inl rfl
    · exact .inl rfl
  finish h := (UnitFields.of_finish h).2
  elements h := by
    obtain ⟨d₁, d₂, d₃, d₄, he, -, hd⟩ := exists_items_of_unitReader h
    exact ⟨d₃, by simp [he], hd⟩

/-! ## Where rationals come from -/

/-- The rational is the canonical form of a pair of words that stands in the document. -/
def Document.Supplies (d : Document) (a : Rational) : Prop :=
  ∃ e raw, d.Contains e ∧ fractionReader.read e = .ok raw ∧ raw.Reduces a.toFraction

theorem Document.Holds.supplies {d e : Document} {a : Rational} (h : d.Holds e)
    (he : e.Supplies a) : d.Supplies a := by
  obtain ⟨e', raw, hc, hread⟩ := he
  exact ⟨e', raw, .head h hc, hread⟩

theorem supplies_of_readRational {d : Document} {a : Rational} (h : readRational d = .ok a) :
    d.Supplies a := by
  obtain ⟨raw, hread, hr⟩ := exists_fraction_of_readRational h
  exact ⟨d, raw, .refl, hread, hr⟩

theorem supplies_of_readPack {d : Document} {n : Nat} {p : RatioPack n}
    (h : readPack n readRational d = .ok p) {a : Rational} (ha : a ∈ p.toList) : d.Supplies a := by
  obtain ⟨items, rfl, hitems⟩ := readPack_eq_ok_iff.1 h
  have hmem : (.ok a : Read Rational) ∈ items.map readRational := by
    rw [hitems]
    exact List.mem_map_of_mem ha
  obtain ⟨e, he, hread⟩ := List.mem_map.1 hmem
  exact (Document.Holds.item he).supplies (supplies_of_readRational hread)

theorem supplies_of_readRatios {d : Document} {r : Ratios} (h : readRatios d = .ok r) (b : Base) :
    d.Supplies (r.get b) := by
  cases b with
  | si b =>
    obtain ⟨e, he, hread⟩ := isField_si.exists_holds h
    exact he.supplies (supplies_of_readPack hread (Pack.get_mem_toList r.si b.index))
  | extra b =>
    obtain ⟨e, he, hread⟩ := isField_extra.exists_holds h
    exact he.supplies (supplies_of_readPack hread (Pack.get_mem_toList r.extra b.index))

theorem supplies_of_readUnit {d : Document} {u : Unit} (h : readUnit d = .ok u) (p : Part) :
    d.Supplies (u.part p) := by
  cases p with
  | slot b =>
    obtain ⟨e, he, hread⟩ := isField_ratio.exists_holds h
    exact he.supplies (supplies_of_readRatios hread b)
  | global =>
    obtain ⟨e, he, hread⟩ := isField_global.exists_holds h
    exact he.supplies (supplies_of_readRational hread)

/-- Every value is read back as it was written, a unit without a factor or with a finite one
included.  A pair of words is refused exactly if it has no canonical form, a pack is read from as
many readable items as it has slots, and no rational comes from anything but a pair of words in
the document. -/
theorem reads_back_and_validates :
    Undoes readRational writeRational ∧
      (∀ n, Undoes (readPack n (readWord .i32)) (writePack writeWord)) ∧
      (∀ n, Undoes (readPack n readRational) (writePack writeRational)) ∧
      Undoes readDimension writeDimension ∧
      Undoes readRatios writeRatios ∧
      (∀ u : Unit, (∀ x ∈ u.factor, x.isFinite) →
        readUnit (writeUnit u) = .ok u ∧ (u == u) = true) ∧
      Undoes fractionReader.read writeFraction ∧
      (∀ d raw, fractionReader.read d = .ok raw →
        ((∃ e, readRational d = .error e) ↔ raw.den.val = 0 ∨
          raw.num.val = IntFormat.i64.low ∨ raw.den.val = IntFormat.i64.low) ∧
        ∀ a, readRational d = .ok a ↔ raw.Reduces a.toFraction) ∧
      (∀ (α : Type) n (read : Document → Read α) d (p : Pack α n), readPack n read d = .ok p ↔
        ∃ items, d = .list items true ∧ items.map read = p.toList.map .ok) ∧
      ∀ d, (∀ a, readRational d = .ok a → d.Supplies a) ∧
        (∀ n p, readPack n readRational d = .ok p → ∀ a ∈ p.toList, d.Supplies a) ∧
        (∀ r, readRatios d = .ok r → ∀ b, d.Supplies (r.get b)) ∧
        ∀ u, readUnit d = .ok u → ∀ p, d.Supplies (u.part p) := by
  refine ⟨readRational_writeRational, fun n => readPack_writePack n (readWord_writeWord .i32),
    fun n => readPack_writePack n readRational_writeRational, readDimension_writeDimension,
    readRatios_writeRatios, fun u hu => ⟨readUnit_writeUnit_of_isFinite hu, unit_beq_self hu⟩,
    readFraction_writeFraction, fun d raw h => ?_, fun α n read d p => readPack_eq_ok_iff,
    fun d => ⟨?_, ?_, ?_, ?_⟩⟩
  · exact ⟨readRational_eq_error_iff h, fun a => readRational_eq_ok_iff h⟩
  · exact fun a => supplies_of_readRational
  · exact fun n p h a => supplies_of_readPack h
  · exact fun r => supplies_of_readRatios
  · exact fun u => supplies_of_readUnit

/-! ## Factors that are lost -/

/-- A unit is always read back, and what is read is real exactly if the factor is a finite number.
So a real unit is read as a rational one exactly if its factor is infinite or not a number, and
then its factor counts as one. -/
theorem isReal_of_readUnit_writeUnit (u : Unit) :
    ∃ v, readUnit (writeUnit u) = .ok v ∧
      v.dim = u.dim ∧ v.ratio = u.ratio ∧ v.global = u.global ∧
      (v.isReal = true ↔ ∃ x, u.factor = some x ∧ x.isFinite = true) ∧
      (v.isReal ≠ u.isReal ↔ ∃ x, u.factor = some x ∧ x.isFinite = false) ∧
      ∀ x, u.factor = some x → v.factorValue = if x.isFinite then x else 1.0 := by
  refine ⟨_, readUnit_writeUnit u, rfl, rfl, rfl, ?_⟩
  cases hu : u.factor with
  | none => simp [Unit.isReal, hu]
  | some x => cases hx : x.isFinite <;> simp [Unit.isReal, Unit.factorValue, hu, hx, Option.filter]

/-- A length with a factor beyond all finite numbers. -/
def endlessMeter : Unit := ((Unit.ofBase (.si .length) .one).withFactor 1e200).withFactor 1e200

theorem endlessMeter_read_back :
    endlessMeter.isReal = true ∧
      ∃ v, readUnit (writeUnit endlessMeter) = .ok v ∧ v.isReal = false ∧ v.factorValue = 1.0 := by
  have hlost : endlessMeter.factor.filter Float.isFinite = none := by decide +kernel
  refine ⟨rfl, _, readUnit_writeUnit endlessMeter, ?_, ?_⟩
  · simp only [Unit.isReal, hlost, Option.isSome_none]
  · simp only [Unit.factorValue, hlost, Option.getD_none]

end Metrology.Wire
