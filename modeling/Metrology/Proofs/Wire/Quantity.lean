import Metrology.Proofs.Unit.Name
import Metrology.Proofs.Wire.WithUnit

/-!
# Units of quantities on the wire

A unit text that is accepted is the text of the marker (`text_eq_of_readWithUnit`).  How far that
text fixes the scale is then a matter of names: `scale_of_name` lists the names that two scales
share.
-/

namespace Metrology.Wire

/-! ## Names and scales -/

/-- Two named units of one dimension have the same name and different scales exactly if one shifts
a milli of the other to the length, from a base quantity whose exponent is not one; a reader
accepts no other unit text of a different scale. -/
theorem scale_of_name {u v : Unit} (hu : u.IsNamed) (hv : v.IsNamed) (hd : u.dim = v.dim) :
    (u.text = v.text ∧ u.exactScale ≠ v.exactScale ↔
        ∃ b, (u.ShiftsMilli v b ∨ v.ShiftsMilli u b) ∧ (u.exponent b).val ≠ 1) ∧
      ∀ (R : Type) [WireScalar R] members closed (q : Quantity R),
        readWithUnit { unit := v } (.object members closed) = .ok q →
        (.string "unit", .string (Marker.text { unit := u })) ∈ members →
        u.exactScale = v.exactScale ∨
          ∃ b, (u.ShiftsMilli v b ∨ v.ShiftsMilli u b) ∧ (u.exponent b).val ≠ 1 := by
  have names := hu.text_eq_and_scale_ne_iff hv hd
  refine ⟨names, fun R _ members closed q h ht => ?_⟩
  by_cases hs : u.exactScale = v.exactScale
  · exact .inl hs
  · exact .inr (names.1 ⟨(text_eq_of_readWithUnit h ht).symm, hs⟩)

/-- A velocity with a ratio at length. -/
def millimeterPerSecond : Unit := { Unit.ofBase (.si .length) .milli with dim := .velocity }

/-- A thousand meters per second: the slot of the time holds the inverse of its ratio. -/
def meterPerMillisecond : Unit := { Unit.ofBase (.si .time) .kilo with dim := .velocity }

theorem speeds_of_one_name :
    millimeterPerSecond.IsNamed ∧ meterPerMillisecond.IsNamed ∧
      millimeterPerSecond.dim = meterPerMillisecond.dim ∧
      millimeterPerSecond.text = meterPerMillisecond.text ∧
      millimeterPerSecond.exactScale ≠ meterPerMillisecond.exactScale ∧
      (readWithUnit { unit := meterPerMillisecond } (.record [("value", .int 1),
        ("unit", .string (Marker.text { unit := millimeterPerSecond }))]) :
          Read (Quantity (Word .i32))).isOk = true := by
  decide +kernel

theorem speeds_shift_milli :
    ∃ b, (millimeterPerSecond.ShiftsMilli meterPerMillisecond b ∨
      meterPerMillisecond.ShiftsMilli millimeterPerSecond b) ∧
        (millimeterPerSecond.exponent b).val ≠ 1 := by
  have hu : millimeterPerSecond.IsNamed := by decide +kernel
  have hv : meterPerMillisecond.IsNamed := by decide +kernel
  have ht : millimeterPerSecond.text = meterPerMillisecond.text := by decide +kernel
  have hs : millimeterPerSecond.exactScale ≠ meterPerMillisecond.exactScale := by decide +kernel
  exact (scale_of_name hu hv rfl).1.1 ⟨ht, hs⟩

end Metrology.Wire
