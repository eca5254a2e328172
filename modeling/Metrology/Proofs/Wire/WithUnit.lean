import Mathlib.Data.List.Induction
import Metrology.Proofs.Matcher
import Metrology.Proofs.Wire.Reader
import Metrology.Wire.Quantity

/-!
# Outcomes of reading a quantity with its unit

The members of the object are read one after the other, and what has been read of them is what
stands under the two known keys (`WithUnitFields.Collects`).  So a member is refused because of its
own key or value, or because its key has been there before (`WithUnitFields.Offends`).  An object is
accepted, in whatever order its members stand, if it has one value and at most the unit text of the
marker; otherwise the first member that offends decides the fault, then the end of the object, then
a missing value, and last the unit (`readWithUnit_outcome`).
-/

namespace Metrology.Wire

/-- What stands under a key, in reading order. -/
def Document.valuesOf (name : String) (members : List (Document × Document)) : List Document :=
  members.filterMap fun m =>
    match m.1 with
    | .string s => if s = name then some m.2 else none
    | _ => none

namespace WithUnitFields

open Document

variable {R : Type} [WireScalar R] {s s' : WithUnitFields R}
  {members before : List (Document × Document)} {m : Document × Document} {e : ReadFault}

/-! ## What has been read -/

/-- A member is a value or a unit, and it is the first of its kind. -/
theorem readMember_eq_ok_iff :
    readMember field s m = .ok s' ↔
      (∃ x, m.1 = .string "value" ∧ s.value = none ∧ WireScalar.read m.2 = .ok x ∧
        s' = { s with value := some x }) ∨
      ∃ t, m.1 = .string "unit" ∧ s.unit = none ∧ m.2 = .string t ∧
        s' = { s with unit := some t } := by
  unfold readMember
  simp only [bind_eq_ok_iff, readKey_eq_ok_iff]
  constructor
  · rintro ⟨key, hk, r, hr, h⟩
    unfold field at hr
    split_ifs at hr with h1 h2
    · obtain ⟨hs, rfl⟩ := readOnce_eq_ok_iff.1 hr
      obtain ⟨x, hx, rfl⟩ := map_eq_ok_iff.1 h
      exact .inl ⟨x, h1 ▸ hk, hs, hx, rfl⟩
    · obtain ⟨hs, rfl⟩ := readOnce_eq_ok_iff.1 hr
      obtain ⟨t, ht, rfl⟩ := map_eq_ok_iff.1 h
      exact .inr ⟨t, h2 ▸ hk, hs, readString_eq_ok_iff.1 ht, rfl⟩
  · rintro (⟨x, hk, hs, hx, rfl⟩ | ⟨t, hk, hs, ht, rfl⟩)
    · refine ⟨"value", hk, _, readOnce_eq_ok_iff.2 ⟨hs, rfl⟩, ?_⟩
      exact map_eq_ok_iff.2 ⟨x, hx, rfl⟩
    · refine ⟨"unit", hk, _, readOnce_eq_ok_iff.2 ⟨hs, rfl⟩, ?_⟩
      exact map_eq_ok_iff.2 ⟨t, readString_eq_ok_iff.2 ht, rfl⟩

/-- The fields hold what stands under their keys, and there are no other keys. -/
structure Collects (members : List (Document × Document)) (s : WithUnitFields R) : Prop where
  known : ∀ m ∈ members, m.1 = .string "value" ∨ m.1 = .string "unit"
  value : (valuesOf "value" members).map WireScalar.read = s.value.toList.map .ok
  unit : valuesOf "unit" members = s.unit.toList.map .string

theorem Collects.value_eq_none_iff (h : Collects members s) :
    s.value = none ↔ valuesOf "value" members = [] := by
  have hv := h.value
  cases hs : s.value with
  | none => simpa [hs] using hv
  | some x =>
    rw [hs] at hv
    simp only [reduceCtorEq, false_iff]
    intro hn
    rw [hn] at hv
    cases hv

theorem Collects.unit_eq_none_iff (h : Collects members s) :
    s.unit = none ↔ valuesOf "unit" members = [] := by
  rw [h.unit]
  cases s.unit <;> simp

theorem valuesOf_append_singleton (name : String) (members : List (Document × Document))
    (k : String) (d : Document) :
    valuesOf name (members ++ [(.string k, d)]) =
      valuesOf name members ++ if k = name then [d] else [] := by
  rw [valuesOf, List.filterMap_append]
  split_ifs with h <;> simp [valuesOf, h]

theorem append_singleton_eq_iff {α β : Type} {l : List β} {b : β} {o : Option α} {f : α → β} :
    l ++ [b] = o.toList.map f ↔ l = [] ∧ ∃ a, o = some a ∧ b = f a := by
  cases o with
  | none => simp
  | some a => simp [List.append_eq_singleton_iff]

/-- A member adds its value to the field of its key, which has to be empty. -/
theorem collects_append_singleton_iff :
    Collects (members ++ [m]) s' ↔
      ∃ s : WithUnitFields R, Collects members s ∧ readMember field s m = .ok s' := by
  obtain ⟨key, d⟩ := m
  constructor
  · rintro ⟨hk, hv, hu⟩
    obtain ⟨hknown, hkey⟩ := List.forall_mem_append.1 hk
    obtain ⟨value, unit⟩ := s'
    obtain rfl | rfl := List.forall_mem_singleton.1 hkey
    · rw [valuesOf_append_singleton, if_pos rfl, List.map_append, List.map_singleton,
        append_singleton_eq_iff] at hv
      rw [valuesOf_append_singleton, if_neg (by decide), List.append_nil] at hu
      obtain ⟨hnil, x, rfl, hx⟩ := hv
      exact ⟨{ unit }, ⟨hknown, hnil, hu⟩, readMember_eq_ok_iff.2 (.inl ⟨x, rfl, rfl, hx, rfl⟩)⟩
    · rw [valuesOf_append_singleton, if_neg (by decide), List.append_nil] at hv
      rw [valuesOf_append_singleton, if_pos rfl, append_singleton_eq_iff] at hu
      obtain ⟨hnil, t, rfl, rfl⟩ := hu
      exact ⟨{ value }, ⟨hknown, hv, hnil⟩, readMember_eq_ok_iff.2 (.inr ⟨t, rfl, rfl, rfl, rfl⟩)⟩
  · rintro ⟨s, ⟨hk, hv, hu⟩, hm⟩
    obtain ⟨x, rfl, hs, hx, rfl⟩ | ⟨t, rfl, hs, rfl, rfl⟩ := readMember_eq_ok_iff.1 hm
    · refine ⟨List.forall_mem_append.2 ⟨hk, List.forall_mem_singleton.2 (.inl rfl)⟩, ?_, ?_⟩
      · rw [valuesOf_append_singleton, if_pos rfl, List.map_append, hv, hs, List.map_singleton, hx]
        rfl
      · rw [valuesOf_append_singleton, if_neg (by decide), List.append_nil, hu]
    · refine ⟨List.forall_mem_append.2 ⟨hk, List.forall_mem_singleton.2 (.inr rfl)⟩, ?_, ?_⟩
      · rw [valuesOf_append_singleton, if_neg (by decide), List.append_nil, hv]
      · rw [valuesOf_append_singleton, if_pos rfl, hu, hs]
        rfl

/-- The run over the members ends with what they hold, if it ends well. -/
theorem foldlM_readMember_eq_ok_iff :
    members.foldlM (readMember field) ({} : WithUnitFields R) = .ok s ↔ Collects members s := by
  induction members using List.reverseRecOn generalizing s with
  | nil =>
    obtain ⟨value, unit⟩ := s
    constructor
    · intro h
      cases h
      exact ⟨by simp, rfl, rfl⟩
    · rintro ⟨-, hv, hu⟩
      cases value <;> cases unit <;> first | rfl | simp [valuesOf] at hv hu
  | append_singleton members m ih =>
    rw [List.foldlM_append, bind_eq_ok_iff, collects_append_singleton_iff]
    refine exists_congr fun s => and_congr ih ?_
    rw [List.foldlM_cons]
    cases readMember field s m <;> rfl

/-! ## What is wrong with a member -/

/-- The fault of a member after the members before it. -/
inductive Offends (R : Type) [WireScalar R] (before : List (Document × Document)) :
    Document × Document → ReadFault → Prop
  | key {k d : Document} : (∀ name, k ≠ .string name) → Offends R before (k, d) .malformed
  | unknown {name : String} {d : Document} : name ≠ "value" → name ≠ "unit" →
    Offends R before (.string name, d) (.data (.unknownField name ["value", "unit"]))
  | repeated {name : String} {d : Document} : name = "value" ∨ name = "unit" →
    valuesOf name before ≠ [] →
    Offends R before (.string name, d) (.data (.duplicateField name))
  | value {d : Document} {e : ReadFault} : valuesOf "value" before = [] →
    (WireScalar.read d : Read R) = .error e → Offends R before (.string "value", d) e
  | unit {d : Document} {e : ReadFault} : valuesOf "unit" before = [] →
    readString d = .error e → Offends R before (.string "unit", d) e

theorem readMember_of_unknown {name : String} {d : Document} (hv : name ≠ "value")
    (hu : name ≠ "unit") :
    readMember field s (.string name, d) =
      .error (.data (.unknownField name ["value", "unit"])) := by
  have hf : field s name = .error (.data (.unknownField name ["value", "unit"])) := by
    rw [field, if_neg hv, if_neg hu]
  rw [readMember_string, hf]
  rfl

theorem readMember_value_eq_error_iff {d : Document} :
    readMember field s (.string "value", d) = .error e ↔
      s.value ≠ none ∧ e = .data (.duplicateField "value") ∨
        s.value = none ∧ (WireScalar.read d : Read R) = .error e :=
  readMember_eq_error_iff_of_readOnce (if_pos rfl)

theorem readMember_unit_eq_error_iff {d : Document} :
    readMember field s (.string "unit", d) = .error e ↔
      s.unit ≠ none ∧ e = .data (.duplicateField "unit") ∨
        s.unit = none ∧ readString d = .error e :=
  readMember_eq_error_iff_of_readOnce ((if_neg (by decide)).trans (if_pos rfl))

theorem Collects.readMember_eq_error_iff (h : Collects before s) :
    readMember field s m = .error e ↔ Offends R before m e := by
  obtain ⟨key, d⟩ := m
  constructor
  · intro he
    by_cases hkey : ∀ name, key ≠ .string name
    · rw [readMember_of_key hkey] at he
      cases he
      exact .key hkey
    obtain ⟨name, rfl⟩ : ∃ name, key = .string name := by simpa using hkey
    by_cases hv : name = "value"
    · subst hv
      obtain ⟨hs, rfl⟩ | ⟨hs, he⟩ := readMember_value_eq_error_iff.1 he
      · exact .repeated (.inl rfl) (mt h.value_eq_none_iff.2 hs)
      · exact .value (h.value_eq_none_iff.1 hs) he
    by_cases hu : name = "unit"
    · subst hu
      obtain ⟨hs, rfl⟩ | ⟨hs, he⟩ := readMember_unit_eq_error_iff.1 he
      · exact .repeated (.inr rfl) (mt h.unit_eq_none_iff.2 hs)
      · exact .unit (h.unit_eq_none_iff.1 hs) he
    rw [readMember_of_unknown hv hu] at he
    cases he
    exact .unknown hv hu
  · rintro (hkey | ⟨hv, hu⟩ | ⟨rfl | rfl, hb⟩ | ⟨hb, he⟩ | ⟨hb, he⟩)
    · exact readMember_of_key hkey
    · exact readMember_of_unknown hv hu
    · exact readMember_value_eq_error_iff.2 (.inl ⟨mt h.value_eq_none_iff.1 hb, rfl⟩)
    · exact readMember_unit_eq_error_iff.2 (.inl ⟨mt h.unit_eq_none_iff.1 hb, rfl⟩)
    · exact readMember_value_eq_error_iff.2 (.inr ⟨h.value_eq_none_iff.2 hb, he⟩)
    · exact readMember_unit_eq_error_iff.2 (.inr ⟨h.unit_eq_none_iff.2 hb, he⟩)

/-- No member offends. -/
def Sound (R : Type) [WireScalar R] (members : List (Document × Document)) : Prop :=
  ∀ before m after, members = before ++ m :: after → ∀ e, ¬Offends R before m e

theorem sound_iff : Sound R members ↔ ∃ s : WithUnitFields R, Collects members s := by
  constructor
  · intro h
    cases hs : members.foldlM (readMember field) ({} : WithUnitFields R) with
    | ok s => exact ⟨s, foldlM_readMember_eq_ok_iff.1 hs⟩
    | error e =>
      obtain ⟨before, m, after, s, hm, hs, he⟩ := foldlM_eq_error_iff.1 hs
      have hc := foldlM_readMember_eq_ok_iff.1 hs
      exact absurd (hc.readMember_eq_error_iff.1 he) (h before m after hm e)
  · rintro ⟨s, hs⟩ before m after rfl e he
    rw [← foldlM_readMember_eq_ok_iff, List.foldlM_append, bind_eq_ok_iff] at hs
    obtain ⟨c, hc, hs⟩ := hs
    have herr := (foldlM_readMember_eq_ok_iff.1 hc).readMember_eq_error_iff.2 he
    rw [List.foldlM_cons, herr] at hs
    cases hs

theorem foldlM_readMember_eq_error_iff :
    members.foldlM (readMember field) ({} : WithUnitFields R) = .error e ↔
      ∃ before m after, members = before ++ m :: after ∧ Sound R before ∧ Offends R before m e := by
  rw [foldlM_eq_error_iff]
  constructor
  · rintro ⟨before, m, after, s, hm, hs, he⟩
    have hc := foldlM_readMember_eq_ok_iff.1 hs
    exact ⟨before, m, after, hm, sound_iff.2 ⟨s, hc⟩, hc.readMember_eq_error_iff.1 he⟩
  · rintro ⟨before, m, after, hm, hsound, he⟩
    obtain ⟨s, hc⟩ := sound_iff.1 hsound
    exact ⟨before, m, after, s, hm, foldlM_readMember_eq_ok_iff.2 hc,
      hc.readMember_eq_error_iff.2 he⟩

/-! ## The end of the object -/

variable {k : Marker} {q : Quantity R}

/-- A unit text is compared with the text of the marker. -/
theorem finish_some (k : Marker) (x : R) (t : String) :
    finish k ⟨some x, some t⟩ =
      if t = k.text then .ok (.ofValue k x) else .error (.data (.unitMismatch k.text t)) := by
  have hw : k.isWritten t = true ↔ t = k.text := Marker.isWritten_iff.trans eq_comm
  show (if k.isWritten t = true then _ else _) = _
  simp only [hw]
  rfl

theorem finish_eq_ok_iff :
    s.finish k = .ok q ↔
      ∃ x, s.value = some x ∧ q = .ofValue k x ∧ (s.unit = none ∨ s.unit = some k.text) := by
  obtain ⟨_ | x, _ | t⟩ := s
  · simp [finish, require, bind, Except.bind]
  · simp [finish, require, bind, Except.bind]
  · simp [finish, require, bind, Except.bind, pure, Except.pure, eq_comm]
  · rw [finish_some]
    split_ifs with ht <;> simp [ht, eq_comm]

theorem finish_eq_error_iff :
    s.finish k = .error e ↔
      s.value = none ∧ e = .data (.missingField "value") ∨
        s.value ≠ none ∧ ∃ t, s.unit = some t ∧ t ≠ k.text ∧
          e = .data (.unitMismatch k.text t) := by
  obtain ⟨_ | x, _ | t⟩ := s
  · simp [finish, require, bind, Except.bind, eq_comm]
  · simp [finish, require, bind, Except.bind, eq_comm]
  · simp [finish, require, bind, Except.bind, pure, Except.pure]
  · rw [finish_some]
    split_ifs with ht <;> simp [ht, eq_comm]

end WithUnitFields

/-! ## The outcome -/

open Document WithUnitFields

section Outcome

variable {R : Type} [WireScalar R]

/-- The object is complete, one value stands in it, at most one unit, which is the text of the
marker, and nothing else; the quantity has that value. -/
structure Accepts (k : Marker) (members : List (Document × Document)) (closed : Bool)
    (q : Quantity R) : Prop where
  closed : closed = true
  known : ∀ m ∈ members, m.1 = .string "value" ∨ m.1 = .string "unit"
  value : ∃ d x, valuesOf "value" members = [d] ∧ WireScalar.read d = .ok x ∧ q = .ofValue k x
  unit : valuesOf "unit" members = [] ∨ valuesOf "unit" members = [.string k.text]

/-- The first member that offends comes first, then an open end, then a missing value, and then a
unit that is not the text of the marker. -/
inductive Rejects (R : Type) [WireScalar R] (k : Marker) (members : List (Document × Document))
    (closed : Bool) : ReadFault → Prop
  | member {before : List (Document × Document)} {m : Document × Document}
    {after : List (Document × Document)} {e : ReadFault} : members = before ++ m :: after →
    Sound R before → Offends R before m e → Rejects R k members closed e
  | openEnd : Sound R members → closed = false → Rejects R k members closed .malformed
  | missing : Sound R members → closed = true → valuesOf "value" members = [] →
    Rejects R k members closed (.data (.missingField "value"))
  | mismatch {t : String} : Sound R members → closed = true → valuesOf "value" members ≠ [] →
    valuesOf "unit" members = [.string t] → t ≠ k.text →
    Rejects R k members closed (.data (.unitMismatch k.text t))

variable {k : Marker} {members others : List (Document × Document)} {closed : Bool}
  {q : Quantity R} {e : ReadFault}

theorem readWithUnit_object (k : Marker) (members : List (Document × Document)) (closed : Bool) :
    (readWithUnit k (.object members closed) : Read (Quantity R)) =
      members.foldlM (readMember field) {} >>= fun s =>
        if closed then s.finish k else .error .malformed := by
  show (members.foldlM (readMember field) ({} : WithUnitFields R) >>= _) >>= _ = _
  cases members.foldlM (readMember field) ({} : WithUnitFields R) with
  | error e => rfl
  | ok s => cases closed <;> rfl

theorem readWithUnit_eq_ok_iff :
    readWithUnit k (.object members closed) = .ok q ↔ Accepts k members closed q := by
  rw [readWithUnit_object, bind_eq_ok_iff]
  constructor
  · rintro ⟨s, hs, h⟩
    obtain ⟨hk, hv, hu⟩ := foldlM_readMember_eq_ok_iff.1 hs
    split_ifs at h with hc
    obtain ⟨x, hx, rfl, hunit⟩ := finish_eq_ok_iff.1 h
    rw [hx] at hv
    obtain ⟨d, hd, hread⟩ := List.map_eq_singleton_iff.1 hv
    refine ⟨hc, hk, ⟨d, x, hd, hread, rfl⟩, ?_⟩
    obtain hnone | hsome := hunit
    · exact .inl (by rw [hu, hnone]; rfl)
    · exact .inr (by rw [hu, hsome]; rfl)
  · rintro ⟨rfl, hk, ⟨d, x, hd, hread, rfl⟩, hunit⟩
    have hv : (valuesOf "value" members).map WireScalar.read = (some x).toList.map .ok := by
      rw [hd, List.map_singleton, hread]
      rfl
    obtain hu | hu := hunit
    · exact ⟨⟨some x, none⟩, foldlM_readMember_eq_ok_iff.2 ⟨hk, hv, hu⟩,
        finish_eq_ok_iff.2 ⟨x, rfl, rfl, .inl rfl⟩⟩
    · exact ⟨⟨some x, some k.text⟩, foldlM_readMember_eq_ok_iff.2 ⟨hk, hv, hu⟩,
        finish_eq_ok_iff.2 ⟨x, rfl, rfl, .inr rfl⟩⟩

theorem readWithUnit_eq_error_iff :
    (readWithUnit k (.object members closed) : Read (Quantity R)) = .error e ↔
      Rejects R k members closed e := by
  rw [readWithUnit_object, bind_eq_error_iff, foldlM_readMember_eq_error_iff]
  constructor
  · rintro (⟨before, m, after, hm, hsound, he⟩ | ⟨s, hs, h⟩)
    · exact .member hm hsound he
    · have hc := foldlM_readMember_eq_ok_iff.1 hs
      have hsound : Sound R members := sound_iff.2 ⟨s, hc⟩
      split_ifs at h with hclosed
      · obtain ⟨hv, rfl⟩ | ⟨hv, t, ht, hne, rfl⟩ := finish_eq_error_iff.1 h
        · exact .missing hsound hclosed (hc.value_eq_none_iff.1 hv)
        · refine .mismatch hsound hclosed (mt hc.value_eq_none_iff.2 hv) ?_ hne
          rw [hc.unit, ht]
          rfl
      · cases h
        exact .openEnd hsound (by simpa using hclosed)
  · rintro (⟨hm, hsound, he⟩ | ⟨hsound, rfl⟩ | ⟨hsound, rfl, hv⟩ | ⟨hsound, rfl, hv, hu, hne⟩)
    · exact .inl ⟨_, _, _, hm, hsound, he⟩
    all_goals
      obtain ⟨s, hc⟩ := sound_iff.1 hsound
      refine .inr ⟨s, foldlM_readMember_eq_ok_iff.2 hc, ?_⟩
    · rfl
    · exact finish_eq_error_iff.2 (.inl ⟨hc.value_eq_none_iff.2 hv, rfl⟩)
    · refine finish_eq_error_iff.2 (.inr ⟨mt hc.value_eq_none_iff.1 hv, _, ?_, hne, rfl⟩)
      have := hc.unit
      rw [hu] at this
      cases hs : s.unit with
      | none => simp [hs] at this
      | some t => simpa [hs, eq_comm] using this

/-- A unit text that is accepted is the text of the marker. -/
theorem text_eq_of_readWithUnit {t : String} (h : readWithUnit k (.object members closed) = .ok q)
    (ht : (.string "unit", .string t) ∈ members) : k.text = t := by
  have hmem : .string t ∈ valuesOf "unit" members := List.mem_filterMap.2 ⟨_, ht, if_pos rfl⟩
  obtain hu | hu := (readWithUnit_eq_ok_iff.1 h).unit
  · rw [hu] at hmem
    cases hmem
  · rw [hu, List.mem_singleton, Document.string.injEq] at hmem
    exact hmem.symm

theorem Accepts.of_perm (h : Accepts k members closed q) (hp : others.Perm members) :
    Accepts k others closed q := by
  obtain ⟨hclosed, hk, ⟨d, x, hd, hread, hq⟩, hunit⟩ := h
  have hvalues (name : String) : (valuesOf name others).Perm (valuesOf name members) :=
    hp.filterMap _
  have hv := hvalues "value"
  have hu := hvalues "unit"
  rw [hd, List.perm_singleton] at hv
  refine ⟨hclosed, fun m hm => hk m (hp.subset hm), ⟨d, x, hv, hread, hq⟩, ?_⟩
  obtain hnil | hsome := hunit
  · rw [hnil, List.perm_nil] at hu
    exact .inl hu
  · rw [hsome, List.perm_singleton] at hu
    exact .inr hu

/-- A quantity is read exactly from one value and at most the unit text of the marker, whatever the
order of the members, and it depends on the value alone.  Anything else is refused with the fault of
the first member that offends, then of an open end, then of a missing value, then of the unit. -/
theorem readWithUnit_outcome (k : Marker) (members : List (Document × Document)) (closed : Bool) :
    (∀ q : Quantity R,
        readWithUnit k (.object members closed) = .ok q ↔ Accepts k members closed q) ∧
      (∀ e, (readWithUnit k (.object members closed) : Read (Quantity R)) = .error e ↔
        Rejects R k members closed e) ∧
      (∀ others : List (Document × Document), others.Perm members → ∀ q : Quantity R,
        readWithUnit k (.object members closed) = .ok q →
          readWithUnit k (.object others closed) = .ok q) ∧
      ∀ others, valuesOf "value" others = valuesOf "value" members → ∀ q q' : Quantity R,
        readWithUnit k (.object members closed) = .ok q →
          readWithUnit k (.object others closed) = .ok q' → q = q' := by
  refine ⟨fun q => readWithUnit_eq_ok_iff, fun e => readWithUnit_eq_error_iff,
    fun others hp q hq => ?_, fun others hv q q' hq hq' => ?_⟩
  · exact readWithUnit_eq_ok_iff.2 ((readWithUnit_eq_ok_iff.1 hq).of_perm hp)
  · obtain ⟨d, x, hd, hread, rfl⟩ := (readWithUnit_eq_ok_iff.1 hq).value
    obtain ⟨d', x', hd', hread', rfl⟩ := (readWithUnit_eq_ok_iff.1 hq').value
    rw [hd', hd, List.singleton_inj] at hv
    rw [hv, hread, Except.ok.injEq] at hread'
    rw [hread']

end Outcome

end Metrology.Wire
