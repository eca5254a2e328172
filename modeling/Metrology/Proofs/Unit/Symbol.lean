import Mathlib.Algebra.Order.Field.Power
import Metrology.Proofs.Rational.Root
import Metrology.Proofs.Word
import Metrology.Unit.Name

/-!
# Symbols of base quantities

A named slot, one that is written without brackets, shows a prefix (`SlotName.shown`) by a symbol
from a finite table, followed by the exponent; only the litre is written without its exponent
(`SlotName.named_cases`).  In one base quantity the shown prefix determines the ratio
(`ratio_eq_of_shown`), and the symbols of different prefixes begin differently but for two pairs:
`m` begins `mm`, and `d`, the day, begins `ds`.
-/

namespace Metrology

namespace SlotName

/-! ## Shown prefixes -/

/-- The prefix that the slot shows in front of its unit symbol, or by a name of its own. -/
def shown (b : Base) (e : Exponent) (a : Rational) : Option Rational :=
  (slotPrefix a e).bind (shownPrefix b)

/-- What a shown prefix is multiplied with in the coherent unit. -/
def coherentSize (b : Base) : ℚ := if b = .si .mass then 1000 else 1

theorem coherentSize_ne_zero (b : Base) : coherentSize b ≠ 0 := by
  unfold coherentSize
  split_ifs <;> norm_num

theorem toRat_shownPrefix {b : Base} {p q : Rational} (h : shownPrefix b p = some q) :
    q.toRat = p.toRat * coherentSize b := by
  by_cases hb : b = .si .mass
  · subst hb
    have hm := toOption_eq_some_iff.1 h
    rw [Rational.mul_eq, Rational.exactly_eq_ok_iff] at hm
    rw [hm]
    rfl
  · have : some p = some q := by
      rw [← h]
      unfold shownPrefix
      split
      · exact absurd rfl hb
      · rfl
    rw [coherentSize, if_neg hb, mul_one, Option.some.inj this]

/-- The ratio is the power of the shown prefix, up to the size of the unit symbol. -/
theorem toRat_of_shown {b : Base} {e : Exponent} {a q : Rational} (h : shown b e a = some q) :
    0 < a.toRat ∧ a.toRat = (q.toRat / coherentSize b) ^ e.val := by
  obtain ⟨p, hp, hq⟩ := Option.bind_eq_some_iff.1 h
  obtain ⟨-, ha, hpow⟩ := Rational.root?_zpow hp
  rw [toRat_shownPrefix hq, mul_div_cancel_right₀ _ (coherentSize_ne_zero b)]
  exact ⟨ha, hpow.symm⟩

theorem ratio_eq_of_shown {b : Base} {e : Exponent} {a a' q : Rational}
    (h : shown b e a = some q) (h' : shown b e a' = some q) : a = a' := by
  rw [← Rational.toRat_inj, (toRat_of_shown h).2, (toRat_of_shown h').2]

/-! ## The table of symbols -/

/-- The prefixes of a base quantity that have names of their own. -/
def ownTable : Base → List (Rational × String)
  | .si .time => timeTable
  | .si .length => [(.angstrom, "Å")]
  | _ => []

/-- The symbols that a base quantity is written with, each with the prefix that it shows. -/
def symbolTable (b : Base) : List (Rational × List Char) :=
  (ownTable b).map (fun x => (x.1, x.2.toList)) ++
    prefixTable.map fun x => (x.1, x.2.toList ++ b.unitSymbol.toList)

theorem mem_of_lookup {α β : Type} [BEq α] [LawfulBEq α] {l : List (α × β)} {a : α} {c : β}
    (h : l.lookup a = some c) : (a, c) ∈ l := by
  obtain ⟨l₁, l₂, rfl, -⟩ := List.lookup_eq_some_iff.1 h
  exact List.mem_append_right _ List.mem_cons_self

theorem mem_symbolTable_of_ownName {b : Base} {e : Exponent} {p : Rational} {s : String}
    (h : ownName b e p = some s) : shownPrefix b p = some p ∧ (p, s.toList) ∈ symbolTable b := by
  unfold ownName at h
  split at h
  · exact ⟨rfl, List.mem_append_left _ (List.mem_map_of_mem (mem_of_lookup h))⟩
  · split_ifs at h with hp
    obtain rfl := Option.some.inj h
    rw [hp.1]
    exact ⟨rfl, List.mem_append_left _ (List.mem_singleton.2 rfl)⟩
  · cases h

theorem mem_symbolTable_of_prefixSymbol {q : Rational} {s : String} (b : Base)
    (h : prefixSymbol q = some s) :
    (q, s.toList ++ b.unitSymbol.toList) ∈ symbolTable b :=
  List.mem_append_right _ (List.mem_map_of_mem (f := fun x : Rational × String =>
    (x.1, x.2.toList ++ b.unitSymbol.toList)) (mem_of_lookup h))

/-! ## Pieces -/

/-- The pieces of a prefixed unit without its exponent. -/
def symbolPieces (b : Base) (e : Exponent) (p : Rational) : List String :=
  match ownName b e p with
  | some s => [s]
  | none => prefixed b p

/-- The text of a slot. -/
def chars (b : Base) (e : Exponent) (a : Rational) : List Char :=
  (pieces b e a).flatMap String.toList

section Pieces

variable {b : Base} {e : Exponent} {a p : Rational}

theorem isLitre_iff : isLitre b e p ↔ b = .si .length ∧ p = .deci ∧ e.val = 3 := by
  simp [isLitre, and_assoc]

theorem pieces_of_slotPrefix (h : slotPrefix a e = some p) :
    pieces b e a =
      if isLitre b e p then ["l"] else symbolPieces b e p ++ [exponentSuffix e] := by
  unfold pieces symbolPieces
  simp only [h]
  split_ifs
  · rfl
  · cases ownName b e p <;> rfl

theorem chars_litre (h : slotPrefix a e = some p) (hl : isLitre b e p) : chars b e a = ['l'] := by
  rw [chars, pieces_of_slotPrefix h, if_pos hl]
  decide

theorem chars_of_not_litre (h : slotPrefix a e = some p) (hl : ¬isLitre b e p) :
    chars b e a =
      (symbolPieces b e p).flatMap String.toList ++ (exponentSuffix e).toList := by
  rw [chars, pieces_of_slotPrefix h, if_neg hl, List.flatMap_append, List.flatMap_singleton]

end Pieces

/-! ## Named slots -/

/-- The slot is written without brackets. -/
def IsNamed (b : Base) (e : Exponent) (a : Rational) : Prop := "[" ∉ pieces b e a

instance (b : Base) (e : Exponent) (a : Rational) : Decidable (IsNamed b e a) := by
  unfold IsNamed; infer_instance

/-- A named slot is a litre or a symbol with the exponent. -/
theorem named_cases {b : Base} {e : Exponent} {a : Rational} (h : IsNamed b e a) :
    (b = .si .length ∧ e.val = 3 ∧ shown b e a = some .deci ∧ chars b e a = ['l']) ∨
      ∃ q s, (q, s) ∈ symbolTable b ∧ shown b e a = some q ∧
        chars b e a = s ++ (exponentSuffix e).toList := by
  unfold IsNamed at h
  cases hp : slotPrefix a e with
  | none => simp [pieces, hp, bracketed] at h
  | some p =>
    have hs : shown b e a = shownPrefix b p := by rw [shown, hp, Option.bind_some]
    by_cases hl : isLitre b e p
    · left
      obtain ⟨rfl, rfl, he⟩ := isLitre_iff.1 hl
      exact ⟨rfl, he, hs, chars_litre hp hl⟩
    · right
      rw [chars_of_not_litre hp hl]
      rw [pieces_of_slotPrefix hp, if_neg hl] at h
      unfold symbolPieces at h ⊢
      cases ho : ownName b e p with
      | some s =>
        obtain ⟨h1, h2⟩ := mem_symbolTable_of_ownName ho
        exact ⟨p, s.toList, h2, hs.trans h1, by simp⟩
      | none =>
        simp only [ho, prefixed] at h
        cases hq : shownPrefix b p with
        | none => simp [hq, bracketed] at h
        | some q =>
          cases ht : prefixSymbol q with
          | none => simp [hq, ht, bracketed] at h
          | some t =>
            refine ⟨q, _, mem_symbolTable_of_prefixSymbol b ht, hs.trans hq, ?_⟩
            simp [prefixed, hq, ht]

/-! ## Beginnings of symbols -/

theorem forall_base {P : Base → Prop} (h : ∀ b ∈ Base.all, P b) (b : Base) : P b := h b b.mem_all

theorem symbol_of_one : ∀ b, ∀ x ∈ symbolTable b, x.1 = .one → x.2 = b.unitSymbol.toList :=
  forall_base (by decide +kernel)

theorem symbol_of_milli :
    ∀ b, ∀ x ∈ symbolTable b, x.1 = .milli → x.2 = 'm' :: b.unitSymbol.toList :=
  forall_base (by decide +kernel)

/-- No symbol but that of the second itself begins with its letter. -/
theorem symbol_head : ∀ b, b ≠ .si .time → ∀ x ∈ symbolTable b,
    x.2.head?.isSome ∧ x.2.head? ≠ some 's' :=
  forall_base (by decide +kernel)

theorem litre_ne_symbol :
    ∀ x ∈ symbolTable (.si .length), ¬['l'] <+: x.2 ∧ ¬x.2 <+: ['l'] := by
  decide +kernel

theorem length_symbol_begins : ∀ x ∈ symbolTable (.si .length), ∀ y ∈ symbolTable (.si .length),
    x.2 <+: y.2 → x = y ∨ x = (.one, ['m']) ∧ y = (.milli, ['m', 'm']) := by
  decide +kernel

theorem symbol_begins : ∀ b, b ≠ .si .length → ∀ x ∈ symbolTable b, ∀ y ∈ symbolTable b,
    x.2 <+: y.2 → x = y ∨ b = .si .time ∧ y.2 = x.2 ++ ['s'] :=
  forall_base (by decide +kernel)

theorem milli_symbol_begins : ∀ b, b ≠ .si .length → ∀ x ∈ symbolTable b, ∀ y ∈ symbolTable b,
    x.2 <+: 'm' :: y.2 ∨ 'm' :: y.2 <+: x.2 → x = (.milli, 'm' :: y.2) ∧ y.1 = .one :=
  forall_base (by decide +kernel)

/-- Of two texts that begin the same text one begins the other. -/
theorem begins_or_begins {s t k l : List Char} (h : s ++ k = t ++ l) : s <+: t ∨ t <+: s :=
  List.prefix_or_prefix_of_prefix (List.prefix_append s k) (h ▸ List.prefix_append t l)

/-- A symbol is read off the text that it begins, unless it is followed by the letter of the
second. -/
theorem symbol_unique {b : Base} (hb : b ≠ .si .length) {x y : Rational × List Char}
    (hx : x ∈ symbolTable b) (hy : y ∈ symbolTable b) {k l : List Char}
    (hk : b = .si .time → k.head? ≠ some 's') (hl : b = .si .time → l.head? ≠ some 's')
    (h : x.2 ++ k = y.2 ++ l) : x = y ∧ k = l := by
  have hxy : x = y := by
    obtain hp | hp := begins_or_begins h
    · obtain rfl | ⟨rfl, hs⟩ := symbol_begins b hb x hx y hy hp
      · rfl
      · rw [hs, List.append_assoc, List.append_cancel_left_eq] at h
        exact absurd (by rw [h]; rfl) (hk rfl)
    · obtain rfl | ⟨rfl, hs⟩ := symbol_begins b hb y hy x hx hp
      · rfl
      · rw [hs, List.append_assoc, List.append_cancel_left_eq] at h
        exact absurd (by rw [← h]; rfl) (hl rfl)
  subst hxy
  exact ⟨rfl, List.append_cancel_left h⟩

/-! ## Exponents -/

theorem exponentSuffix_of_one {e : Exponent} (h : e.val = 1) : (exponentSuffix e).toList = [] := by
  rw [exponentSuffix, if_pos h]
  rfl

theorem exponentSuffix_of_ne {e : Exponent} (h : e.val ≠ 1) :
    (exponentSuffix e).toList = '^' :: e.text.toList := by
  rw [exponentSuffix, if_neg h, String.toList_append]
  rfl

theorem exponentSuffix_ne_bracket (e : Exponent) : exponentSuffix e ≠ "[" := by
  intro h
  have h := congrArg String.toList h
  by_cases he : e.val = 1
  · rw [exponentSuffix_of_one he] at h
    exact absurd h (by decide)
  · rw [exponentSuffix_of_ne he] at h
    exact absurd (List.cons.inj h).1 (by decide)

theorem eq_caret_or_isTextChar_of_mem {e : Exponent} {c : Char}
    (h : c ∈ (exponentSuffix e).toList) : c = '^' ∨ Word.isTextChar c := by
  by_cases he : e.val = 1
  · rw [exponentSuffix_of_one he] at h
    cases h
  · rw [exponentSuffix_of_ne he] at h
    exact (List.mem_cons.1 h).imp_right Word.isTextChar_of_mem_text

/-- An exponent is read off the text that it ends. -/
theorem append_exponentSuffix_inj {s t : List Char} {e k : Exponent} (hs : '^' ∉ s) (ht : '^' ∉ t)
    (h : s ++ (exponentSuffix e).toList = t ++ (exponentSuffix k).toList) : s = t ∧ e = k := by
  have hcaret : '^' ∉ e.text.toList := fun h => absurd (Word.isTextChar_of_mem_text h) (by decide)
  by_cases he : e.val = 1 <;> by_cases hk : k.val = 1
  · rw [exponentSuffix_of_one he, exponentSuffix_of_one hk, List.append_nil, List.append_nil] at h
    exact ⟨h, Word.ext (he.trans hk.symm)⟩
  · rw [exponentSuffix_of_one he, exponentSuffix_of_ne hk, List.append_nil] at h
    exact absurd (h ▸ List.mem_append_right t List.mem_cons_self) hs
  · rw [exponentSuffix_of_ne he, exponentSuffix_of_one hk, List.append_nil] at h
    exact absurd (h ▸ List.mem_append_right s List.mem_cons_self) ht
  · rw [exponentSuffix_of_ne he, exponentSuffix_of_ne hk,
      List.append_cons_inj_of_notMem hs hcaret] at h
    exact ⟨h.1, Word.text_injective (String.toList_inj.1 h.2.2)⟩

/-- An exponent does not begin like the second. -/
theorem head?_exponentSuffix_append {e : Exponent} {k : List Char} (h : k.head? ≠ some 's') :
    ((exponentSuffix e).toList ++ k).head? ≠ some 's' := by
  by_cases he : e.val = 1
  · rwa [exponentSuffix_of_one he]
  · rw [exponentSuffix_of_ne he]
    simp

/-! ## The length -/

theorem eq_of_shown_length {e : Exponent} {a q : Rational} (he : e.val = 1)
    (h : shown (.si .length) e a = some q) : a = q := by
  have hq := (toRat_of_shown h).2
  rw [he, zpow_one, coherentSize, if_neg (by decide), div_one] at hq
  exact Rational.toRat_inj.1 hq

/-- Two symbols of the length, the first of which begins the second, are equal, or meter and
millimeter without an exponent. -/
theorem length_symbol_cases {e : Exponent} {x y : Rational × List Char}
    (hx : x ∈ symbolTable (.si .length)) (hy : y ∈ symbolTable (.si .length)) {k l : List Char}
    (hp : x.2 <+: y.2)
    (h : x.2 ++ ((exponentSuffix e).toList ++ k) = y.2 ++ ((exponentSuffix e).toList ++ l)) :
    x = y ∧ k = l ∨ e.val = 1 ∧ x.1 = .one ∧ y.1 = .milli ∧ k = 'm' :: l := by
  obtain rfl | ⟨rfl, rfl⟩ := length_symbol_begins x hx y hy hp
  · exact .inl ⟨rfl, by simpa using h⟩
  · right
    by_cases he : e.val = 1
    · refine ⟨he, rfl, rfl, ?_⟩
      simpa [exponentSuffix_of_one he] using h
    · simp [exponentSuffix_of_ne he] at h

/-- The text that follows a length leaves two lengths in doubt: meter and millimeter. -/
theorem length_cases {e : Exponent} {a a' : Rational} (ha : IsNamed (.si .length) e a)
    (ha' : IsNamed (.si .length) e a') {k l : List Char}
    (h : chars (.si .length) e a ++ k = chars (.si .length) e a' ++ l) :
    a = a' ∧ k = l ∨ e.val = 1 ∧ a = .one ∧ a' = .milli ∧ k = 'm' :: l ∨
      e.val = 1 ∧ a = .milli ∧ a' = .one ∧ l = 'm' :: k := by
  obtain ⟨-, -, hq, hc⟩ | ⟨q, s, hx, hq, hc⟩ := named_cases ha <;>
    obtain ⟨-, -, hq', hc'⟩ | ⟨q', s', hy, hq', hc'⟩ := named_cases ha' <;> rw [hc, hc'] at h
  · exact .inl ⟨ratio_eq_of_shown hq hq', List.append_cancel_left h⟩
  · rw [List.append_assoc] at h
    obtain hp | hp := begins_or_begins h
    · exact absurd hp (litre_ne_symbol _ hy).1
    · exact absurd hp (litre_ne_symbol _ hy).2
  · rw [List.append_assoc] at h
    obtain hp | hp := begins_or_begins h
    · exact absurd hp (litre_ne_symbol _ hx).2
    · exact absurd hp (litre_ne_symbol _ hx).1
  · rw [List.append_assoc, List.append_assoc] at h
    obtain hp | hp := begins_or_begins h
    · obtain ⟨hxy, hkl⟩ | ⟨he, rfl, rfl, hkl⟩ := length_symbol_cases hx hy hp h
      · cases hxy
        exact .inl ⟨ratio_eq_of_shown hq hq', hkl⟩
      · exact .inr (.inl ⟨he, eq_of_shown_length he hq, eq_of_shown_length he hq', hkl⟩)
    · obtain ⟨hxy, hkl⟩ | ⟨he, rfl, rfl, hkl⟩ := length_symbol_cases hy hx hp h.symm
      · cases hxy
        exact .inl ⟨ratio_eq_of_shown hq hq', hkl.symm⟩
      · exact .inr (.inr ⟨he, eq_of_shown_length he hq, eq_of_shown_length he hq', hkl⟩)

end SlotName

end Metrology
