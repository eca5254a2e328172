import Metrology.Proofs.Rational.Text
import Metrology.Proofs.Unit.Symbol

/-!
# What a slot tells about its ratio

The prefix of a slot is the positive root of its ratio in the exponent, found whenever there is one
(`SlotName.slotPrefix_outcome`).  A slot is written in brackets when the prefix has no symbol, and
then it shows the prefix, or when there is no prefix, and then it shows the ratio
(`SlotName.bracketNumber`).  Texts with and without brackets are never the same, a text without
brackets determines the ratio (`SlotName.ratio_eq_of_named`), and a text in brackets determines the
number that it shows.  One doubt is left, `SlotName.ShowsAlike`: a ratio without a root shows what
its power shows, so the square of a double meter and two square meters are written alike
(`SlotName.chars_eq_iff`).
-/

namespace Metrology.SlotName

/-! ## Prefixes -/

/-- The prefix of a slot is the positive rational that has the ratio as its power, and there is none
only if the exponent is zero or the ratio has no positive root among all rational numbers. -/
theorem slotPrefix_outcome (a : Rational) (e : Exponent) :
    (∀ p : Rational,
        slotPrefix a e = some p ↔ e.val ≠ 0 ∧ 0 < p.toRat ∧ p.powi e = .ok a) ∧
      (slotPrefix a e = none ↔
        e.val = 0 ∨ a.toRat ≤ 0 ∨ ¬∃ x : ℚ, 0 < x ∧ x ^ e.val = a.toRat) := by
  refine ⟨fun p => ?_, Rational.root?_eq_none_iff⟩
  rw [slotPrefix, Rational.root?_eq_some_iff]
  refine and_congr_right fun _ => and_congr_right fun hp => ?_
  have h0 : p ≠ .zero := mt Rational.toRat_eq_zero_iff.2 hp.ne'
  rw [Rational.powi_eq_ok_iff fun h => absurd h h0, eq_comm]

/-- The prefix of inverse square centimeters is centi again. -/
example : slotPrefix (.literal 10000 1) (.clamp .i32 (-2)) = some .centi := by decide +kernel

theorem ratio_eq_of_slotPrefix {a a' p : Rational} {e : Exponent} (h : slotPrefix a e = some p)
    (h' : slotPrefix a' e = some p) : a = a' := by
  rw [← Rational.toRat_inj, ← (Rational.root?_zpow h).2.2, ← (Rational.root?_zpow h').2.2]

/-! ## Slots in brackets -/

/-- The number that a slot in brackets shows: its prefix, or the ratio if it has none. -/
def bracketNumber (e : Exponent) (a : Rational) : Rational := (slotPrefix a e).getD a

theorem prefixSymbol_ne_bracket : ∀ x ∈ prefixTable, x.2 ≠ "[" := by decide +kernel

theorem unitSymbol_ne_bracket : ∀ b : Base, b.unitSymbol ≠ "[" := forall_base (by decide +kernel)

theorem symbol_head_ne_bracket : ∀ b, ∀ x ∈ symbolTable b,
    x.2.head?.isSome ∧ x.2.head? ≠ some '[' :=
  forall_base (by decide +kernel)

theorem ownName_ne_bracket {b : Base} {e : Exponent} {p : Rational} {s : String}
    (h : ownName b e p = some s) : s ≠ "[" := by
  rintro rfl
  exact (symbol_head_ne_bracket b _ (mem_symbolTable_of_ownName h).2).2 rfl

theorem flatMap_bracketed (a : Rational) (b : Base) (e : Exponent) :
    (bracketed a b ++ [exponentSuffix e]).flatMap String.toList =
      '[' :: (a.text.toList ++ ']' :: (b.unitSymbol.toList ++ (exponentSuffix e).toList)) := by
  simp [bracketed]

/-- The pieces of a slot whose prefix has neither a name of its own nor a symbol. -/
theorem pieces_of_not_isNamed {b : Base} {e : Exponent} {a : Rational} (h : ¬IsNamed b e a) :
    pieces b e a = bracketed (bracketNumber e a) b ++ [exponentSuffix e] := by
  have hs := exponentSuffix_ne_bracket e
  rw [IsNamed, not_not] at h
  cases hp : slotPrefix a e with
  | none => simp only [pieces, bracketNumber, hp, Option.getD_none]
  | some p =>
    rw [bracketNumber, hp, Option.getD_some]
    rw [pieces_of_slotPrefix hp] at h ⊢
    by_cases hl : isLitre b e p
    · simp [hl] at h
    rw [if_neg hl] at h ⊢
    unfold symbolPieces at h ⊢
    cases ho : ownName b e p with
    | some s => simp [ho, (ownName_ne_bracket ho).symm, hs.symm] at h
    | none =>
      simp only [ho, prefixed] at h ⊢
      cases ht : (shownPrefix b p).bind prefixSymbol with
      | none => rfl
      | some s =>
        obtain ⟨q, -, hq⟩ := Option.bind_eq_some_iff.1 ht
        have h1 := prefixSymbol_ne_bracket _ (mem_of_lookup hq)
        have h2 := unitSymbol_ne_bracket b
        simp [ht, h1.symm, h2.symm, hs.symm] at h

theorem chars_of_not_isNamed {b : Base} {e : Exponent} {a : Rational} (h : ¬IsNamed b e a) :
    chars b e a = '[' :: ((bracketNumber e a).text.toList ++
      ']' :: (b.unitSymbol.toList ++ (exponentSuffix e).toList)) := by
  rw [chars, pieces_of_not_isNamed h, flatMap_bracketed]

theorem not_isNamed_of_slotPrefix {b : Base} {e : Exponent} {a : Rational}
    (h : slotPrefix a e = none) : ¬IsNamed b e a := by
  simp [IsNamed, pieces, h, bracketed]

/-- The first character tells whether a slot is written in brackets. -/
theorem isNamed_iff_head? {b : Base} {e : Exponent} {a : Rational} :
    IsNamed b e a ↔ (chars b e a).head? ≠ some '[' := by
  constructor
  · intro h
    obtain ⟨-, -, -, hc⟩ | ⟨q, s, hx, -, hc⟩ := named_cases h
    · rw [hc]
      decide
    · obtain ⟨hsome, hne⟩ := symbol_head_ne_bracket b _ hx
      rwa [hc, List.head?_append, Option.or_of_isSome hsome]
  · intro h
    by_contra hn
    rw [chars_of_not_isNamed hn] at h
    exact h rfl

/-! ## Reading a slot back -/

section Read

variable {b : Base} {e : Exponent} {a a' : Rational}

/-- Without brackets the text determines the ratio. -/
theorem ratio_eq_of_named (h : IsNamed b e a) (h' : IsNamed b e a')
    (hc : chars b e a = chars b e a') : a = a' := by
  by_cases hb : b = .si .length
  · subst hb
    have hcc : chars (.si .length) e a ++ [] = chars (.si .length) e a' ++ [] := by rw [hc]
    obtain ⟨rfl, -⟩ | ⟨-, -, -, hk⟩ | ⟨-, -, -, hk⟩ := length_cases h h' hcc
    · rfl
    · cases hk
    · cases hk
  · obtain ⟨hl, -⟩ | ⟨q, s, hx, hq, hs⟩ := named_cases h
    · exact absurd hl hb
    obtain ⟨hl, -⟩ | ⟨q', s', hy, hq', hs'⟩ := named_cases h'
    · exact absurd hl hb
    have hsuffix : ((exponentSuffix e).toList).head? ≠ some 's' := by
      rw [← List.append_nil (exponentSuffix e).toList]
      exact head?_exponentSuffix_append (by simp)
    rw [hs, hs'] at hc
    obtain ⟨hxy, -⟩ := symbol_unique hb hx hy (fun _ => hsuffix) (fun _ => hsuffix) hc
    cases hxy
    exact ratio_eq_of_shown hq hq'

theorem isTextChar_bracket (k : List Char) :
    ∀ c ∈ (']' :: k).head?, ¬Rational.isTextChar c := by
  intro c hc
  obtain rfl := Option.some.inj hc
  decide

/-- In brackets the text determines the number that it shows. -/
theorem bracketNumber_eq_of_chars_eq (h : ¬IsNamed b e a) (h' : ¬IsNamed b e a') :
    chars b e a = chars b e a' ↔ bracketNumber e a = bracketNumber e a' := by
  rw [chars_of_not_isNamed h, chars_of_not_isNamed h']
  constructor
  · intro hc
    have hc := (List.cons.inj hc).2
    exact (Rational.eq_of_text_append (isTextChar_bracket _) (isTextChar_bracket _) hc).1
  · intro hc
    rw [hc]

/-- The first ratio has no root, and the second is its power, written in brackets. -/
structure ShowsAlike (b : Base) (e : Exponent) (a a' : Rational) : Prop where
  no_root : slotPrefix a e = none
  root : slotPrefix a' e = some a
  bracketed : ¬IsNamed b e a'

theorem ShowsAlike.chars_eq (h : ShowsAlike b e a a') : chars b e a = chars b e a' := by
  rw [bracketNumber_eq_of_chars_eq (not_isNamed_of_slotPrefix h.no_root) h.bracketed,
    bracketNumber, bracketNumber, h.no_root, h.root]
  rfl

/-- Two slots of one base quantity and one exponent have the same text exactly if their ratios are
equal, or one ratio has no root and the other, in brackets, is its power. -/
theorem chars_eq_iff :
    chars b e a = chars b e a' ↔ a = a' ∨ ShowsAlike b e a a' ∨ ShowsAlike b e a' a := by
  constructor
  · intro hc
    have hn : IsNamed b e a ↔ IsNamed b e a' := by
      rw [isNamed_iff_head?, isNamed_iff_head?, hc]
    by_cases h : IsNamed b e a
    · exact .inl (ratio_eq_of_named h (hn.1 h) hc)
    have h' := mt hn.2 h
    have hq := (bracketNumber_eq_of_chars_eq h h').1 hc
    unfold bracketNumber at hq
    cases hp : slotPrefix a e with
    | none =>
      cases hp' : slotPrefix a' e with
      | none =>
        rw [hp, hp'] at hq
        exact .inl hq
      | some p' =>
        rw [hp, hp'] at hq
        obtain rfl : a = p' := hq
        exact .inr (.inl ⟨hp, hp', h'⟩)
    | some p =>
      cases hp' : slotPrefix a' e with
      | none =>
        rw [hp, hp'] at hq
        obtain rfl : p = a' := hq
        exact .inr (.inr ⟨hp', hp, h⟩)
      | some p' =>
        rw [hp, hp'] at hq
        obtain rfl : p = p' := hq
        exact .inl (ratio_eq_of_slotPrefix hp hp')
  · rintro (rfl | h | h)
    · rfl
    · exact h.chars_eq
    · exact h.chars_eq.symm

end Read

/-- Two square meters are written like the square of a double meter. -/
theorem chars_double_meter :
    chars (.si .length) (.clamp .i32 2) (.literal 2 1) = "[2]m^2".toList ∧
      chars (.si .length) (.clamp .i32 2) (.literal 4 1) = "[2]m^2".toList ∧
      0 < (Rational.literal 2 1).toRat ∧ 0 < (Rational.literal 4 1).toRat ∧
      Rational.literal 2 1 ≠ .literal 4 1 := by
  decide +kernel

end Metrology.SlotName
