import Mathlib.Tactic.SplitIfs
import Metrology.Proofs.Word
import Metrology.Rational

/-!
# Texts of rationals

A rational is written as its numerator, and then a slash and its denominator unless that is one.
`Rational.readText` reads the two parts at the front of a list of characters and leaves what
follows.  A text that goes on with neither a digit nor a slash is read back
(`Rational.readText_append`), so what follows it and the rational are both determined
(`Rational.eq_of_text_append`), and a text on its own determines the rational
(`Rational.text_injective`).
-/

namespace Metrology.Rational

/-- The numerator and the denominator at the front of the text, and what follows them. -/
def readText (s : List Char) : Option (Fraction × List Char) := do
  let (num, s) ← Word.readText .i64 s
  match s with
  | '/' :: s => do
    let (den, s) ← Word.readText .i64 s
    return (⟨num, den⟩, s)
  | s => return (⟨num, .one⟩, s)

/-- A character that goes on with the text of a rational. -/
def isTextChar (c : Char) : Bool := Word.isTextChar c || c == '/'

theorem toList_text (a : Rational) :
    a.text.toList =
      a.num.text.toList ++ if a.den.val = 1 then [] else '/' :: a.den.text.toList := by
  unfold text
  split_ifs
  · rw [List.append_nil]
  · rw [String.toList_append, String.toList_append, List.append_assoc]
    rfl

theorem isTextChar_of_mem_text {a : Rational} {c : Char} (h : c ∈ a.text.toList) :
    isTextChar c := by
  rw [toList_text, List.mem_append] at h
  obtain h | h := h
  · simp [isTextChar, Word.isTextChar_of_mem_text h]
  · split_ifs at h
    · cases h
    · obtain rfl | h := List.mem_cons.1 h
      · rfl
      · simp [isTextChar, Word.isTextChar_of_mem_text h]

theorem readText_append (a : Rational) {k : List Char} (hk : ∀ c ∈ k.head?, ¬isTextChar c) :
    readText (a.text.toList ++ k) = some (a.toFraction, k) := by
  have hword : ∀ c ∈ k.head?, ¬Word.isTextChar c := fun c hc h =>
    hk c hc (by simp [isTextChar, h])
  rw [toList_text, List.append_assoc]
  unfold readText
  split_ifs with h
  · have hden : Word.one = a.den := Word.ext h.symm
    rw [List.nil_append, Word.readText_append a.num hword]
    cases k with
    | nil => simp [hden]
    | cons c k =>
      have hc : c ≠ '/' := fun h => hk c rfl (by simp [isTextChar, h])
      simp [hden, hc]
  · rw [List.cons_append, Word.readText_append a.num (by simp [Word.isTextChar])]
    simp [Word.readText_append a.den hword]

theorem toFraction_injective : Function.Injective toFraction := by
  rintro ⟨r, _⟩ ⟨_, _⟩ rfl
  rfl

/-- A text is read off what it begins. -/
theorem eq_of_text_append {a b : Rational} {k l : List Char} (hk : ∀ c ∈ k.head?, ¬isTextChar c)
    (hl : ∀ c ∈ l.head?, ¬isTextChar c) (h : a.text.toList ++ k = b.text.toList ++ l) :
    a = b ∧ k = l := by
  have hread := readText_append a hk
  rw [h, readText_append b hl, Option.some.injEq, Prod.mk.injEq] at hread
  exact ⟨(toFraction_injective hread.1).symm, hread.2.symm⟩

theorem text_injective : Function.Injective text := by
  intro a b h
  have hnil : ∀ c ∈ ([] : List Char).head?, ¬isTextChar c := by simp
  apply (eq_of_text_append hnil hnil _).1
  rw [h]

end Metrology.Rational
