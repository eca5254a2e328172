import Metrology.Word

/-!
# Texts of words

The text of a word is its sign and its decimal digits.  `Word.readText` reads a word at the front
of a list of characters and leaves what follows; it reads exactly the texts of words that are not
followed by a further digit or sign (`Word.readText_append`, `Word.eq_append_of_readText`).
-/

namespace Metrology.Word

variable {f : IntFormat}

/-- The characters of integer texts. -/
def isTextChar (c : Char) : Bool := c.isDigit || c == '-'

/-- The number that is written as a sign and digits. -/
def ofChars (s : List Char) : Int :=
  if '-' ∈ s then -(Nat.ofDigitChars 10 s.tail 0 : Nat) else (Nat.ofDigitChars 10 s 0 : Nat)

/-- The word at the front of the text, and what follows it. -/
def readText (f : IntFormat) (s : List Char) : Option (Word f × List Char) := do
  let w ← fit? f (ofChars (s.takeWhile isTextChar))
  if w.text.toList = s.takeWhile isTextChar then some (w, s.dropWhile isTextChar) else none

/-! ## Digits -/

theorem isDigit_of_mem_repr {n : Nat} {c : Char} (h : c ∈ n.repr.toList) : c.isDigit := by
  rw [Nat.toList_repr] at h
  exact Nat.isDigit_of_mem_toDigits (by decide) (by decide) h

theorem toList_minus_append (s : String) : ("-" ++ s).toList = '-' :: s.toList := by
  rw [String.toList_append]
  rfl

theorem isTextChar_of_mem_text {w : Word f} {c : Char} (h : c ∈ w.text.toList) :
    isTextChar c := by
  rw [text, Int.repr_eq_if] at h
  split at h
  · simp [isTextChar, isDigit_of_mem_repr h]
  · rw [toList_minus_append, List.mem_cons] at h
    obtain rfl | h := h
    · rfl
    · simp [isTextChar, isDigit_of_mem_repr h]

theorem ofChars_repr (x : Int) : ofChars x.repr.toList = x := by
  rw [Int.repr_eq_if]
  split
  · have hminus : '-' ∉ x.toNat.repr.toList := fun h => absurd (isDigit_of_mem_repr h) (by decide)
    rw [ofChars, if_neg hminus, Nat.toList_repr, Nat.ofDigitChars_ten_toDigits]
    omega
  · rw [toList_minus_append, ofChars, if_pos List.mem_cons_self, List.tail_cons, Nat.toList_repr,
      Nat.ofDigitChars_ten_toDigits]
    omega

theorem text_injective : Function.Injective (text (f := f)) := by
  intro w v h
  rw [Word.ext_iff, ← ofChars_repr w.val, ← ofChars_repr v.val]
  exact congrArg (fun s => ofChars s.toList) h

/-! ## Reading -/

theorem readText_append (w : Word f) {k : List Char} (hk : ∀ c ∈ k.head?, ¬isTextChar c) :
    readText f (w.text.toList ++ k) = some (w, k) := by
  have htext : ∀ c ∈ w.text.toList, isTextChar c := fun c => isTextChar_of_mem_text
  have hstop : k.takeWhile isTextChar = [] ∧ k.dropWhile isTextChar = k := by
    cases k with
    | nil => exact ⟨rfl, rfl⟩
    | cons c k =>
      have hc := hk c rfl
      exact ⟨List.takeWhile_cons_of_neg hc, List.dropWhile_cons_of_neg hc⟩
  have hval : ofChars w.text.toList = w.val := ofChars_repr w.val
  unfold readText
  rw [List.takeWhile_append_of_pos htext, List.dropWhile_append_of_pos htext, hstop.1, hstop.2,
    List.append_nil, hval, fit?_val]
  exact if_pos rfl

theorem eq_append_of_readText {s k : List Char} {w : Word f} (h : readText f s = some (w, k)) :
    s = w.text.toList ++ k := by
  simp only [readText, Option.bind_eq_bind, Option.bind_eq_some_iff] at h
  obtain ⟨v, -, h⟩ := h
  split at h
  · next ht =>
    obtain ⟨rfl, rfl⟩ := Prod.mk.inj (Option.some.inj h)
    rw [ht, List.takeWhile_append_dropWhile]
  · cases h

end Metrology.Word
