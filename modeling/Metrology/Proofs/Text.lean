import Metrology.Proofs.Dimension
import Metrology.Proofs.Rational.Text
import Metrology.Proofs.Unit.Symbol

/-!
# Texts that can be read back

A list of texts is joined by a separator.  If no text holds the character that the separator begins
with, the joined text can be split there again, so it determines the list (`eq_of_intercalate_eq`).
The slots of a pack, the factors of a dimension and the parts of a message around the texts of
dimensions are joined in this way.  So packs are determined by their texts if their values are
(`Pack.text_injective`), and so are dimensions (`Dimension.text_injective`) and refusals
(`Refusal.message_injective`); `texts_injective` puts them together.
-/

namespace Metrology

/-! ## Joined texts -/

section Joined

variable {c : Char} {s : List Char}

theorem append_intercalate (s t a : List Char) (l : List (List Char)) :
    s ++ t.intercalate (a :: l) = t.intercalate ((s ++ a) :: l) := by
  cases l with
  | nil => rw [List.intercalate_singleton, List.intercalate_singleton]
  | cons b l => simp only [List.intercalate_cons_cons, List.append_assoc]

/-- What follows the first character of the separator goes in front of the text after it. -/
theorem intercalate_cons (c : Char) (s a : List Char) (l : List (List Char)) :
    (c :: s).intercalate (a :: l) = [c].intercalate (a :: l.map (s ++ ·)) := by
  induction l generalizing a with
  | nil => rw [List.map_nil, List.intercalate_singleton, List.intercalate_singleton]
  | cons b l ih =>
    rw [List.intercalate_cons_cons, ih, List.map_cons, List.intercalate_cons_cons,
      ← append_intercalate]
    simp only [List.append_assoc, List.cons_append, List.nil_append]

theorem splitOn_intercalate_cons {a : List Char} {l : List (List Char)} (hs : c ∉ s)
    (hl : ∀ t ∈ a :: l, c ∉ t) :
    ((c :: s).intercalate (a :: l)).splitOn c = a :: l.map (s ++ ·) := by
  rw [intercalate_cons]
  apply List.splitOn_intercalate
  · intro t ht
    rcases List.mem_cons.1 ht with rfl | ht
    · exact hl t List.mem_cons_self
    · obtain ⟨u, hu, rfl⟩ := List.mem_map.1 ht
      rw [List.mem_append, not_or]
      exact ⟨hs, hl u (List.mem_cons_of_mem a hu)⟩
  · exact List.cons_ne_nil _ _

/-- Texts are determined by their join if none holds the character that the separator begins
with. -/
theorem eq_of_intercalate_eq {sep : String} (hsep : sep.toList = c :: s) (hs : c ∉ s)
    {l m : List String} (hl : ∀ t ∈ l, c ∉ t.toList) (hm : ∀ t ∈ m, c ∉ t.toList)
    (hl0 : l ≠ []) (hm0 : m ≠ []) (h : sep.intercalate l = sep.intercalate m) : l = m := by
  obtain ⟨a, l, rfl⟩ := List.exists_cons_of_ne_nil hl0
  obtain ⟨b, m, rfl⟩ := List.exists_cons_of_ne_nil hm0
  have hsplit := congrArg (fun t => t.toList.splitOn c) h
  simp only [String.toList_intercalate, hsep, List.map_cons] at hsplit
  rw [splitOn_intercalate_cons hs (by simpa using hl),
    splitOn_intercalate_cons hs (by simpa using hm)] at hsplit
  obtain ⟨hab, hlm⟩ := List.cons.inj hsplit
  have hinj : Function.Injective fun t : String => s ++ t.toList :=
    fun t u htu => String.toList_inj.1 (List.append_cancel_left htu)
  rw [List.map_map, List.map_map] at hlm
  rw [String.toList_inj.1 hab, List.map_injective_iff.2 hinj hlm]

theorem mem_or_exists_of_mem_intercalate {sep : String} {l : List String}
    (h : c ∈ (sep.intercalate l).toList) : c ∈ sep.toList ∨ ∃ t ∈ l, c ∈ t.toList := by
  rw [String.toList_intercalate] at h
  induction l with
  | nil => cases h
  | cons a l ih =>
    cases l with
    | nil =>
      rw [List.map_singleton, List.intercalate_singleton] at h
      exact .inr ⟨a, List.mem_cons_self, h⟩
    | cons b l =>
      simp only [List.map_cons, List.intercalate_cons_cons, List.mem_append] at h ih
      obtain (h | h) | h := h
      · exact .inr ⟨a, List.mem_cons_self, h⟩
      · exact .inl h
      · obtain h | ⟨t, ht, h⟩ := ih h
        · exact .inl h
        · exact .inr ⟨t, List.mem_cons_of_mem a ht, h⟩

end Joined

/-! ## Packs -/

/-- A pack is determined by its text if its values are determined by theirs and hold no comma. -/
theorem Pack.text_injective {α : Type} {write : α → String} (hw : Function.Injective write)
    (hc : ∀ a, ',' ∉ (write a).toList) {n : ℕ} : Function.Injective (text write (n := n)) := by
  intro p q h
  have hjoin : ", ".intercalate (p.toList.map write) = ", ".intercalate (q.toList.map write) := by
    simpa [text] using h
  have hcomma (p : Pack α n) : ∀ t ∈ p.toList.map write, ',' ∉ t.toList := by
    intro t ht
    obtain ⟨a, -, rfl⟩ := List.mem_map.1 ht
    exact hc a
  cases n with
  | zero =>
    cases p
    cases q
    rfl
  | succ n =>
    have hne (p : Pack α (n + 1)) : p.toList.map write ≠ [] := by
      cases p
      exact List.cons_ne_nil _ _
    have hlist := eq_of_intercalate_eq rfl (by decide) (hcomma p) (hcomma q) (hne p) (hne q) hjoin
    exact toList_inj.1 (List.map_injective_iff.2 hw hlist)

/-! ## Dimensions -/

namespace Base

theorem symbol_injective : Function.Injective symbol := by
  have h : ∀ b ∈ all, ∀ c ∈ all, b.symbol = c.symbol → b = c := by decide
  exact fun b c => h b b.mem_all c c.mem_all

theorem caret_not_mem_symbol : ∀ b : Base, '^' ∉ b.symbol.toList :=
  SlotName.forall_base (by decide)

theorem any_symbol : ∀ b : Base, b.symbol.toList.any (· ≠ '1') :=
  SlotName.forall_base (by decide)

end Base

namespace Dimension

variable {d : Dimension} {b : Base} {e : Exponent} {c : Char}

/-- The base quantities that occur, with their exponents. -/
def powers (d : Dimension) : List (Base × Exponent) :=
  (Base.all.filter fun b => nonzero (d.exponent b)).map fun b => (b, d.exponent b)

theorem mem_powers_iff : (b, e) ∈ d.powers ↔ d.exponent b = e ∧ e.val ≠ 0 := by
  simp only [powers, List.mem_map, List.mem_filter, Prod.mk.injEq]
  constructor
  · rintro ⟨b', ⟨-, hne⟩, rfl, rfl⟩
    exact ⟨rfl, of_decide_eq_true hne⟩
  · rintro ⟨rfl, hne⟩
    exact ⟨b, ⟨b.mem_all, decide_eq_true hne⟩, rfl, rfl⟩

/-- The exponents that are left out are zero. -/
theorem powers_injective : Function.Injective powers := by
  intro d d' h
  apply exponents_injective
  funext b
  have hiff {e : Exponent} (he : e.val ≠ 0) : d.exponent b = e ↔ d'.exponent b = e := by
    have hmem : (b, e) ∈ d.powers ↔ (b, e) ∈ d'.powers := by rw [h]
    rwa [mem_powers_iff, mem_powers_iff, and_iff_left he, and_iff_left he] at hmem
  by_cases hd : (d.exponent b).val = 0
  · by_cases hd' : (d'.exponent b).val = 0
    · exact hd.trans hd'.symm
    · exact congrArg Word.val ((hiff hd').2 rfl)
  · exact congrArg Word.val ((hiff hd).1 rfl).symm

/-- The texts that the text of the dimension is joined from. -/
def factors (d : Dimension) : List String :=
  if d.powers = [] then ["1"] else d.powers.map fun x => powerText x.1.symbol x.2

theorem text_eq_intercalate (d : Dimension) : d.text = "·".intercalate d.factors := by
  unfold text factors powers
  simp only [List.isEmpty_iff, List.map_eq_nil_iff, List.map_map]
  split_ifs
  · rfl
  · rfl

theorem factors_ne_nil (d : Dimension) : d.factors ≠ [] := by
  unfold factors
  split_ifs with h
  · exact List.cons_ne_nil _ _
  · exact mt List.map_eq_nil_iff.1 h

theorem toList_powerText (s : String) (e : Exponent) :
    (powerText s e).toList = s.toList ++ (SlotName.exponentSuffix e).toList := by
  unfold powerText
  split_ifs with h
  · rw [SlotName.exponentSuffix_of_one h, List.append_nil]
  · rw [SlotName.exponentSuffix_of_ne h, String.toList_append, String.toList_append,
      List.append_assoc]
    rfl

theorem powerText_inj {b' : Base} {e' : Exponent}
    (h : powerText b.symbol e = powerText b'.symbol e') : b = b' ∧ e = e' := by
  rw [← String.toList_inj, toList_powerText, toList_powerText] at h
  obtain ⟨hs, he⟩ :=
    SlotName.append_exponentSuffix_inj b.caret_not_mem_symbol b'.caret_not_mem_symbol h
  exact ⟨Base.symbol_injective (String.toList_inj.1 hs), he⟩

theorem powerText_ne_one (b : Base) (e : Exponent) : powerText b.symbol e ≠ "1" := by
  intro h
  rw [← String.toList_inj, toList_powerText] at h
  obtain ⟨c, hc, hne⟩ := List.any_eq_true.1 b.any_symbol
  have hmem : c ∈ "1".toList := h ▸ List.mem_append_left _ hc
  exact of_decide_eq_true hne (List.mem_singleton.1 hmem)

/-- No power is written as the factor of the dimensionless one. -/
theorem factors_injective : Function.Injective factors := by
  intro d d' h
  have hone {l : List (Base × Exponent)} (hl : l ≠ []) :
      ["1"] ≠ l.map fun x => powerText x.1.symbol x.2 := by
    obtain ⟨⟨b, e⟩, l, rfl⟩ := List.exists_cons_of_ne_nil hl
    exact fun h => powerText_ne_one b e (List.cons.inj h).1.symm
  have hinj : Function.Injective fun x : Base × Exponent => powerText x.1.symbol x.2 :=
    fun x y hxy => Prod.ext (powerText_inj hxy).1 (powerText_inj hxy).2
  apply powers_injective
  unfold factors at h
  split_ifs at h with hd hd' hd'
  · rw [hd, hd']
  · exact absurd h (hone hd')
  · exact absurd h.symm (hone hd)
  · exact List.map_injective_iff.2 hinj h

/-- A character that no exponent and no symbol is written with. -/
structure IsForeign (c : Char) : Prop where
  ne_caret : c ≠ '^'
  not_isTextChar : ¬Word.isTextChar c
  not_mem_symbol : ∀ b : Base, c ∉ b.symbol.toList

theorem IsForeign.not_mem_factor (hc : IsForeign c) : ∀ t ∈ d.factors, c ∉ t.toList := by
  intro t ht hmem
  unfold factors at ht
  split_ifs at ht
  · obtain rfl := List.mem_singleton.1 ht
    obtain rfl : c = '1' := List.mem_singleton.1 hmem
    exact absurd hc.not_isTextChar (by decide)
  · obtain ⟨⟨b, e⟩, -, rfl⟩ := List.mem_map.1 ht
    rw [toList_powerText] at hmem
    rcases List.mem_append.1 hmem with hb | he
    · exact hc.not_mem_symbol b hb
    · rcases SlotName.eq_caret_or_isTextChar_of_mem he with h | h
      · exact hc.ne_caret h
      · exact hc.not_isTextChar h

theorem isForeign_dot : IsForeign '·' :=
  ⟨by decide, by decide, SlotName.forall_base (by decide)⟩

theorem IsForeign.not_mem_text (hc : IsForeign c) (hdot : c ≠ '·') : c ∉ d.text.toList := by
  rw [text_eq_intercalate]
  intro hmem
  rcases mem_or_exists_of_mem_intercalate hmem with h | ⟨t, ht, h⟩
  · exact hdot (List.mem_singleton.1 h)
  · exact hc.not_mem_factor t ht h

theorem text_injective : Function.Injective text := by
  intro d d' h
  rw [text_eq_intercalate, text_eq_intercalate] at h
  exact factors_injective (eq_of_intercalate_eq rfl List.not_mem_nil isForeign_dot.not_mem_factor
    isForeign_dot.not_mem_factor d.factors_ne_nil d'.factors_ne_nil h)

theorem text_eq_one_iff : d.text = "1" ↔ d = dimensionless := by
  have hone : dimensionless.text = "1" := by decide
  rw [← hone, text_injective.eq_iff]

end Dimension

/-! ## Messages -/

namespace Refusal

/-- The mark that a dimension is enclosed in. -/
def mark : Char := Char.ofNat 96

/-- The parts of the message between the marks. -/
def messageParts : Refusal → List String
  | zeroDenominator => [zeroDenominator.message]
  | overflow => [overflow.message]
  | notSimple d =>
    ["dimension ", d.text, " is not simple: exactly one non-zero exponent is required"]
  | incompatible l r =>
    ["incompatible units: ", l.text, " and ", r.text, " have different dimensions"]
  | zeroDivisor => [zeroDivisor.message]

theorem message_incompatible (l r : Dimension) : (incompatible l r).message =
    "incompatible units: `" ++ l.text ++ "` and `" ++ r.text ++ "` have different dimensions" :=
  rfl

theorem message_eq_intercalate (r : Refusal) : r.message = "`".intercalate r.messageParts := by
  cases r with
  | notSimple d =>
    have hmark : "dimension `" = "dimension " ++ "`" := by decide
    have hend : "` is not simple: exactly one non-zero exponent is required" =
      "`" ++ " is not simple: exactly one non-zero exponent is required" := by decide
    rw [message.eq_def, hmark, hend]
    simp only [messageParts, String.intercalate_cons_cons, String.intercalate_singleton,
      String.append_assoc]
  | incompatible l r =>
    have hmark : "incompatible units: `" = "incompatible units: " ++ "`" := by decide
    have hand : "` and `" = "`" ++ (" and " ++ "`") := by decide
    have hend : "` have different dimensions" = "`" ++ " have different dimensions" := by decide
    rw [message_incompatible, hmark, hand, hend]
    simp only [messageParts, String.intercalate_cons_cons, String.intercalate_singleton,
      String.append_assoc]
  | _ => exact String.intercalate_singleton.symm

theorem eq_of_message_eq_of_plain : ∀ r ∈ [zeroDenominator, overflow, zeroDivisor],
    ∀ r' ∈ [zeroDenominator, overflow, zeroDivisor], r.message = r'.message → r = r' := by
  decide

theorem messageParts_injective : Function.Injective messageParts := by
  intro r r' h
  have hlen := congrArg List.length h
  cases r with
  | notSimple d =>
    cases r' with
    | notSimple d' =>
      simp only [messageParts, List.cons.injEq] at h
      rw [Dimension.text_injective h.2.1]
    | _ => simp [messageParts] at hlen
  | incompatible d₁ d₂ =>
    cases r' with
    | incompatible d₁' d₂' =>
      simp only [messageParts, List.cons.injEq] at h
      rw [Dimension.text_injective h.2.1, Dimension.text_injective h.2.2.2.1]
    | _ => simp [messageParts] at hlen
  | _ =>
    cases r' with
    | notSimple | incompatible => simp [messageParts] at hlen
    | _ => exact eq_of_message_eq_of_plain _ (by decide) _ (by decide) (List.cons.inj h).1

theorem mark_not_mem_text (d : Dimension) : mark ∉ d.text.toList :=
  Dimension.IsForeign.not_mem_text
    ⟨by decide, by decide, SlotName.forall_base (by decide)⟩ (by decide)

theorem mark_not_mem_messageParts (r : Refusal) : ∀ t ∈ r.messageParts, mark ∉ t.toList := by
  cases r with
  | notSimple d =>
    simp only [messageParts, List.forall_mem_cons]
    exact ⟨by decide, mark_not_mem_text d, by decide, List.forall_mem_nil _⟩
  | incompatible l r =>
    simp only [messageParts, List.forall_mem_cons]
    exact ⟨by decide, mark_not_mem_text l, by decide, mark_not_mem_text r, by decide,
      List.forall_mem_nil _⟩
  | _ => decide

theorem messageParts_ne_nil (r : Refusal) : r.messageParts ≠ [] := by
  cases r <;> exact List.cons_ne_nil _ _

theorem message_injective : Function.Injective message := by
  intro r r' h
  rw [message_eq_intercalate, message_eq_intercalate] at h
  have hmark : "`".toList = [mark] := rfl
  exact messageParts_injective (eq_of_intercalate_eq hmark List.not_mem_nil
    r.mark_not_mem_messageParts r'.mark_not_mem_messageParts r.messageParts_ne_nil
    r'.messageParts_ne_nil h)

end Refusal

/-- Dimensions, rationals, and packs of exponents or of rationals are determined by their texts, and
`1` is the text of the dimensionless one only.  So the message about incompatible units shows two
different dimensions by different texts, and no two refusals have the same message. -/
theorem texts_injective (n : ℕ) :
    Function.Injective Dimension.text ∧
      (∀ d : Dimension, d.text = "1" ↔ d = .dimensionless) ∧
      Function.Injective (Pack.text Word.text : Pack Exponent n → String) ∧
      Function.Injective (Pack.text Rational.text : Pack Rational n → String) ∧
      Function.Injective Rational.text ∧
      (∀ l r : Dimension, l ≠ r → l.text ≠ r.text ∧ (Refusal.incompatible l r).message =
        "incompatible units: `" ++ l.text ++ "` and `" ++ r.text ++
          "` have different dimensions") ∧
      Function.Injective Refusal.message := by
  refine ⟨Dimension.text_injective, fun d => Dimension.text_eq_one_iff, ?_, ?_,
    Rational.text_injective, ?_, Refusal.message_injective⟩
  · apply Pack.text_injective Word.text_injective
    intro e h
    exact absurd (Word.isTextChar_of_mem_text h) (by decide)
  · apply Pack.text_injective Rational.text_injective
    intro a h
    exact absurd (Rational.isTextChar_of_mem_text h) (by decide)
  · intro l r hne
    exact ⟨Dimension.text_injective.ne hne, Refusal.message_incompatible l r⟩

end Metrology
