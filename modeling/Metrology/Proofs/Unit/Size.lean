import Metrology.Proofs.Unit.Slot

/-!
# The size that a slot text denotes

A slot text is read without its ratio: a prefix, or a number in brackets, stands in front of the
symbol of a unit, and the exponent follows (`SlotName.Names`, `SlotName.Denotes`).  The sizes of
prefixes and units are those of their definitions, in the coherent unit of the base quantity, so the
gram counts a thousandth.  A text has one reading (`SlotName.Denotes.unique`).

A slot with a prefix denotes a unit of the size of the prefix, with one exception
(`SlotName.denotes_iff_of_slotPrefix`): a mass in brackets shows its prefix in kilograms in front of
the gram, and denotes a thousandth of it.
-/

namespace Metrology.SlotName

/-! ## Sizes -/

/-- What the prefixes with a symbol stand for. -/
def prefixSizes : List (String × ℚ) :=
  [("", 1), ("f", 1 / 10 ^ 15), ("p", 1 / 10 ^ 12), ("n", 1 / 10 ^ 9), ("u", 1 / 10 ^ 6),
    ("m", 1 / 10 ^ 3), ("c", 1 / 10 ^ 2), ("d", 1 / 10), ("k", 10 ^ 3), ("M", 10 ^ 6),
    ("G", 10 ^ 9), ("T", 10 ^ 12)]

/-- The units of a base quantity, in its coherent unit. -/
def unitSizes : Base → List (String × ℚ)
  | .si .length => [("m", 1), ("Å", 1 / 10 ^ 10)]
  | .si .mass => [("g", 1 / 1000)]
  | .si .time => [("s", 1), ("min", 60), ("h", 3600), ("d", 86400), ("yr", 31536000)]
  | b => [(b.unitSymbol, 1)]

/-- The text names a unit of the size. -/
inductive Names (b : Base) : List Char → ℚ → Prop
  | prefixed {u v : String × ℚ} (hu : u ∈ prefixSizes) (hv : v ∈ unitSizes b) :
    Names b (u.1.toList ++ v.1.toList) (u.2 * v.2)
  | bracketed (a : Rational) {v : String × ℚ} (hv : v ∈ unitSizes b) :
    Names b ('[' :: (a.text.toList ++ ']' :: v.1.toList)) (a.toRat * v.2)

/-- The slot text denotes a unit of the size in the exponent; a litre is the cube of a tenth. -/
inductive Denotes (b : Base) : List Char → ℚ → Exponent → Prop
  | litre (hb : b = .si .length) : Denotes b ['l'] (1 / 10) (.clamp .i32 3)
  | power {s : List Char} {x : ℚ} (h : Names b s x) (e : Exponent) :
    Denotes b (s ++ (exponentSuffix e).toList) x e

/-! ## One reading -/

theorem nodup_prefixed : ∀ b,
    ((prefixSizes ×ˢ unitSizes b).map fun n => n.1.1.toList ++ n.2.1.toList).Nodup :=
  forall_base (by decide +kernel)

section Prefixed

variable {b : Base} {u u' v v' : String × ℚ}

/-- No two units with their prefixes are written alike. -/
theorem prefixed_unique (hu : u ∈ prefixSizes) (hv : v ∈ unitSizes b) (hu' : u' ∈ prefixSizes)
    (hv' : v' ∈ unitSizes b) (h : u.1.toList ++ v.1.toList = u'.1.toList ++ v'.1.toList) :
    u = u' ∧ v = v' :=
  Prod.mk.inj (List.inj_on_of_nodup_map (nodup_prefixed b) (List.pair_mem_product.2 ⟨hu, hv⟩)
    (List.pair_mem_product.2 ⟨hu', hv'⟩) h)

theorem unit_unique (hv : v ∈ unitSizes b) (hv' : v' ∈ unitSizes b)
    (h : v.1.toList = v'.1.toList) : v = v' :=
  have hnone : ("", 1) ∈ prefixSizes := List.mem_cons_self
  (prefixed_unique hnone hv hnone hv' h).2

end Prefixed

theorem prefixed_head : ∀ b, ∀ u ∈ prefixSizes, ∀ v ∈ unitSizes b,
    let s := u.1.toList ++ v.1.toList
    s ≠ [] ∧ s.head? ≠ some '[' ∧ s.head? ≠ some 'l' :=
  forall_base (by decide +kernel)

theorem prefixed_no_caret : ∀ b, ∀ u ∈ prefixSizes, ∀ v ∈ unitSizes b,
    '^' ∉ u.1.toList ++ v.1.toList :=
  forall_base (by decide +kernel)

section Reading

variable {b : Base} {s t : List Char} {x y : ℚ} {e k : Exponent}

theorem Names.head (h : Names b s x) : s ≠ [] ∧ s.head? ≠ some 'l' := by
  cases h with
  | prefixed hu hv =>
    obtain ⟨hne, -, hl⟩ := prefixed_head b _ hu _ hv
    exact ⟨hne, hl⟩
  | bracketed a hv =>
    rw [List.head?_cons]
    exact ⟨List.cons_ne_nil _ _, by decide⟩

theorem Names.no_caret (h : Names b s x) : '^' ∉ s := by
  cases h with
  | prefixed hu hv => exact prefixed_no_caret b _ hu _ hv
  | bracketed a hv =>
    have htext : '^' ∉ a.text.toList := fun h =>
      absurd (Rational.isTextChar_of_mem_text h) (by decide)
    have hunit := prefixed_no_caret b ("", 1) List.mem_cons_self _ hv
    simp only [List.mem_cons, List.mem_append, not_or]
    exact ⟨by decide, htext, by decide, hunit⟩

/-- A text that names a unit tells its size. -/
theorem Names.unique (h : Names b s x) (h' : Names b t y) (hst : s = t) : x = y := by
  cases h with
  | prefixed hu hv =>
    cases h' with
    | prefixed hu' hv' =>
      obtain ⟨rfl, rfl⟩ := prefixed_unique hu hv hu' hv' hst
      rfl
    | bracketed a' hv' =>
      exact absurd (congrArg List.head? hst) (prefixed_head b _ hu _ hv).2.1
  | bracketed a hv =>
    cases h' with
    | prefixed hu' hv' =>
      exact absurd (congrArg List.head? hst.symm) (prefixed_head b _ hu' _ hv').2.1
    | bracketed a' hv' =>
      obtain ⟨rfl, htail⟩ := Rational.eq_of_text_append (isTextChar_bracket _)
        (isTextChar_bracket _) (List.cons.inj hst).2
      rw [unit_unique hv hv' (List.cons.inj htail).2]

theorem Names.append_ne_litre (h : Names b s x) : s ++ (exponentSuffix e).toList ≠ ['l'] := by
  intro hl
  obtain ⟨hne, hhead⟩ := h.head
  obtain ⟨c, s, rfl⟩ := List.exists_cons_of_ne_nil hne
  exact hhead (congrArg some (List.cons.inj hl).1)

/-- A slot text has one reading. -/
theorem Denotes.unique (h : Denotes b s x e) (h' : Denotes b t y k) (hst : s = t) :
    x = y ∧ e = k := by
  cases h with
  | litre hb =>
    cases h' with
    | litre hb' => exact ⟨rfl, rfl⟩
    | power h' k => exact absurd hst.symm h'.append_ne_litre
  | power h e =>
    cases h' with
    | litre hb' => exact absurd hst h.append_ne_litre
    | power h' k =>
      obtain ⟨hnames, rfl⟩ := append_exponentSuffix_inj h.no_caret h'.no_caret hst
      exact ⟨h.unique h' hnames, rfl⟩

end Reading

/-! ## What is written -/

/-- The symbols of a base quantity name units of the sizes that they show. -/
theorem symbol_size : ∀ b, ∀ x ∈ symbolTable b, ∃ u ∈ prefixSizes, ∃ v ∈ unitSizes b,
    x.2 = u.1.toList ++ v.1.toList ∧ x.1.toRat / coherentSize b = u.2 * v.2 :=
  forall_base (by decide +kernel)

theorem unitSymbol_size : ∀ b, (b.unitSymbol, 1 / coherentSize b) ∈ unitSizes b :=
  forall_base (by decide +kernel)

section Written

variable {b : Base} {e : Exponent} {a p : Rational}

theorem denotes_of_isNamed (h : slotPrefix a e = some p) (hn : IsNamed b e a) :
    Denotes b (chars b e a) p.toRat e := by
  have hshown (q : Rational) (hq : shown b e a = some q) : q.toRat / coherentSize b = p.toRat := by
    rw [shown, h, Option.bind_some] at hq
    rw [toRat_shownPrefix hq, mul_div_cancel_right₀ _ (coherentSize_ne_zero b)]
  obtain ⟨rfl, he, hq, hc⟩ | ⟨q, s, hx, hq, hc⟩ := named_cases hn
  · obtain rfl : Word.clamp .i32 3 = e := Word.ext (Eq.trans (by decide) he.symm)
    rw [hc, ← hshown .deci hq,
      show Rational.deci.toRat / coherentSize (.si .length) = 1 / 10 by decide +kernel]
    exact .litre rfl
  · obtain ⟨u, hu, v, hv, rfl, hsize⟩ := symbol_size b _ hx
    rw [hc, ← hshown q hq, hsize]
    exact .power (.prefixed hu hv) e

/-- In brackets the prefix is multiplied with the size of the unit symbol. -/
theorem denotes_of_not_isNamed (h : slotPrefix a e = some p) (hn : ¬IsNamed b e a) :
    Denotes b (chars b e a) (p.toRat / coherentSize b) e := by
  have hq : bracketNumber e a = p := by rw [bracketNumber, h, Option.getD_some]
  have hnames := Names.bracketed p (unitSymbol_size b)
  rw [chars_of_not_isNamed hn, hq, div_eq_mul_one_div]
  simpa using Denotes.power hnames e

/-- The text of a slot with a prefix denotes a unit of the size of the prefix, and nothing else, so
the ratio is its power; but a mass in brackets denotes a thousandth of the prefix. -/
theorem denotes_iff_of_slotPrefix (h : slotPrefix a e = some p) :
    (b ≠ .si .mass ∨ IsNamed b e a →
        ∀ x k, Denotes b (chars b e a) x k ↔ x = p.toRat ∧ k = e) ∧
      (b = .si .mass → ¬IsNamed b e a →
        ∀ x k, Denotes b (chars b e a) x k ↔ x = p.toRat / 1000 ∧ k = e) ∧
      p.toRat ^ e.val = a.toRat := by
  have hiff (y : ℚ) (hy : Denotes b (chars b e a) y e) (x : ℚ) (k : Exponent) :
      Denotes b (chars b e a) x k ↔ x = y ∧ k = e := by
    constructor
    · exact fun hx => hx.unique hy rfl
    · rintro ⟨rfl, rfl⟩
      exact hy
  refine ⟨fun hb => hiff _ ?_, fun hb hn => hiff _ ?_, (Rational.root?_zpow h).2.2⟩
  · by_cases hn : IsNamed b e a
    · exact denotes_of_isNamed h hn
    · have := denotes_of_not_isNamed h hn
      rwa [coherentSize, if_neg (hb.resolve_right hn), div_one] at this
  · have := denotes_of_not_isNamed h hn
    rwa [coherentSize, if_pos hb] at this

end Written

/-- A square gram has a symbol and denotes the gram. -/
theorem denotes_square_gram :
    slotPrefix .micro (.clamp .i32 2) = some .milli ∧
      IsNamed (.si .mass) (.clamp .i32 2) .micro ∧
      ∀ x k, Denotes (.si .mass) (chars (.si .mass) (.clamp .i32 2) .micro) x k ↔
        x = Rational.milli.toRat ∧ k = .clamp .i32 2 := by
  have h : slotPrefix .micro (.clamp .i32 2) = some .milli := by decide +kernel
  have hn : IsNamed (.si .mass) (.clamp .i32 2) .micro := by decide +kernel
  exact ⟨h, hn, (denotes_iff_of_slotPrefix h).1 (.inr hn)⟩

/-- Seven kilograms are written as seven grams. -/
theorem denotes_seven_kilograms :
    slotPrefix (.literal 7 1) .one = some (.literal 7 1) ∧
      chars (.si .mass) .one (.literal 7 1) = "[7]g".toList ∧
      Denotes (.si .mass) "[7]g".toList (7 / 1000) .one ∧
      ¬Denotes (.si .mass) "[7]g".toList 7 .one := by
  have h : slotPrefix (.literal 7 1) .one = some (.literal 7 1) := by decide +kernel
  have hc : chars (.si .mass) .one (.literal 7 1) = "[7]g".toList := by decide +kernel
  have hg : Denotes (.si .mass) "[7]g".toList (7 / 1000) .one :=
    hc ▸ denotes_of_not_isNamed h (by decide +kernel)
  refine ⟨h, hc, hg, fun hkg => ?_⟩
  exact absurd (hkg.unique hg rfl).1 (by decide +kernel)

end Metrology.SlotName
