import Metrology.Proofs.Matcher
import Metrology.Proofs.Unit.Name
import Metrology.Proofs.Word

/-!
# Names of coherent units

The name of a coherent unit writes, for each base quantity with an exponent, the symbol of its
coherent unit and the exponent unless it is one, and nothing between two base quantities
(`Unit.toList_text_coherent`).  The first two letters of what is left of a name tell which base
quantity comes next, since `m` is the meter unless an `o` follows, and no symbol begins with a
character that goes on with an exponent (`SlotName.IsStart`).  `Dimension.ofCoherentName?` reads a
name in this way, and it reads exactly the names of coherent units
(`Dimension.ofCoherentName?_eq_some_iff`).
-/

namespace Metrology

namespace SlotName

/-! ## Coherent symbols -/

/-- The symbol of the coherent unit of a base quantity. -/
def coherentSymbol : Base → List Char
  | .si .length => ['m']
  | .si .mass => ['k', 'g']
  | .si .time => ['s']
  | .si .current => ['A']
  | .si .temperature => ['K']
  | .si .amount => ['m', 'o', 'l']
  | .si .luminous => ['c', 'd']
  | .extra .angle => ['r', 'a', 'd']
  | .extra .currency => ['c', 'u', 'r']
  | .extra .information => ['b', 'i', 't']
  | .extra .count => ['c', 't']

/-- What a base quantity is written as in the name of a coherent unit. -/
def coherentChars (b : Base) (e : Exponent) : List Char :=
  if e.val = 0 then [] else coherentSymbol b ++ (exponentSuffix e).toList

theorem coherentChars_of_zero {b : Base} {e : Exponent} (h : e.val = 0) :
    coherentChars b e = [] := if_pos h

theorem coherentChars_of_ne {b : Base} {e : Exponent} (h : e.val ≠ 0) :
    coherentChars b e = coherentSymbol b ++ (exponentSuffix e).toList := if_neg h

theorem ownName_one (b : Base) (e : Exponent) : ownName b e .one = none := by
  unfold ownName
  split
  · decide
  · exact if_neg fun h => absurd h.1 (by decide)
  · rfl

/-- Without a prefix the coherent unit is written, for mass with the prefix of the kilogram. -/
theorem pieces_one {b : Base} {e : Exponent} (h : e.val ≠ 0) :
    pieces b e .one = prefixed b .one ++ [exponentSuffix e] := by
  have hl : ¬isLitre b e .one := fun hl => absurd (isLitre_iff.1 hl).2.1 (by decide)
  rw [pieces_of_slotPrefix (Rational.root?_one h), if_neg hl, symbolPieces, ownName_one]

theorem flatMap_prefixed_one :
    ∀ b, (prefixed b .one).flatMap String.toList = coherentSymbol b ∧ "[" ∉ prefixed b .one :=
  forall_base (by decide +kernel)

theorem chars_one {b : Base} {e : Exponent} (h : e.val ≠ 0) :
    chars b e .one = coherentSymbol b ++ (exponentSuffix e).toList := by
  rw [chars, pieces_one h, List.flatMap_append, (flatMap_prefixed_one b).1]
  simp

theorem isNamed_one {b : Base} {e : Exponent} (h : e.val ≠ 0) : IsNamed b e .one := by
  rw [IsNamed, pieces_one h, List.mem_append, not_or]
  exact ⟨(flatMap_prefixed_one b).2,
    fun hs => exponentSuffix_ne_bracket e (List.mem_singleton.1 hs).symm⟩

end SlotName

/-! ## The name of a coherent unit -/

namespace Unit

theorem ratio_coherent (d : Dimension) (b : Base) : (coherent d).ratio.get b = .one :=
  Slots.get_replicate Rational.one b

theorem isNamed_coherent (d : Dimension) : (coherent d).IsNamed where
  factor := rfl
  global := rfl
  parked b _ := ratio_coherent d b
  slot b h := by
    rw [ratio_coherent]
    exact SlotName.isNamed_one h

theorem toList_text_coherent (d : Dimension) :
    (coherent d).text.toList =
      Base.all.flatMap fun b => SlotName.coherentChars b (d.exponent b) := by
  rw [(isNamed_coherent d).toList_text]
  refine List.flatMap_congr fun b _ => ?_
  by_cases h : ((coherent d).exponent b).val = 0
  · rw [slotChars_of_zero h]
    exact (SlotName.coherentChars_of_zero h).symm
  · rw [slotChars_of_ne h, ratio_coherent, SlotName.chars_one h]
    exact (SlotName.coherentChars_of_ne h).symm

end Unit

/-! ## Reading a name -/

namespace SlotName

/-- The base quantity whose coherent symbol the text begins with. -/
def baseAt : List Char → Option Base
  | 'm' :: 'o' :: _ => some (.si .amount)
  | 'm' :: _ => some (.si .length)
  | 'k' :: _ => some (.si .mass)
  | 's' :: _ => some (.si .time)
  | 'A' :: _ => some (.si .current)
  | 'K' :: _ => some (.si .temperature)
  | 'c' :: 'd' :: _ => some (.si .luminous)
  | 'r' :: _ => some (.extra .angle)
  | 'c' :: 'u' :: _ => some (.extra .currency)
  | 'b' :: _ => some (.extra .information)
  | 'c' :: 't' :: _ => some (.extra .count)
  | _ => none

/-- The exponent at the front of the text, one if none is written, and what follows it. -/
def readSuffix : List Char → Option (Exponent × List Char)
  | '^' :: s => do
    let (e, s) ← Word.readText .i32 s
    if e.val = 0 ∨ e.val = 1 then none else some (e, s)
  | s => some (.one, s)

/-- The exponent of a base quantity, zero if the text does not begin with its symbol. -/
def readSlot (b : Base) (s : List Char) : Option (Exponent × List Char) :=
  if baseAt s = some b then do
    let s ← afterPiece s (coherentSymbol b)
    readSuffix s
  else some (.zero, s)

/-- The exponents of the base quantities of the list, and the rest. -/
def readSlots : List Base → List Char → Option (List Exponent × List Char)
  | [], s => some ([], s)
  | b :: l, s => do
    let (e, s) ← readSlot b s
    let (es, s) ← readSlots l s
    return (e :: es, s)

theorem readSlots_cons_eq_some_iff {l : List Base} {b : Base} {s k : List Char} {es : List Exponent} :
    readSlots (b :: l) s = some (es, k) ↔
      ∃ x t xs, readSlot b s = some (x, t) ∧ readSlots l t = some (xs, k) ∧ es = x :: xs := by
  simp only [readSlots, Option.bind_eq_bind, Option.bind_eq_some_iff, Prod.exists]
  constructor
  · rintro ⟨x, t, hx, xs, t', hxs, h⟩
    obtain ⟨rfl, rfl⟩ := Prod.mk.inj (Option.some.inj h)
    exact ⟨x, t, xs, hx, hxs, rfl⟩
  · rintro ⟨x, t, xs, hx, hxs, rfl⟩
    exact ⟨x, t, hx, xs, k, hxs, rfl⟩

/-! ### What is written is read -/

/-- A character that goes on with neither a symbol nor an exponent. -/
def IsStart (c : Char) : Prop := c ≠ 'o' ∧ c ≠ '^' ∧ ¬Word.isTextChar c

instance (c : Char) : Decidable (IsStart c) := by unfold IsStart; infer_instance

theorem isSome_coherentSymbol : ∀ b, (coherentSymbol b).head?.isSome := forall_base (by decide)

theorem isStart_coherentSymbol (b : Base) : ∀ c ∈ (coherentSymbol b).head?, IsStart c := by
  have h : ∀ b, (coherentSymbol b).head?.all fun c => IsStart c := forall_base (by decide +kernel)
  simpa [Option.all_eq_true] using h b

theorem baseAt_append (b : Base) {k : List Char} (hk : ∀ c ∈ k.head?, c ≠ 'o') :
    baseAt (coherentSymbol b ++ k) = some b := by
  obtain b | b := b <;> cases b <;> try rfl
  cases k with
  | nil => rfl
  | cons c k =>
    show baseAt ('m' :: c :: k) = _
    unfold baseAt
    split
    · next h => exact absurd (List.cons.inj (List.cons.inj h).2).1 (hk c rfl)
    all_goals simp_all

theorem head?_exponentSuffix {e : Exponent} {k : List Char} (hk : ∀ c ∈ k.head?, IsStart c) :
    ∀ c ∈ ((exponentSuffix e).toList ++ k).head?, c ≠ 'o' := by
  by_cases h : e.val = 1
  · rw [exponentSuffix_of_one h, List.nil_append]
    exact fun c hc => (hk c hc).1
  · rw [exponentSuffix_of_ne h]
    rintro c hc
    obtain rfl : '^' = c := Option.some.inj hc
    decide

theorem readSuffix_append {e : Exponent} (he : e.val ≠ 0) {k : List Char}
    (hk : ∀ c ∈ k.head?, IsStart c) :
    readSuffix ((exponentSuffix e).toList ++ k) = some (e, k) := by
  by_cases h : e.val = 1
  · obtain rfl : Word.one = e := Word.ext h.symm
    rw [exponentSuffix_of_one h, List.nil_append]
    unfold readSuffix
    split
    · exact absurd rfl (hk '^' rfl).2.1
    · rfl
  · rw [exponentSuffix_of_ne h]
    show (do
      let (e, s) ← Word.readText .i32 (e.text.toList ++ k)
      if e.val = 0 ∨ e.val = 1 then none else some (e, s)) = some (e, k)
    rw [Word.readText_append e fun c hc => (hk c hc).2.2]
    exact if_neg (by simp [he, h])

variable {l : List Base} {e : Base → Exponent}

theorem isStart_flatMap : ∀ c ∈ (l.flatMap fun b => coherentChars b (e b)).head?, IsStart c := by
  induction l with
  | nil => simp
  | cons b l ih =>
    rw [List.flatMap_cons]
    by_cases h : (e b).val = 0
    · rwa [coherentChars_of_zero h, List.nil_append]
    · rw [coherentChars_of_ne h, List.append_assoc, List.head?_append,
        Option.or_of_isSome (isSome_coherentSymbol b)]
      exact isStart_coherentSymbol b

/-- The next base quantity is one of those that are still to come. -/
theorem mem_of_baseAt_flatMap {b : Base}
    (h : baseAt (l.flatMap fun b => coherentChars b (e b)) = some b) : b ∈ l := by
  induction l with
  | nil => cases h
  | cons c l ih =>
    rw [List.flatMap_cons] at h
    by_cases hc : (e c).val = 0
    · rw [coherentChars_of_zero hc, List.nil_append] at h
      exact List.mem_cons_of_mem c (ih h)
    · rw [coherentChars_of_ne hc, List.append_assoc,
        baseAt_append c (head?_exponentSuffix isStart_flatMap), Option.some.injEq] at h
      exact h ▸ List.mem_cons_self

theorem readSlot_append {b : Base} (hb : b ∉ l) :
    readSlot b (coherentChars b (e b) ++ l.flatMap fun b => coherentChars b (e b)) =
      some (e b, l.flatMap fun b => coherentChars b (e b)) := by
  by_cases h : (e b).val = 0
  · rw [coherentChars_of_zero h, List.nil_append, readSlot,
      if_neg fun hat => hb (mem_of_baseAt_flatMap hat), show e b = .zero from Word.ext h]
  · rw [coherentChars_of_ne h, List.append_assoc, readSlot,
      if_pos (baseAt_append b (head?_exponentSuffix isStart_flatMap)),
      afterPiece_eq_some_iff.2 rfl]
    exact readSuffix_append h isStart_flatMap

theorem readSlots_flatMap (hl : l.Nodup) :
    readSlots l (l.flatMap fun b => coherentChars b (e b)) = some (l.map e, []) := by
  induction l with
  | nil => rfl
  | cons b l ih =>
    obtain ⟨hb, hl⟩ := List.nodup_cons.1 hl
    rw [List.flatMap_cons]
    exact readSlots_cons_eq_some_iff.2 ⟨e b, _, l.map e, readSlot_append hb, ih hl, rfl⟩

/-! ### What is read was written -/

theorem eq_append_of_readSuffix {s k : List Char} {e : Exponent}
    (h : readSuffix s = some (e, k)) : e.val ≠ 0 ∧ s = (exponentSuffix e).toList ++ k := by
  unfold readSuffix at h
  split at h
  · next s =>
    simp only [Option.bind_eq_bind, Option.bind_eq_some_iff, Prod.exists] at h
    obtain ⟨v, t, hr, h⟩ := h
    split_ifs at h with h01
    obtain ⟨rfl, rfl⟩ := Prod.mk.inj (Option.some.inj h)
    rw [not_or] at h01
    rw [exponentSuffix_of_ne h01.2, Word.eq_append_of_readText hr]
    exact ⟨h01.1, rfl⟩
  · obtain ⟨rfl, rfl⟩ := Prod.mk.inj (Option.some.inj h)
    exact ⟨by decide, rfl⟩

theorem eq_append_of_readSlot {b : Base} {s k : List Char} {e : Exponent}
    (h : readSlot b s = some (e, k)) : s = coherentChars b e ++ k := by
  unfold readSlot at h
  split_ifs at h
  · obtain ⟨t, ht, h⟩ := Option.bind_eq_some_iff.1 h
    obtain ⟨he, rfl⟩ := eq_append_of_readSuffix h
    rw [coherentChars_of_ne he, List.append_assoc, ← afterPiece_eq_some_iff]
    exact ht
  · obtain ⟨rfl, rfl⟩ := Prod.mk.inj (Option.some.inj h)
    rfl

theorem eq_flatMap_of_readSlots {s k : List Char}
    (h : readSlots l s = some (l.map e, k)) :
    s = (l.flatMap fun b => coherentChars b (e b)) ++ k := by
  induction l generalizing s with
  | nil =>
    obtain ⟨-, rfl⟩ := Prod.mk.inj (Option.some.inj h)
    rfl
  | cons b l ih =>
    obtain ⟨x, t, xs, hx, hxs, hes⟩ := readSlots_cons_eq_some_iff.1 h
    obtain ⟨rfl, rfl⟩ := List.cons.inj hes
    rw [eq_append_of_readSlot hx, ih hxs, List.flatMap_cons, List.append_assoc]

theorem length_of_readSlots {s k : List Char} {es : List Exponent}
    (h : readSlots l s = some (es, k)) : es.length = l.length := by
  induction l generalizing s es with
  | nil =>
    obtain ⟨rfl, -⟩ := Prod.mk.inj (Option.some.inj h)
    rfl
  | cons b l ih =>
    obtain ⟨x, t, xs, -, hxs, rfl⟩ := readSlots_cons_eq_some_iff.1 h
    rw [List.length_cons, List.length_cons, ih hxs]

end SlotName

/-! ## Dimensions -/

namespace Dimension

/-- The dimension of the coherent unit with the given name. -/
def ofCoherentName? (name : String) : Option Dimension := do
  let (es, rest) ← SlotName.readSlots Base.all name.toList
  if rest = [] then Slots.ofList? es else none

/-- The names that are read are the names of coherent units. -/
theorem ofCoherentName?_eq_some_iff {name : String} {d : Dimension} :
    ofCoherentName? name = some d ↔ (Unit.coherent d).text = name := by
  have hd : Slots.toList d = Base.all.map d.exponent := Slots.toList_eq d
  constructor
  · intro h
    simp only [ofCoherentName?, Option.bind_eq_bind, Option.bind_eq_some_iff, Prod.exists] at h
    obtain ⟨es, rest, hread, h⟩ := h
    split_ifs at h with hrest
    have hes : es = Base.all.map d.exponent := by
      rw [← hd, Slots.ofList?_eq_some_iff.1 h]
      exact (List.take_of_length_le (SlotName.length_of_readSlots hread).le).symm
    rw [hes, hrest] at hread
    rw [← String.toList_inj, Unit.toList_text_coherent, SlotName.eq_flatMap_of_readSlots hread,
      List.append_nil]
  · rintro rfl
    rw [ofCoherentName?, Unit.toList_text_coherent, SlotName.readSlots_flatMap Base.nodup_all]
    show Slots.ofList? (Base.all.map d.exponent) = some d
    rw [Slots.ofList?_eq_some_iff, hd]
    exact (List.take_of_length_le (by rw [List.length_map]; exact Nat.le_refl 11)).symm

example : ofCoherentName? "m^2kgs^-2" = some energy := by decide +kernel

end Dimension

/-- The name of a coherent unit is read back: there is a reader of names that gives a dimension
exactly for the name of its coherent unit, and so two dimensions with the same name are equal. -/
theorem Unit.text_coherent_injective :
    (∀ name d, Dimension.ofCoherentName? name = some d ↔ (Unit.coherent d).text = name) ∧
      Function.Injective fun d => (Unit.coherent d).text := by
  refine ⟨fun name d => Dimension.ofCoherentName?_eq_some_iff, fun d₁ d₂ h => ?_⟩
  have h₁ := Dimension.ofCoherentName?_eq_some_iff.2 (rfl : (Unit.coherent d₁).text = _)
  have h₂ := Dimension.ofCoherentName?_eq_some_iff.2 (rfl : (Unit.coherent d₂).text = _)
  exact Option.some.inj (h₁.symm.trans ((congrArg Dimension.ofCoherentName? h).trans h₂))

end Metrology
