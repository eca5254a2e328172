import Mathlib.Logic.Relation
import Mathlib.Tactic.SplitIfs
import Metrology.Proofs.Outcome
import Metrology.Wire.Reader

/-!
# What readers accept

A pack is read from a closed list with one item for each slot, and from nothing else
(`readPack_eq_ok_iff`).  A structure is read from an object member by member: a field that is still
empty is filled by its member (`readMembers_cons`), and a field that is filled in the end was filled
by some member.  So every component of a structure comes from a document right inside the one that
was read, in whichever form that is (`RecordReader.IsField.exists_holds`).
-/

namespace Metrology.Wire

variable {α β σ : Type}

/-- The reader takes every value back from the document that is written for it. -/
def Undoes (read : Document → Read α) (write : α → Document) : Prop := ∀ a, read (write a) = .ok a

/-! ## Strings -/

theorem Document.mismatch_ne_ok {d : Document} {expected : String} {a : α} :
    d.mismatch expected ≠ .ok a := by
  intro h
  obtain ⟨found, -, h⟩ := bind_eq_ok_iff.1 h
  cases h

theorem readKey_eq_ok_iff {d : Document} {key : String} :
    readKey d = .ok key ↔ d = .string key := by
  cases d <;> simp [readKey]

theorem readString_eq_ok_iff {d : Document} {t : String} :
    readString d = .ok t ↔ d = .string t := by
  unfold readString
  split
  · simp
  · next hd =>
    refine ⟨fun h => absurd h Document.mismatch_ne_ok, ?_⟩
    rintro rfl
    exact absurd rfl (hd t)

/-! ## Lists -/

namespace Elements

variable {expected : String} {read : Document → Read α} {i n : Nat} {e e' : Elements}

theorem next_eq_ok_iff {a : α} :
    e.next expected i read = .ok (a, e') ↔
      ∃ d, read d = .ok a ∧ e = ⟨d :: e'.items, e'.closed⟩ := by
  obtain ⟨items, closed⟩ := e
  obtain ⟨items', closed'⟩ := e'
  cases items with
  | nil => cases closed <;> simp [next]
  | cons d ds =>
    simp only [next, bind_eq_ok_iff, pure, Except.pure, Except.ok.injEq, Prod.mk.injEq,
      Elements.mk.injEq, List.cons.injEq]
    constructor
    · rintro ⟨a', ha, rfl, rfl, rfl⟩
      exact ⟨d, ha, ⟨rfl, rfl⟩, rfl⟩
    · rintro ⟨d', ha, ⟨rfl, rfl⟩, rfl⟩
      exact ⟨a, ha, rfl, rfl, rfl⟩

theorem finish_eq_ok_iff {x : PUnit} : e.finish = .ok x ↔ e = ⟨[], true⟩ := by
  obtain ⟨_ | ⟨d, ds⟩, _ | _⟩ := e <;> simp [finish]

/-- The elements of a pack are the next items, one for each slot. -/
theorem pack_eq_ok_iff {p : Pack α n} :
    pack expected read i n e = .ok (p, e') ↔
      ∃ items, items.map read = p.toList.map .ok ∧ e = ⟨items ++ e'.items, e'.closed⟩ := by
  induction n generalizing i e with
  | zero =>
    cases p
    obtain ⟨items, closed⟩ := e
    obtain ⟨items', closed'⟩ := e'
    simp [pack]
  | succ n ih =>
    cases p with
    | cons a p =>
      simp only [pack, bind_eq_ok_iff, Prod.exists, next_eq_ok_iff, pure, Except.pure,
        Except.ok.injEq, Prod.mk.injEq, Pack.cons.injEq, Pack.toList_cons, List.map_cons]
      constructor
      · rintro ⟨_, _, ⟨d, hd, rfl⟩, _, _, hp, ⟨rfl, rfl⟩, rfl⟩
        obtain ⟨items, hitems, rfl⟩ := ih.1 hp
        exact ⟨d :: items, by rw [List.map_cons, hd, hitems], rfl⟩
      · rintro ⟨items, hitems, rfl⟩
        obtain ⟨d, items, rfl, hd, hitems⟩ := List.map_eq_cons_iff.1 hitems
        exact ⟨a, ⟨items ++ e'.items, e'.closed⟩, ⟨d, hd, rfl⟩, p, e',
          ih.2 ⟨items, hitems, rfl⟩, ⟨rfl, rfl⟩, rfl⟩

end Elements

/-- A pack is read from a closed list of as many items as it has slots, each read as its slot. -/
theorem readPack_eq_ok_iff {n : Nat} {read : Document → Read α} {d : Document} {p : Pack α n} :
    readPack n read d = .ok p ↔
      ∃ items, d = .list items true ∧ items.map read = p.toList.map .ok := by
  unfold readPack
  cases d with
  | list items closed =>
    simp only [bind_eq_ok_iff, Prod.exists, Elements.pack_eq_ok_iff, Elements.finish_eq_ok_iff,
      pure, Except.pure, Except.ok.injEq, Document.list.injEq, Elements.mk.injEq]
    constructor
    · rintro ⟨_, _, ⟨items, hitems, rfl, rfl⟩, _, rfl, rfl⟩
      exact ⟨items, ⟨List.append_nil items, rfl⟩, hitems⟩
    · rintro ⟨items, ⟨rfl, rfl⟩, hitems⟩
      exact ⟨p, ⟨[], true⟩, ⟨_, hitems, (List.append_nil _).symm, rfl⟩, ⟨⟩, rfl, rfl⟩
  | _ => exact iff_of_false Document.mismatch_ne_ok (by simp)

/-! ## Objects -/

theorem readOnce_eq_ok_iff {name : String} {seen : Option α} {read : Document → Read α}
    {store : α → σ} {r : Option (Document → Read σ)} :
    readOnce name seen read store = .ok r ↔ seen = none ∧ r = some fun d => store <$> read d := by
  cases seen with
  | none => simp [readOnce, eq_comm]
  | some a => simp [readOnce]

/-- The value of a field is read and put into its place. -/
theorem exists_of_readOnce {name : String} {seen : Option α} {read : Document → Read α}
    {store : α → σ} {r : Document → Read σ} {d : Document} {s : σ}
    (h : readOnce name seen read store = .ok (some r)) (hd : r d = .ok s) :
    ∃ a, read d = .ok a ∧ s = store a := by
  obtain ⟨-, hr⟩ := readOnce_eq_ok_iff.1 h
  cases hr
  obtain ⟨a, ha, hs⟩ := map_eq_ok_iff.1 hd
  exact ⟨a, ha, hs.symm⟩

/-- A member has a string as its key, and its value is read if the field is known. -/
theorem readMember_eq_ok_iff {field : FieldReader σ} {s s' : σ} {m : Document × Document} :
    readMember field s m = .ok s' ↔ ∃ key, m.1 = .string key ∧
      ((∃ read, field s key = .ok (some read) ∧ read m.2 = .ok s') ∨
        field s key = .ok none ∧ m.2.isWhole = true ∧ s = s') := by
  unfold readMember
  simp only [bind_eq_ok_iff, readKey_eq_ok_iff]
  refine exists_congr fun key => and_congr_right fun _ => ?_
  constructor
  · rintro ⟨read | read, hr, h⟩
    · dsimp only at h
      split_ifs at h with hw
      exact .inr ⟨hr, hw, Except.ok.inj h⟩
    · exact .inl ⟨read, hr, h⟩
  · rintro (⟨read, hr, h⟩ | ⟨hr, hw, rfl⟩)
    · exact ⟨some read, hr, h⟩
    · exact ⟨none, hr, if_pos hw⟩

/-! ### Members that are refused -/

theorem readMember_of_key {field : FieldReader σ} {s : σ} {d key : Document}
    (h : ∀ name, key ≠ .string name) : readMember field s (key, d) = .error .malformed := by
  unfold readMember
  cases key with
  | string name => exact absurd rfl (h name)
  | _ => rfl

theorem readMember_string (field : FieldReader σ) (s : σ) (name : String) (d : Document) :
    readMember field s (.string name, d) = field s name >>= fun
      | some read => read d
      | none => if d.isWhole then .ok s else .error .malformed := rfl

/-- A member is refused because its field is filled, or with the fault of its value. -/
theorem readMember_eq_error_iff_of_readOnce {field : FieldReader σ} {s : σ} {d : Document}
    {e : ReadFault} {name : String} {seen : Option α} {read : Document → Read α} {store : α → σ}
    (h : field s name = readOnce name seen read store) :
    readMember field s (.string name, d) = .error e ↔
      seen ≠ none ∧ e = .data (.duplicateField name) ∨ seen = none ∧ read d = .error e := by
  rw [readMember_string, h]
  cases seen with
  | some a => simp [readOnce, bind, Except.bind, eq_comm]
  | none => simpa [readOnce, bind, Except.bind] using map_eq_error_iff

/-! ### The members of an object -/

/-- The first member fills its field, and the others are read after it. -/
theorem readMembers_cons {field : FieldReader σ} {s : σ} {name : String} {read : Document → Read α}
    {store : α → σ} {d : Document} {a : α} (members : List (Document × Document)) (closed : Bool)
    (hf : field s name = .ok (some fun d => store <$> read d)) (ha : read d = .ok a) :
    readMembers field s ((.string name, d) :: members) closed =
      readMembers field (store a) members closed := by
  have hm : readMember field s (.string name, d) = .ok (store a) :=
    readMember_eq_ok_iff.2 ⟨name, rfl, .inl ⟨_, hf, by rw [ha]; rfl⟩⟩
  rw [readMembers, List.foldlM_cons, hm]
  rfl

theorem RecordReader.read_object {r : RecordReader σ α} {members : List (Document × Document)}
    {s : σ} (h : readMembers r.field r.start members true = .ok s) :
    r.read (.object members true) = r.finish s := by
  show readMembers r.field r.start members true >>= r.finish = _
  rw [h]
  rfl

theorem require_eq_ok_iff {name : String} {o : Option α} {a : α} :
    require name o = .ok a ↔ o = some a := by
  cases o <;> simp [require]

/-! ## Components -/

/-- The document is an item or the value of a member of the other one. -/
inductive Document.Holds : Document → Document → Prop
  | item {items : List Document} {closed : Bool} {e : Document} :
    e ∈ items → Holds (.list items closed) e
  | value {members : List (Document × Document)} {closed : Bool} {k e : Document} :
    (k, e) ∈ members → Holds (.object members closed) e

/-- The document is the other one or stands somewhere inside it. -/
abbrev Document.Contains : Document → Document → Prop := Relation.ReflTransGen Document.Holds

namespace RecordReader

/-- A component of the structure: it is empty at first, a member leaves it as it is or is read into
it, and it has to be there in the end; of a list it is one of the elements. -/
structure IsField (r : RecordReader σ α) (slot : σ → Option β) (component : α → β)
    (read : Document → Read β) : Prop where
  start : slot r.start = none
  member {s s' : σ} {m : Document × Document} : readMember r.field s m = .ok s' →
    slot s' = slot s ∨ ∃ b, read m.2 = .ok b ∧ slot s' = some b
  finish {s : σ} {a : α} : r.finish s = .ok a → slot s = some (component a)
  elements {e e' : Elements} {a : α} : r.elements e = .ok (a, e') →
    ∃ d ∈ e.items, read d = .ok (component a)

variable {r : RecordReader σ α} {slot : σ → Option β} {component : α → β}
  {read : Document → Read β}

/-- What fills the field in the end was read from a member. -/
theorem IsField.exists_member (h : r.IsField slot component read) {s : σ}
    {members : List (Document × Document)} {b : β}
    (hs : members.foldlM (readMember r.field) r.start = .ok s) (hb : slot s = some b) :
    ∃ m ∈ members, read m.2 = .ok b := by
  have hinv := foldlM_invariant_of_mem
    (P := fun s => ∀ b, slot s = some b → ∃ m ∈ members, read m.2 = .ok b)
    (fun s m hm s' hs' hs b hb => ?_) hs (fun b hb => ?_)
  · exact hinv b hb
  · obtain heq | ⟨b', hread, hb'⟩ := h.member hs'
    · exact hs b (heq ▸ hb)
    · rw [hb', Option.some.injEq] at hb
      exact ⟨m, hm, hb ▸ hread⟩
  · rw [h.start] at hb
    cases hb

/-- A component was read from an item or from the value of a member. -/
theorem IsField.exists_holds (h : r.IsField slot component read) {d : Document} {a : α}
    (hd : r.read d = .ok a) : ∃ e, d.Holds e ∧ read e = .ok (component a) := by
  unfold RecordReader.read at hd
  cases d with
  | object members closed =>
    obtain ⟨s, hs, ha⟩ := bind_eq_ok_iff.1 hd
    obtain ⟨s', hs', hclosed⟩ := bind_eq_ok_iff.1 hs
    split_ifs at hclosed
    cases hclosed
    obtain ⟨⟨k, e⟩, hm, he⟩ := h.exists_member hs' (h.finish ha)
    exact ⟨e, .value hm, he⟩
  | list items closed =>
    obtain ⟨⟨a', rest⟩, ha, hrest⟩ := bind_eq_ok_iff.1 hd
    obtain ⟨-, -, hrest⟩ := bind_eq_ok_iff.1 hrest
    cases hrest
    obtain ⟨e, he, hread⟩ := h.elements ha
    exact ⟨e, .item he, hread⟩
  | _ => exact absurd hd Document.mismatch_ne_ok

end RecordReader

end Metrology.Wire
