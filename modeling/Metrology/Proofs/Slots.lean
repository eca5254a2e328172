import Mathlib.Data.List.Zip
import Metrology.Base
import Metrology.Proofs.Outcome

/-!
# Runs over slots

A computation over slots visits the base quantities in their order: it is a run (`Slots.IsRun`) of
one computation for each base quantity.  A run has a value when every computation has one
(`IsRun.eq_ok_iff`), and otherwise it stops with the first error in that order
(`IsRun.eq_error_iff`).  Slots are determined by their list, which `Slots.ofList?` takes back.
-/

namespace Metrology

/-! ## Packs -/

namespace Pack

variable {α β γ ε : Type}

theorem toList_zipM (f : α → β → Except ε γ) : ∀ {n : Nat} (p : Pack α n) (q : Pack β n),
    toList <$> zipM f p q = (p.toList.zip q.toList).mapM fun x => f x.1 x.2
  | _, nil, nil => rfl
  | _, cons a p, cons b q => by
    rw [toList_cons, toList_cons, List.zip_cons_cons, List.mapM_cons, ← toList_zipM f p q, zipM]
    cases f a b with
    | error e => rfl
    | ok c => cases zipM f p q <;> rfl

theorem toList_traverse (f : α → Except ε β) : ∀ {n : Nat} (p : Pack α n),
    toList <$> p.traverse f = p.toList.mapM f
  | _, nil => rfl
  | _, cons a p => by
    rw [toList_cons, List.mapM_cons, ← toList_traverse f p, traverse]
    cases f a with
    | error e => rfl
    | ok c => cases p.traverse f <;> rfl

theorem ofList?_eq_some_iff : ∀ {n : Nat} {l : List α} {p : Pack α n},
    ofList? n l = some p ↔ p.toList = l.take n
  | 0, l, nil => by simp [ofList?]
  | n + 1, [], cons a p => by simp [ofList?]
  | n + 1, b :: l, cons a p => by
    simp only [ofList?, Option.map_eq_some_iff, ofList?_eq_some_iff, toList_cons,
      List.take_succ_cons, List.cons.injEq, cons.injEq]
    constructor
    · rintro ⟨q, hq, rfl, rfl⟩
      exact ⟨rfl, hq⟩
    · rintro ⟨rfl, hp⟩
      exact ⟨p, hp, rfl, rfl⟩

theorem get_mem_toList : ∀ {n : Nat} (p : Pack α n) (i : Fin n), p.get i ∈ p.toList
  | _, cons _ _, ⟨0, _⟩ => List.mem_cons_self
  | _, cons a p, ⟨_ + 1, _⟩ => List.mem_cons_of_mem a (p.get_mem_toList _)

theorem get_replicate (a : α) : ∀ {n : Nat} (i : Fin n), (replicate n a).get i = a
  | _ + 1, ⟨0, _⟩ => rfl
  | n + 1, ⟨i + 1, h⟩ => get_replicate a (⟨i, Nat.lt_of_succ_lt_succ h⟩ : Fin n)

theorem get_set (b : α) : ∀ {n : Nat} (p : Pack α n) (i j : Fin n),
    (p.set i b).get j = if j = i then b else p.get j
  | _, cons _ _, ⟨0, _⟩, ⟨0, _⟩ => rfl
  | _, cons _ _, ⟨0, _⟩, ⟨_ + 1, _⟩ => rfl
  | _, cons _ _, ⟨_ + 1, _⟩, ⟨0, _⟩ => rfl
  | _, cons _ p, ⟨i + 1, hi⟩, ⟨j + 1, hj⟩ => by
    rw [set, get, get_set b p]
    simp [get]

theorem count_eq_countP (p : α → Bool) : ∀ {n : Nat} (q : Pack α n), q.count p = q.toList.countP p
  | _, nil => rfl
  | _, cons a q => by
    rw [count, toList_cons, List.countP_cons, ← count_eq_countP p q]
    split_ifs <;> rfl

theorem find_eq_findIdx (p : α → Bool) : ∀ {n : Nat} (q : Pack α n),
    q.find p = q.toList.findIdx p
  | _, nil => rfl
  | _, cons a q => by
    rw [find, toList_cons, List.findIdx_cons, ← find_eq_findIdx p q]
    cases p a <;> rfl

end Pack

/-! ## Slots -/

theorem Base.nodup_all : Base.all.Nodup := by decide

namespace Slots

variable {α β γ ε : Type}

theorem toList_si (s : Slots α) : s.si.toList = SiBase.all.map fun b => s.get (.si b) := by
  obtain ⟨si, extra⟩ := s
  match si with
  | .cons _ (.cons _ (.cons _ (.cons _ (.cons _ (.cons _ (.cons _ .nil)))))) => rfl

theorem toList_extra (s : Slots α) :
    s.extra.toList = ExtraBase.all.map fun b => s.get (.extra b) := by
  obtain ⟨si, extra⟩ := s
  match extra with
  | .cons _ (.cons _ (.cons _ (.cons _ .nil))) => rfl

theorem toList_eq (s : Slots α) : s.toList = Base.all.map s.get := by
  rw [toList, toList_si, toList_extra]
  rfl

theorem ofList?_eq_some_iff {l : List α} {s : Slots α} :
    ofList? l = some s ↔ s.toList = l.take 11 := by
  rw [toList, show 11 = 7 + 4 from rfl, List.take_add]
  constructor
  · intro h
    simp only [ofList?, Option.bind_eq_bind, Option.bind_eq_some_iff] at h
    obtain ⟨si, hsi, extra, hextra, h⟩ := h
    obtain rfl := Option.some.inj h
    rw [Pack.ofList?_eq_some_iff.1 hsi, Pack.ofList?_eq_some_iff.1 hextra]
  · intro h
    have hlen : (l.take 7).length = 7 := by
      have := congrArg List.length h
      simp only [List.length_append, Pack.length_toList, List.length_take, List.length_drop] at this
      rw [List.length_take]
      omega
    obtain ⟨hsi, hextra⟩ := List.append_inj h (by rw [Pack.length_toList, hlen])
    rw [ofList?, Pack.ofList?_eq_some_iff.2 hsi, Pack.ofList?_eq_some_iff.2 hextra]
    rfl

theorem ext_get {s t : Slots α} (h : ∀ b, s.get b = t.get b) : s = t := by
  have hl : s.toList = t.toList := by
    rw [toList_eq, toList_eq]
    exact List.map_congr_left fun b _ => h b
  obtain ⟨hs, he⟩ := List.append_inj hl (by rw [Pack.length_toList, Pack.length_toList])
  exact Slots.ext (Pack.toList_inj.1 hs) (Pack.toList_inj.1 he)

/-- A single value stands at its base quantity and nowhere else. -/
theorem get_single (rest a : α) (b c : Base) :
    (single rest b a).get c = if c = b then a else rest := by
  have hsi (b c : SiBase) : c.index = b.index ↔ c = b := by
    cases b <;> cases c <;> decide
  have hextra (b c : ExtraBase) : c.index = b.index ↔ c = b := by
    cases b <;> cases c <;> decide
  cases b with
  | si b =>
    cases c with
    | si c => simp [single, get, Pack.get_set, Pack.get_replicate, hsi]
    | extra c => simp [single, get, Pack.get_replicate]
  | extra b =>
    cases c with
    | si c => simp [single, get, Pack.get_replicate]
    | extra c => simp [single, get, Pack.get_set, Pack.get_replicate, hextra]

theorem get_replicate (a : α) (c : Base) : (replicate a).get c = a := by
  cases c with
  | si c => exact Pack.get_replicate a _
  | extra c => exact Pack.get_replicate a _

theorem count_eq_countP (p : α → Bool) (s : Slots α) :
    s.count p = Base.all.countP fun b => p (s.get b) := by
  rw [count, Pack.count_eq_countP, Pack.count_eq_countP, ← List.countP_append, ← toList, toList_eq,
    List.countP_map]
  rfl

theorem count_eq_zero_iff {p : α → Bool} {s : Slots α} :
    s.count p = 0 ↔ ∀ b, ¬p (s.get b) := by
  rw [count_eq_countP, List.countP_eq_zero]
  simp [Base.mem_all]

theorem zip_toList (s : Slots α) (t : Slots β) :
    s.toList.zip t.toList = Base.all.map fun b => (s.get b, t.get b) := by
  rw [toList_eq, toList_eq, List.zip_map']

/-- The computation runs through the base quantities in their order. -/
def IsRun (o : Except ε (Slots γ)) (f : Base → Except ε γ) : Prop :=
  toList <$> o = Base.all.mapM f

theorem isRun_zipM (f : α → β → Except ε γ) (s : Slots α) (t : Slots β) :
    IsRun (zipM f s t) fun b => f (s.get b) (t.get b) := by
  have h : (s.toList.zip t.toList).mapM (fun x => f x.1 x.2) = toList <$> zipM f s t := by
    rw [toList, toList, List.zip_append (by rw [Pack.length_toList, Pack.length_toList]),
      List.mapM_append, ← Pack.toList_zipM, ← Pack.toList_zipM, zipM]
    cases Pack.zipM f s.si t.si with
    | error e => rfl
    | ok si => cases Pack.zipM f s.extra t.extra <;> rfl
  rw [IsRun, ← h, zip_toList, List.mapM_map]
  rfl

theorem isRun_traverse (f : α → Except ε β) (s : Slots α) :
    IsRun (s.traverse f) fun b => f (s.get b) := by
  have h : s.toList.mapM f = toList <$> s.traverse f := by
    rw [toList, List.mapM_append, ← Pack.toList_traverse, ← Pack.toList_traverse, traverse]
    cases s.si.traverse f with
    | error e => rfl
    | ok si => cases s.extra.traverse f <;> rfl
  rw [IsRun, ← h, toList_eq, List.mapM_map]
  rfl

namespace IsRun

variable {o : Except ε (Slots γ)} {f : Base → Except ε γ}

theorem eq_ok_iff (h : IsRun o f) {r : Slots γ} : o = .ok r ↔ ∀ b, f b = .ok (r.get b) := by
  have hr : o = .ok r ↔ toList <$> o = .ok r.toList := by
    cases o with
    | error e => simp [Functor.map, Except.map]
    | ok t =>
      simp only [Functor.map, Except.map, Except.ok.injEq]
      refine ⟨congrArg toList, fun h => ext_get fun b => ?_⟩
      rw [toList_eq, toList_eq, List.map_inj_left] at h
      exact h b b.mem_all
  rw [hr, h, mapM_eq_ok_iff, toList_eq, List.map_map, List.map_inj_left]
  exact ⟨fun h b => h b b.mem_all, fun h b _ => h b⟩

theorem eq_error_iff (h : IsRun o f) {e : ε} :
    o = .error e ↔ Base.all.findSome? (fun b => error? (f b)) = some e := by
  rw [← mapM_eq_error_iff, ← h]
  cases o <;> simp [Functor.map, Except.map]

/-- The error of a run is that of one of its computations. -/
theorem exists_error (h : IsRun o f) {e : ε} (ho : o = .error e) : ∃ b, f b = .error e := by
  obtain ⟨b, -, hb⟩ := List.exists_of_findSome?_eq_some (h.eq_error_iff.1 ho)
  exact ⟨b, error?_eq_some_iff.1 hb⟩

/-- A run has a value if every computation has one. -/
theorem exists_ok (h : IsRun o f) (hf : ∀ b, ∃ c, f b = .ok c) : ∃ r, o = .ok r := by
  cases ho : o with
  | ok r => exact ⟨r, rfl⟩
  | error e =>
    obtain ⟨b, hb⟩ := h.exists_error ho
    obtain ⟨c, hc⟩ := hf b
    simp [hc] at hb

end IsRun

end Slots

end Metrology
