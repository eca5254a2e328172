import Metrology.Outcome

/-!
# Computations that can fail

A computation in sequence has a value when each of its steps has one (`bind_eq_ok_iff`).  A run
over a list has a value when every step has one (`mapM_eq_ok_iff`) and otherwise stops with the
first error (`mapM_eq_error_iff`), as does an accumulating run (`foldlM_eq_error_iff`).  A property
that the steps of an accumulating run keep holds at its end (`foldlM_invariant_of_mem`).
-/

namespace Metrology

variable {α β ε : Type}

theorem bind_eq_ok_iff {o : Except ε α} {f : α → Except ε β} {b : β} :
    o >>= f = .ok b ↔ ∃ a, o = .ok a ∧ f a = .ok b := by
  cases o <;> simp [bind, Except.bind]

theorem bind_eq_error_iff {o : Except ε α} {f : α → Except ε β} {e : ε} :
    o >>= f = .error e ↔ o = .error e ∨ ∃ a, o = .ok a ∧ f a = .error e := by
  cases o <;> simp [bind, Except.bind]

theorem map_eq_ok_iff {o : Except ε α} {f : α → β} {b : β} :
    f <$> o = .ok b ↔ ∃ a, o = .ok a ∧ f a = b := by
  cases o <;> simp [Functor.map, Except.map]

theorem map_eq_error_iff {o : Except ε α} {f : α → β} {e : ε} :
    f <$> o = .error e ↔ o = .error e := by
  cases o <;> simp [Functor.map, Except.map]

theorem toOption_eq_some_iff {o : Except ε α} {a : α} : o.toOption = some a ↔ o = .ok a := by
  cases o <;> simp [Except.toOption]

/-! ## Runs over a list -/

/-- The error of a computation that has no value. -/
def error? : Except ε α → Option ε
  | .ok _ => none
  | .error e => some e

@[simp] theorem error?_ok (a : α) : error? (.ok a : Except ε α) = none := rfl

@[simp] theorem error?_error (e : ε) : error? (.error e : Except ε α) = some e := rfl

theorem error?_eq_some_iff {o : Except ε α} {e : ε} : error? o = some e ↔ o = .error e := by
  cases o <;> simp

theorem mapM_eq_ok_iff {f : α → Except ε β} {l : List α} {r : List β} :
    l.mapM f = .ok r ↔ l.map f = r.map .ok := by
  induction l generalizing r with
  | nil => cases r <;> simp [pure, Except.pure]
  | cons a l ih =>
    rw [List.mapM_cons]
    cases hf : f a with
    | error e => cases r <;> simp [hf, bind, Except.bind]
    | ok b =>
      cases hl : l.mapM f with
      | error e =>
        cases r with
        | nil => simp [bind, Except.bind]
        | cons c r =>
          simp only [bind, Except.bind, reduceCtorEq, List.map_cons, hf, List.cons.injEq,
            false_iff, not_and, ← ih, hl, not_false_eq_true, implies_true]
      | ok bs =>
        cases r with
        | nil => simp [bind, Except.bind, pure, Except.pure]
        | cons c r =>
          simp only [bind, Except.bind, pure, Except.pure, Except.ok.injEq, List.cons.injEq,
            List.map_cons, hf, ← ih, hl]

/-- A run stops with the first error. -/
theorem mapM_eq_error_iff {f : α → Except ε β} {l : List α} {e : ε} :
    l.mapM f = .error e ↔ l.findSome? (fun a => error? (f a)) = some e := by
  induction l with
  | nil => simp [pure, Except.pure]
  | cons a l ih =>
    rw [List.mapM_cons, List.findSome?_cons]
    cases hf : f a with
    | error e' => simp [bind, Except.bind]
    | ok b =>
      rw [error?_ok, ← ih]
      cases hl : l.mapM f <;> simp [bind, Except.bind, pure, Except.pure]

/-! ## Accumulating runs -/

section Accumulate

variable {f : β → α → Except ε β} {P : β → Prop} {l : List α} {b b' : β}

/-- What every step of the run keeps, the run keeps. -/
theorem foldlM_invariant_of_mem (hf : ∀ b, ∀ a ∈ l, ∀ b', f b a = .ok b' → P b → P b')
    (h : l.foldlM f b = .ok b') (hb : P b) : P b' := by
  induction l generalizing b with
  | nil =>
    cases h
    exact hb
  | cons a l ih =>
    rw [List.foldlM_cons] at h
    obtain ⟨c, hc, h⟩ := bind_eq_ok_iff.1 h
    refine ih (fun b a' ha' => hf b a' (List.mem_cons_of_mem a ha')) h ?_
    exact hf b a List.mem_cons_self c hc hb

/-- A run stops with an error exactly at a step that fails after the steps before it. -/
theorem foldlM_eq_error_iff {e : ε} :
    l.foldlM f b = .error e ↔
      ∃ l₁ a l₂ c, l = l₁ ++ a :: l₂ ∧ l₁.foldlM f b = .ok c ∧ f c a = .error e := by
  constructor
  · intro h
    induction l generalizing b with
    | nil => cases h
    | cons a l ih =>
      rw [List.foldlM_cons] at h
      cases hf : f b a with
      | error e' =>
        rw [hf] at h
        cases h
        exact ⟨[], a, l, b, rfl, rfl, hf⟩
      | ok c =>
        rw [hf] at h
        obtain ⟨l₁, a', l₂, d, rfl, hd, he⟩ := ih h
        refine ⟨a :: l₁, a', l₂, d, rfl, ?_, he⟩
        rw [List.foldlM_cons, hf]
        exact hd
  · rintro ⟨l₁, a, l₂, c, rfl, hc, he⟩
    rw [List.foldlM_append, hc]
    show (a :: l₂).foldlM f c = .error e
    rw [List.foldlM_cons, he]
    rfl

end Accumulate

end Metrology
