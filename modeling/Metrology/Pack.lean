/-!
# Packs

A pack is a sequence whose length is part of its type, combined slot by slot.  `Pack.traverse`
and `Pack.zipM` run a computation that can fail in slot order and stop at the first failure.
`Pack.toList` is the view in which the laws of packs are stated.
-/

namespace Metrology

/-- A sequence of `n` values. -/
inductive Pack (α : Type) : Nat → Type
  | nil : Pack α 0
  | cons {n : Nat} (head : α) (tail : Pack α n) : Pack α (n + 1)
  deriving DecidableEq

/-- A slot was asked for that the pack does not have. -/
structure IndexFault where
  length : Nat
  index : Nat
  deriving DecidableEq

/-- The text of the fault. -/
def IndexFault.message (f : IndexFault) : String :=
  "index out of bounds: the len is " ++ f.length.repr ++ " but the index is " ++ f.index.repr

namespace Pack

variable {α β γ ε : Type} {n : Nat}

/-- The values in order. -/
def toList : {n : Nat} → Pack α n → List α
  | _, nil => []
  | _, cons a p => a :: p.toList

/-- The pack of the first `n` values of the list. -/
def ofList? : (n : Nat) → List α → Option (Pack α n)
  | 0, _ => some nil
  | n + 1, a :: l => (ofList? n l).map (cons a)
  | _ + 1, [] => none

/-- The same value `n` times. -/
def replicate : (n : Nat) → α → Pack α n
  | 0, _ => nil
  | n + 1, a => cons a (replicate n a)

/-- The value at an index. -/
def get : {n : Nat} → Pack α n → Fin n → α
  | _, cons a _, ⟨0, _⟩ => a
  | _, cons _ p, ⟨i + 1, h⟩ => p.get ⟨i, Nat.lt_of_succ_lt_succ h⟩

/-- The pack with another value at one index. -/
def set : {n : Nat} → Pack α n → Fin n → α → Pack α n
  | _, cons _ p, ⟨0, _⟩, b => cons b p
  | _, cons a p, ⟨i + 1, h⟩, b => cons a (p.set ⟨i, Nat.lt_of_succ_lt_succ h⟩ b)

/-- The function applied to every value. -/
def map (f : α → β) : {n : Nat} → Pack α n → Pack β n
  | _, nil => nil
  | _, cons a p => cons (f a) (p.map f)

/-- The values at equal indices combined. -/
def zip (f : α → β → γ) : {n : Nat} → Pack α n → Pack β n → Pack γ n
  | _, nil, nil => nil
  | _, cons a p, cons b q => cons (f a b) (zip f p q)

/-! ## Computations that can fail -/

/-- Every value replaced by what the computation makes of it, up to the first that fails. -/
def traverse (f : α → Except ε β) : {n : Nat} → Pack α n → Except ε (Pack β n)
  | _, nil => .ok nil
  | _, cons a p => do
    let b ← f a
    let q ← p.traverse f
    return cons b q

/-- The values at equal indices combined, up to the first pair that fails. -/
def zipM (f : α → β → Except ε γ) : {n : Nat} → Pack α n → Pack β n → Except ε (Pack γ n)
  | _, nil, nil => .ok nil
  | _, cons a p, cons b q => do
    let c ← f a b
    let r ← zipM f p q
    return cons c r

/-- The values taken one by one, up to the first that fails. -/
def foldM (f : β → α → Except ε β) : {n : Nat} → β → Pack α n → Except ε β
  | _, b, nil => .ok b
  | _, b, cons a p => do
    let c ← f b a
    foldM f c p

/-! ## Slots by number -/

/-- The value in slot `i`, or a fault if there is none. -/
def slot (p : Pack α n) (i : Nat) : Except IndexFault α :=
  if h : i < n then .ok (p.get ⟨i, h⟩) else .error ⟨n, i⟩

/-- `rest` everywhere but for `a` in slot `i`, or a fault if there is none. -/
def single (n : Nat) (rest : α) (i : Nat) (a : α) : Except IndexFault (Pack α n) :=
  if h : i < n then .ok ((replicate n rest).set ⟨i, h⟩ a) else .error ⟨n, i⟩

/-! ## Counting and searching -/

/-- How many values have the property. -/
def count (p : α → Bool) : {n : Nat} → Pack α n → Nat
  | _, nil => 0
  | _, cons a q => if p a then q.count p + 1 else q.count p

/-- The number of the first slot with the property, or the length. -/
def find (p : α → Bool) : {n : Nat} → Pack α n → Nat
  | _, nil => 0
  | _, cons a q => if p a then 0 else q.find p + 1

/-- The values taken one by one. -/
def foldl (f : β → α → β) (b : β) (p : Pack α n) : β := p.toList.foldl f b

/-! ## Text -/

/-- The slots in brackets, divided by a comma and a blank. -/
def text (write : α → String) (p : Pack α n) : String :=
  "[" ++ String.intercalate ", " (p.toList.map write) ++ "]"

/-! ## The list of slots -/

@[simp] theorem toList_nil : (nil : Pack α 0).toList = [] := rfl

@[simp] theorem toList_cons (a : α) (p : Pack α n) : (cons a p).toList = a :: p.toList := rfl

@[simp] theorem length_toList : ∀ {n : Nat} (p : Pack α n), p.toList.length = n
  | _, nil => rfl
  | _, cons _ p => congrArg (· + 1) p.length_toList

@[simp] theorem toList_map (f : α → β) : ∀ {n : Nat} (p : Pack α n),
    (p.map f).toList = p.toList.map f
  | _, nil => rfl
  | _, cons a p => congrArg (f a :: ·) (p.toList_map f)

@[simp] theorem toList_zip (f : α → β → γ) : ∀ {n : Nat} (p : Pack α n) (q : Pack β n),
    (zip f p q).toList = List.zipWith f p.toList q.toList
  | _, nil, nil => rfl
  | _, cons a p, cons b q => congrArg (f a b :: ·) (toList_zip f p q)

theorem toList_inj : ∀ {n : Nat} {p q : Pack α n}, p.toList = q.toList ↔ p = q
  | _, nil, nil => by simp
  | _, cons a p, cons b q => by simp [toList_inj (p := p) (q := q)]

end Pack

end Metrology
