import Metrology.Proofs.Rational.Root

/-!
# Bisection on words

A machine keeps the two bounds of a search in 64-bit words.  Here every turn of the search is taken
with checked operations on words, which fault where a machine would leave them (`WordRange.turn`).
The bounds represent the candidates of the search on numbers, and a turn represents its step: no
candidate is above the magnitude that is searched for, so none of the operations faults, and the
candidate above the middle is still a word because the power of the middle is too small.  A turn
leaves at most half of the candidates, so after 65 turns the search has stopped with the root
(`WordSearch.run_eq`).
-/

namespace Metrology

/-- The bounds of a search. -/
structure WordRange where
  lo : Word .u64
  hi : Word .u64

/-- Where a search stands. -/
inductive WordSearch
  | running (w : WordRange)
  | stopped (root : Option (Word .u64))

namespace WordRange

/-- The word halfway between the bounds. -/
def mid (w : WordRange) : Except ArithmeticFault (Word .u64) := do
  let width ← w.hi.sub w.lo
  let half ← width.div ⟨2, by decide, by decide⟩
  w.lo.add half

/-- One turn of the search for the `n`-th root of `x`. -/
def turn (x : Word .u64) (n : ℕ) (w : WordRange) : Except ArithmeticFault WordSearch :=
  if w.lo.val ≤ w.hi.val then do
    let mid ← w.mid
    match powOrder mid.val.toNat n x.val.toNat with
    | .eq => return .stopped (some mid)
    | .lt => return .running ⟨← mid.add .one, w.hi⟩
    | .gt => return .running ⟨w.lo, ← mid.sub .one⟩
  else return .stopped none

end WordRange

/-- At most `t` turns of the search. -/
def WordSearch.run (x : Word .u64) (n : ℕ) : ℕ → WordSearch → Except ArithmeticFault WordSearch
  | t + 1, .running w => do
    let s ← w.turn x n
    run x n t s
  | _, s => .ok s

/-- The search for the `n`-th root of `x` after at most `t` turns. -/
def wordRoot (x : Word .u64) (n : Word .u32) (t : ℕ) : Except ArithmeticFault WordSearch :=
  if n.val = 1 ∨ x.val < 2 then .ok (.stopped (some x))
  else WordSearch.run x n.val.toNat t (.running ⟨.one, x⟩)

/-! ## Candidates -/

namespace RootRange

/-- The number of candidates. -/
def size (r : RootRange) : ℕ := r.hi + 1 - r.lo

theorem size_above_le (r : RootRange) : 2 * r.above.size ≤ r.size := by
  simp only [size, above, mid]
  omega

theorem size_below_le (r : RootRange) : 2 * r.below.size ≤ r.size := by
  have hpos := r.mid_pos
  simp only [size, below, mid] at hpos ⊢
  omega

end RootRange

/-! ## A turn -/

theorem toNat_lt_magnitudeBound (x : Word .u64) : x.val.toNat < magnitudeBound := by
  have h1 := x.le_high
  have h2 : IntFormat.u64.high = 18446744073709551615 := by decide
  simp only [magnitudeBound]
  omega

namespace WordRange

/-- The words are the bounds of the candidates. -/
structure Represents (w : WordRange) (r : RootRange) : Prop where
  lo : w.lo.val = r.lo
  hi : w.hi.val = r.hi

variable {x : Word .u64} {n : ℕ} {w : WordRange} {r : RootRange}

/-- Neither the difference of the bounds nor its half added to the lower one leaves the words. -/
theorem Represents.mid_eq_ok (h : w.Represents r) (hle : r.lo ≤ r.hi) :
    ∃ m, w.mid = .ok m ∧ m.val = r.mid := by
  have hhi := w.hi.le_high
  have hlow := Word.low_u64
  obtain ⟨width, hwidth, ewidth⟩ : ∃ v, w.hi.sub w.lo = .ok v ∧ v.val = (r.hi - r.lo : ℕ) := by
    have hlo := w.lo.low_le
    refine ⟨⟨w.hi.val - w.lo.val, ?_, ?_⟩, Word.fit_eq_ok _ _, ?_⟩
    · rw [h.lo, h.hi]
      omega
    · omega
    · simp only [h.lo, h.hi]
      omega
  obtain ⟨half, hhalf, ehalf⟩ :=
    Word.div_eq_ok (w := width) (g := ⟨2, by decide, by decide⟩) (by decide)
  have evalue : half.val = ((r.hi - r.lo) / 2 : ℕ) := by
    rw [ehalf, ewidth, Int.tdiv_eq_ediv_of_nonneg (by omega)]
    rfl
  have hmid := r.mid_le_hi hle
  refine ⟨⟨r.mid, by omega, by rw [h.hi] at hhi; omega⟩, ?_, rfl⟩
  unfold mid
  rw [hwidth]
  show (width.div _ >>= fun half => w.lo.add half) = _
  rw [hhalf]
  refine Word.fit_eq_ok_iff.2 ?_
  rw [h.lo, evalue]
  rfl

theorem turn_of_empty (h : w.Represents r) (hle : ¬r.lo ≤ r.hi) :
    w.turn x n = .ok (.stopped none) := by
  refine if_neg ?_
  rw [h.lo, h.hi]
  omega

/-- A turn compares the power of the middle. -/
theorem turn_eq (h : w.Represents r) (hle : r.lo ≤ r.hi) :
    ∃ m : Word .u64, m.val = r.mid ∧ w.turn x n =
      match powOrder r.mid n x.val.toNat with
      | .eq => .ok (.stopped (some m))
      | .lt => (fun v => .running ⟨v, w.hi⟩) <$> m.add .one
      | .gt => (fun v => .running ⟨w.lo, v⟩) <$> m.sub .one := by
  obtain ⟨m, hm, em⟩ := h.mid_eq_ok hle
  have hwords : w.lo.val ≤ w.hi.val := by
    rw [h.lo, h.hi]
    omega
  refine ⟨m, em, ?_⟩
  unfold turn
  rw [if_pos hwords, hm]
  show (match powOrder m.val.toNat n x.val.toNat with
    | .eq => _
    | .lt => _
    | .gt => _) = _
  rw [em, Int.toNat_natCast]
  cases powOrder r.mid n x.val.toNat <;> rfl

theorem turn_of_eq (h : w.Represents r) (hle : r.lo ≤ r.hi)
    (ho : powOrder r.mid n x.val.toNat = .eq) :
    ∃ m : Word .u64, w.turn x n = .ok (.stopped (some m)) ∧ m.val = r.mid := by
  obtain ⟨m, em, hturn⟩ := turn_eq (x := x) (n := n) h hle
  rw [ho] at hturn
  exact ⟨m, hturn, em⟩

/-- A middle whose power is too small is not the greatest word. -/
theorem turn_of_lt (hn : n ≠ 0) (h : w.Represents r) (hle : r.lo ≤ r.hi)
    (ho : powOrder r.mid n x.val.toNat = .lt) :
    ∃ v : WordRange, w.turn x n = .ok (.running v) ∧ v.Represents r.above := by
  obtain ⟨m, em, hturn⟩ := turn_eq (x := x) (n := n) h hle
  rw [ho] at hturn
  rw [powOrder_eq (toNat_lt_magnitudeBound x), Nat.compare_eq_lt] at ho
  have hmid : r.mid < x.val.toNat := (Nat.le_self_pow hn r.mid).trans_lt ho
  have hx := x.le_high
  have hlow := m.low_le
  have hadd : m.add .one = .ok ⟨m.val + 1, by omega, by omega⟩ := Word.fit_eq_ok _ _
  rw [hadd] at hturn
  refine ⟨_, hturn, ?_, h.hi⟩
  simp only [RootRange.above, em]
  omega

/-- A candidate is not zero. -/
theorem turn_of_gt (h : w.Represents r) (hle : r.lo ≤ r.hi)
    (ho : powOrder r.mid n x.val.toNat = .gt) :
    ∃ v : WordRange, w.turn x n = .ok (.running v) ∧ v.Represents r.below := by
  obtain ⟨m, em, hturn⟩ := turn_eq (x := x) (n := n) h hle
  rw [ho] at hturn
  have hpos := r.mid_pos
  have hhigh := m.le_high
  have hlow := Word.low_u64
  have hsub : m.sub .one = .ok ⟨m.val - 1, by omega, by omega⟩ := Word.fit_eq_ok _ _
  rw [hsub] at hturn
  refine ⟨_, hturn, h.lo, ?_⟩
  simp only [RootRange.below, em]
  omega

end WordRange

/-! ## The search -/

namespace WordSearch

variable {x : Word .u64} {n t : ℕ} {w : WordRange} {r : RootRange}

theorem run_stopped (root : Option (Word .u64)) :
    run x n t (.stopped root) = .ok (.stopped root) := by
  cases t <;> rfl

theorem run_of_turn {s : WordSearch} (h : w.turn x n = .ok s) :
    run x n (t + 1) (.running w) = run x n t s := by
  rw [run, h]
  rfl

theorem run_of_empty (h : w.Represents r) (hle : ¬r.lo ≤ r.hi) :
    ∃ root, run x n (t + 1) (.running w) = .ok (.stopped root) ∧
      root.map (fun v => v.val.toNat) = RootRange.search x.val.toNat n r := by
  refine ⟨none, ?_, ?_⟩
  · rw [run_of_turn (WordRange.turn_of_empty h hle), run_stopped]
  · rw [RootRange.search, if_neg hle]
    rfl

/-- The search on words stops without a fault, and with the result of the search on numbers. -/
theorem run_eq (hn : n ≠ 0) (h : w.Represents r) (hs : r.size < 2 ^ t) :
    ∃ root, run x n (t + 1) (.running w) = .ok (.stopped root) ∧
      root.map (fun v => v.val.toNat) = RootRange.search x.val.toNat n r := by
  -- every turn halves the bound on the number of candidates
  induction t generalizing w r with
  | zero =>
    have hle : ¬r.lo ≤ r.hi := by
      simp only [RootRange.size, Nat.pow_zero] at hs
      omega
    exact run_of_empty h hle
  | succ t ih =>
    by_cases hle : r.lo ≤ r.hi
    · rw [RootRange.search, if_pos hle]
      rw [Nat.pow_succ] at hs
      cases ho : powOrder r.mid n x.val.toNat with
      | eq =>
        obtain ⟨m, hturn, em⟩ := WordRange.turn_of_eq h hle ho
        refine ⟨some m, ?_, ?_⟩
        · rw [run_of_turn hturn, run_stopped]
        · rw [Option.map_some, em, Int.toNat_natCast]
      | lt =>
        obtain ⟨v, hturn, hv⟩ := WordRange.turn_of_lt hn h hle ho
        have hsize := r.size_above_le
        rw [run_of_turn hturn]
        exact ih hv (by omega)
      | gt =>
        obtain ⟨v, hturn, hv⟩ := WordRange.turn_of_gt h hle ho
        have hsize := r.size_below_le
        rw [run_of_turn hturn]
        exact ih hv (by omega)
    · exact run_of_empty h hle

end WordSearch

theorem wordRoot_eq (x : Word .u64) {n : Word .u32} (hn : 1 ≤ n.val) :
    ∃ root, wordRoot x n 65 = .ok (.stopped root) ∧
      root.map (fun v => v.val.toNat) = exactRoot x.val.toNat n.val.toNat := by
  have hlow := Word.low_u64 ▸ x.low_le
  unfold wordRoot exactRoot
  by_cases h : n.val = 1 ∨ x.val < 2
  · have hnat : n.val.toNat = 1 ∨ x.val.toNat < 2 := by omega
    rw [if_pos h, if_pos hnat]
    exact ⟨some x, rfl, rfl⟩
  · have hnat : ¬(n.val.toNat = 1 ∨ x.val.toNat < 2) := by omega
    rw [if_neg h, if_neg hnat]
    apply WordSearch.run_eq (by omega)
    · exact ⟨rfl, by simp only; omega⟩
    · have hx := toNat_lt_magnitudeBound x
      simp only [RootRange.size, magnitudeBound] at hx ⊢
      omega

/-- The search for the root of a 64-bit magnitude stops within 65 turns, and no operation on its
bounds leaves the words.  It finds the root exactly if there is one, and a power beyond the
magnitudes counts as greater than the one that is searched for. -/
theorem exactRoot_outcome (x : Word .u64) (n : Word .u32) (hn : 1 ≤ n.val) :
    (∃ root, wordRoot x n 65 = .ok (.stopped root) ∧
      root.map (fun v => v.val.toNat) = exactRoot x.val.toNat n.val.toNat) ∧
    (∀ m : ℕ, exactRoot x.val.toNat n.val.toNat = some m ↔ m ^ n.val.toNat = x.val.toNat) ∧
    (exactRoot x.val.toNat n.val.toNat = none ↔ ∀ m : ℕ, m ^ n.val.toNat ≠ x.val.toNat) ∧
    ∀ b : ℕ, magnitudeBound ≤ b ^ n.val.toNat →
      powOrder b n.val.toNat x.val.toNat = .gt := by
  have hx := toNat_lt_magnitudeBound x
  have hn0 : n.val.toNat ≠ 0 := by omega
  refine ⟨wordRoot_eq x hn, fun m => exactRoot_eq_some_iff hn0 hx, ?_, fun b hb => ?_⟩
  · rw [Option.eq_none_iff_forall_ne_some]
    exact forall_congr' fun m => not_congr (exactRoot_eq_some_iff hn0 hx)
  · rw [powOrder_eq hx, Nat.compare_eq_gt]
    exact hx.trans_le hb

/-- The search for the square root of the greatest magnitude begins at the greatest word. -/
theorem exactRoot_greatest :
    (1 : ℤ) ≤ 2 ∧
    (∃ root, wordRoot ⟨18446744073709551615, by decide, by decide⟩
        ⟨2, by decide, by decide⟩ 65 = .ok (.stopped root) ∧
      root.map (fun v => v.val.toNat) = exactRoot 18446744073709551615 2) ∧
    exactRoot 12157665459056928801 40 = some 3 := by
  have hsearch := (exactRoot_outcome ⟨18446744073709551615, by decide, by decide⟩
    ⟨2, by decide, by decide⟩ (by decide)).1
  have hroot := (exactRoot_outcome ⟨12157665459056928801, by decide, by decide⟩
    ⟨40, by decide, by decide⟩ (by decide)).2.1 3
  exact ⟨by decide, hsearch, hroot.2 rfl⟩

end Metrology
