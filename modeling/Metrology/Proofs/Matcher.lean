import Metrology.Marker

/-!
# Matching is comparing

A matcher awaits a text if all pieces have matched and the text is what follows them.  A piece takes
its own text off the front of what is awaited, and a matcher that has failed awaits nothing any more
(`Matcher.awaits_feed_iff`).  So after all pieces a matcher has nothing left exactly if the pieces
make up the expected text, in whatever way that was cut (`rendersAs_iff`), and a marker is written
as a text exactly if the text is its own (`Marker.isWritten_iff`).
-/

namespace Metrology

theorem afterPiece_eq_some_iff {text piece rest : List Char} :
    afterPiece text piece = some rest ↔ text = piece ++ rest := by
  fun_induction afterPiece text piece with
  | case1 text => simp
  | case2 c piece => simp
  | case3 text c piece ih => simp [ih]
  | case4 c text d piece h => simp [h]

namespace Matcher

variable {m : Matcher} {piece : String} {rest : List Char}

/-- Every piece has matched so far, and the text is still to come. -/
def Awaits (m : Matcher) (rest : List Char) : Prop := m.ok = true ∧ m.rest = rest

theorem awaits_start_iff {t : String} : (start t).Awaits rest ↔ t.toList = rest :=
  and_iff_right rfl

theorem accepted_iff : m.accepted = true ↔ m.Awaits [] := by
  rw [accepted, Bool.and_eq_true, List.isEmpty_iff, Awaits]

/-- A piece has to be what the matcher awaits first. -/
theorem awaits_feed_iff : (m.feed piece).Awaits rest ↔ m.Awaits (piece.toList ++ rest) := by
  obtain ⟨text, ok⟩ := m
  unfold feed Awaits
  rw [← afterPiece_eq_some_iff]
  cases afterPiece text piece.toList with
  | none => simp
  | some text => cases ok <;> simp

/-- The pieces together have to be what the matcher awaits first. -/
theorem awaits_foldl_iff (pieces : List String) :
    (pieces.foldl feed m).Awaits rest ↔ m.Awaits (pieces.flatMap String.toList ++ rest) := by
  induction pieces generalizing m with
  | nil => rfl
  | cons piece pieces ih =>
    rw [List.foldl_cons, ih, awaits_feed_iff, List.flatMap_cons, List.append_assoc]

/-- A matcher awaits a text after the pieces exactly if that text completes them. -/
theorem awaits_foldl_start_iff {pieces : List String} {t rest : String} :
    (pieces.foldl feed (start t)).Awaits rest.toList ↔ String.join pieces ++ rest = t := by
  rw [awaits_foldl_iff, awaits_start_iff, ← String.toList_inj, String.toList_append,
    String.toList_join, eq_comm]

end Matcher

theorem rendersAs_iff {pieces : List String} {t : String} :
    rendersAs pieces t = true ↔ String.join pieces = t := by
  rw [rendersAs, Matcher.accepted_iff, ← String.toList_empty, Matcher.awaits_foldl_start_iff,
    String.append_empty]

/-- A marker is written as its text and as nothing else. -/
theorem Marker.isWritten_iff {m : Marker} {t : String} : m.isWritten t = true ↔ m.text = t := by
  unfold isWritten text
  cases m.symbol with
  | some s => exact beq_iff_eq
  | none => exact rendersAs_iff

/-- However a text is cut into fragments, the matcher is left with what completes them to the
expected text, and accepts if that is nothing.  So a unit is rendered as its text, a marker is
written as its text, declared or generated, and a marker is blank if its text is empty. -/
theorem matching_is_comparing (fragments : List String) (t : String) (u : Unit) (m : Marker) :
    (∀ rest : String, (fragments.foldl Matcher.feed (.start t)).Awaits rest.toList ↔
        String.join fragments ++ rest = t) ∧
      ((fragments.foldl Matcher.feed (.start t)).accepted = true ↔ String.join fragments = t) ∧
      (rendersAs u.pieces t = true ↔ t = u.text) ∧
      (m.isWritten t = true ↔ t = m.text) ∧
      (m.isBlank = true ↔ m.text = "") := by
  refine ⟨fun rest => Matcher.awaits_foldl_start_iff, rendersAs_iff, ?_, ?_, Marker.isWritten_iff⟩
  · rw [rendersAs_iff, eq_comm]
    rfl
  · rw [Marker.isWritten_iff, eq_comm]

end Metrology
