/-!
# Matching pieces

A matcher compares an expected text with pieces that arrive one after the other, without putting
them together: each piece has to be a prefix of what is still expected.
-/

namespace Metrology

/-- What follows the piece in the text, if the text starts with it. -/
def afterPiece : (text piece : List Char) → Option (List Char)
  | text, [] => some text
  | [], _ :: _ => none
  | c :: text, d :: piece => if c = d then afterPiece text piece else none

/-- The state of a comparison of an expected text with pieces that come one by one. -/
structure Matcher where
  /-- What is still expected. -/
  rest : List Char
  /-- Whether every piece has matched so far. -/
  ok : Bool

namespace Matcher

/-- Nothing has come yet. -/
def start (expected : String) : Matcher := ⟨expected.toList, true⟩

/-- The state after one more piece. -/
def feed (m : Matcher) (piece : String) : Matcher :=
  match afterPiece m.rest piece.toList, m.ok with
  | some rest, true => { m with rest }
  | _, _ => { m with ok := false }

/-- Whether the pieces are the expected text, with nothing left of it. -/
def accepted (m : Matcher) : Bool := m.ok && m.rest.isEmpty

end Matcher

/-- Whether the pieces put together are the expected text. -/
def rendersAs (pieces : List String) (expected : String) : Bool :=
  (pieces.foldl Matcher.feed (.start expected)).accepted

end Metrology
