import Metrology.Attribute.Item
import Metrology.Attribute.Operand

/-!
# The grammar

The readers of all phrases, each of which reads the others one level deeper.  The depth of the
levels is bounded by the number of the trees.
-/

namespace Metrology.Attribute

namespace Phrase

open Metrology.Attribute.Reader

section

variable (read : Phrase → PhraseReader)

/-- What the name in an argument is set to: a literal, a block or a type. -/
def assigned : PhraseReader := do
  let ts ← peek
  if (literal? ts).isSome || Tree.startsGroup .brace ts then constant read
  else read (.type true)

/-- A lifetime, a literal, a block or a type; a name may be set to one of the last three, and it
may have bounds. -/
def argumentReader : PhraseReader := do
  let ts ← peek
  match ts with
  | .lifetime _ :: rest => if Tree.startsWith "+" rest then read (.type true) else lifetime
  | _ =>
    if Tree.startsName ts || Tree.startsAnyWord ("Self" :: barePathWords) ts then
      let first ← segment read true
      match ← optionalSign "=" with
      | [] =>
        if Tree.startsWithBut ":" ["::"] (← peek) then
          return first ++
            (← inOrder [sign ":", sumUntil (startsWithAny [",", ">"]) (parameterBound read)])
        else namedType read true first
      | equals => return first ++ equals ++ (← assigned read)
    else assigned read

/-- The reader of a phrase by the readers of the phrases in it. -/
def step : Phrase → PhraseReader
  | expression braces => expressionReader read braces
  | operand braces => operandReader read braces
  | compound => compoundReader read
  | block => blockReader read
  | type plus => typeReader read plus
  | argument => argumentReader read
  | parameter => parameterReader read false
  | pattern alternatives => patternReader read alternatives
  | fields => namedFields read
  | item => itemReader read

end

/-- The reader of a phrase that holds no more than `depth` levels of phrases. -/
def readerWithin : (depth : Nat) → Phrase → PhraseReader
  | 0, _ => refuse "a phrase"
  | depth + 1, p => step (readerWithin depth) p

/-- Levels that are enough for every phrase of the trees: of four levels at least one takes a
tree. -/
def depth (ts : List Tree) : Nat := 4 * Tree.sizeAll ts + 4

/-- Takes the longest phrase of the kind from the front of the trees. -/
def reader (p : Phrase) : PhraseReader := fun c => readerWithin (depth c.trees) p c

end Phrase

end Metrology.Attribute
