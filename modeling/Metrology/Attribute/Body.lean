import Metrology.Attribute.Parameter

/-!
# Bodies of declarations

The visibility, the fields and the variants of a declaration, and the shape that they give it.
-/

namespace Metrology.Attribute

/-- What a declaration with fields declares. -/
inductive Shape
  | record | enumeration | union
  deriving DecidableEq, Repr

/-- The shape that a declaration begins with, if the word is one of the three. -/
def Shape.ofWord? : String → Option Shape
  | "struct" => some .record
  | "enum" => some .enumeration
  | "union" => some .union
  | _ => none

namespace Phrase

open Metrology.Attribute.Reader

/-- Who can see a declaration. -/
def visibility : PhraseReader := do
  match ← peek with
  | .word "pub" :: .group .parenthesis [.word w] :: rest =>
    if barePathWords.contains w then
      goTo rest
      return [.word "pub", .group .parenthesis [.word w]]
    else anyWord
  | .word "pub" :: .group .parenthesis (.word "in" :: _) :: _ =>
    inOrder [anyWord, group .parenthesis (inOrder [anyWord, wordPath])]
  | .word "pub" :: _ => anyWord
  | _ => return []

/-- Whether the fields of a field stand in place of its type. -/
def startsInnerFields : List Tree → Bool
  | .word "struct" :: _ => true
  | .word "union" :: rest => Tree.startsGroup .brace rest
  | _ => false

section

variable (read : Phrase → PhraseReader)

/-! ## Fields -/

/-- A field by its name; a field with a blank for its name may have fields in place of a type. -/
def namedField : PhraseReader := do
  let start ← inOrder [tags read, visibility]
  if Tree.startsWord "_" (← peek) then
    return start ++ (← inOrder [anyWord, sign ":",
      either startsInnerFields (verbatim (inOrder [anyWord, read .fields])) (read (.type true))])
  else return start ++ (← inOrder [nameTree, sign ":", read (.type true)])

/-- A field by its place. -/
def placeField : PhraseReader := inOrder [tags read, visibility, read (.type true)]

/-- Fields by their names, in braces. -/
def namedFields : PhraseReader := group .brace (commaList (namedField read))

/-- Fields by their places, in parentheses. -/
def placeFields : PhraseReader := group .parenthesis (commaList (placeField read))

/-- A name with fields, with places or with nothing, and with the value that stands for it. -/
def variant : PhraseReader :=
  inOrder [tags read, visibility, nameTree,
    ifStarts (Tree.startsGroup .brace) (namedFields read),
    ifStarts (Tree.startsGroup .parenthesis) (placeFields read),
    introduced "=" (read (.expression true))]

/-- The variants of an enumeration, in braces. -/
def variants : PhraseReader := group .brace (commaList (variant read))

/-! ## Shapes -/

/-- What stands behind the parameters of a structure.  The conditions on places come behind them,
and a structure without named fields ends with a semicolon. -/
def recordBody : PhraseReader := do
  if Tree.startsGroup .parenthesis (← peek) then
    inOrder [placeFields read, conditions read, sign ";"]
  else
    let cs ← conditions read
    if Tree.startsGroup .brace (← peek) then return cs ++ (← namedFields read)
    else return cs ++ (← sign ";")

/-- What stands behind the parameters of a declaration. -/
def body : Shape → PhraseReader
  | .record => recordBody read
  | .enumeration => inOrder [conditions read, variants read]
  | .union => inOrder [conditions read, namedFields read]

end

end Phrase

end Metrology.Attribute
