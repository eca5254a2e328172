import Metrology.Attribute.Phrase

/-!
# Attributes

An attribute is a path in brackets, with arguments in delimiters, with a value behind `=`, or with
nothing.  Its arguments are read only when it is known what they describe.
-/

namespace Metrology.Attribute

/-- What stands behind the path of an attribute. -/
inductive Arguments
  | absent
  | group (d : Delimiter) (items : List Tree)
  | value (trees : List Tree)

/-- An attribute: its path and its arguments. -/
structure Tag where
  path : List Tree
  arguments : Arguments

namespace Tag

/-- The path as a text. -/
def name (t : Tag) : String := Tree.textAll t.path

/-- The attribute with its brackets. -/
def tree (t : Tag) : Tree :=
  .group .bracket (t.path ++
    match t.arguments with
    | .absent => []
    | .group d items => [.group d items]
    | .value ts => .sign "=" :: ts)

end Tag

namespace Phrase

open Metrology.Attribute.Reader

section

variable (read : Phrase → PhraseReader)

/-- The value of an attribute: a literal that ends it, or an expression. -/
def tagValue : PhraseReader := do
  match literal? (← peek), ← peek with
  | some (l, []), _ =>
    goTo []
    return [l]
  | _, .mark '#' _ :: .group .bracket _ :: _ => throw .tagInTag
  | _, _ => read (.expression true)

/-- An attribute between its brackets. -/
def tagContent : Reader Tag := do
  let path ← if Tree.startsWord "unsafe" (← peek) then anyWord else wordPath
  match ← peek with
  | .group d items :: rest =>
    goTo rest
    return ⟨path, .group d items⟩
  | _ =>
    match ← optionalSign "=" with
    | [] => return ⟨path, .absent⟩
    | _ => return ⟨path, .value (← tagValue read)⟩

/-- The attributes before a phrase. -/
def outerTags : Reader (List Tag) :=
  steps (fun out => do
    match ← optionalSign "#" with
    | [] => return .last out
    | _ => return .next (out ++ [← within .bracket (tagContent read)])) []

/-- The attributes before a phrase, as they are written. -/
def tags : PhraseReader :=
  return (← outerTags read).flatMap fun t => [.sign "#", t.tree]

/-- Whether an attribute of what is around the trees starts here. -/
def startsInnerTag : List Tree → Bool
  | .mark '#' _ :: .mark '!' _ :: _ => true
  | _ => false

/-- The attributes at the start of a block, which belong to what is around it. -/
def innerTags : PhraseReader :=
  many startsInnerTag (inOrder [sign "#", sign "!",
    return [(← within .bracket (tagContent read)).tree]])

end

end Phrase

end Metrology.Attribute
