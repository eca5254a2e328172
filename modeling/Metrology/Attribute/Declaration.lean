import Metrology.Attribute.Expansion
import Metrology.Attribute.Lexer

/-!
# Declarations

A declaration is a structure, an enumeration or a union with attributes before it.  Only its name
and its attributes matter.  Its first attribute `unit` describes the unit.
-/

namespace Metrology.Attribute

/-! ## Reading -/

/-- A declaration by its attributes and its name. -/
structure Declaration where
  tags : List Tag
  name : String

/-- Reads a declaration: attributes, a visibility, a keyword, a name and a body. -/
def Declaration.reader : Reader Declaration := do
  let tags ← Phrase.outerTags Phrase.reader
  discard Phrase.visibility
  match ← Reader.peek with
  | .word w :: rest =>
    match Shape.ofWord? w with
    | some shape =>
      Reader.goTo rest
      let name ← Reader.name
      discard (Phrase.parameters Phrase.reader)
      discard (Phrase.body Phrase.reader shape)
      return ⟨tags, name⟩
    | none => Reader.refuse "one of: `struct`, `enum`, `union`"
  | _ => Reader.refuse "one of: `struct`, `enum`, `union`"

/-- The declaration that the trees are, if they are one and nothing else. -/
def Declaration.ofTrees? (ts : List Tree) : Option Declaration :=
  match Declaration.reader ⟨ts, none⟩ with
  | .ok (d, ⟨[], none⟩) => some d
  | _ => none

/-- The declaration of a text, if it is one. -/
def Declaration.ofText? (s : String) : Option Declaration := do
  let ts ← trees? s
  Declaration.ofTrees? ts

/-! ## Derivation -/

/-- The entries of a unit attribute, their values by a reader for each key. -/
def Tag.entries (value : Key → PhraseReader) (m : Tag) :
    Except Fault (List Entry × Option Delimiter) :=
  match m.arguments with
  | .group _ items => Attribute.entries value items
  | .absent => .error .noArguments
  | .value _ => .error .noParentheses

/-- The first attribute for units is the one that counts. -/
def Declaration.unitTag (d : Declaration) : Except Fault Tag :=
  match d.tags.find? fun m => m.name = "unit" with
  | some m => .ok m
  | none => .error .noAttribute

/-- The implementation that a declaration asks for; the values of its entries are read by a reader
for each key, which is `Key.value` for declarations of the language. -/
def Declaration.derive (value : Key → PhraseReader) (d : Declaration) :
    Except Fault (List Tree) := do
  let m ← d.unitTag
  let (es, unread) ← m.entries value
  let description ← (Settings.ofEntries es).description
  match unread with
  | none => return description.trees d.name
  | some g => throw (.grammar (.unexpected g.closing))

end Metrology.Attribute
