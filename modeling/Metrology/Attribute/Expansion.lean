import Metrology.Attribute.Entry

/-!
# Expansions

What a unit attribute stands for: an implementation that gives the marker its unit and, if one is
declared, its symbol.  The unit is the origin with the global scale and then the factor applied.
-/

namespace Metrology.Attribute

/-- A unit to be implemented for a marker. -/
structure Description where
  origin : Origin
  global : Option (List Tree)
  factor : Option (List Tree)
  symbol : Option (List Tree)

/-- The description that the settings give, unless their origin is at fault. -/
def Settings.description (s : Settings) : Except Fault Description := do
  let origin ← s.origin
  return ⟨origin, s.global, s.factor, s.symbol⟩

/-! ## Pieces of the text -/

/-- Trees in parentheses. -/
def parenthesized (ts : List Tree) : Tree := .group .parenthesis ts

/-- The words with `::` between them. -/
def pathTrees : List String → List Tree
  | [] => []
  | [w] => [.word w]
  | w :: v :: ws => .word w :: .sign "::" :: pathTrees (v :: ws)

/-- The path of an optional value, with further words behind it. -/
def optionPath (ws : List String) : List Tree :=
  .sign "::" :: pathTrees (["core", "option", "Option"] ++ ws)

/-! ## The unit and the symbol -/

/-- The unit that the description starts from. -/
def Origin.trees : Origin → List Tree
  | dimension d (some ratio) =>
    pathTrees ["crate", "Unit", "base"] ++ [parenthesized (d ++ .sign "," :: ratio)]
  | dimension d none => pathTrees ["crate", "Unit", "new"] ++ [parenthesized d]
  | marker t =>
    .sign "<" :: t ++ .word "as" :: pathTrees ["crate", "UnitMarker"] ++
      [.sign ">", .sign "::", .word "UNIT"]

/-- The call of a method with the argument, if there is one. -/
def callTrees (method : String) : Option (List Tree) → List Tree
  | some argument => [.sign ".", .word method, parenthesized argument]
  | none => []

/-- The unit of the description. -/
def Description.unitTrees (d : Description) : List Tree :=
  d.origin.trees ++ callTrees "with_global" d.global ++ callTrees "with_factor" d.factor

/-- The symbol of the description, if it has one. -/
def symbolTrees : Option (List Tree) → List Tree
  | some literal =>
    [.word "const", .word "SYMBOL", .sign ":"] ++ optionPath [] ++
      [.sign "<", .sign "&", .lifetime "'static", .word "str", .sign ">", .sign "="] ++
      optionPath ["Some"] ++ [parenthesized literal, .sign ";"]
  | none => []

/-- The implementation for the marker of a name. -/
def Description.trees (d : Description) (name : String) : List Tree :=
  .word "impl" :: pathTrees ["crate", "UnitMarker"] ++ [.word "for", .word name,
    .group .brace ([.word "const", .word "UNIT", .sign ":"] ++ pathTrees ["crate", "Unit"] ++
      .sign "=" :: d.unitTrees ++ .sign ";" :: symbolTrees d.symbol)]

end Metrology.Attribute
