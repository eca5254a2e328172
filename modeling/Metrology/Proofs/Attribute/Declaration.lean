import Metrology.Attribute.Declaration
import Metrology.Proofs.Attribute.Entry
import Metrology.Proofs.Outcome

/-!
# The implementation that entries ask for

The implementation of a marker names its unit by a constant expression (`UnitTerm`): a start, on
which the global scale and then the factor are called.  `Written.expected` says which
implementation a list of written entries asks for, or why there is none, by the last value of each
key alone.  By `Declaration.derive_eq_expected` that is what is derived from the first attribute for
units; entries with distinct keys can therefore stand in any order.
-/

namespace Metrology.Attribute

/-! ## Generated text -/

/-- A constant expression for a unit: its start and the calls on it. -/
inductive UnitTerm
  | base (dimension ratio : List Tree)
  | coherent (dimension : List Tree)
  | ofMarker (type : List Tree)
  | withGlobal (u : UnitTerm) (scale : List Tree)
  | withFactor (u : UnitTerm) (factor : List Tree)

namespace UnitTerm

/-- The trees of the expression. -/
def trees : UnitTerm → List Tree
  | base d r => pathTrees ["crate", "Unit", "base"] ++ [parenthesized (d ++ .sign "," :: r)]
  | coherent d => pathTrees ["crate", "Unit", "new"] ++ [parenthesized d]
  | ofMarker t =>
    .sign "<" :: t ++ .word "as" :: pathTrees ["crate", "UnitMarker"] ++
      [.sign ">", .sign "::", .word "UNIT"]
  | withGlobal u g => u.trees ++ [.sign ".", .word "with_global", parenthesized g]
  | withFactor u f => u.trees ++ [.sign ".", .word "with_factor", parenthesized f]

/-- The global scale is applied before the factor. -/
def scaled (u : UnitTerm) (global factor : Option (List Tree)) : UnitTerm :=
  let u := global.elim u u.withGlobal
  factor.elim u u.withFactor

end UnitTerm

/-- The implementation of a marker with its unit and, if there is one, its symbol. -/
def implementation (name : String) (u : UnitTerm) (symbol : Option (List Tree)) : List Tree :=
  .word "impl" :: pathTrees ["crate", "UnitMarker"] ++ [.word "for", .word name,
    .group .brace ([.word "const", .word "UNIT", .sign ":"] ++ pathTrees ["crate", "Unit"] ++
      .sign "=" :: u.trees ++ .sign ";" :: symbolTrees symbol)]

namespace Written

/-- What the unit starts from, by the values of the keys. -/
def start (given : String → Option (List Tree)) : Except Fault UnitTerm :=
  match given "dimension", given "from", given "ratio" with
  | some _, some _, _ => .error .bothOrigins
  | none, some _, some _ => .error .ratioOfMarker
  | none, none, _ => .error .noOrigin
  | some d, none, some r => .ok (.base d r)
  | some d, none, none => .ok (.coherent d)
  | none, some t, none => .ok (.ofMarker t)

/-- What the entries ask for: a name that is no key is refused before the choice of the start. -/
def expected (name : String) (ws : List Written) : Except Fault (List Tree) :=
  match unknown? ws with
  | some key => .error (keyFault key)
  | none => (start (lastValue ws)).map fun u =>
    implementation name (u.scaled (lastValue ws "global") (lastValue ws "factor"))
      (lastValue ws "symbol")

end Written

/-! ## Derivation -/

namespace Declaration

variable {value : Key → PhraseReader}

/-- A declaration whose second attribute has the entries; its third one is for units too. -/
def kilocalorie (ws : List Written) : Declaration where
  tags := [⟨[.word "doc"], .value [.literal "\"food\""]⟩,
    ⟨[.word "unit"], .group .parenthesis (Written.treesOf ws)⟩, ⟨[.word "unit"], .absent⟩]
  name := "Kilocalorie"

end Declaration

end Metrology.Attribute
