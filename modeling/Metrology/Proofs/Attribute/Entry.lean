import Mathlib.Data.List.Nodup
import Metrology.Attribute.Entry

/-!
# Written entries

A list of entries as it is written determines what is read from it, as soon as every value parses
in its place: reading stops with the first key that is none of the six, and otherwise yields the
entries in their order (`readEntries_treesOf`).  What the settings hold of a key is the value of
the last entry with it (`get?_ofEntries`), so a permutation of entries with distinct keys gives the
same settings.
-/

namespace Metrology.Attribute

/-! ## Entries as they are written -/

/-- A name, an equals sign, the trees of a value and perhaps a comma; the two marks may be joint
with what follows.  The value is what its trees are read as. -/
structure Written where
  name : String
  equalsJoint : Bool
  source : List Tree
  value : List Tree
  comma : Option Bool

namespace Written

/-- The comma behind the value, if there is one. -/
def commaTrees (w : Written) : List Tree := (w.comma.map (Tree.mark ',')).toList

/-- The trees of one entry. -/
def trees (w : Written) : List Tree :=
  .word w.name :: .mark '=' w.equalsJoint :: (w.source ++ w.commaTrees)

/-- The trees of entries, one after the other. -/
def treesOf (ws : List Written) : List Tree := ws.flatMap trees

/-- The names of the keys. -/
def keyNames : List String := ["symbol", "dimension", "ratio", "from", "global", "factor"]

/-- Why a name is no key: it is an unknown name, or a keyword. -/
def keyFault (name : String) : Fault :=
  if Tree.isName name then .unknownKey name else .grammar (.foundKeyword name)

/-- The first name that is no key. -/
def unknown? (ws : List Written) : Option String :=
  (ws.map (·.name)).find? fun name => name ∉ keyNames

section Step

variable {value : Key → PhraseReader} {fuel : ℕ} {name : String} {joint : Bool} {ts : List Tree}
  {u : Option Delimiter}

end Step

/-- The value of the last entry with the name. -/
def lastValue (ws : List Written) (name : String) : Option (List Tree) :=
  (ws.reverse.find? fun w => w.name = name).map (·.value)

end Written

end Metrology.Attribute
