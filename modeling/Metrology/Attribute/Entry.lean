import Metrology.Attribute.Grammar

/-!
# Entries

The body of a unit attribute is a list of entries `key = value`; a comma may follow each of them.
An unknown key is refused as soon as it is read.  Of two entries with one key the later one counts.
The unit starts either from a dimension, with or without a ratio, or from the unit of another
marker; this is checked when all entries are read, and after it that no group was left unread.
-/

namespace Metrology.Attribute

/-! ## Keys -/

/-- What an entry can be about. -/
inductive Key
  | symbol | dimension | ratio | marker | global | factor
  deriving DecidableEq, Repr

namespace Key

/-- All keys. -/
def all : List Key := [symbol, dimension, ratio, marker, global, factor]

/-- The name that the key is written as. -/
def name : Key → String
  | symbol => "symbol"
  | dimension => "dimension"
  | ratio => "ratio"
  | marker => "from"
  | global => "global"
  | factor => "factor"

/-- The key of a name. -/
def ofName? (s : String) : Option Key := all.find? fun k => k.name = s

end Key

/-! ## Faults -/

/-- Why an attribute describes no unit. -/
inductive Fault
  | grammar (fault : GrammarFault)
  | unknownKey (name : String)
  | bothOrigins
  | ratioOfMarker
  | noOrigin
  | noAttribute
  | noArguments
  | noParentheses
  deriving DecidableEq, Repr

/-- The text of a fault. -/
def Fault.message : Fault → String
  | grammar f => f.message
  | unknownKey name => "unknown attribute `" ++ name ++ "`"
  | bothOrigins => "`dimension` and `from` are mutually exclusive"
  | ratioOfMarker => "`ratio` requires `dimension`"
  | noOrigin => "missing required attribute `dimension` or `from`"
  | noAttribute => "missing #[unit(...)] attribute"
  | noArguments => "expected attribute arguments in parentheses: #[unit(...)]"
  | noParentheses => "expected parentheses: #[unit(...)]"

/-! ## Reading -/

/-- A key and the trees of its value. -/
structure Entry where
  key : Key
  value : List Tree

/-- The value that a key asks for: a string, a type or an expression. -/
def Key.value : Key → PhraseReader
  | symbol => Reader.stringLiteral
  | marker => (Phrase.type true).reader
  | dimension | ratio | global | factor => (Phrase.expression true).reader

/-- A key and the sign behind it, by its name. -/
def readKey : Reader String := do
  let name ← Reader.name
  discard (Reader.sign "=")
  return name

/-- The cursor behind a comma, if there is one. -/
def Cursor.dropComma (c : Cursor) : Cursor :=
  { c with trees := (Tree.dropSign [','] c.trees).getD c.trees }

/-- Reads entries to the end, their values by a reader for each key, and says which group in them
was left before its end; an entry takes one of the `fuel` trees at least. -/
def readEntries (value : Key → PhraseReader) :
    (fuel : Nat) → Cursor → Except Fault (List Entry × Option Delimiter)
  | 0, c => .ok ([], c.unread)
  | fuel + 1, c =>
    if c.trees.isEmpty then .ok ([], c.unread)
    else do
      let (name, c) ← (readKey c).mapError Fault.grammar
      match Key.ofName? name with
      | none => .error (.unknownKey name)
      | some key =>
        let (v, c) ← (value key c).mapError Fault.grammar
        let (es, unread) ← readEntries value fuel c.dropComma
        return (⟨key, v⟩ :: es, unread)

/-- The entries of the trees between the delimiters of an attribute. -/
def entries (value : Key → PhraseReader) (ts : List Tree) :
    Except Fault (List Entry × Option Delimiter) :=
  readEntries value ts.length ⟨ts, none⟩

/-! ## Settings -/

/-- The last value of each key. -/
structure Settings where
  symbol : Option (List Tree) := none
  dimension : Option (List Tree) := none
  ratio : Option (List Tree) := none
  marker : Option (List Tree) := none
  global : Option (List Tree) := none
  factor : Option (List Tree) := none

namespace Settings

/-- The settings after one more entry. -/
def put (s : Settings) (e : Entry) : Settings :=
  match e.key with
  | .symbol => { s with symbol := some e.value }
  | .dimension => { s with dimension := some e.value }
  | .ratio => { s with ratio := some e.value }
  | .marker => { s with marker := some e.value }
  | .global => { s with global := some e.value }
  | .factor => { s with factor := some e.value }

/-- The settings of entries. -/
def ofEntries (es : List Entry) : Settings := es.foldl put {}

end Settings

/-! ## Origins -/

/-- What the unit of a marker starts from. -/
inductive Origin
  | dimension (d : List Tree) (ratio : Option (List Tree))
  | marker (type : List Tree)

/-- The origin that the settings name, if they name exactly one that fits. -/
def Settings.origin (s : Settings) : Except Fault Origin :=
  match s.dimension, s.marker with
  | some d, none => .ok (.dimension d s.ratio)
  | none, some t => if s.ratio.isSome then .error .ratioOfMarker else .ok (.marker t)
  | some _, some _ => .error .bothOrigins
  | none, none => .error .noOrigin

end Metrology.Attribute
