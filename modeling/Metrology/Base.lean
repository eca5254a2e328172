import Metrology.Pack

/-!
# Base quantities

The eleven base quantities are the seven of the SI, in their conventional order, and four more
outside it.  `Slots` holds one value for each of them, as one pack per family; a computation over
slots visits the SI family first.  The index of a base quantity counts inside its own family.
-/

namespace Metrology

/-- The seven base quantities of the international system, in slot order. -/
inductive SiBase
  | length | mass | time | current | temperature | amount | luminous
  deriving DecidableEq

namespace SiBase

/-- The seven, in slot order. -/
def all : List SiBase := [length, mass, time, current, temperature, amount, luminous]

/-- The slot of the base quantity. -/
def index : SiBase → Fin 7
  | length => 0 | mass => 1 | time => 2 | current => 3 | temperature => 4 | amount => 5
  | luminous => 6

/-- The base quantity of the slot, if there is one. -/
def ofIndex? (i : Nat) : Option SiBase := all[i]?

/-- The symbol of the dimension. -/
def symbol : SiBase → String
  | length => "L" | mass => "M" | time => "T" | current => "I" | temperature => "Θ"
  | amount => "N" | luminous => "J"

/-- The name by which a document calls the base quantity. -/
def name : SiBase → String
  | length => "Length" | mass => "Mass" | time => "Time" | current => "Current"
  | temperature => "Temperature" | amount => "Amount" | luminous => "Luminous"

theorem ofIndex?_index (b : SiBase) : ofIndex? b.index = some b := by cases b <;> rfl

end SiBase

/-- The four base quantities outside the system, in slot order. -/
inductive ExtraBase
  | angle | currency | information | count
  deriving DecidableEq

namespace ExtraBase

/-- The four, in slot order. -/
def all : List ExtraBase := [angle, currency, information, count]

/-- The slot of the base quantity. -/
def index : ExtraBase → Fin 4
  | angle => 0 | currency => 1 | information => 2 | count => 3

/-- The base quantity of the slot, if there is one. -/
def ofIndex? (i : Nat) : Option ExtraBase := all[i]?

/-- The symbol of the dimension. -/
def symbol : ExtraBase → String
  | angle => "Angle" | currency => "Currency" | information => "Info" | count => "Count"

/-- The name by which a document calls the base quantity. -/
def name : ExtraBase → String
  | angle => "Angle" | currency => "Currency" | information => "Information" | count => "Count"

theorem ofIndex?_index (b : ExtraBase) : ofIndex? b.index = some b := by cases b <;> rfl

end ExtraBase

/-- A base quantity, of the system or outside it. -/
inductive Base
  | si (b : SiBase)
  | extra (b : ExtraBase)
  deriving DecidableEq

namespace Base

/-- All eleven, those of the system first. -/
def all : List Base := SiBase.all.map si ++ ExtraBase.all.map extra

/-- The symbol of the dimension. -/
def symbol : Base → String
  | si b => b.symbol
  | extra b => b.symbol

/-- The name of the base quantity. -/
def name : Base → String
  | si b => b.name
  | extra b => b.name

/-- The place in the order of all base quantities. -/
def rank : Base → Nat
  | si b => b.index
  | extra b => 7 + b.index

/-- Every SI quantity comes before every extra one. -/
def order (a b : Base) : Ordering := compare a.rank b.rank

/-- The base quantity of the name, if there is one. -/
def ofName? (s : String) : Option Base := all.find? (·.name == s)

theorem mem_all (b : Base) : b ∈ all := by
  cases b with
  | si b => cases b <;> decide
  | extra b => cases b <;> decide

end Base

/-- A value for each base quantity. -/
@[ext] structure Slots (α : Type) where
  si : Pack α 7
  extra : Pack α 4
  deriving DecidableEq

namespace Slots

variable {α β γ ε : Type}

/-- The value in the slot of the base quantity. -/
def get (s : Slots α) : Base → α
  | .si b => s.si.get b.index
  | .extra b => s.extra.get b.index

/-- The same value in every slot. -/
def replicate (a : α) : Slots α := ⟨.replicate 7 a, .replicate 4 a⟩

/-- `rest` everywhere but for `a` at the base quantity. -/
def single (rest : α) (b : Base) (a : α) : Slots α :=
  match b with
  | .si b => ⟨(Pack.replicate 7 rest).set b.index a, .replicate 4 rest⟩
  | .extra b => ⟨.replicate 7 rest, (Pack.replicate 4 rest).set b.index a⟩

/-- The values in slot order. -/
def toList (s : Slots α) : List α := s.si.toList ++ s.extra.toList

/-- The slots filled from a list of at least eleven values. -/
def ofList? (l : List α) : Option (Slots α) := do
  let si ← Pack.ofList? 7 l
  let extra ← Pack.ofList? 4 (l.drop 7)
  return ⟨si, extra⟩

/-- Every value replaced by what the computation makes of it, up to the first that fails. -/
def traverse (f : α → Except ε β) (s : Slots α) : Except ε (Slots β) := do
  let si ← s.si.traverse f
  let extra ← s.extra.traverse f
  return ⟨si, extra⟩

/-- The values of equal slots combined, up to the first pair that fails. -/
def zipM (f : α → β → Except ε γ) (s : Slots α) (t : Slots β) : Except ε (Slots γ) := do
  let si ← Pack.zipM f s.si t.si
  let extra ← Pack.zipM f s.extra t.extra
  return ⟨si, extra⟩

/-- How many slots hold a value with the property. -/
def count (p : α → Bool) (s : Slots α) : Nat := s.si.count p + s.extra.count p

end Slots

end Metrology
