import Metrology.Attribute.Literal
import Metrology.Attribute.Reader

/-!
# Places

The parts of a tuple are numbered by places.  A place is an integer literal without a suffix; it is
written with as few decimal digits as it needs.  Two places with a point between them look like one
number with a point.
-/

namespace Metrology.Attribute

/-- The base of an integer literal and its digits with all that follows them. -/
def splitBase : List Char → Nat × List Char
  | '0' :: 'x' :: cs => (16, cs)
  | '0' :: 'o' :: cs => (8, cs)
  | '0' :: 'b' :: cs => (2, cs)
  | cs => (10, cs)

/-- The value of digits behind a value, and what follows them; underscores divide digits. -/
def readDigits (base : Nat) : (value : Nat) → List Char → Nat × List Char
  | value, c :: cs =>
    if c = '_' then readDigits base value cs
    else
      match hexDigit? c with
      | some d => if d < base then readDigits base (base * value + d) cs else (value, c :: cs)
      | none => (value, c :: cs)
  | value, [] => (value, [])

/-- How many places there are. -/
def placeLimit : Nat := 4294967296

namespace Reader

/-- The place that a number stands for. -/
def place (cs : List Char) : Except GrammarFault Tree := do
  let (base, cs) := splitBase cs
  match readDigits base 0 cs with
  | (n, []) => if n < placeLimit then return .literal n.repr else throw .placeTooLarge
  | (_, c :: rest) =>
    if rest.head?.any (fun d => d.isDigit || d == '-' || d == '+') && (c = 'e' || c = 'E') then
      throw (.expected "integer literal")
    else throw (.expected "unsuffixed integer")

/-- Whether a number has a point or an exponent. -/
def isFloatText (s : String) : Bool := isNumberText s && (skipFloat s.toList).isSome

/-- A place by its number. -/
def placeNumber : PhraseReader := do
  match ← peek with
  | .literal s :: rest =>
    if isNumberText s && !isFloatText s then
      let p ← place s.toList
      goTo rest
      return [p]
    else refuse "identifier or integer"
  | _ => refuse "identifier or integer"

/-- The places between the points of a number; nothing may stand behind the last point. -/
def placesOf : (fuel : Nat) → List Char → Except GrammarFault (List Tree)
  | 0, _ => return []
  | fuel + 1, cs => do
    let p ← place (cs.takeWhile (· != '.'))
    match cs.dropWhile (· != '.') with
    | [] => return [p]
    | [_] => return [p, .sign "."]
    | _ :: cs => return p :: .sign "." :: (← placesOf fuel cs)

end Reader

end Metrology.Attribute
