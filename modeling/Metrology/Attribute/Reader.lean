import Metrology.Attribute.Tree

/-!
# Readers of token trees

A reader takes a phrase from the front of the trees and gives it back with its marks joined to
signs.  The trees of a group are read in their own right; a reader that leaves some of them unread
goes on behind the group, and the first group left in this way is noted.
-/

namespace Metrology.Attribute

/-- The delimiters by name. -/
def Delimiter.name : Delimiter → String
  | parenthesis => "parentheses"
  | brace => "curly braces"
  | bracket => "square brackets"

/-- The closing delimiter. -/
def Delimiter.closing : Delimiter → String
  | parenthesis => "`)`"
  | brace => "`\x7d`"
  | bracket => "`]`"

/-- Why trees are no phrase of the grammar. -/
inductive GrammarFault
  | expected (what : String)
  | ended (what : String)
  | unexpected (wanted : String)
  | foundKeyword (word : String)
  | notAllowedHere (what : String)
  | chainedComparison
  | afterCast (what : String)
  | objectWithoutTrait
  | boundsWithoutTrait
  | relaxedFamily
  | placeTooLarge
  | taggedRange
  | tagInTag
  | labelWithoutParentheses
  | openRangeInSlice
  deriving DecidableEq, Repr

/-- The text of the fault. -/
def GrammarFault.message : GrammarFault → String
  | expected what => "expected " ++ what
  | ended what => "unexpected end of input, expected " ++ what
  | unexpected wanted => "unexpected token, expected " ++ wanted
  | foundKeyword w => "expected identifier, found keyword `" ++ w ++ "`"
  | notAllowedHere what => what ++ " is not allowed here"
  | chainedComparison => "comparison operators cannot be chained"
  | afterCast what => "casts cannot be followed by " ++ what
  | objectWithoutTrait => "at least one trait is required for an object type"
  | boundsWithoutTrait => "at least one trait must be specified"
  | relaxedFamily => "`for<...>` binder not allowed with `?` trait polarity modifier"
  | placeTooLarge => "number too large to fit in target type"
  | taggedRange => "attributes are not allowed on range expressions starting with `..`"
  | tagInTag => "unexpected attribute inside of attribute"
  | labelWithoutParentheses => "parentheses required"
  | openRangeInSlice => "range pattern is not allowed unparenthesized inside slice pattern"

/-- The trees to be read, and the delimiter of the first group that was left before its end. -/
structure Cursor where
  trees : List Tree
  unread : Option Delimiter := none

/-- Takes a value from the front of the trees. -/
abbrev Reader (α : Type) := StateT Cursor (Except GrammarFault) α

/-- Takes a phrase from the front of the trees. -/
abbrev PhraseReader := Reader (List Tree)

namespace Reader

/-! ## Moving -/

/-- The trees to be read; none is taken. -/
def peek : PhraseReader := fun c => .ok (c.trees, c)

/-- Whether no trees are left. -/
def isAtEnd : Reader Bool := return (← peek).isEmpty

/-- Goes on with other trees. -/
def goTo (ts : List Tree) : Reader PUnit := modify fun c => { c with trees := ts }

/-- Goes on behind a group; it is noted if trees of the group are left. -/
def leave (d : Delimiter) (rest : List Tree) : Reader PUnit :=
  modify fun c => ⟨rest, c.unread.or (if c.trees.isEmpty then none else some d)⟩

/-- Refuses trees that do not start with what is wanted; trees that have ended are told apart. -/
def refuse {α : Type} (what : String) : Reader α := do
  throw (if ← isAtEnd then .ended what else .expected what)

/-! ## Words, signs and groups -/

/-- A word that is a name. -/
def name : Reader String := do
  match ← peek with
  | .word w :: rest =>
    if Tree.isName w then
      goTo rest
      return w
    else throw (.foundKeyword w)
  | _ => refuse "identifier"

/-- A name as a phrase. -/
def nameTree : PhraseReader := return [.word (← name)]

/-- The sign, if the trees start with it. -/
def optionalSign (s : String) : PhraseReader := do
  match Tree.dropSign s.toList (← peek) with
  | some rest =>
    goTo rest
    return [.sign s]
  | none => return []

/-- The sign, which has to be there. -/
def sign (s : String) : PhraseReader := do
  match ← optionalSign s with
  | [] => throw (.expected ("`" ++ s ++ "`"))
  | ts => return ts

/-- Whether the trees start with the sign. -/
def startsWith (s : String) : Reader Bool := return Tree.startsWith s (← peek)

/-- Whether the trees start with one of the signs. -/
def startsWithAny (signs : List String) : Reader Bool :=
  return (Tree.takeSign? signs (← peek)).isSome

/-- The word, if the trees start with it. -/
def optionalWord (s : String) : PhraseReader := do
  match ← peek with
  | .word w :: rest =>
    if w = s then
      goTo rest
      return [.word w]
    else return []
  | _ => return []

/-- The word, which has to be there. -/
def word (s : String) : PhraseReader := do
  match ← optionalWord s with
  | [] => refuse ("`" ++ s ++ "`")
  | ts => return ts

/-- A lifetime. -/
def lifetime : PhraseReader := do
  match ← peek with
  | .lifetime s :: rest =>
    goTo rest
    return [.lifetime s]
  | _ => refuse "lifetime"

/-- A word that may also be no name. -/
def anyWord : PhraseReader := do
  match ← peek with
  | .word w :: rest =>
    goTo rest
    return [.word w]
  | _ => refuse "identifier"

/-- What stands in a group. -/
def within {α : Type} (d : Delimiter) (reader : Reader α) : Reader α := do
  match ← peek with
  | .group e items :: rest =>
    if d = e then
      goTo items
      let a ← reader
      leave d rest
      return a
    else refuse d.name
  | _ => refuse d.name

/-- A group of the delimiter around what the reader takes. -/
def group (d : Delimiter) (reader : PhraseReader) : PhraseReader :=
  return [.group d (← within d reader)]

/-! ## Sequences -/

/-- Phrases one after the other. -/
def inOrder : List PhraseReader → PhraseReader
  | [] => return []
  | r :: rs => do
    let ts ← r
    return ts ++ (← inOrder rs)

/-- One of two phrases: the first one, if the trees start in the given way. -/
def either (starts : List Tree → Bool) (first second : PhraseReader) : PhraseReader := do
  if starts (← peek) then first else second

/-- A phrase, if the trees start in the given way. -/
def ifStarts (starts : List Tree → Bool) (reader : PhraseReader) : PhraseReader :=
  either starts reader (return [])

/-- A sign with the phrase behind it, if the trees start with the sign. -/
def introduced (s : String) (reader : PhraseReader) : PhraseReader :=
  ifStarts (Tree.startsWith s) (inOrder [sign s, reader])

/-- What a reader would take here and what would follow; nothing is taken. -/
def attempt {α : Type} (reader : Reader α) : Reader (Option (α × List Tree)) := fun c =>
  match reader c with
  | .ok (a, rest) => .ok (some (a, rest.trees), c)
  | .error _ => .ok (none, c)

/-- The trees that a reader takes, as they were written. -/
def verbatim {α : Type} (reader : Reader α) : PhraseReader := do
  let before ← peek
  discard reader
  let after ← peek
  return before.take (before.length - after.length)

/-! ## Repetition -/

/-- A value after a step: there may be a next step, or this was the last one. -/
inductive Step (α : Type)
  | last (a : α)
  | next (a : α)

/-- Takes steps up to the last one; every step but the last takes one of the `fuel` trees. -/
def stepsWithin {α : Type} (step : α → Reader (Step α)) : (fuel : Nat) → α → Reader α
  | 0, a => return a
  | fuel + 1, a => do
    match ← step a with
    | .last a => return a
    | .next a => stepsWithin step fuel a

/-- Takes steps up to the last one, of which each takes a tree. -/
def steps {α : Type} (step : α → Reader (Step α)) (a : α) : Reader α := fun c =>
  stepsWithin step (c.trees.length + 1) a c

/-- Items up to a stop, each with the comma behind it; the last comma may be left out. -/
def separated {α : Type} (stop : Reader Bool) (item : Reader α) : Reader (List (α × List Tree)) :=
  steps (fun out => do
    if ← stop then return .last out
    let a ← item
    if ← stop then return .last (out ++ [(a, [])])
    let comma ← sign ","
    return .next (out ++ [(a, comma)])) []

/-- Phrases with commas between them up to a stop. -/
def commaListUntil (stop : Reader Bool) (phrase : PhraseReader) : PhraseReader :=
  return (← separated stop phrase).flatMap fun (ts, comma) => ts ++ comma

/-- Phrases with commas between them up to the end. -/
def commaList (phrase : PhraseReader) : PhraseReader := commaListUntil isAtEnd phrase

/-- Phrases with `+` between them up to a stop; the last `+` may be left out. -/
def sumUntil (stop : Reader Bool) (phrase : PhraseReader) : PhraseReader :=
  steps (fun out => do
    if ← stop then return .last out
    let out := out ++ (← phrase)
    match ← optionalSign "+" with
    | [] => return .last out
    | plus => return .next (out ++ plus)) []

/-- Phrases as long as the trees start in the given way. -/
def many (starts : List Tree → Bool) (phrase : PhraseReader) : PhraseReader :=
  steps (fun out => do
    if starts (← peek) then return .next (out ++ (← phrase)) else return .last out) []

/-! ## Literals -/

/-- A literal of characters, which may be raw. -/
def isStringText (s : String) : Bool := s.startsWith "\"" || s.startsWith "r"

/-- Whether the text of a literal is a number. -/
def isNumberText (s : String) : Bool := (s.toList.head?.map Char.isDigit).getD false

/-- A string literal, which has to be there. -/
def stringLiteral : PhraseReader := do
  match ← peek with
  | .literal s :: rest =>
    if isStringText s then
      goTo rest
      return [.literal s]
    else refuse "string literal"
  | _ => refuse "string literal"

/-- A string literal, if the trees start with one. -/
def optionalStringLiteral : PhraseReader := do
  match ← peek with
  | .literal s :: rest =>
    if isStringText s then
      goTo rest
      return [.literal s]
    else return []
  | _ => return []

/-- The literal that the trees start with; a negative number is one literal. -/
def literal? : List Tree → Option (Tree × List Tree)
  | .literal s :: rest => some (.literal s, rest)
  | .word w :: rest => if w = "true" ∨ w = "false" then some (.word w, rest) else none
  | .mark '-' _ :: .literal s :: rest =>
    if isNumberText s then some (.literal ("-" ++ s), rest) else none
  | _ => none

end Reader

end Metrology.Attribute
