import Metrology.Attribute.Tag

/-!
# Types

A type is a path, a tuple, a reference, a pointer, an array, a slice, a function or an object.  A
bound is a lifetime or a trait; bounds are joined by `+` where the place of the type allows it.
-/

namespace Metrology.Attribute

namespace Phrase

open Metrology.Attribute.Reader

/-- The words that can follow the lifetimes of a type. -/
def binderFollowers : String :=
  "one of: identifier, `fn`, `unsafe`, `extern`, `super`, `self`, `Self`, `crate`"

/-- Whether the type of a function starts here. -/
def startsFunction : List Tree → Bool := Tree.startsAnyWord ["fn", "unsafe", "extern"]

/-- Whether a bound follows a `+`, which may also be the last sign of the bounds. -/
def startsBound (brackets : Bool) (ts : List Tree) : Bool :=
  match ts with
  | .word _ :: _ => true
  | .lifetime _ :: _ => true
  | .group .parenthesis _ :: _ => true
  | .group .bracket _ :: _ => brackets
  | _ => Tree.startsWith "::" ts || Tree.startsWith "?" ts

/-- Whether the parameters of a function follow, also behind `::`. -/
def startsParameters (ts : List Tree) : Bool :=
  Tree.startsGroup .parenthesis ts ||
    ((Tree.dropSign "::".toList ts).map (Tree.startsGroup .parenthesis)).getD false

/-- Whether the path ends with a word that has no arguments. -/
def endsWithWord (path : List Tree) : Bool :=
  match path.getLast? with
  | some (.word _) => true
  | _ => false

/-- The bounds that a place allows besides lifetimes and traits. -/
structure BoundPlace where
  /-- Names of all that is captured. -/
  captures : Bool := false
  /-- Traits of which the constants hold. -/
  constants : Bool := false

/-! ## Lifetimes -/

/-- A lifetime that may have to outlive others. -/
def lifetimeParameter : PhraseReader :=
  inOrder [lifetime, introduced ":" (sumUntil (startsWithAny [",", ">"]) lifetime)]

/-- What stands between the angle brackets that name all that a type captures. -/
def captured : PhraseReader := do
  match ← peek with
  | .lifetime _ :: _ => lifetime
  | .word "Self" :: _ => anyWord
  | ts => if Tree.startsName ts then anyWord else refuse "one of: lifetime, identifier, `>`"

/-- What a type captures, between angle brackets. -/
def captures : PhraseReader :=
  inOrder [word "use", sign "<", commaListUntil (startsWith ">") captured, sign ">"]

section

variable (read : Phrase → PhraseReader)

/-- The lifetimes of which a phrase is a family. -/
def binder : PhraseReader :=
  inOrder [word "for", sign "<", commaListUntil (startsWith ">") (read .parameter), sign ">"]

/-- The lifetimes of a family, if there are any. -/
def optionalBinder : PhraseReader := ifStarts (Tree.startsWord "for") (binder read)

/-! ## Functions -/

/-- The result of a function. -/
def result (plus : Bool) : PhraseReader := introduced "->" (read (.type plus))

/-- The parameters and the result of a function behind its path. -/
def signature : PhraseReader := do
  discard (optionalSign "::")
  inOrder [group .parenthesis (commaList (read (.type true))), result read false]

/-- The path with the parameters and results behind its words. -/
def signatures (path : List Tree) : PhraseReader :=
  steps (fun out => do
    if endsWithWord out && startsParameters (← peek) then
      match ← signature read with
      | [parameters] => return .next (← segments read continuesPath true (out ++ [parameters]))
      | [parameters, arrow, .group .parenthesis items] =>
        return .next (← segments read continuesPath true
          (out ++ [parameters, arrow, .group .parenthesis items]))
      | ts => return .last (out ++ ts)
    else return .last out) path

/-! ## Bounds -/

/-- A trait by its path. -/
def traitPath : PhraseReader := do
  let path ← freePath read true
  if endsWithWord path && startsParameters (← peek) then return path ++ (← signature read)
  else return path

/-- The mark of a trait of which the constants have to hold. -/
def constantMark (place : BoundPlace) : PhraseReader := do
  match ← peek with
  | .group .bracket _ :: _ =>
    let mark ← group .bracket (word "const")
    if place.constants then return mark else throw (.notAllowedHere "`[const]`")
  | .word "const" :: _ =>
    let mark ← word "const"
    if place.constants then return mark else throw (.notAllowedHere "`const`")
  | _ => return []

/-- A trait with its marks; a relaxed trait is no family. -/
def traitBound (place : BoundPlace) : PhraseReader := do
  let family ← optionalBinder read
  let mark ← constantMark place
  let relaxed ← optionalSign "?"
  let inner ← if family.isEmpty && !relaxed.isEmpty then optionalBinder read else pure []
  let path ← traitPath read
  if !relaxed.isEmpty && !(family ++ inner).isEmpty then throw .relaxedFamily
  return family ++ mark ++ relaxed ++ path

/-- A bound, and whether it is a trait. -/
def bound (place : BoundPlace) : Reader (List Tree × Bool) := do
  match ← peek with
  | .lifetime _ :: _ => return (← lifetime, false)
  | .word "use" :: _ =>
    let ts ← captures
    if place.captures then return (ts, false)
    else throw (.notAllowedHere "`use<...>` precise capturing syntax")
  | .group .parenthesis _ :: _ => return (← group .parenthesis (traitBound read place), true)
  | _ => return (← traitBound read place, true)

/-- A bound as a phrase. -/
def boundTrees (place : BoundPlace) : PhraseReader := return (← bound read place).1

/-- Bounds with `+` between them, and whether one of them is a trait. -/
def bounds (place : BoundPlace) (plus : Bool) : Reader (List Tree × Bool) :=
  steps (fun (out, hasTrait) => do
    let (ts, isTrait) ← bound read place
    let (out, hasTrait) := (out ++ ts, hasTrait || isTrait)
    if plus && (← startsWith "+") then
      let out := out ++ (← sign "+")
      if startsBound place.constants (← peek) then return .next (out, hasTrait)
      else return .last (out, hasTrait)
    else return .last (out, hasTrait)) ([], false)

/-- Bounds of which one has to be a trait. -/
def traitBounds (place : BoundPlace) (plus : Bool) (fault : GrammarFault) : PhraseReader := do
  let (ts, hasTrait) ← bounds read place plus
  if hasTrait then return ts else throw fault

/-- The bounds behind a first one that stands already. -/
def furtherBounds (plus : Bool) (first : List Tree) : PhraseReader := do
  if plus && (← startsWith "+") then
    let sign ← sign "+"
    if startsBound false (← peek) then return first ++ sign ++ (← bounds read {} true).1
    else return first ++ sign
  else return first

/-- The bounds behind a first one in parentheses; a bound follows each sign. -/
def closedBounds (first : List Tree) : PhraseReader :=
  return first ++
    (← many (Tree.startsWith "+") (inOrder [sign "+", boundTrees read {}]))

/-! ## Kinds of types -/

/-- A type by its path, or the bounds that the path is the first of. -/
def namedType (plus : Bool) (first : List Tree) : PhraseReader := do
  let path ← signatures read (← segments read continuesPath true first)
  if startsInvocation path (← peek) then invocation path
  else furtherBounds read plus path

/-- Whether a type is a path or a single trait, so that it can be the first of several bounds. -/
def isSingleBound (ts : List Tree) : Bool :=
  match ts with
  | .word w :: _ => (Tree.isPathWord w || w = "for") && !ts.any isPlus
  | .sign "::" :: _ => !ts.any isPlus
  | _ => false
where
  isPlus : Tree → Bool
    | .sign s => s = "+"
    | _ => false

/-- What stands in the parentheses of a type. -/
inductive Parenthesized
  | single (ts : List Tree)
  | tuple (ts : List Tree)
  | object (ts : List Tree)
  | relaxed (ts : List Tree)

/-- What stands in the parentheses of a type, by its first trees. -/
def parenthesized : Reader Parenthesized := do
  let ts ← peek
  if ts.isEmpty then return .tuple []
  else if Tree.startsLifetime ts then
    return .object (← traitBounds read {} true .objectWithoutTrait)
  else if Tree.startsWith "?" ts then return .relaxed (← traitBound read {})
  else
    let first ← read (.type true)
    match ← optionalSign "," with
    | [] => return .single first
    | comma => return .tuple (first ++ comma ++ (← commaList (read (.type true))))

/-- A type in parentheses, the types of a tuple, or bounds of which the first is in parentheses. -/
def parenthesizedType (plus : Bool) : PhraseReader := do
  match ← within .parenthesis (parenthesized read) with
  | .tuple ts => return [.group .parenthesis ts]
  | .object ts => return [.group .parenthesis ts]
  | .relaxed ts => closedBounds read [.group .parenthesis ts]
  | .single ts =>
    if plus && isSingleBound ts then closedBounds read [.group .parenthesis ts]
    else return [.group .parenthesis ts]

/-- An array with its length, or a slice. -/
def bracketedType : PhraseReader :=
  group .bracket
    (inOrder [read (.type true), introduced ";" (read (.expression true))])

/-- A pointer without a lifetime. -/
def pointer : PhraseReader :=
  inOrder [sign "*",
    either (Tree.startsAnyWord ["const", "mut"]) anyWord (refuse "`const` or `mut`"),
    read (.type false)]

/-- A reference, which may have a lifetime. -/
def reference : PhraseReader :=
  inOrder [sign "&", ifStarts Tree.startsLifetime lifetime, optionalWord "mut",
    read (.type false)]

/-- Whether the name of a parameter or of a receiver stands before a colon. -/
def startsNamed (isFirst : Bool) : List Tree → Bool
  | .word w :: ts =>
    (Tree.isName w || w = "_" || (isFirst && w = "self")) && Tree.startsWithBut ":" ["::"] ts
  | _ => false

/-- The type of a parameter, with or without its name. -/
def functionParameter (isFirst : Bool) : PhraseReader := do
  match isFirst, ← peek with
  | true, .word "mut" :: .word "self" :: rest =>
    goTo rest
    return .word "mut" :: .word "self" :: (← introduced ":" (read (.type true)))
  | _, _ =>
    inOrder [ifStarts (startsNamed isFirst) (inOrder [anyWord, sign ":"]), read (.type true)]

/-- Whether a parameter stands for any number of others. -/
def startsVariadic : List Tree → Bool
  | .word w :: ts =>
    (Tree.isName w || w = "_") &&
      ((Tree.dropSign [':'] ts).map (Tree.startsWith "...")).getD false
  | ts => Tree.startsWith "..." ts

/-- The parameters of the type of a function, with commas between them. -/
def functionParameters : PhraseReader :=
  steps (fun out => do
    if ← isAtEnd then return .last out
    let ts ← tags read
    if startsVariadic (← peek) then
      return .last (out ++ ts ++ (← inOrder [
        ifStarts (fun ts => !Tree.startsWith "..." ts) (inOrder [anyWord, sign ":"]),
        sign "...", optionalSign ","]))
    let out := out ++ ts ++ (← functionParameter read out.isEmpty)
    if ← isAtEnd then return .last out
    return .next (out ++ (← sign ","))) []

/-- How a function is linked, if that is said. -/
def linkage : PhraseReader :=
  ifStarts (Tree.startsWord "extern") (inOrder [word "extern", optionalStringLiteral])

/-- The type of a function. -/
def functionType : PhraseReader :=
  inOrder [optionalWord "unsafe", linkage, word "fn",
    group .parenthesis (functionParameters read), result read false]

/-- A type that is a family over lifetimes. -/
def boundType (plus : Bool) : PhraseReader := do
  let family ← binder read
  let ts ← peek
  if startsFunction ts then return family ++ (← functionType read)
  else if Tree.startsName ts || Tree.startsAnyWord ("Self" :: barePathWords) ts then
    let path ← signatures read (← freePath read true)
    if startsInvocation path (← peek) then invocation path
    else furtherBounds read plus (family ++ path)
  else refuse binderFollowers

/-- An object of any type that keeps the bounds. -/
def objectType (plus : Bool) : PhraseReader := do
  let bounds := traitBounds read {} plus .objectWithoutTrait
  match ← peek with
  | .word _ :: .mark '*' _ :: _ => verbatim (inOrder [word "dyn", sign "*", bounds])
  | _ => inOrder [word "dyn", bounds]

/-- One type that keeps the bounds. -/
def someType (plus : Bool) : PhraseReader :=
  inOrder [word "impl", traitBounds read ⟨true, true⟩ plus .boundsWithoutTrait]

/-- A type of any kind; its first tree tells which. -/
def typeReader (plus : Bool) : PhraseReader := do
  let ts ← peek
  match ts with
  | .group .parenthesis _ :: _ => parenthesizedType read plus
  | .group .bracket _ :: _ => bracketedType read
  | .lifetime _ :: _ => traitBounds read {} true .objectWithoutTrait
  | .mark '*' _ :: _ => pointer read
  | .mark '&' _ :: _ => reference read
  | .mark '!' _ :: _ => sign "!"
  | .mark '<' _ :: _ => signatures read (← qualifiedPath read true)
  | .word "_" :: _ => anyWord
  | .word "for" :: _ => boundType read plus
  | .word "dyn" :: _ => objectType read plus
  | .word "impl" :: _ => someType read plus
  | _ =>
    if startsFunction ts then functionType read
    else if startsPath ts then
      namedType read plus (← inOrder [optionalSign "::", segment read true])
    else refuse typeStarts

end

end Phrase

end Metrology.Attribute
