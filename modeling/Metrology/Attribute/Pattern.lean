import Metrology.Attribute.Place
import Metrology.Attribute.Type

/-!
# Patterns

A pattern is a name, a literal, a path with the patterns of its parts, a range, a reference, or
patterns in a group.  Alternatives are divided by `|`.
-/

namespace Metrology.Attribute

namespace Phrase

open Metrology.Attribute.Reader

/-! ## Members -/

/-- The name or the place of a part. -/
def member : PhraseReader := do
  let ts ← peek
  if Tree.startsName ts then anyWord else placeNumber

/-- Whether the trees are one word. -/
def isNamed : List Tree → Bool
  | [.word _] => true
  | _ => false

/-! ## Starts -/

/-- The start of every pattern. -/
def patternStarts : String :=
  "one of: identifier, `::`, `<`, `_`, literal, `const`, `ref`, `mut`, `&`, parentheses, " ++
    "square brackets, `..`, `const`"

/-- The start of the bound of a range. -/
def boundStarts : String :=
  "one of: literal, identifier, `::`, `<`, `self`, `Self`, `super`, `crate`, `const`"

/-- Whether the bound of a range is missing. -/
def lacksBound (ts : List Tree) : Bool :=
  ts.isEmpty || Tree.startsWord "if" ts || Tree.startsWithBut ":" ["::"] ts ||
    ["|", "=", ",", ";"].any fun s => Tree.startsWith s ts

/-- Whether a path with parts, with a range or with an invocation starts here, and no name. -/
def startsPatternPath (ts : List Tree) : Bool :=
  match ts with
  | .word w :: rest =>
    (Tree.isName w && (Tree.startsGroup .brace rest || Tree.startsGroup .parenthesis rest ||
      ["::", "!", ".."].any fun s => Tree.startsWith s rest)) ||
      (w = "self" && Tree.startsWith "::" rest) || ["Self", "super", "crate"].contains w
  | _ => Tree.startsWith "::" ts || Tree.startsWith "<" ts

/-- Whether a further alternative follows. -/
def startsAlternative : List Tree → Bool := Tree.startsWithBut "|" ["||", "|="]

section

variable (read : Phrase → PhraseReader)

/-! ## Ranges -/

/-- The bound of a range: a literal, a path or a block. -/
def rangeBound : PhraseReader := do
  let ts ← peek
  match literal? ts with
  | some (l, rest) =>
    goTo rest
    return [l]
  | none =>
    if Tree.startsWord "const" ts then read .compound
    else if Tree.startsWith "<" ts then qualifiedPath read false
    else if startsPath ts then freePath read false
    else refuse boundStarts

/-- The sign of a range and its upper bound, which only a range without its end can lack. -/
def rangeTail : PhraseReader := do
  let closed ← startsWithAny ["..=", "..."]
  let dots ← if ← startsWith "..." then do
      discard (sign "...")
      pure [Tree.sign "..="]
    else if closed then sign "..=" else sign ".."
  if lacksBound (← peek) then
    if closed then refuse "range upper bound" else return dots
  else return dots ++ (← rangeBound read)

/-! ## Parts -/

/-- Patterns with commas between them. -/
def patternList : PhraseReader := commaList (read (.pattern true))

/-- Whether a pattern is a range that lacks a bound. -/
def isOpenRange : List Tree → Bool
  | [.sign ".."] => false
  | ts =>
    match ts.head?, ts.getLast? with
    | some (.sign s), some (.sign t) => isRangeSign s || isRangeSign t
    | some (.sign s), _ => isRangeSign s
    | _, some (.sign t) => isRangeSign t
    | _, _ => false
where
  isRangeSign (s : String) : Bool := s = ".." || s = "..="

/-- A pattern in a slice, where a range must have both bounds. -/
def slicePattern : PhraseReader := do
  let p ← read (.pattern true)
  if isOpenRange p then throw .openRangeInSlice else return p

/-- The pattern of a field, or the name of the field, which is bound to it. -/
def fieldPattern : PhraseReader := do
  let kind ← inOrder [optionalWord "box", optionalWord "ref", optionalWord "mut"]
  if kind.isEmpty then
    let m ← member
    let ts ← peek
    if Tree.startsWith ":" ts || !isNamed m then
      return m ++ (← inOrder [sign ":", read (.pattern true)])
    else return m
  else return kind ++ (← nameTree)

/-- The patterns of fields; a sign for all other fields comes last. -/
def fieldPatterns : PhraseReader :=
  steps (fun out => do
    if ← isAtEnd then return .last out
    let out := out ++ (← tags read)
    if ← startsWith ".." then return .last (out ++ (← sign ".."))
    let out := out ++ (← fieldPattern read)
    if ← isAtEnd then return .last out
    return .next (out ++ (← sign ","))) []

/-- A path with what it opens. -/
def pathPattern : PhraseReader := do
  let path ← if ← startsWith "<" then qualifiedPath read false else freePath read false
  let ts ← peek
  if startsInvocation path ts then invocation path
  else if Tree.startsGroup .brace ts then
    return path ++ (← group .brace (fieldPatterns read))
  else if Tree.startsGroup .parenthesis ts then
    return path ++ (← group .parenthesis (patternList read))
  else if Tree.startsWith ".." ts then return path ++ (← rangeTail read)
  else return path

/-! ## Kinds of patterns -/

/-- A name that is bound, with the pattern that it stands for. -/
def namePattern : PhraseReader :=
  inOrder [optionalWord "ref", optionalWord "mut",
    either (Tree.startsWord "self") anyWord nameTree,
    introduced "@" (read (.pattern false))]

/-- A literal, or a range that starts with one. -/
def constantPattern : PhraseReader := do
  let start ← rangeBound read
  return start ++ (← ifStarts (Tree.startsWith "..") (rangeTail read))

/-- A pattern without alternatives, by its first tree. -/
def singlePattern : PhraseReader := do
  let ts ← peek
  if startsPatternPath ts then pathPattern read
  else if Tree.startsWord "_" ts then anyWord
  else if Tree.startsWord "box" ts then verbatim (inOrder [anyWord, read (.pattern false)])
  else if Tree.startsWith "-" ts || (literal? ts).isSome || Tree.startsWord "const" ts then
    constantPattern read
  else if Tree.startsName ts || Tree.startsAnyWord ["ref", "mut", "self"] ts then namePattern read
  else if Tree.startsWith "&" ts then
    inOrder [sign "&", optionalWord "mut", read (.pattern false)]
  else if Tree.startsGroup .parenthesis ts then group .parenthesis (patternList read)
  else if Tree.startsGroup .bracket ts then group .bracket (commaList (slicePattern read))
  else if Tree.startsWithBut ".." ["..."] ts then rangeTail read
  else refuse patternStarts

/-- A pattern, or alternatives of which a sign may also come first. -/
def alternatives : PhraseReader :=
  inOrder [optionalSign "|", singlePattern read,
    many startsAlternative (inOrder [sign "|", singlePattern read])]

/-- A pattern, with alternatives where there may be several. -/
def patternReader (several : Bool) : PhraseReader :=
  if several then alternatives read else singlePattern read

end

end Phrase

end Metrology.Attribute
