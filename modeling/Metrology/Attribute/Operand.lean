import Metrology.Attribute.Control

/-!
# Operands

An operand is a literal, a path, a group, a block, a closure or a jump, with signs and attributes
before it and with calls, members and indices behind it.
-/

namespace Metrology.Attribute

namespace Phrase

open Metrology.Attribute.Reader

/-- The rest of a use of what is built in: a name and its arguments. -/
def builtIn : PhraseReader :=
  verbatim (do
    discard (inOrder [anyWord, sign "#", nameTree])
    within .parenthesis (goTo []))

/-- How a reference is taken. -/
def referenceKind : PhraseReader := do
  match ← peek with
  | .word "raw" :: .word w :: _ =>
    if w = "const" || w = "mut" then inOrder [anyWord, anyWord] else return []
  | _ => optionalWord "mut"

section

variable (read : Phrase → PhraseReader)

/-- The elements of an array, or one element and how often it is repeated. -/
def elements : PhraseReader := do
  if ← isAtEnd then return []
  let first ← read (.expression true)
  let ts ← peek
  if ts.isEmpty then return first
  else if Tree.startsWith "," ts then
    return first ++ (← inOrder [sign ",", commaList (read (.expression true))])
  else if Tree.startsWith ";" ts then
    return first ++ (← inOrder [sign ";", read (.expression true)])
  else refuse "`,` or `;`"

/-- A field with its value, or a name that is both. -/
def fieldValue : PhraseReader := do
  let m ← inOrder [tags read, member]
  if (m.getLast?.map fun t => isNamed [t]).getD false && !(← startsWith ":") then return m
  else return m ++ (← inOrder [sign ":", read (.expression true)])

/-- The fields of a value; the value that has the other ones comes last. -/
def fieldValues : PhraseReader :=
  steps (fun out => do
    if ← isAtEnd then return .last out
    match ← optionalSign ".." with
    | [] =>
      let out := out ++ (← fieldValue read)
      if ← isAtEnd then return .last out
      return .next (out ++ (← sign ","))
    | dots =>
      if ← isAtEnd then return .last (out ++ dots)
      return .last (out ++ dots ++ (← read (.expression true)))) []

/-- A path in an expression, and what it opens: an invocation, the fields of a value, or nothing. -/
def pathOperand (braces : Bool) : PhraseReader := do
  let path ← if ← startsWith "<" then qualifiedPath read false else freePath read false
  let ts ← peek
  if startsInvocation path ts then invocation path
  else if braces && Tree.startsGroup .brace ts then
    return path ++ (← group .brace (fieldValues read))
  else return path

/-- Whether a path starts an operand here. -/
def startsPathOperand (ts : List Tree) : Bool :=
  match ts with
  | .word "try" :: rest => Tree.startsWith "!" rest || Tree.startsWith "::" rest
  | _ => startsPath ts

/-- A literal, a path, a group, a block, a closure or a jump. -/
def primary (braces : Bool) : PhraseReader := do
  let ts ← peek
  match literal? ts, ts with
  | some (l, rest), _ =>
    goTo rest
    return [l]
  | none, .group .parenthesis _ :: _ => group .parenthesis (commaList (read (.expression true)))
  | none, .group .bracket _ :: _ => group .bracket (elements read)
  | none, .word "_" :: _ => anyWord
  | none, .word "builtin" :: .mark '#' _ :: _ => builtIn
  | none, _ =>
    if startsDelayed ts then inOrder [anyWord, optionalWord "move", read .block]
    else if startsCompound ts then read .compound
    else if startsClosureHead ts then closure read braces
    else if startsPathOperand ts then pathOperand read braces
    else
      match ts with
      | .word w :: _ => if jumpWords.contains w then jump read braces w else refuse "an expression"
      | _ => refuse "an expression"

/-- A primary with the signs before it and what stands behind it. -/
def operandReader (braces : Bool) : PhraseReader := do
  let ts ← tags read
  match Tree.takeSign? ["-", "!", "*"] (← peek) with
  | some (s, rest) =>
    goTo rest
    return ts ++ .sign s :: (← read (.operand braces))
  | none =>
    match ← optionalSign "&" with
    | [] =>
      if ← startsWith ".." then
        if ts.isEmpty then range read braces else throw .taggedRange
      else
        let first ← primary read braces
        trailers read (ts ++ first)
    | ampersand =>
      return ts ++ ampersand ++ (← inOrder [referenceKind, read (.operand braces)])

end

end Phrase

end Metrology.Attribute
