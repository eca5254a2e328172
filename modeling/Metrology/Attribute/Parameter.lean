import Metrology.Attribute.Type

/-!
# Parameters and conditions

A declaration may be a family over lifetimes, types and constants, which may have bounds and values
that stand for them.  Conditions behind `where` bound lifetimes and types.
-/

namespace Metrology.Attribute

namespace Phrase

open Metrology.Attribute.Reader

/-- Whether conditions, or the bounds of one of them, end here. -/
def endsConditions : Reader Bool := do
  let ts ← peek
  return ts.isEmpty || Tree.startsGroup .brace ts || Tree.startsWithBut ":" ["::"] ts ||
    [",", ";", "="].any fun s => Tree.startsWith s ts

section

variable (read : Phrase → PhraseReader)

/-! ## Parameters -/

/-- A literal, a name or a block. -/
def constant : PhraseReader := do
  let ts ← peek
  match literal? ts with
  | some (l, rest) =>
    goTo rest
    return [l]
  | none => if Tree.startsGroup .brace ts then read .compound else nameTree

/-- A bound on a parameter. -/
def parameterBound : PhraseReader := boundTrees read ⟨false, true⟩

/-- A type by its name, with its bounds and the type that stands for it. -/
def typeParameter : PhraseReader :=
  inOrder [nameTree,
    introduced ":" (sumUntil (startsWithAny [",", ">", "="]) (parameterBound read)),
    introduced "=" (read (.type true))]

/-- A constant by its name, with its type and the value that stands for it. -/
def constantParameter : PhraseReader :=
  inOrder [word "const", nameTree, sign ":", read (.type true),
    introduced "=" (constant read)]

/-- A lifetime, a type or a constant; the name of a type may be left blank. -/
def parameterReader (blank : Bool) : PhraseReader := do
  let ts ← tags read
  match ← peek with
  | .lifetime _ :: _ => return ts ++ (← lifetimeParameter)
  | .word "const" :: _ => return ts ++ (← constantParameter read)
  | .word "_" :: _ => if blank then return ts ++ (← anyWord) else typeParameter read
  | .word _ :: _ => return ts ++ (← typeParameter read)
  | _ => refuse "one of: identifier, lifetime, `const`"

/-- The parameters of a declaration, if it has any. -/
def parameters : PhraseReader := do
  match ← optionalSign "<" with
  | [] => return []
  | less =>
    let ps ← separated (startsWith ">") (parameterReader read true)
    let greater ← sign ">"
    if ps.isEmpty then return []
    else return less ++ argumentTrees Tree.startsLifetime ps ++ greater

/-! ## Conditions -/

/-- The bounds of a lifetime or of a type. -/
def condition : PhraseReader := do
  match ← peek with
  | .lifetime _ :: .mark ':' _ :: _ =>
    inOrder [lifetime, sign ":", sumUntil endsConditions lifetime]
  | _ =>
    inOrder [optionalBinder read, read (.type true), sign ":",
      sumUntil endsConditions (parameterBound read)]

/-- The conditions on the parameters, if there are any. -/
def conditions : PhraseReader := do
  match ← optionalWord "where" with
  | [] => return []
  | keyword =>
    let cs ← steps (fun out => do
      if ← endsConditions then return .last out
      let out := out ++ (← condition read)
      match ← optionalSign "," with
      | [] => return .last out
      | comma => return .next (out ++ comma)) []
    if cs.isEmpty then return [] else return keyword ++ cs

end

end Phrase

end Metrology.Attribute
