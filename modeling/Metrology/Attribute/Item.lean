import Metrology.Attribute.Block
import Metrology.Attribute.Body

/-!
# Declarations in blocks

Functions, constants, types, imports, modules, traits and implementations, which may be declared
among the statements of a block.
-/

namespace Metrology.Attribute

namespace Phrase

open Metrology.Attribute.Reader

/-- The start of every declaration. -/
def itemStarts : String :=
  "one of: `fn`, `extern`, `use`, `static`, `const`, `unsafe`, `mod`, `type`, `struct`, `enum`, " ++
    "`union`, `trait`, `auto`, `impl`, `default`, `macro`, identifier, `self`, `super`, " ++
    "`crate`, `::`"

/-! ## Imports -/

/-- A new name for what is imported, or a blank. -/
def newName : PhraseReader :=
  ifStarts (Tree.startsWord "as") (inOrder [word "as",
    either (Tree.startsWord "_") anyWord nameTree])

/-- The paths of an import, which branch in braces; every branch is one of the `fuel` levels. -/
def importTree : (fuel : Nat) → PhraseReader
  | 0 => refuse "identifier"
  | fuel + 1 => do
    let ts ← peek
    if Tree.startsWith "*" ts then sign "*"
    else if Tree.startsGroup .brace ts then
      group .brace (commaList (inOrder [optionalSign "::", importTree fuel]))
    else
      let first ← if Tree.startsWord "try" ts then anyWord else pathWord
      match ← optionalSign "::" with
      | [] => return first ++ (← newName)
      | colons => return first ++ colons ++ (← importTree fuel)

/-- An import of names. -/
def importItem : PhraseReader := do
  let ts ← peek
  inOrder [word "use", optionalSign "::", importTree (Tree.sizeAll ts), sign ";"]

section

variable (read : Phrase → PhraseReader)

/-! ## Functions -/

/-- The value that a method is called on. -/
def receiver : PhraseReader := do
  match ← optionalSign "&" with
  | [] => inOrder [optionalWord "mut", word "self", introduced ":" (read (.type true))]
  | ampersand =>
    return ampersand ++
      (← inOrder [ifStarts Tree.startsLifetime lifetime, optionalWord "mut", word "self"])

/-- A parameter by a pattern and its type, or one that stands for any number of others. -/
def functionInput (isFirst : Bool) : PhraseReader := do
  let ts ← tags read
  match ← attempt (receiver read) with
  | some _ => if isFirst then return ts ++ (← receiver read) else refuse "identifier"
  | none =>
    if ← startsWith "..." then return ts ++ (← sign "...")
    else
      return ts ++ (← inOrder [read (.pattern false), sign ":",
        either (Tree.startsWith "...") (sign "...") (read (.type true))])

/-- The parameters of a function, with commas between them. -/
def functionInputs : PhraseReader :=
  steps (fun out => do
    if ← isAtEnd then return .last out
    let out := out ++ (← functionInput read out.isEmpty)
    if ← isAtEnd then return .last out
    return .next (out ++ (← sign ","))) []

/-- The words before the name of a function. -/
def functionHead : PhraseReader :=
  inOrder [optionalWord "const", optionalWord "async", optionalWord "unsafe", linkage, word "fn"]

/-- A function with its block, or its signature alone. -/
def functionItem : PhraseReader :=
  inOrder [functionHead, nameTree, parameters read, group .parenthesis (functionInputs read),
    result read true, conditions read,
    either (Tree.startsWith ";") (sign ";") (taggedBlock read)]

/-! ## Constants and types -/

/-- A constant; its value may be left out. -/
def constantItem : PhraseReader :=
  inOrder [word "const", either (Tree.startsWord "_") anyWord nameTree,
    parameters read, sign ":", read (.type true), introduced "=" (read (.expression true)),
    conditions read, sign ";"]

/-- A variable; its type and its value may be left out. -/
def variableItem : PhraseReader :=
  inOrder [word "static", optionalWord "mut", nameTree, introduced ":" (read (.type true)),
    introduced "=" (read (.expression true)), sign ";"]

/-- A name for a type; the type may be left out. -/
def typeItem : PhraseReader :=
  inOrder [word "type", nameTree, parameters read,
    introduced ":" (sumUntil (startsWithAny ["=", ";"]) (parameterBound read)), conditions read,
    introduced "=" (read (.type true)), conditions read, sign ";"]

/-- A declaration of the shape. -/
def shapeItem (s : Shape) : PhraseReader :=
  inOrder [anyWord, nameTree, parameters read, body read s]

/-! ## Modules, traits and implementations -/

/-- Declarations in braces, with attributes of what is around them. -/
def members : PhraseReader :=
  group .brace (inOrder [innerTags read,
    many (fun ts => !ts.isEmpty) (inOrder [tags read, read .item])])

/-- A module by its members, or by its name alone. -/
def moduleItem : PhraseReader :=
  inOrder [word "mod", either (Tree.startsWord "try") anyWord nameTree,
    either (Tree.startsWith ";") (sign ";") (members read)]

/-- A trait by its members, or by the bounds that it stands for. -/
def traitItem : PhraseReader := do
  let start ← inOrder [optionalWord "auto", word "trait", nameTree, parameters read]
  match ← optionalSign "=" with
  | [] =>
    return start ++ (← inOrder [introduced ":" (sumUntil endsConditions (parameterBound read)),
      conditions read, members read])
  | equals =>
    return start ++ equals ++
      (← inOrder [sumUntil endsConditions (parameterBound read), conditions read, sign ";"])

/-- Members for a type, or for a trait of a type. -/
def implementation : PhraseReader :=
  inOrder [word "impl", parameters read, optionalWord "const", optionalSign "!",
    read (.type true), ifStarts (Tree.startsWord "for") (inOrder [word "for", read (.type true)]),
    conditions read, members read]

/-! ## Links and invocations -/

/-- A package from outside by its name, or members that are linked from outside. -/
def externalItem : PhraseReader := do
  let start ← linkage
  if Tree.startsWord "crate" (← peek) then
    return start ++ (← inOrder [anyWord,
      either (Tree.startsWord "self") anyWord nameTree, newName, sign ";"])
  else return start ++ (← members read)

/-- A rule for invocations. -/
def ruleItem : PhraseReader :=
  inOrder [word "macro", nameTree, ifStarts (Tree.startsGroup .parenthesis) delimited,
    either (Tree.startsGroup .brace) delimited (refuse "curly braces")]

/-- An invocation that may declare a name; a semicolon follows it unless it ends with a block. -/
def invocationItem : PhraseReader := do
  let ts ← inOrder [wordPath, sign "!", ifStarts (Tree.startsAnyWord ["try"]) anyWord,
    ifStarts Tree.startsName anyWord, delimited]
  if endsWithBlock ts then return ts else return ts ++ (← sign ";")

/-! ## All declarations -/

/-- Whether a function starts here. -/
def startsFunctionItem : Reader Bool := return (← attempt functionHead).isSome

/-- A declaration by its word, which others may stand before. -/
def itemByWord : PhraseReader := do
  match ← peek with
  | .word "use" :: _ => importItem
  | .word "static" :: _ => variableItem read
  | .word "const" :: _ => constantItem read
  | .word "mod" :: _ => moduleItem read
  | .word "type" :: _ => typeItem read
  | .word "trait" :: _ => traitItem read
  | .word "auto" :: _ => traitItem read
  | .word "impl" :: _ => implementation read
  | .word "extern" :: _ => externalItem read
  | .word "macro" :: _ => ruleItem
  | .word w :: _ =>
    match Shape.ofWord? w with
    | some s => shapeItem read s
    | none => refuse itemStarts
  | _ => refuse itemStarts

/-- A declaration, behind the words that tell who can see it. -/
def itemReader : PhraseReader := do
  let start ← visibility
  let path ← attempt wordPath
  if path.any (fun (_, rest) => Tree.startsWith "!" rest) then return start ++ (← invocationItem)
  else
    let start := start ++ (← optionalWord "default")
    if ← startsFunctionItem then return start ++ (← functionItem read)
    else return start ++ (← inOrder [optionalWord "unsafe", itemByWord read])

end

end Phrase

end Metrology.Attribute
