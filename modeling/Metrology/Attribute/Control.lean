import Metrology.Attribute.Block

/-!
# Control

The expressions that end with a block, with a loop, a choice or a label in front of it, closures,
and the jumps that leave a block.
-/

namespace Metrology.Attribute

namespace Phrase

open Metrology.Attribute.Reader

section

variable (read : Phrase → PhraseReader)

/-! ## Choices -/

/-- A block under a condition, with others for the case that it does not hold. -/
def conditional : PhraseReader :=
  steps (fun out => do
    let out := out ++ (← inOrder [word "if", read (.expression false), read .block])
    match ← optionalWord "else" with
    | [] => return .last out
    | other =>
      let ts ← peek
      if Tree.startsWord "if" ts then return .next (out ++ other)
      else if Tree.startsGroup .brace ts then return .last (out ++ other ++ (← read .block))
      else refuse "`if` or curly braces") []

/-- A pattern with the value for it; a comma follows a value that is no block, but for the last. -/
def arm : PhraseReader := do
  let start ← inOrder [tags read, read (.pattern true),
    ifStarts (Tree.startsWord "if") (inOrder [word "if", read (.expression true)]), sign "=>"]
  let (value, isComplete) ← sentence read
  let comma ← if isComplete || (← isAtEnd) then optionalSign "," else sign ","
  return start ++ value ++ comma

/-- A choice among patterns for a value. -/
def selection : PhraseReader :=
  inOrder [word "match", read (.expression false),
    group .brace (inOrder [innerTags read, many (fun ts => !ts.isEmpty) (arm read)])]

/-! ## Loops -/

/-- A loop under a condition. -/
def whileLoop : PhraseReader :=
  inOrder [word "while", read (.expression false), taggedBlock read]

/-- A loop over the items of a value. -/
def forLoop : PhraseReader :=
  inOrder [word "for", read (.pattern true), word "in", read (.expression false),
    taggedBlock read]

/-- A loop without a condition. -/
def endlessLoop : PhraseReader := inOrder [word "loop", taggedBlock read]

/-- A loop or a block, which may have a label. -/
def labeled : PhraseReader := do
  let ts ← peek
  if Tree.startsWord "while" ts then whileLoop read
  else if Tree.startsWord "for" ts then forLoop read
  else if Tree.startsWord "loop" ts then endlessLoop read
  else if Tree.startsGroup .brace ts then taggedBlock read
  else refuse "loop or block expression"

/-- An expression that ends with a block, by its first tree. -/
def compoundReader : PhraseReader := do
  match ← peek with
  | .lifetime _ :: _ => inOrder [lifetime, sign ":", labeled read]
  | .word "if" :: _ => conditional read
  | .word "match" :: _ => selection read
  | .word "try" :: _ => inOrder [anyWord, read .block]
  | .word "unsafe" :: _ => inOrder [anyWord, taggedBlock read]
  | .word "const" :: _ => inOrder [anyWord, taggedBlock read]
  | _ => labeled read

/-! ## Closures -/

/-- A pattern with its type, which may be left out. -/
def closureParameter : PhraseReader :=
  inOrder [tags read, read (.pattern false), introduced ":" (read (.type true))]

/-- Parameters between signs, and the expression that they stand in; a block if its type is
given. -/
def closure (braces : Bool) : PhraseReader := do
  let start ← inOrder [optionalBinder read, optionalWord "const", optionalWord "static",
    optionalWord "async", optionalWord "move", sign "|",
    commaListUntil (startsWith "|") (closureParameter read), sign "|"]
  match ← result read true with
  | [] => return start ++ (← read (.expression braces))
  | output => return start ++ output ++ (← read .block)

/-- Whether a block that runs later starts here. -/
def startsDelayed (ts : List Tree) : Bool :=
  match ts with
  | .word "async" :: .word "move" :: rest => Tree.startsGroup .brace rest
  | .word "async" :: rest => Tree.startsGroup .brace rest
  | _ => false

/-- Whether the parameters of a closure start here, or a word before them. -/
def startsClosureHead (ts : List Tree) : Bool :=
  match ts with
  | .word "const" :: rest => !Tree.startsGroup .brace rest
  | .word "static" :: _ => true
  | .word "async" :: rest => startsClosure rest
  | _ => startsClosure ts || startsBinder ts

/-! ## Jumps -/

/-- A value, if an expression starts here. -/
def optionalValue : PhraseReader := ifStarts startsExpression (read (.expression true))

/-- The end of a loop with its value.  A loop with a label cannot be the value. -/
def breakJump (braces : Bool) : PhraseReader := do
  let keyword ← word "break"
  match ← peek with
  | .lifetime _ :: .mark ':' _ :: _ =>
    discard (read (.expression true))
    throw .labelWithoutParentheses
  | _ =>
    let label ← ifStarts Tree.startsLifetime lifetime
    let hasValue (ts : List Tree) : Bool :=
      startsExpression ts && (braces || !Tree.startsGroup .brace ts)
    return keyword ++ label ++ (← ifStarts hasValue (read (.expression braces)))

/-- A jump or a binding of a pattern, by its word. -/
def jump (braces : Bool) (keyword : String) : PhraseReader :=
  match keyword with
  | "break" => breakJump read braces
  | "continue" => inOrder [anyWord, ifStarts Tree.startsLifetime lifetime]
  | "become" => verbatim (inOrder [anyWord, read (.expression true)])
  | "let" => inOrder [anyWord, read (.pattern true), sign "=", part read braces .matched]
  | _ => inOrder [anyWord, optionalValue read]

/-- The words of jumps and bindings. -/
def jumpWords : List String := ["break", "continue", "return", "become", "yield", "let"]

end

end Phrase

end Metrology.Attribute
