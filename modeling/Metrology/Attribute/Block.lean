import Metrology.Attribute.Expression

/-!
# Blocks

A block holds statements: bindings, declarations, invocations and expressions.  An expression that
starts with a block and ends with it needs no semicolon behind it.
-/

namespace Metrology.Attribute

namespace Phrase

open Metrology.Attribute.Reader

/-! ## Starts -/

/-- Whether lifetimes of which a phrase is a family start behind `for`. -/
def startsBinder (ts : List Tree) : Bool :=
  match ts with
  | .word "for" :: rest =>
    match Tree.dropSign ['<'] rest with
    | some rest => Tree.startsLifetime rest || Tree.startsWith ">" rest
    | none => false
  | _ => false

/-- Whether an expression that ends with a block starts here. -/
def startsCompound (ts : List Tree) : Bool :=
  match ts with
  | .group .brace _ :: _ => true
  | .lifetime _ :: _ => true
  | .word "for" :: _ => !startsBinder ts
  | .word w :: rest =>
    ["if", "while", "loop", "match", "unsafe"].contains w ||
      (["try", "const"].contains w && Tree.startsGroup .brace rest)
  | _ => false

/-- Whether a closure follows the word. -/
def startsClosure (ts : List Tree) : Bool := Tree.startsWord "move" ts || Tree.startsWith "|" ts

/-- Whether a declaration starts here. -/
def startsItem (ts : List Tree) : Bool :=
  match ts with
  | .word w :: rest =>
    match w with
    | "crate" => !Tree.startsWith "::" rest
    | "static" => startsVariable rest
    | "const" => !(Tree.startsGroup .brace rest || startsConstantClosure rest)
    | "unsafe" => !Tree.startsGroup .brace rest
    | "async" => Tree.startsAnyWord ["unsafe", "extern", "fn"] rest
    | "union" => Tree.startsName rest
    | "auto" => Tree.startsWord "trait" rest
    | "default" => Tree.startsAnyWord ["unsafe", "impl"] rest
    | _ =>
      ["pub", "extern", "use", "fn", "mod", "type", "struct", "enum", "trait", "impl",
        "macro"].contains w
  | _ => false
where
  startsVariable : List Tree → Bool
    | .word "mut" :: _ => true
    | .word w :: rest => Tree.isName w && !(w = "async" && startsClosure rest)
    | _ => false
  startsConstantClosure (ts : List Tree) : Bool :=
    match ts with
    | .word "static" :: _ => true
    | .word "async" :: rest => !Tree.startsAnyWord ["unsafe", "extern", "fn"] rest
    | _ => startsClosure ts || startsBinder ts

/-- An invocation behind its path: one that declares a name, or one that ends with a block. -/
inductive InvocationStart
  | declaration
  | block

/-- What the trees behind a path start, if they start one of the two. -/
def invocationStart? (ts : List Tree) : Option InvocationStart :=
  match ts with
  | .mark '!' _ :: .word w :: _ => if Tree.isName w || w = "try" then some .declaration else none
  | .mark '!' _ :: .group .brace _ :: rest => if continuesValue rest then none else some .block
  | _ => none

/-- Whether the last tree is a block. -/
def endsWithBlock (ts : List Tree) : Bool :=
  match ts.getLast? with
  | some (.group .brace _) => true
  | _ => false

section

variable (read : Phrase → PhraseReader)

/-! ## Statements -/

/-- An expression as a statement, and whether it ends with the block that it starts with. -/
def sentence : Reader (List Tree × Bool) := do
  let ts ← tags read
  if startsCompound (← peek) then
    let first ← read .compound
    if continuesValue (← peek) then
      let first ← trailers read (ts ++ first)
      return (← chain read true ⟨first, false, false⟩, false)
    else return (ts ++ first, true)
  else
    let isRange ← startsWith ".."
    if isRange && !ts.isEmpty then throw .taggedRange
    let first ← read (.operand true)
    return (← chain read true ⟨ts ++ first, false, isRange⟩, false)

/-- A pattern that is bound to a value, with what is done if it does not fit. -/
def binding : PhraseReader := do
  let start ← inOrder [word "let", read (.pattern false), introduced ":" (read (.type true))]
  match ← optionalSign "=" with
  | [] => return start ++ (← sign ";")
  | equals =>
    let value ← read (.expression true)
    let other ← if endsWithBlock value then pure []
      else ifStarts (Tree.startsWord "else") (inOrder [word "else", read .block])
    return start ++ equals ++ value ++ other ++ (← sign ";")

/-- A statement, and whether nothing has to stand behind it. -/
def statement : Reader (List Tree × Bool) := do
  let before ← get
  let ts ← tags read
  let start := (← attempt wordPath).bind fun (_, rest) => invocationStart? rest
  match start with
  | some .block =>
    return (ts ++ (← inOrder [wordPath, sign "!", delimited, optionalSign ";"]), true)
  | some .declaration => return (ts ++ (← read .item), true)
  | none =>
    if Tree.startsWord "let" (← peek) then return (ts ++ (← binding read), true)
    else if startsItem (← peek) then return (ts ++ (← read .item), true)
    else
      set before
      sentence read

/-- Statements with the semicolons behind them. -/
def statements : PhraseReader :=
  steps (fun out => do
    match ← optionalSign ";" with
    | [] =>
      if ← isAtEnd then return .last out
      let (s, isComplete) ← statement read
      let out := out ++ s
      if ← isAtEnd then return .last out
      match ← optionalSign ";" with
      | [] => if isComplete then return .next out else throw (.unexpected "`;`")
      | semicolon => return .next (out ++ semicolon)
    | semicolon => return .next (out ++ semicolon)) []

/-- A block: statements in braces. -/
def blockReader : PhraseReader := group .brace (statements read)

/-- A block with attributes of what is around it. -/
def taggedBlock : PhraseReader := group .brace (inOrder [innerTags read, statements read])

end

end Phrase

end Metrology.Attribute
