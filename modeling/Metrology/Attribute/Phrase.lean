import Metrology.Attribute.Reader

/-!
# Phrases and paths

Phrases stand inside one another: an expression in the argument of a type, a type in a cast.  The
grammar of each is given by a reader that takes the readers of all of them.  A path is a chain of
words, each of which may have arguments in angle brackets; where a type stands, arguments follow a
word at once, elsewhere only behind `::`.
-/

namespace Metrology.Attribute

/-- The phrases that stand inside others. -/
inductive Phrase
  /-- An expression; with `braces` a path in it may be followed by fields in braces. -/
  | expression (braces : Bool)
  /-- A part of an expression that no sign divides. -/
  | operand (braces : Bool)
  /-- An expression that ends with a block. -/
  | compound
  | block
  /-- A type; `plus` allows bounds with signs between them. -/
  | type (plus : Bool)
  /-- What a type or a function is applied to in angle brackets. -/
  | argument
  /-- What a declaration is a family over. -/
  | parameter
  /-- A pattern; with `alternatives` there may be several, divided by signs. -/
  | pattern (alternatives : Bool)
  /-- Fields with names, in braces. -/
  | fields
  /-- A declaration in a block. -/
  | item
  deriving DecidableEq, Repr

namespace Phrase

open Metrology.Attribute.Reader

/-! ## Starts -/

/-- The start of every type. -/
def typeStarts : String :=
  "one of: `for`, parentheses, `fn`, `unsafe`, `extern`, identifier, `::`, `<`, `dyn`, " ++
    "square brackets, `*`, `&`, `!`, `impl`, `_`, lifetime"

/-- Whether the trees start with a path. -/
def startsPath (ts : List Tree) : Bool :=
  match ts with
  | .word w :: _ => Tree.isPathWord w
  | _ => Tree.startsWith "::" ts || Tree.startsWith "<" ts

/-- Whether a further word of a path follows; the parameters of a function are none. -/
def continuesPath (ts : List Tree) : Bool :=
  match Tree.dropSign "::".toList ts with
  | some rest => !Tree.startsGroup .parenthesis rest
  | none => false

/-- Whether arguments follow a word. -/
def startsArguments (inType : Bool) (ts : List Tree) : Bool :=
  (inType && Tree.startsWithBut "<" ["<=", "<<="] ts)
    || ((Tree.dropSign "::".toList ts).map (Tree.startsWith "<")).getD false

/-- Whether a phrase is a path of words. -/
def isPlainPath (ts : List Tree) : Bool :=
  ts.all fun t =>
    match t with
    | .word _ => true
    | .sign s => s = "::"
    | _ => false

/-- The words of a path that name a place of their own. -/
def barePathWords : List String := ["super", "self", "crate"]

/-! ## Arguments -/

/-- Whether the trees are one lifetime. -/
def isLifetime : List Tree → Bool
  | [.lifetime _] => true
  | _ => false

/-- The arguments with a comma between any two of them. -/
def joinArguments : List (List Tree × List Tree) → List Tree
  | [] => []
  | [(ts, comma)] => ts ++ comma
  | (ts, _) :: a :: as => ts ++ .sign "," :: joinArguments (a :: as)

/-- The arguments in the order in which they are written: lifetimes come before all others. -/
def argumentTrees (isLifetime : List Tree → Bool) (as : List (List Tree × List Tree)) :
    List Tree :=
  joinArguments ((as.filter fun (ts, _) => isLifetime ts) ++
    as.filter fun (ts, _) => !isLifetime ts)

section

variable (read : Phrase → PhraseReader)

/-- The arguments behind a word with the signs around them. -/
def arguments : PhraseReader :=
  inOrder [optionalSign "::", sign "<",
    return argumentTrees isLifetime (← separated (startsWith ">") (read .argument)), sign ">"]

/-! ## Paths -/

/-- A word of a path with its arguments. -/
def segment (inType : Bool) : PhraseReader := do
  let ts ← peek
  if Tree.startsAnyWord ("try" :: barePathWords) ts then anyWord
  else
    let w ← if Tree.startsWord "Self" ts then anyWord else nameTree
    return w ++ (← ifStarts (startsArguments inType) (arguments read))

/-- A path that starts with the given trees, as far as it goes on. -/
def segments (goesOn : List Tree → Bool) (inType : Bool) (first : List Tree) : PhraseReader :=
  return first ++ (← many goesOn (inOrder [sign "::", segment read inType]))

/-- A path that belongs to no type. -/
def freePath (inType : Bool) : PhraseReader := do
  let first ← inOrder [optionalSign "::", segment read inType]
  segments read continuesPath inType first

/-- A path that is a part of a type or of a trait. -/
def qualifiedPath (inType : Bool) : PhraseReader := do
  let first ← inOrder [sign "<", read (.type true),
    ifStarts (Tree.startsWord "as") (inOrder [word "as", freePath read true]),
    sign ">", sign "::", segment read inType]
  segments read (Tree.startsWith "::") inType first

end

/-- A word that can stand in a path without arguments. -/
def pathWord : PhraseReader := do
  match ← peek with
  | .word w :: rest =>
    if Tree.isPathWord w then
      goTo rest
      return [.word w]
    else nameTree
  | _ => nameTree

/-- Words with `::` between them. -/
def wordPath : PhraseReader :=
  inOrder [optionalSign "::", pathWord,
    many (Tree.startsWith "::") (inOrder [sign "::", pathWord])]

/-! ## Invocations -/

/-- Delimiters with what stands in them, which is not read any further. -/
def delimited : PhraseReader := do
  match ← peek with
  | .group d items :: rest =>
    goTo rest
    return [.group d items]
  | _ => refuse "delimiter"

/-- An invocation behind its path. -/
def invocation (path : List Tree) : PhraseReader :=
  inOrder [return path, sign "!", delimited]

/-- Whether an invocation follows a path. -/
def startsInvocation (path ts : List Tree) : Bool :=
  isPlainPath path && Tree.startsWithBut "!" ["!="] ts

end Phrase

end Metrology.Attribute
