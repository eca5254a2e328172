import Metrology.Attribute.Pattern

/-!
# Expressions

An expression is a chain of operands and signs; behind an operand stand calls, members and indices.
The chain ends where no sign follows that can join another operand.
-/

namespace Metrology.Attribute

namespace Phrase

open Metrology.Attribute.Reader

/-! ## Signs between operands -/

/-- The signs that change a value and assign it. -/
def assignments : List String := ["+=", "-=", "*=", "/=", "%=", "^=", "&=", "|=", "<<=", ">>="]

/-- The signs that connect conditions. -/
def connectives : List String := ["&&", "||"]

/-- The signs that shift bits. -/
def shifts : List String := ["<<", ">>"]

/-- The signs that compare values. -/
def comparisons : List String := ["==", "<=", "!=", ">=", "<", ">"]

/-- The signs of arithmetic and of bits. -/
def arithmetic : List String := ["+", "-", "*", "/", "%", "^", "&", "|"]

/-- How much of a chain a phrase takes: all of it, what can be the end of a range, or what can be
matched with a pattern.  Each of them takes less than the ones before it. -/
inductive Extent
  | all
  | rangeEnd
  | matched
  deriving DecidableEq, Repr

/-- Whether a phrase of the extent takes the sign. -/
def Extent.takes (e : Extent) (s : String) : Bool :=
  match e with
  | all => true
  | rangeEnd => !assignments.contains s
  | matched => !assignments.contains s && !connectives.contains s

/-- The sign that assigns the value behind it, and what follows. -/
def assignment? (ts : List Tree) : Option (String × List Tree) :=
  if Tree.startsWith "=>" ts then none else (Tree.dropSign ['='] ts).map fun rest => ("=", rest)

/-- The sign between two operands; of two that fit, the longer one. -/
def operator? (e : Extent) (ts : List Tree) : Option (String × List Tree) :=
  match Tree.takeSign? (assignments ++ connectives ++ shifts ++ comparisons ++ arithmetic) ts with
  | some (s, rest) => if e.takes s then some (s, rest) else none
  | none => if e = .all then assignment? ts else none

/-- Whether a comparison is still open behind the sign. -/
def comparisonAfter (compared : Bool) (s : String) : Bool :=
  comparisons.contains s || (compared && (shifts ++ arithmetic).contains s)

/-- The signs before which the end of a range can be missing. -/
def rangeStops : List String :=
  [",", ";", "?", "=", "+", "/", "%", "^", ">", "<=", "!=", "-=", "*=", "&=", "|=", "<<="]

/-- Whether a range has no end. -/
def endsRange (braces : Bool) (ts : List Tree) : Bool :=
  ts.isEmpty || Tree.startsWord "as" ts || (!braces && Tree.startsGroup .brace ts) ||
    Tree.startsWithBut "." [".."] ts || rangeStops.any fun s => Tree.startsWith s ts

/-- What cannot follow a cast. -/
def castFollower? (ts : List Tree) : Option String :=
  match ts with
  | .group .parenthesis _ :: _ => some "a function call"
  | .group .bracket _ :: _ => some "indexing"
  | .mark '?' _ :: _ => some "`?`"
  | .mark '.' _ :: rest => if Tree.startsWith ".." ts then none else some (access rest)
  | _ => none
where
  access : List Tree → String
    | .word "await" :: _ => "`.await`"
    | .word w :: ts =>
      if Tree.isName w && (Tree.startsGroup .parenthesis ts || Tree.startsWith "::" ts) then
        "a method call"
      else "a field access"
    | _ => "a field access"

/-- Whether an expression starts here. -/
def startsExpression (ts : List Tree) : Bool :=
  match ts with
  | .word w :: _ => w != "as"
  | .group _ _ :: _ => true
  | .literal _ :: _ => true
  | .lifetime _ :: _ => true
  | _ =>
    Tree.startsWithBut "!" ["!="] ts || Tree.startsWithBut "-" ["-=", "->"] ts ||
      Tree.startsWithBut "*" ["*="] ts || Tree.startsWithBut "|" ["|="] ts ||
      Tree.startsWithBut "&" ["&="] ts || Tree.startsWithBut "<" ["<=", "<<="] ts ||
      ["..", "::", "#"].any fun s => Tree.startsWith s ts

/-- An expression up to here: whether a comparison is open in it, and whether it is a range. -/
structure Chain where
  trees : List Tree
  compared : Bool := false
  isRange : Bool := false

section

variable (read : Phrase → PhraseReader)

/-! ## Members -/

/-- A member, with the arguments and the call that it has; the sign before it has been read. -/
def access : PhraseReader := do
  if Tree.startsWord "await" (← peek) then anyWord
  else
    let m ← member
    if isNamed m && (← startsWith "::") then
      return m ++ (← inOrder [arguments read,
        group .parenthesis (commaList (read (.expression true)))])
    else return m

/-- What stands behind the sign of a member; two places may look like one number. -/
def accessChain : PhraseReader := do
  match ← peek with
  | .literal s :: rest =>
    if isFloatText s then
      let places ← placesOf s.length s.toList
      goTo rest
      if s.endsWith "." then return places ++ (← access read) else return places
    else access read
  | _ => access read

/-- A call, an index, a member or a question mark. -/
def trailer : PhraseReader := do
  match ← peek with
  | .group .parenthesis _ :: _ => group .parenthesis (commaList (read (.expression true)))
  | .group .bracket _ :: _ => group .bracket (read (.expression true))
  | .mark '?' _ :: _ => sign "?"
  | _ => inOrder [sign ".", accessChain read]

/-- Whether a member or a question mark follows. -/
def continuesValue (ts : List Tree) : Bool :=
  Tree.startsWith "?" ts || Tree.startsWithBut "." [".."] ts

/-- Whether a call, an index, a member or a question mark follows. -/
def startsTrailer (ts : List Tree) : Bool :=
  Tree.startsGroup .parenthesis ts || Tree.startsGroup .bracket ts || continuesValue ts

/-- An operand with all that stands behind it. -/
def trailers (first : List Tree) : PhraseReader :=
  return first ++ (← many startsTrailer (trailer read))

/-! ## Chains -/

/-- A sign with its operand, a range or a cast behind an expression. -/
def link (braces : Bool) (extent : Extent) (range : PhraseReader) (e : Chain) :
    Reader (Step Chain) := do
  if e.isRange then return .last e
  let ts ← peek
  match operator? extent ts with
  | some (s, rest) =>
    if e.compared && comparisons.contains s then throw .chainedComparison
    goTo rest
    let right ← read (.operand braces)
    return .next ⟨e.trees ++ .sign s :: right, comparisonAfter e.compared s, false⟩
  | none =>
    if extent = .all && Tree.startsWith ".." ts then
      return .next ⟨e.trees ++ (← range), false, true⟩
    match ← optionalWord "as" with
    | [] => return .last e
    | cast =>
      let type ← read (.type false)
      match castFollower? (← peek) with
      | some what => throw (.afterCast what)
      | none => return .next ⟨e.trees ++ cast ++ type, e.compared, false⟩

/-- An operand with the links that a part of an expression takes. -/
def part (braces : Bool) (extent : Extent) : PhraseReader := do
  let first ← read (.operand braces)
  let e ← steps (link read braces extent (return [])) ⟨first, false, false⟩
  return e.trees

/-- A range from its sign on. -/
def range (braces : Bool) : PhraseReader := do
  if ← startsWith "..=" then inOrder [sign "..=", part read braces .rangeEnd]
  else if ← startsWith "..." then refuse "`..` or `..=`"
  else
    let dots ← sign ".."
    if endsRange braces (← peek) then return dots
    else return dots ++ (← part read braces .rangeEnd)

/-- The links behind an operand. -/
def chain (braces : Bool) (e : Chain) : PhraseReader := do
  let e ← steps (link read braces .all (range read braces)) e
  return e.trees

/-- An expression, with all that stands behind its first operand. -/
def expressionReader (braces : Bool) : PhraseReader := do
  let isRange ← startsWith ".."
  let first ← read (.operand braces)
  chain read braces ⟨first, false, isRange⟩

end

end Phrase

end Metrology.Attribute
