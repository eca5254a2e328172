import Metrology.Attribute.Literal
import Metrology.Attribute.Tree
import Metrology.Text.Blank
import Metrology.Text.Quoted

/-!
# Token trees of a text

Blanks and comments divide tokens; a documentation comment stands for an attribute.  A text whose
delimiters do not match, or that holds a character of no token, has no token trees.
-/

namespace Metrology.Attribute

/-! ## Comments -/

/-- The text of a block comment and what follows it, at a depth of nested comments. -/
def blockComment : (depth : Nat) → (text : List Char) → List Char → Option (List Char × List Char)
  | depth, text, '/' :: '*' :: cs => blockComment (depth + 1) ('*' :: '/' :: text) cs
  | 0, text, '*' :: '/' :: cs => some (text.reverse, cs)
  | depth + 1, text, '*' :: '/' :: cs => blockComment depth ('/' :: '*' :: text) cs
  | depth, text, c :: cs => blockComment depth (c :: text) cs
  | _, _, [] => none

/-- A comment: a plain one, or one that documents what follows it or what is around it. -/
inductive Comment
  | plain
  | outerDoc (text : List Char)
  | innerDoc (text : List Char)

/-- The line comment of a text after its two slashes. -/
def Comment.ofLine : List Char → Comment
  | '/' :: '/' :: _ => plain
  | '/' :: cs => outerDoc cs
  | '!' :: cs => innerDoc cs
  | _ => plain

/-- The block comment of a text. -/
def Comment.ofBlock : List Char → Comment
  | '*' :: '*' :: _ => plain
  | ['*'] => plain
  | '*' :: cs => outerDoc cs
  | '!' :: cs => innerDoc cs
  | _ => plain

/-- Whether every carriage return is part of a line end. -/
def endsLines : List Char → Bool
  | '\r' :: '\n' :: cs => endsLines cs
  | '\r' :: _ => false
  | _ :: cs => endsLines cs
  | [] => true

/-- The attribute that a documentation comment stands for. -/
def Comment.trees? : Comment → Option (List Tree)
  | plain => some []
  | outerDoc text => (doc text).map fun d => [.mark '#' false, d]
  | innerDoc text => (doc text).map fun d => [.mark '#' false, .mark '!' false, d]
where
  doc (text : List Char) : Option Tree :=
    if endsLines text then
      some (.group .bracket
        [.word "doc", .mark '=' false, .literal (quoted (String.ofList text))])
    else none

/-- A line up to its end, and the rest. -/
def takeLine : List Char → List Char × List Char
  | '\r' :: '\n' :: cs => ([], '\r' :: '\n' :: cs)
  | '\n' :: cs => ([], '\n' :: cs)
  | c :: cs => let (line, rest) := takeLine cs; (c :: line, rest)
  | [] => ([], [])

/-! ## Words -/

/-- The words that have no raw form. -/
def neverRaw : List String := ["_", "super", "self", "Self", "crate"]

/-- What follows a word. -/
def skipWord : List Char → Option (List Char)
  | 'r' :: '#' :: cs => do
    let rest ← skipName cs
    if neverRaw.contains (textBefore cs rest) then none else some rest
  | cs => skipName cs

/-- The starts of literals that do not end. -/
def literalStarts : List String :=
  ["r\"", "r#\"", "r##", "b\"", "b'", "br\"", "br#", "c\"", "cr\"", "cr#"]

/-- Whether the text starts like a literal. -/
def startsLiteral (cs : List Char) : Bool := literalStarts.any fun s => s.toList.isPrefixOf cs

/-! ## Tokens -/

/-- Whether the character can be a mark. -/
def isMark (c : Char) : Bool := "~!@#$%^&*-=+|;:,<.>/?'".toList.contains c

/-- Whether the text starts with a comment. -/
def startsComment : List Char → Bool
  | '/' :: '/' :: _ => true
  | '/' :: '*' :: _ => true
  | _ => false

/-- Whether a mark starts here. -/
def startsMark (cs : List Char) : Bool := (cs.head?.map isMark).getD false && !startsComment cs

/-- What is written in place of a literal that has no text. -/
def placeholder : String := "(/*ERROR*/)"

/-- What follows a literal or the placeholder of one. -/
def skipAnyLiteral (cs : List Char) : Option (List Char) :=
  (skipLiteral cs).or
    (if placeholder.toList.isPrefixOf cs then some (cs.drop placeholder.length) else none)

/-- A lifetime, after its apostrophe; it is no literal that lacks its end.  Before a literal the
apostrophe is a mark. -/
def lifetime? (cs : List Char) : Option (Tree × List Char) := do
  let rest ← skipWord cs
  match rest with
  | '\'' :: _ => none
  | '#' :: _ => if "r#".toList.isPrefixOf cs then some (token rest) else none
  | _ => some (token rest)
where
  token (rest : List Char) : Tree × List Char :=
    if (skipLiteral cs).isSome || startsLiteral cs then (.mark '\'' true, cs)
    else (.lifetime ("'" ++ textBefore cs rest), rest)

/-- A literal, a lifetime, a mark or a word. -/
def leaf? (cs : List Char) : Option (Tree × List Char) :=
  match skipAnyLiteral cs, cs with
  | some rest, _ => some (.literal (textBefore cs rest), rest)
  | none, '\'' :: rest => lifetime? rest
  | none, c :: rest =>
    if startsMark cs then some (.mark c (startsMark rest), rest)
    else if startsLiteral cs then none
    else (skipWord cs).map fun rest => (.word (textBefore cs rest), rest)
  | none, [] => none

/-- The delimiter that the character opens. -/
def opening? : Char → Option Delimiter
  | '(' => some .parenthesis
  | '[' => some .bracket
  | '\x7b' => some .brace
  | _ => none

/-- The delimiter that the character closes. -/
def closing? : Char → Option Delimiter
  | ')' => some .parenthesis
  | ']' => some .bracket
  | '\x7d' => some .brace
  | _ => none

/-! ## Nesting -/

/-- The trees of the innermost open group, the last one first, and of the groups around it. -/
structure Nesting where
  trees : List Tree := []
  outer : List (Delimiter × List Tree) := []

namespace Nesting

/-- The nesting with further trees in its innermost group. -/
def add (n : Nesting) (ts : List Tree) : Nesting := { n with trees := ts.reverse ++ n.trees }

/-- The nesting with a group opened in it. -/
def push (n : Nesting) (d : Delimiter) : Nesting := ⟨[], (d, n.trees) :: n.outer⟩

/-- Ends the innermost group, if it has this delimiter. -/
def pop? (n : Nesting) (d : Delimiter) : Option Nesting :=
  match n.outer with
  | (e, trees) :: outer =>
    if d = e then some ⟨.group d n.trees.reverse :: trees, outer⟩ else none
  | [] => none

/-- The trees of a nesting in which no group is open. -/
def finish? (n : Nesting) : Option (List Tree) :=
  if n.outer.isEmpty then some n.trees.reverse else none

end Nesting

/-- Reads the characters into a nesting; every step takes at least one of the `fuel` characters. -/
def nest : (fuel : Nat) → Nesting → List Char → Option Nesting
  | 0, n, _ => some n
  | fuel + 1, n, cs =>
    match cs with
    | [] => some n
    | '/' :: '/' :: rest => do
      let (line, rest) := takeLine rest
      let ts ← (Comment.ofLine line).trees?
      nest fuel (n.add ts) rest
    | '/' :: '*' :: rest => do
      let (text, rest) ← blockComment 0 [] rest
      let ts ← (Comment.ofBlock text).trees?
      nest fuel (n.add ts) rest
    | c :: rest =>
      if isBlank c then nest fuel n rest
      else
        match leaf? cs, opening? c, closing? c with
        | some (t, rest), _, _ => nest fuel (n.add [t]) rest
        | none, some d, _ => nest fuel (n.push d) rest
        | none, none, some d => do
          let n ← n.pop? d
          nest fuel n rest
        | none, none, none => none

/-- A text may start with a mark of its byte order. -/
def dropByteOrderMark : List Char → List Char
  | '\ufeff' :: cs => cs
  | cs => cs

/-- The token trees of a text. -/
def trees? (s : String) : Option (List Tree) := do
  let cs := dropByteOrderMark s.toList
  let n ← nest (cs.length + 1) {} cs
  n.finish?

end Metrology.Attribute
