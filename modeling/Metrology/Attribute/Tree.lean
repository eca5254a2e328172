/-!
# Token trees

A declaration is read as a list of token trees: words, literals, lifetimes, marks and groups in
delimiters.  A mark is a single character; it is joint when another mark follows at once, and marks
that belong together are a sign.  Trees are written with one blank between them, except after a
joint mark and inside round and square delimiters.
-/

namespace Metrology.Attribute

/-- The three pairs of delimiters. -/
inductive Delimiter
  | parenthesis | brace | bracket
  deriving DecidableEq

/-- A token tree. -/
inductive Tree
  | word (s : String)
  | literal (s : String)
  | lifetime (s : String)
  | mark (c : Char) (joint : Bool)
  | sign (s : String)
  | group (d : Delimiter) (items : List Tree)

namespace Tree

/-- Whether another mark follows the tree at once. -/
def isJoint : Tree → Bool
  | mark _ joint => joint
  | _ => false

mutual

/-- The text of the tree. -/
def text : Tree → String
  | word s => s
  | literal s => s
  | lifetime s => s
  | mark c _ => String.singleton c
  | sign s => s
  | group .parenthesis ts => "(" ++ textAll ts ++ ")"
  | group .bracket ts => "[" ++ textAll ts ++ "]"
  | group .brace [] => "\x7b \x7d"
  | group .brace (t :: ts) => "\x7b " ++ textAll (t :: ts) ++ " \x7d"

/-- The texts of the trees with blanks between them. -/
def textAll : List Tree → String
  | [] => ""
  | [t] => t.text
  | t :: u :: ts => t.text ++ (if t.isJoint then "" else " ") ++ textAll (u :: ts)

end

mutual

/-- How many trees there are, inside and out. -/
def size : Tree → Nat
  | group _ ts => sizeAll ts + 1
  | _ => 1

/-- How many trees there are in a list, inside and out. -/
def sizeAll : List Tree → Nat
  | [] => 0
  | t :: ts => t.size + sizeAll ts

end

/-! ## Words -/

/-- The words that are not names. -/
def keywords : List String :=
  ["_", "abstract", "as", "async", "await", "become", "box", "break", "const", "continue", "crate",
    "do", "dyn", "else", "enum", "extern", "false", "final", "fn", "for", "if", "impl", "in", "let",
    "loop", "macro", "match", "mod", "move", "mut", "override", "priv", "pub", "ref", "return",
    "Self", "self", "static", "struct", "super", "trait", "true", "try", "type", "typeof", "unsafe",
    "unsized", "use", "virtual", "where", "while", "yield"]

/-- Whether the word can be a name. -/
def isName (s : String) : Bool := !keywords.contains s

/-- The words that can stand in a path. -/
def isPathWord (s : String) : Bool := isName s || ["super", "self", "Self", "crate"].contains s

/-! ## Signs -/

/-- What follows the sign, if the trees start with it. -/
def dropSign : List Char → List Tree → Option (List Tree)
  | [], _ => none
  | [c], .mark d _ :: ts => if c = d then some ts else none
  | c :: cs, .mark d true :: ts => if c = d then dropSign cs ts else none
  | _ :: _, _ => none

/-- The first sign of the list that the trees start with, and what follows it. -/
def takeSign? (signs : List String) (ts : List Tree) : Option (String × List Tree) :=
  signs.findSome? fun s => (dropSign s.toList ts).map fun rest => (s, rest)

/-- Whether the trees start with the sign. -/
def startsWith (s : String) (ts : List Tree) : Bool := (dropSign s.toList ts).isSome

/-- Whether the trees start with the first sign and not with a longer one of the list. -/
def startsWithBut (s : String) (longer : List String) (ts : List Tree) : Bool :=
  startsWith s ts && !longer.any fun l => startsWith l ts

/-- Whether the trees start with a group of the delimiter. -/
def startsGroup (d : Delimiter) : List Tree → Bool
  | group e _ :: _ => d = e
  | _ => false

/-- Whether the trees start with a lifetime. -/
def startsLifetime : List Tree → Bool
  | lifetime _ :: _ => true
  | _ => false

/-- Whether the trees start with one of the words. -/
def startsAnyWord (ws : List String) : List Tree → Bool
  | word w :: _ => ws.contains w
  | _ => false

/-- Whether the trees start with the word. -/
def startsWord (w : String) : List Tree → Bool := startsAnyWord [w]

/-- Whether the trees start with a name. -/
def startsName : List Tree → Bool
  | word w :: _ => isName w
  | _ => false

end Tree

end Metrology.Attribute
