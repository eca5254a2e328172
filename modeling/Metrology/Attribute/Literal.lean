import Metrology.Text.HexDigit
import Metrology.Text.NameChar

/-!
# Literals

The literals that a text can start with: quoted texts, bytes and zero-terminated texts, raw or with
escapes, single characters and bytes, and numbers.  A scanner gives what follows its literal; the
literal itself is what lies before that, as it was written.  A name that follows at once belongs to
the literal as a suffix.
-/

namespace Metrology.Attribute

/-! ## Names -/

/-- Whether a word can begin with the character. -/
def isWordStart (c : Char) : Bool := isNameStart c || c == '_'

/-- What follows a name. -/
def skipName : List Char → Option (List Char)
  | c :: cs => if isWordStart c then some (cs.dropWhile isNameContinue) else none
  | [] => none

/-- What follows a suffix, if there is one. -/
def skipSuffix (cs : List Char) : List Char := (skipName cs).getD cs

/-! ## Escapes -/

/-- What a quoted literal stands for. -/
inductive LiteralKind
  | text
  | bytes
  /-- Text that a zero byte ends. -/
  | terminated
  deriving DecidableEq, Repr

namespace LiteralKind

/-- Whether a character can stand for itself. -/
def allows : LiteralKind → Char → Bool
  | text, _ => true
  | bytes, c => c.toNat < 0x80
  | terminated, c => c != '\x00'

/-- Whether a character can stand for another one behind a backslash. -/
def allowsEscape (k : LiteralKind) (c : Char) : Bool :=
  "nrt\\'\"".toList.contains c || (c == '0' && k != .terminated)

/-- Whether two hexadecimal digits can stand for a character; those of a text are ASCII. -/
def allowsHex : LiteralKind → (high low : Nat) → Bool
  | text, high, _ => high < 8
  | bytes, _, _ => true
  | terminated, high, low => high != 0 || low != 0

/-- Whether a code point in braces can stand for a character. -/
def allowsCodePoint : LiteralKind → Nat → Bool
  | text, n => n.isValidChar
  | bytes, _ => false
  | terminated, n => n.isValidChar && n != 0

end LiteralKind

/-- The code point of one to six digits up to the closing brace, of which the first `count` have
the given value, and what follows.  Underscores divide digits. -/
def codePoint? : (count value : Nat) → List Char → Option (Nat × List Char)
  | count, value, c :: cs =>
    if c = '\x7d' ∧ 0 < count then some (value, cs)
    else if c = '_' ∧ 0 < count then codePoint? count value cs
    else
      match hexDigit? c with
      | some d => if count < 6 then codePoint? (count + 1) (16 * value + d) cs else none
      | none => none
  | _, _, [] => none

/-- What follows an escape, after its backslash. -/
def skipEscape (k : LiteralKind) : List Char → Option (List Char)
  | 'x' :: a :: b :: cs => do
    let high ← hexDigit? a
    let low ← hexDigit? b
    if k.allowsHex high low then some cs else none
  | 'u' :: '\x7b' :: cs => do
    let (n, cs) ← codePoint? 0 0 cs
    if k.allowsCodePoint n then some cs else none
  | c :: cs => if k.allowsEscape c then some cs else none
  | [] => none

/-- What follows the blanks after a backslash at the end of a line. -/
def skipContinuation : List Char → Option (List Char)
  | '\r' :: '\n' :: cs => skipContinuation cs
  | '\r' :: _ => none
  | c :: cs => if c = ' ' ∨ c = '\t' ∨ c = '\n' then skipContinuation cs else some (c :: cs)
  | [] => none

/-! ## Quoted literals -/

/-- What follows the closing quote; every step takes at least one of the `fuel` characters. -/
def skipQuoted (k : LiteralKind) : (fuel : Nat) → List Char → Option (List Char)
  | 0, _ => none
  | fuel + 1, cs =>
    match cs with
    | '"' :: cs => some cs
    | '\r' :: '\n' :: cs => skipQuoted k fuel cs
    | '\r' :: _ => none
    | '\\' :: c :: cs =>
      if c = '\n' ∨ c = '\r' then (skipContinuation (c :: cs)).bind (skipQuoted k fuel)
      else (skipEscape k (c :: cs)).bind (skipQuoted k fuel)
    | c :: cs => if k.allows c then skipQuoted k fuel cs else none
    | [] => none

/-- What follows a quote with the given hashes. -/
def skipRaw (k : LiteralKind) (hashes : List Char) : List Char → Option (List Char)
  | '\r' :: '\n' :: cs => skipRaw k hashes cs
  | '\r' :: _ => none
  | c :: cs =>
    if c = '"' ∧ hashes.isPrefixOf cs then some (cs.drop hashes.length)
    else if k.allows c then skipRaw k hashes cs
    else none
  | [] => none

/-- The most hashes that a raw literal can have. -/
def hashLimit : Nat := 255

/-- What follows a raw literal, after its letters. -/
def skipHashed (k : LiteralKind) (cs : List Char) : Option (List Char) :=
  let hashes := cs.takeWhile (· == '#')
  match cs.drop hashes.length with
  | '"' :: rest => if hashes.length ≤ hashLimit then skipRaw k hashes rest else none
  | _ => none

/-- What follows a literal between quotation marks, which may be raw. -/
def skipQuotedLiteral : List Char → Option (List Char)
  | '"' :: cs => skipQuoted .text cs.length cs
  | 'r' :: cs => skipHashed .text cs
  | 'b' :: '"' :: cs => skipQuoted .bytes cs.length cs
  | 'b' :: 'r' :: cs => skipHashed .bytes cs
  | 'c' :: '"' :: cs => skipQuoted .terminated cs.length cs
  | 'c' :: 'r' :: cs => skipHashed .terminated cs
  | _ => none

/-- What follows an apostrophe. -/
def skipApostrophe : List Char → Option (List Char)
  | '\'' :: cs => some cs
  | _ => none

/-- What follows a single character or byte. -/
def skipCharacter : List Char → Option (List Char)
  | '\'' :: '\\' :: cs => (skipEscape .text cs).bind skipApostrophe
  | '\'' :: _ :: cs => skipApostrophe cs
  | 'b' :: '\'' :: '\\' :: cs => (skipEscape .bytes cs).bind skipApostrophe
  | 'b' :: '\'' :: c :: cs => if LiteralKind.bytes.allows c then skipApostrophe cs else none
  | _ => none

/-! ## Numbers -/

/-- What follows decimal digits and underscores. -/
def skipDigits (cs : List Char) : List Char := cs.dropWhile fun c => c.isDigit || c == '_'

/-- What follows an exponent, after its letter; it needs a digit, and a sign comes before it. -/
def skipExponent : (signed valued : Bool) → List Char → Option (List Char)
  | signed, valued, c :: cs =>
    if c.isDigit then skipExponent signed true cs
    else if c = '_' then skipExponent signed valued cs
    else if valued then some (c :: cs)
    else if (c = '+' ∨ c = '-') ∧ !signed then skipExponent true false cs
    else none
  | _, valued, [] => if valued then some [] else none

/-- What follows the digits of a number with a point or an exponent.  No name and no second point
follow the point; an exponent without digits is none. -/
def skipFloat (cs : List Char) : Option (List Char) :=
  match skipDigits cs with
  | '.' :: places =>
    if (places.head?.map fun c => c == '.' || isWordStart c).getD false then none
    else
      match skipDigits places with
      | c :: rest =>
        if c = 'e' ∨ c = 'E' then some ((skipExponent false false rest).getD (c :: rest))
        else some (c :: rest)
      | [] => some []
  | c :: rest => if c = 'e' ∨ c = 'E' then skipExponent false false rest else none
  | [] => none

/-- What follows the digits of an integer in a base; a decimal digit beyond the base is a fault. -/
def skipInteger (base : Nat) : (empty : Bool) → List Char → Option (List Char)
  | empty, c :: cs =>
    if c = '_' then skipInteger base empty cs
    else
      match hexDigit? c with
      | some d =>
        if d < base then skipInteger base false cs
        else if c.isDigit || empty then none
        else some (c :: cs)
      | none => if empty then none else some (c :: cs)
  | empty, [] => if empty then none else some []

/-- What follows an integer, which may name its base in front. -/
def skipPrefixedInteger : List Char → Option (List Char)
  | '0' :: 'x' :: cs => skipInteger 16 true cs
  | '0' :: 'o' :: cs => skipInteger 8 true cs
  | '0' :: 'b' :: cs => skipInteger 2 true cs
  | cs => skipInteger 10 true cs

/-- What follows the suffix of a number, unless the number runs on. -/
def endNumber (cs : List Char) : Option (List Char) :=
  let rest := skipSuffix cs
  if (rest.head?.map isNameContinue).getD false then none else some rest

/-- What follows a number. -/
def skipNumber (cs : List Char) : Option (List Char) :=
  if (cs.head?.map Char.isDigit).getD false then
    ((skipFloat cs).bind endNumber).or ((skipPrefixedInteger cs).bind endNumber)
  else none

/-! ## All literals -/

/-- What follows a literal with its suffix. -/
def skipLiteral (cs : List Char) : Option (List Char) :=
  (((skipQuotedLiteral cs).or (skipCharacter cs)).map skipSuffix).or (skipNumber cs)

/-- The text before what follows. -/
def textBefore (cs rest : List Char) : String := String.ofList (cs.take (cs.length - rest.length))

end Metrology.Attribute
