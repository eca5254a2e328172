import Metrology.Text.HexDigit
import Metrology.Wire.Document

/-!
# Tokens of wire texts

A text is cut into punctuation, literals, numerals and strings, with blanks between them.  The
first place where no token starts becomes the token `bad`, and nothing follows it.  A string with
half of a surrogate pair is a token, but stands for no text.
-/

namespace Metrology.Wire

/-- A piece of the text that no blank divides. -/
inductive Token
  | leftBrace | rightBrace | leftBracket | rightBracket | comma | colon
  | null
  | bool (b : Bool)
  | number (n : Numeral)
  | string (s : String)
  | unpaired
  | bad

namespace Token

/-! ## Numerals -/

/-- The number of a sequence of decimal digits. -/
def digitsValue (ds : List Char) : Nat := ds.foldl (fun n c => 10 * n + (c.toNat - '0'.toNat)) 0

/-- A part of a numeral that needs at least one digit: the digits and the rest. -/
def scanDigits (cs : List Char) : Option (List Char × List Char) :=
  match cs.takeWhile Char.isDigit with
  | [] => none
  | ds => some (ds, cs.dropWhile Char.isDigit)

/-- The whole part, which has no leading zero. -/
def scanWhole (cs : List Char) : Option (List Char × List Char) := do
  let (ds, rest) ← scanDigits cs
  match ds with
  | '0' :: _ :: _ => none
  | _ => return (ds, rest)

/-- The digits behind a point, if there is a point. -/
def scanFraction : List Char → Option (Option (List Char) × List Char)
  | '.' :: cs => do
    let (ds, rest) ← scanDigits cs
    return (some ds, rest)
  | cs => some (none, cs)

/-- The sign of an exponent, true for minus, and the rest. -/
def scanSign : List Char → Bool × List Char
  | '-' :: cs => (true, cs)
  | '+' :: cs => (false, cs)
  | cs => (false, cs)

/-- The exponent, if there is one. -/
def scanExponent : List Char → Option (Option Int × List Char)
  | c :: cs =>
    if c = 'e' ∨ c = 'E' then do
      let (negative, cs) := scanSign cs
      let (ds, rest) ← scanDigits cs
      let e : Int := digitsValue ds
      return (some (if negative then -e else e), rest)
    else some (none, c :: cs)
  | [] => some (none, [])

/-- The numeral behind its sign, and the rest. -/
def scanNumeral (negative : Bool) (cs : List Char) : Option (Numeral × List Char) := do
  let (whole, cs) ← scanWhole cs
  let (fraction, cs) ← scanFraction cs
  let (exponent, cs) ← scanExponent cs
  let places := fraction.getD []
  return (⟨negative, digitsValue (whole ++ places), exponent.getD 0 - places.length,
    fraction.isNone && exponent.isNone⟩, cs)

/-! ## Strings -/

/-- The number of four hexadecimal digits. -/
def hex4? (a b c d : Char) : Option Nat := do
  return ((← hexDigit? a) * 16 + (← hexDigit? b)) * 256 + (← hexDigit? c) * 16 + (← hexDigit? d)

/-- Whether the code unit is the first half of a surrogate pair. -/
def isHighSurrogate (n : Nat) : Bool := 0xd800 ≤ n && n < 0xdc00

/-- Whether the code unit is the second half of a surrogate pair. -/
def isLowSurrogate (n : Nat) : Bool := 0xdc00 ≤ n && n < 0xe000

/-- The character behind a backslash, other than a code point. -/
def escaped? : Char → Option Char
  | '"' => some '"'
  | '\\' => some '\\'
  | '/' => some '/'
  | 'b' => some '\x08'
  | 'f' => some '\x0c'
  | 'n' => some '\n'
  | 'r' => some '\r'
  | 't' => some '\t'
  | _ => none

/-- A string as it is scanned: the characters so far, the last one first, whether every surrogate
so far has its partner, and a high surrogate that waits for one. -/
structure StringScan where
  reversed : List Char := []
  paired : Bool := true
  pending : Option Nat := none

namespace StringScan

/-- The next character; it is no partner for a waiting surrogate. -/
def push (s : StringScan) (c : Char) : StringScan :=
  ⟨c :: s.reversed, s.paired && s.pending.isNone, none⟩

/-- The next code unit from an escape. -/
def pushUnit (s : StringScan) (n : Nat) : StringScan :=
  match s.pending with
  | some high =>
    if isLowSurrogate n then
      ⟨Char.ofNat (0x10000 + (high - 0xd800) * 0x400 + (n - 0xdc00)) :: s.reversed, s.paired, none⟩
    else ⟨s.reversed, false, none⟩
  | none =>
    if isHighSurrogate n then { s with pending := some n }
    else if isLowSurrogate n then { s with paired := false }
    else s.push (Char.ofNat n)

/-- The string at its closing quote, if every surrogate found its partner. -/
def token (s : StringScan) : Token :=
  if s.paired && s.pending.isNone then .string (String.ofList s.reversed.reverse) else .unpaired

end StringScan

/-- The string up to its closing quote. -/
def scanString (s : StringScan) : List Char → Option (Token × List Char)
  | '"' :: cs => some (s.token, cs)
  | '\\' :: 'u' :: a :: b :: c :: d :: cs => do
    let n ← hex4? a b c d
    scanString (s.pushUnit n) cs
  | '\\' :: c :: cs => do
    let c ← escaped? c
    scanString (s.push c) cs
  | c :: cs => if c.toNat < 0x20 then none else scanString (s.push c) cs
  | [] => none

/-! ## Texts -/

/-- Whether the character separates tokens and means nothing else. -/
def isBlank (c : Char) : Bool := c == ' ' || c == '\t' || c == '\n' || c == '\r'

/-- The first token and what follows it, unless no token starts here. -/
def scan? : List Char → Option (Token × List Char)
  | '\x7b' :: cs => some (.leftBrace, cs)
  | '\x7d' :: cs => some (.rightBrace, cs)
  | '[' :: cs => some (.leftBracket, cs)
  | ']' :: cs => some (.rightBracket, cs)
  | ',' :: cs => some (.comma, cs)
  | ':' :: cs => some (.colon, cs)
  | 'n' :: 'u' :: 'l' :: 'l' :: cs => some (.null, cs)
  | 't' :: 'r' :: 'u' :: 'e' :: cs => some (.bool true, cs)
  | 'f' :: 'a' :: 'l' :: 's' :: 'e' :: cs => some (.bool false, cs)
  | '"' :: cs => scanString {} cs
  | '-' :: cs => (scanNumeral true cs).map fun (n, rest) => (.number n, rest)
  | cs => (scanNumeral false cs).map fun (n, rest) => (.number n, rest)

/-- The tokens of a text; each takes at least one of the `fuel` characters. -/
def scanAll : (fuel : Nat) → List Char → List Token
  | 0, _ => []
  | fuel + 1, cs =>
    match cs.dropWhile isBlank with
    | [] => []
    | c :: cs =>
      match scan? (c :: cs) with
      | some (t, rest) => t :: scanAll fuel rest
      | none => [.bad]

/-- The tokens of a text. -/
def ofText (s : String) : List Token := scanAll (s.toList.length + 1) s.toList

end Token

end Metrology.Wire
