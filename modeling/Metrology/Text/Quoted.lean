import Metrology.Text.Unprinted

/-!
# Quoted text

A text in double quotes for messages: quotes, backslashes and the usual control characters are
escaped with a backslash, and any other character that does not print by itself is written with its
code point.
-/

namespace Metrology

/-- The characters that are written for one character inside quotes. -/
def quotedChar (c : Char) : List Char :=
  match c with
  | '"' => ['\\', '"']
  | '\\' => ['\\', '\\']
  | '\t' => ['\\', 't']
  | '\n' => ['\\', 'n']
  | '\r' => ['\\', 'r']
  | '\x00' => ['\\', '0']
  | c =>
    if isPrinted c then [c]
    else '\\' :: 'u' :: '\x7b' :: Nat.toDigits 16 c.toNat ++ ['\x7d']

/-- The text between quotation marks, with escapes for what cannot stand there. -/
def quoted (s : String) : String :=
  String.ofList ('"' :: s.toList.flatMap quotedChar ++ ['"'])

end Metrology
