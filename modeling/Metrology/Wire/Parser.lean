import Metrology.Wire.Lexer

/-!
# Documents from tokens

A sequence of tokens is read as one document, broken where the tokens stop being one, with the
tokens that are left over.  After a break nothing is left over, so every list and object around it
stays open.
-/

namespace Metrology.Wire

namespace Document

mutual

/-- The document that starts here. -/
def parse : (fuel : Nat) → List Token → Document × List Token
  | 0, _ => (.broken, [])
  | fuel + 1, ts =>
    match ts with
    | .null :: ts => (.null, ts)
    | .bool b :: ts => (.bool b, ts)
    | .number n :: ts => (.number n, ts)
    | .string s :: ts => (.string s, ts)
    | .unpaired :: ts => (.unpaired, ts)
    | .leftBracket :: .rightBracket :: ts => (.list [] true, ts)
    | .leftBracket :: ts =>
      let (items, closed, ts) := parseItems fuel ts
      (.list items closed, ts)
    | .leftBrace :: .rightBrace :: ts => (.object [] true, ts)
    | .leftBrace :: ts =>
      let (members, closed, ts) := parseMembers fuel ts
      (.object members closed, ts)
    | _ => (.broken, [])

/-- The items from here to the end of the list. -/
def parseItems : (fuel : Nat) → List Token → List Document × Bool × List Token
  | 0, _ => ([], false, [])
  | fuel + 1, ts =>
    let (d, ts) := parse fuel ts
    match ts with
    | .rightBracket :: ts => ([d], true, ts)
    | .comma :: .rightBracket :: _ => ([d], false, [])
    | .comma :: ts =>
      let (ds, closed, ts) := parseItems fuel ts
      (d :: ds, closed, ts)
    | _ => ([d], false, [])

/-- The members from here to the end of the object.  A key that is no string, or that no colon
follows, has a broken value. -/
def parseMembers : (fuel : Nat) → List Token → List (Document × Document) × Bool × List Token
  | 0, _ => ([], false, [])
  | fuel + 1, ts =>
    let (k, ts) := parse fuel ts
    match k.isKey, ts with
    | true, .colon :: ts =>
      let (v, ts) := parse fuel ts
      match ts with
      | .rightBrace :: ts => ([(k, v)], true, ts)
      | .comma :: .rightBrace :: _ => ([(k, v)], false, [])
      | .comma :: ts =>
        let (ms, closed, ts) := parseMembers fuel ts
        ((k, v) :: ms, closed, ts)
      | _ => ([(k, v)], false, [])
    | _, _ => ([(k, .broken)], false, [])

end

/-- The document at the start of a text, and whether nothing but blanks follows it. -/
def ofText (s : String) : Document × Bool :=
  let ts := Token.ofText s
  let (d, rest) := parse (2 * ts.length + 2) ts
  (d, rest.isEmpty)

end Document

end Metrology.Wire
