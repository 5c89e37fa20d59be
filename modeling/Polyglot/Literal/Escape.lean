import Polyglot.CharacterName.Basic
import Polyglot.Literal.Number

/-! # Escapes

In a string a backslash may begin an escape, which stands for one character. A text is looked at in
a spelling that has only code points of ASCII; the places that a flaw tells are places in it.
-/

namespace Polyglot.Literal

/-- A code point in ASCII: one beyond it becomes its longest escape. -/
def spelled (c : CodePoint) : Text :=
  if isAscii c then [c]
  else "\\U" ++ Text.padLeft 8 '0' (Text.ofChars (Nat.toDigits 16 c.val))

/-- The escape for a backslash, without the backslash at its front. -/
def spelledBackslash : Text := "u005c"

/-- The spelling of a text in ASCII; `escaped` tells that a backslash stands before it. A backslash
that begins no escape of ASCII is spelled as an escape itself. -/
def spelling (escaped : Bool) : Text → Text
  | [] => if escaped then spelledBackslash else []
  | c :: rest =>
    (if escaped && !isAscii c then spelledBackslash else []) ++ spelled c ++
      spelling (!escaped && c == CodePoint.backslash) rest

/-- The flaw of an escape with a number of hexadecimal digits, given what follows its letter. -/
def hexFlaw? (digits position : Nat) (short : Nat → Nat → EscapeFlaw) (t : Text) :
    Option EscapeFlaw :=
  let run := (t.take digits).takeWhile fun c => c.hexValue?.isSome
  let last := position + 1 + run.length
  if run.length < digits then some (short position last)
  else if 0x110000 ≤ ofDigits 16 (run.filterMap CodePoint.hexValue?) then
    some (.noPoint position last)
  else none

/-- The flaw of an escape with the name of a character, given what follows its letter. -/
def nameFlaw? (position : Nat) (t : Text) : Option EscapeFlaw :=
  if t.head? ≠ some CodePoint.openBrace then some (.noName position (position + 1))
  else
    let name := t.tail.takeWhile (· ≠ CodePoint.closeBrace)
    if name.length = t.tail.length then some (.noName position (position + 1 + t.length))
    else if name.isEmpty then some (.noName position (position + 2))
    else if CharacterName.isKnown name then none
    else some (.unknownName position (position + 3 + name.length))

/-- The flaw of an escape, given its letter and what follows it. -/
def escapeFlaw? (position : Nat) (letter : CodePoint) (rest : Text) : Option EscapeFlaw :=
  if letter = 'x' then hexFlaw? 2 position .shortByte rest
  else if letter = 'u' then hexFlaw? 4 position .shortPoint rest
  else if letter = 'U' then hexFlaw? 8 position .shortLongPoint rest
  else if letter = 'N' then nameFlaw? position rest
  else none

/-- The first flaw of an escape in a text of ASCII; `escaped` tells that the first code point is the
letter of an escape that began one place before. -/
def findEscapeFlaw (escaped : Bool) (position : Nat) : Text → Option EscapeFlaw
  | [] => none
  | c :: rest =>
    if escaped then
      (escapeFlaw? (position - 1) c rest).or (findEscapeFlaw false (position + 1) rest)
    else findEscapeFlaw (c == CodePoint.backslash) (position + 1) rest

/-- The first flaw of an escape in a text. -/
def textFlaw? (t : Text) : Option EscapeFlaw := findEscapeFlaw false 0 (spelling false t)

/-- The first flaw of an escape in a text of bytes. -/
def findByteFlaw (escaped : Bool) (position : Nat) : Text → Option EscapeFlaw
  | [] => none
  | c :: rest =>
    if escaped then
      if c = 'x' ∧ !(rest.length ≥ 2 && (rest.take 2).all fun d => d.hexValue?.isSome) then
        some (.badByte (position - 1))
      else findByteFlaw false (position + 1) rest
    else findByteFlaw (c == CodePoint.backslash) (position + 1) rest

end Polyglot.Literal
