import Polyglot.Text.Numeral
import Polyglot.Text.Utf8

/-! # Escapes in addresses

What an address cannot hold as it is, is written as the bytes of its encoding, each as a percent
sign and two hexadecimal digits. A percent sign always stays, so that escapes are not escaped again.
Where escapes are read, a percent sign without two digits after it stands for itself.
-/

namespace Polyglot.Escaped

/-- The sign that begins an escape. -/
def mark : CodePoint := '%'

/-- A visible code point of ASCII. -/
def isVisible (c : CodePoint) : Bool := 0x20 < c.val && c.val < 0x7F

/-- A letter or a digit of ASCII. -/
def isAlphanumeric (c : CodePoint) : Bool := c.isAsciiLower || c.isAsciiUpper || c.isAsciiDigit

/-- Holds of what the part for a user keeps. -/
def keepsInUser (c : CodePoint) : Bool :=
  isVisible c && !List.elem c ("\"#<>?`\x7b\x7d/;=@[\\]^|" : Text)

/-- Holds of what a host keeps. -/
def keepsInHost (c : CodePoint) : Bool :=
  isAlphanumeric c || List.elem c ("-._~!$&'()*+,;=\"`\x7b\x7d%|\\" : Text)

/-- Holds of what a path keeps. -/
def keepsInPath (c : CodePoint) : Bool := isVisible c && !List.elem c ("\"#<>?`\x7b\x7d" : Text)

/-- Holds of what a query keeps. -/
def keepsInQuery (c : CodePoint) : Bool := isVisible c && !List.elem c ("\"#<>" : Text)

/-- Holds of what a fragment keeps. -/
def keepsInFragment (c : CodePoint) : Bool := isVisible c && !List.elem c ("\"<>`" : Text)

/-- Holds of what an address that is sent back keeps. -/
def keepsInLocation (c : CodePoint) : Bool :=
  isAlphanumeric c || List.elem c ("_.-~:/%#?=@[]!$&'()*+,;" : Text)

/-- The escape of a byte. -/
def escape (b : UInt8) : Text :=
  mark :: Text.padLeft 2 '0' (Text.ofChars ((Nat.toDigits 16 b.toNat).map Char.toUpper))

/-- Writes escapes for everything that is not kept. -/
def write (keeps : CodePoint → Bool) (t : Text) : Text :=
  t.flatMap fun c => if keeps c then [c] else (Utf8.encodePoint c).flatMap escape

/-- The byte of an escape, given what follows its percent sign. -/
def byte? : Text → Option UInt8
  | a :: b :: _ => do
    return UInt8.ofNat ((← a.hexValue?) * 16 + (← b.hexValue?))
  | _ => none

/-- The bytes of a text in which escapes stand for bytes; the first `skip` code points belong to an
escape that has been read. -/
def bytesFrom (skip : Nat) : Text → Bytes
  | [] => []
  | c :: rest =>
    match skip with
    | skip + 1 => bytesFrom skip rest
    | 0 =>
      match if c = mark then byte? rest else none with
      | some b => b :: bytesFrom 2 rest
      | none => Utf8.encodePoint c ++ bytesFrom 0 rest

/-- Reads the escapes of a text. -/
def read (t : Text) : Text := Utf8.decodeLenient (bytesFrom 0 t)

end Polyglot.Escaped
