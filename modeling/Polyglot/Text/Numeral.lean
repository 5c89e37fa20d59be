import Polyglot.Text.Basic

/-! # Numerals

Decimal and hexadecimal numerals in ASCII. A decimal numeral has no leading zero, a negative one
begins with a hyphen, and reading the digits of a natural number gives the number back.
-/

namespace Polyglot

namespace Text

/-- The decimal numeral of a natural number. -/
def ofNat (n : Nat) : Text := ofChars (Nat.toDigits 10 n)

/-- The decimal numeral of an integer. -/
def ofInt : Int → Text
  | .ofNat n => ofNat n
  | .negSucc n => "-" ++ ofNat (n + 1)

/-- Fills a text up to a width on the left; a longer text stays. -/
def padLeft (width : Nat) (fill : CodePoint) (t : Text) : Text :=
  List.replicate (width - t.length) fill ++ t

/-- The hexadecimal numeral of a natural number in small letters, with at least `width` digits. -/
def hex (width n : Nat) : Text := padLeft width '0' (ofChars (Nat.toDigits 16 n))

/-- The decimal numeral of a natural number with at least `width` digits. -/
def padded (width n : Nat) : Text := padLeft width '0' (ofNat n)

end Text

namespace CodePoint

/-- The value of a hexadecimal digit in either case. -/
def hexValue? (c : CodePoint) : Option Nat :=
  if isAsciiDigit c then some (c.val - 0x30)
  else if 0x61 ≤ c.val && c.val ≤ 0x66 then some (c.val - 0x61 + 10)
  else if 0x41 ≤ c.val && c.val ≤ 0x46 then some (c.val - 0x41 + 10)
  else none

end CodePoint

/-- The number that digits name in a base, the most significant digit first. -/
def ofDigits (base : Nat) (digits : List Nat) : Nat :=
  digits.foldl (fun value digit => value * base + digit) 0

/-- The number that ASCII digits name. -/
def Text.digitsValue (t : Text) : Nat := ofDigits 10 (t.map fun c => c.val - 0x30)

end Polyglot
