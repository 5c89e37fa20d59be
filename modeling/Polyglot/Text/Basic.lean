/-! # Code points and text

A text is a finite sequence of code points. A surrogate may stand alone, since a JSON escape can
name one; everything else is a scalar value, that is, a `Char`. Lengths and cuts count code points.
-/

namespace Polyglot

/-- A number below `0x110000`. It includes the surrogates, which are no `Char`. -/
abbrev CodePoint := Fin 0x110000

/-- A sequence of code points. -/
abbrev Text := List CodePoint

namespace CodePoint

/-- There are code points, so that numerals stand for them. -/
instance : @NeZero Nat Zero.ofOfNat0 0x110000 := ⟨by decide⟩

/-- The code point of a scalar value. -/
def ofChar (c : Char) : CodePoint :=
  ⟨c.toNat, by
    have valid : Nat.isValidChar c.toNat := c.valid
    unfold Nat.isValidChar at valid
    omega⟩

instance : Coe Char CodePoint := ⟨ofChar⟩

/-- The code point with a given number; a number out of range gives the replacement character. -/
def ofNat (n : Nat) : CodePoint :=
  if h : n < 0x110000 then ⟨n, h⟩ else 0xFFFD

/-- The mark at both ends of a JSON string. -/
def quotationMark : CodePoint := 0x22

/-- The single quotation mark of ASCII. -/
def apostrophe : CodePoint := 0x27

/-- The sign that opens an escape. -/
def backslash : CodePoint := 0x5C

/-- The sign that ends a line. -/
def lineFeed : CodePoint := 0x0A

/-- The sign that ends a line alone or together with a line feed after it. -/
def carriageReturn : CodePoint := 0x0D

/-- The horizontal tabulation. -/
def tab : CodePoint := 0x09

/-- The sign that opens a JSON object. -/
def openBrace : CodePoint := 0x7B

/-- The sign that closes a JSON object. -/
def closeBrace : CodePoint := 0x7D

/-- The sign that opens a JSON array. -/
def openBracket : CodePoint := 0x5B

/-- The sign that closes a JSON array. -/
def closeBracket : CodePoint := 0x5D

/-- The mark that stands for bytes that encode nothing. -/
def replacement : CodePoint := 0xFFFD

/-- The mark that may open a file; it is no blank. -/
def byteOrderMark : CodePoint := 0xFEFF

/-- The first half of a surrogate pair. -/
def isHighSurrogate (c : CodePoint) : Bool := 0xD800 ≤ c.val && c.val < 0xDC00

/-- The second half of a surrogate pair. -/
def isLowSurrogate (c : CodePoint) : Bool := 0xDC00 ≤ c.val && c.val < 0xE000

/-- Either half of a surrogate pair. -/
def isSurrogate (c : CodePoint) : Bool := 0xD800 ≤ c.val && c.val < 0xE000

/-- The code point that a surrogate pair names. -/
def ofPair (high low : CodePoint) : CodePoint :=
  ofNat (0x10000 + (high.val - 0xD800) * 0x400 + (low.val - 0xDC00))

/-- Holds of a code point in one of some ranges, which include both ends. -/
def isWithin (ranges : List (Nat × Nat)) (c : CodePoint) : Bool :=
  ranges.any fun (low, high) => low ≤ c.val && c.val ≤ high

/-- An ASCII digit. -/
def isAsciiDigit (c : CodePoint) : Bool := 0x30 ≤ c.val && c.val ≤ 0x39

/-- An ASCII small letter. -/
def isAsciiLower (c : CodePoint) : Bool := 0x61 ≤ c.val && c.val ≤ 0x7A

/-- An ASCII capital letter. -/
def isAsciiUpper (c : CodePoint) : Bool := 0x41 ≤ c.val && c.val ≤ 0x5A

/-- Turns an ASCII capital into its small letter and keeps everything else. -/
def asciiLower (c : CodePoint) : CodePoint := if isAsciiUpper c then ofNat (c.val + 32) else c

/-- Turns an ASCII small letter into its capital and keeps everything else. -/
def asciiUpper (c : CodePoint) : CodePoint := if isAsciiLower c then ofNat (c.val - 32) else c

/-- The scalar value of a code point; a surrogate has none. -/
def toChar? (c : CodePoint) : Option Char :=
  if h : Nat.isValidChar c.val then some (Char.ofNatAux c.val h) else none

end CodePoint

namespace Text

/-- Comparing two texts decides whether they are equal. -/
instance : LawfulBEq Text := inferInstance

/-- The text of a list of scalar values. -/
def ofChars (cs : List Char) : Text := cs.map CodePoint.ofChar

/-- The text of a string, which holds no surrogates. -/
def ofString (s : String) : Text := ofChars s.toList

instance : Coe String Text := ⟨ofString⟩

/-- The string of a text; a surrogate that stands alone becomes the replacement character. -/
def toString (t : Text) : String :=
  String.ofList (t.map fun c => (CodePoint.toChar? c).getD '\uFFFD')

/-- Joins texts with a separator between neighbours. -/
def join (separator : Text) (parts : List Text) : Text := (parts.intersperse separator).flatten

/-- Cuts a text at every occurrence of one code point; `n` occurrences give `n + 1` parts. -/
def cutAt (separator : CodePoint) (t : Text) : List Text := t.splitOn separator

/-- Removes the blanks that a given test admits from both ends. -/
def trim (blank : CodePoint → Bool) (t : Text) : Text :=
  ((t.dropWhile blank).reverse.dropWhile blank).reverse

/-- The ASCII letters of a text in small form; other code points stay. -/
def asciiLower (t : Text) : Text := t.map CodePoint.asciiLower

/-- The size of a text whose code points have sizes of their own. -/
def measure (size : CodePoint → Nat) (t : Text) : Nat := t.foldl (fun n c => n + size c) 0

end Text

/-- What a file holds. -/
abbrev Bytes := List UInt8

end Polyglot
