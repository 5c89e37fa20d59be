import Polyglot.Text.Basic

/-! # Forms of letters

Some letters are small letters of ASCII in another form: wide ones, those of mathematics, small ones
above or below the line, and those of Roman numbers. A name that is written with them is the name in
plain letters.
-/

namespace Polyglot

namespace CodePoint

/-- The letter of ASCII at a place in the alphabet. -/
def smallLetter (index : Nat) : CodePoint := ofNat (0x61 + index)

/-- The forms of letters that stand alone. -/
def letterforms : List (Nat × Char) :=
  [(0xAA, 'a'), (0xBA, 'o'), (0x17F, 's'), (0x2B0, 'h'), (0x2B2, 'j'), (0x2B3, 'r'), (0x2B7, 'w'),
    (0x2B8, 'y'), (0x2E1, 'l'), (0x2E2, 's'), (0x2E3, 'x'), (0x1D43, 'a'), (0x1D47, 'b'),
    (0x1D48, 'd'), (0x1D49, 'e'), (0x1D4D, 'g'), (0x1D4F, 'k'), (0x1D50, 'm'), (0x1D52, 'o'),
    (0x1D56, 'p'), (0x1D57, 't'), (0x1D58, 'u'), (0x1D5B, 'v'), (0x1D62, 'i'), (0x1D63, 'r'),
    (0x1D64, 'u'), (0x1D65, 'v'), (0x1D9C, 'c'), (0x1DA0, 'f'), (0x1DBB, 'z'), (0x2071, 'i'),
    (0x207F, 'n'), (0x2090, 'a'), (0x2091, 'e'), (0x2092, 'o'), (0x2093, 'x'), (0x2095, 'h'),
    (0x2096, 'k'), (0x2097, 'l'), (0x2098, 'm'), (0x2099, 'n'), (0x209A, 'p'), (0x209B, 's'),
    (0x209C, 't'), (0x210A, 'g'), (0x210E, 'h'), (0x2113, 'l'), (0x212F, 'e'), (0x2134, 'o'),
    (0x2139, 'i'), (0x2146, 'd'), (0x2147, 'e'), (0x2148, 'i'), (0x2149, 'j'), (0x2170, 'i'),
    (0x2174, 'v'), (0x2179, 'x'), (0x217C, 'l'), (0x217D, 'c'), (0x217E, 'd'), (0x217F, 'm'),
    (0x2C7C, 'j'), (0x107A5, 'q')]

/-- The first and the last small letter of mathematics. Its alphabets follow each other, each with
its capitals after its small letters. -/
def mathematicalLetters : Nat × Nat := (0x1D41A, 0x1D6A3)

/-- The plain letter for a form of a small letter; everything else stands for itself. -/
def plainLetter (c : CodePoint) : CodePoint :=
  let place := (c.val - mathematicalLetters.1) % 52
  if 0xFF41 ≤ c.val ∧ c.val ≤ 0xFF5A then smallLetter (c.val - 0xFF41)
  else if mathematicalLetters.1 ≤ c.val ∧ c.val ≤ mathematicalLetters.2 ∧ place < 26 then
    smallLetter place
  else
    match letterforms.find? fun form => form.1 == c.val with
    | some (_, letter) => letter
    | none => c

end CodePoint

/-- A text with plain letters for the forms of small letters. -/
def Text.plainLetters (t : Text) : Text := t.map CodePoint.plainLetter

end Polyglot
