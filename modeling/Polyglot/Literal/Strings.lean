import Polyglot.Literal.Escape
import Polyglot.Literal.Token

/-! # Strings of expressions

A string may be marked as one of bytes, as one that is taken as it is, or as one with expressions in
braces. In a string that is not taken as it is, escapes have to be complete.
-/

namespace Polyglot.Literal

/-- A string: what its mark says, the number of code points before its body, and the body, which is
between its quotation marks. -/
structure Quotation where
  isBytes : Bool
  isRaw : Bool
  hasBraces : Bool
  opening : Nat
  body : Text

/-- Reads the mark and the quotation marks of a string. -/
def Quotation.ofText (t : Text) : Quotation :=
  let mark := t.takeWhile fun c => !isQuote c
  let quoted := t.drop mark.length
  let isTriple := 6 ≤ quoted.length ∧ quoted[1]? = quoted[0]? ∧ quoted[2]? = quoted[0]?
  let marks := if isTriple then 3 else 1
  let mark := Text.asciiLower mark
  ⟨mark.contains 'b', mark.contains 'r', mark.contains 'f', mark.length + marks,
    (quoted.drop marks).take (quoted.length - 2 * marks)⟩

/-- The flaw of a quotation for itself; what is in and between braces is looked at later. -/
def Quotation.flaw? (q : Quotation) : Option Flaw :=
  if q.isBytes then
    if !q.body.all isAscii then some .foreignByte
    else if q.isRaw then none
    else (findByteFlaw false 0 q.body).map .escape
  else if q.isRaw || q.hasBraces then none
  else (textFlaw? q.body).map .escape

end Polyglot.Literal
