import Polyglot.Text.Numeral
import Polyglot.Text.Printable

/-! # Quoted text

A message shows a text between apostrophes, or between quotation marks when it holds an apostrophe
and no quotation mark. The mark in use, the backslash and every code point that is not printable
are written as escapes.
-/

namespace Polyglot.Text

/-- The mark that encloses a quoted text. -/
def enclosingMark (t : Text) : CodePoint :=
  if t.contains CodePoint.apostrophe && !t.contains CodePoint.quotationMark then
    CodePoint.quotationMark
  else CodePoint.apostrophe

/-- One code point inside a quoted text. -/
def quotedPoint (mark c : CodePoint) : Text :=
  if c = mark ∨ c = CodePoint.backslash then [CodePoint.backslash, c]
  else if c = CodePoint.lineFeed then [CodePoint.backslash, 'n']
  else if c = CodePoint.carriageReturn then [CodePoint.backslash, 'r']
  else if c = CodePoint.tab then [CodePoint.backslash, 't']
  else if CodePoint.isPrintable c then [c]
  else if c.val < 0x100 then [CodePoint.backslash, 'x'] ++ hex 2 c.val
  else if c.val < 0x10000 then [CodePoint.backslash, 'u'] ++ hex 4 c.val
  else [CodePoint.backslash, 'U'] ++ hex 8 c.val

/-- A text as a message quotes it. -/
def quoted (t : Text) : Text :=
  let mark := enclosingMark t
  mark :: t.flatMap (quotedPoint mark) ++ [mark]

end Polyglot.Text
