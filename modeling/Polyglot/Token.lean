import Polyglot.Text.Blank

/-! # Tokens

A single is a maximal run of word signs or of symbols: letters, digits and the underscore of ASCII
make words, and everything else that is no blank makes symbols, letters beyond ASCII included. The
tokens of a text are its singles in order, followed by every pair of neighbouring singles.
-/

namespace Polyglot

/-- What a code point is to the tokens of a text. -/
inductive Kind where
  | blank
  | word
  | symbol
  deriving DecidableEq

namespace CodePoint

/-- A letter or digit of ASCII, or the underscore. -/
def isWord (c : CodePoint) : Bool :=
  isAsciiDigit c || isAsciiLower c || isAsciiUpper c || c.val == 0x5F

/-- Blanks separate, word signs and symbols make singles. -/
def kind (c : CodePoint) : Kind :=
  if isBlank c then .blank else if isWord c then .word else .symbol

end CodePoint

namespace Token

/-- The maximal runs of code points of one kind, blanks included. -/
def blocks (t : Text) : List Text := t.splitBy fun a b => CodePoint.kind a = CodePoint.kind b

/-- The maximal runs of word signs and of symbols. -/
def singles (t : Text) : List Text := (blocks t).filter fun block => !Text.isBlank block

/-- Two singles with one blank between them. -/
def pair (a b : Text) : Text := a ++ 0x20 :: b

/-- The pairs of neighbours. -/
def pairs (singles : List Text) : List Text := singles.zipWith pair singles.tail

end Token

/-- The singles of a text, followed by the pairs of neighbouring ones. -/
def tokens (t : Text) : List Text := Token.singles t ++ Token.pairs (Token.singles t)

end Polyglot
