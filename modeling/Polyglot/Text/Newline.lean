import Polyglot.Text.Basic

/-! # Lines

A line ends with a line feed, a carriage return, or the two in the opposite order, and with
nothing else. Reading a text file first turns every end of line into a line feed.
-/

namespace Polyglot.Text

/-- Turns every end of line into one line feed. The flag says that a carriage return, already
written as a line feed, stands right before; a line feed then belongs to it. -/
def unifyNewlinesFrom (afterReturn : Bool) : Text → Text
  | [] => []
  | c :: rest =>
    if c = CodePoint.carriageReturn then CodePoint.lineFeed :: unifyNewlinesFrom true rest
    else if afterReturn ∧ c = CodePoint.lineFeed then unifyNewlinesFrom false rest
    else c :: unifyNewlinesFrom false rest

/-- Turns every end of line into one line feed. -/
def unifyNewlines (t : Text) : Text := unifyNewlinesFrom false t

/-- The lines of a text whose lines end with a line feed, without the line feeds. The last line
may lack its line feed; what follows the last line feed is no line when it is empty. -/
def lines : Text → List Text
  | [] => []
  | c :: rest =>
    if c = CodePoint.lineFeed then [] :: lines rest
    else
      match lines rest with
      | [] => [[c]]
      | line :: others => (c :: line) :: others

end Polyglot.Text
