import Polyglot.Entries
import Polyglot.Text.Basic

/-! # Capitals in ASCII

A word in ASCII may be asked for in small letters. Besides the letters of ASCII a few others have
capitals there, and some of them more than one. Every other code point stays as it is, so that a
word with it is never the one that is asked for.
-/

namespace Polyglot.Text

/-- The letters beyond ASCII whose capitals are letters of ASCII. -/
def foreignCapitals : List (CodePoint × Text) :=
  [(0xDF, "SS"), (0x131, "I"), (0x17F, "S"), (0xFB00, "FF"), (0xFB01, "FI"), (0xFB02, "FL"),
    (0xFB03, "FFI"), (0xFB04, "FFL"), (0xFB05, "ST"), (0xFB06, "ST")]

/-- The capitals of a text as far as they are letters of ASCII. -/
def asciiCapitals (t : Text) : Text :=
  t.flatMap fun c => (Entries.get? c foreignCapitals).getD [c.asciiUpper]

end Polyglot.Text
