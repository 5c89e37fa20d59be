import Polyglot.Json.Basic
import Polyglot.Number.Shortest

/-! # Writing JSON

The writer uses ASCII alone: every other code point, the delete character included, is written as
an escape, and one beyond the sixteen-bit range as a pair of surrogates. On one line a blank follows
each comma and colon. Over several lines each item stands on a line of its own, and an empty list or
object stays together. The compact writer leaves out the blanks and escapes only what has to be.
-/

namespace Polyglot.Json

/-- A hexadecimal escape. -/
def hexEscape (n : Nat) : Text := [CodePoint.backslash, 'u'] ++ Text.hex 4 n

/-- One code point inside a string, given which code points stand for themselves there. -/
def escape (isPlain : CodePoint → Bool) (c : CodePoint) : Text :=
  if c = CodePoint.quotationMark ∨ c = CodePoint.backslash then [CodePoint.backslash, c]
  else if c = CodePoint.lineFeed then [CodePoint.backslash, 'n']
  else if c = CodePoint.carriageReturn then [CodePoint.backslash, 'r']
  else if c = CodePoint.tab then [CodePoint.backslash, 't']
  else if c = 0x08 then [CodePoint.backslash, 'b']
  else if c = 0x0C then [CodePoint.backslash, 'f']
  else if isPlain c then [c]
  else if c.val < 0x10000 then hexEscape c.val
  else
    hexEscape (0xD800 + (c.val - 0x10000) / 0x400) ++ hexEscape (0xDC00 + (c.val - 0x10000) % 0x400)

/-- How values are written on one line: what stands between two items, what stands between a key and
its value, and which code points stand for themselves in a string. -/
structure Style where
  comma : Text
  colon : Text
  isPlain : CodePoint → Bool

/-- The style that is used where nothing else is said. -/
def Style.ascii : Style := ⟨", ", ": ", fun c => 0x20 ≤ c.val && c.val < 0x7F⟩

/-- The style without blanks, in which code points beyond ASCII stand for themselves. -/
def Style.compact : Style := ⟨",", ":", fun c => 0x20 ≤ c.val⟩

/-- A string with its marks. -/
def writeText (style : Style) (t : Text) : Text :=
  CodePoint.quotationMark :: t.flatMap (escape style.isPlain) ++ [CodePoint.quotationMark]

/-- The words for what is no finite number. -/
def spelling : Shortest.Spelling := ⟨"NaN", "Infinity"⟩

/-- A value that is neither a list nor an object; those two give nothing here. -/
def writeAtom (style : Style) : Json → Text
  | null => "null"
  | bool true => "true"
  | bool false => "false"
  | int i => Text.ofInt i
  | double x => Shortest.text spelling x
  | text t => writeText style t
  | list _ => []
  | object _ => []

mutual

/-- A value on one line. -/
def write (style : Style) : Json → Text
  | list items => CodePoint.openBracket :: writeItems style items ++ [CodePoint.closeBracket]
  | object members => CodePoint.openBrace :: writeMembers style members ++ [CodePoint.closeBrace]
  | atom => writeAtom style atom

/-- The items of a list on one line. -/
def writeItems (style : Style) : List Json → Text
  | [] => []
  | [item] => write style item
  | item :: next :: rest => write style item ++ style.comma ++ writeItems style (next :: rest)

/-- The members of an object on one line. -/
def writeMembers (style : Style) : List (Text × Json) → Text
  | [] => []
  | [(key, value)] => writeText style key ++ style.colon ++ write style value
  | (key, value) :: next :: rest =>
    writeText style key ++ style.colon ++ write style value ++ style.comma ++
      writeMembers style (next :: rest)

end

/-- A value on one line in ASCII. -/
def encode (value : Json) : Text := write Style.ascii value

/-- A value on one line without blanks. -/
def encodeCompact (value : Json) : Text := write Style.compact value

/-- The start of a line at a depth of nesting: two blanks for each level. -/
def lineStart (level : Nat) : Text := CodePoint.lineFeed :: List.replicate (2 * level) 0x20

mutual

/-- A value over several lines, at a depth of nesting. -/
def encodeLines (level : Nat) : Json → Text
  | list [] => "[]"
  | list (item :: items) =>
    CodePoint.openBracket :: encodeItemLines (level + 1) (item :: items) ++ lineStart level ++
      [CodePoint.closeBracket]
  | object [] => [CodePoint.openBrace, CodePoint.closeBrace]
  | object (member :: members) =>
    CodePoint.openBrace :: encodeMemberLines (level + 1) (member :: members) ++ lineStart level ++
      [CodePoint.closeBrace]
  | atom => writeAtom Style.ascii atom

/-- The items of a list, each on a line of its own. -/
def encodeItemLines (level : Nat) : List Json → Text
  | [] => []
  | [item] => lineStart level ++ encodeLines level item
  | item :: next :: rest =>
    lineStart level ++ encodeLines level item ++ "," ++ encodeItemLines level (next :: rest)

/-- The members of an object, each on a line of its own. -/
def encodeMemberLines (level : Nat) : List (Text × Json) → Text
  | [] => []
  | [(key, value)] =>
    lineStart level ++ writeText Style.ascii key ++ ": " ++ encodeLines level value
  | (key, value) :: next :: rest =>
    lineStart level ++ writeText Style.ascii key ++ ": " ++ encodeLines level value ++ "," ++
      encodeMemberLines level (next :: rest)

end

end Polyglot.Json
