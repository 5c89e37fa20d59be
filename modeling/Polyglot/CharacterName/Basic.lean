import Polyglot.CharacterName.FromA
import Polyglot.CharacterName.FromC
import Polyglot.CharacterName.FromD
import Polyglot.CharacterName.FromH
import Polyglot.CharacterName.FromL
import Polyglot.CharacterName.FromN
import Polyglot.CharacterName.FromS
import Polyglot.CharacterName.FromT
import Polyglot.CharacterName.Lone
import Polyglot.Text.Blank
import Polyglot.Text.Numeral

/-! # Names of characters

Most names of characters are listed, in capitals, and may be written in any case. The names of two
large families follow a rule instead: a Hangul syllable is named by its sounds, and a unified Han
ideograph by its number. Those are written in capitals only.
-/

namespace Polyglot.CharacterName

/-- The names of several words, by their first words. -/
def groups : List (String × String) :=
  fromA ++ fromC ++ fromD ++ fromH ++ fromL ++ fromN ++ fromS ++ fromT

/-- The words that an entry stands for, given those of the entry before it. -/
def wordsOf (previous : List Text) : Text → List Text
  | [] => previous
  | kept :: rest =>
    previous.take (kept.val - 0x61) ++ if rest.isEmpty then [] else Text.cutAt '_' rest

/-- Holds when one of some entries stands for given words. -/
def holds (words previous : List Text) : List Text → Bool
  | [] => false
  | entry :: rest =>
    let found := wordsOf previous entry
    found == words || holds words found rest

/-- Holds of the words that may follow a first word. -/
def follows (first : Text) (words : List Text) : Bool :=
  match groups.find? fun group => first == group.1 with
  | some (_, entries) => holds words [] (Text.words entries)
  | none => words.isEmpty && (Text.words lone).contains first

/-- Holds of a name that is listed. -/
def isListed (name : Text) : Bool :=
  match Text.cutAt 0x20 (name.map CodePoint.asciiUpper) with
  | first :: words => follows first words
  | [] => false

/-! ### Syllables -/

/-- The words before the sounds of a syllable. -/
def syllableMark : Text := "HANGUL SYLLABLE "

/-- The sounds that a syllable begins with; a syllable may begin with none. -/
def initials : List Text :=
  ["", "G", "GG", "N", "D", "DD", "R", "M", "B", "BB", "S", "SS", "J", "JJ", "C", "K", "T", "P",
    "H"]

/-- The vowels of a syllable. -/
def vowels : List Text :=
  ["A", "AE", "YA", "YAE", "EO", "E", "YEO", "YE", "O", "WA", "WAE", "OE", "YO", "U", "WEO", "WE",
    "WI", "YU", "EU", "YI", "I"]

/-- The sounds that a syllable ends with; a syllable may end with none. -/
def finals : List Text :=
  ["", "G", "GG", "GS", "N", "NJ", "NH", "D", "L", "LG", "LM", "LB", "LS", "LT", "LP", "LH", "M",
    "B", "BS", "S", "SS", "NG", "J", "C", "K", "T", "P", "H"]

/-- The longest of some texts. -/
def longest? : List Text → Option Text
  | [] => none
  | t :: rest =>
    match longest? rest with
    | some u => some (if t.length < u.length then u else t)
    | none => some t

/-- What follows the longest of some sounds that a text begins with. -/
def afterSound? (sounds : List Text) (t : Text) : Option Text :=
  (longest? (sounds.filter fun sound => sound.isPrefixOf t)).map fun sound => t.drop sound.length

/-- Holds of the sounds of a syllable. -/
def isSyllable (t : Text) : Bool :=
  match ((afterSound? initials t).bind (afterSound? vowels)).bind (afterSound? finals) with
  | some rest => rest.isEmpty
  | none => false

/-! ### Ideographs -/

/-- What is before the number of an ideograph. -/
def ideographMark : Text := "CJK UNIFIED IDEOGRAPH-"

/-- The unified ideographs. -/
def ideographs : List (Nat × Nat) :=
  [(0x3400, 0x4DBF), (0x4E00, 0x9FFF), (0x20000, 0x2A6DF), (0x2A700, 0x2B738), (0x2B740, 0x2B81D),
    (0x2B820, 0x2CEA1), (0x2CEB0, 0x2EBE0), (0x30000, 0x3134A)]

/-- A digit of the number of an ideograph; letters are capitals. -/
def digit? (c : CodePoint) : Option Nat := if c.isAsciiLower then none else c.hexValue?

/-- Holds of the number of an ideograph, which has four or five digits. -/
def isIdeograph (t : Text) : Bool :=
  (t.length == 4 || t.length == 5) && t.all (fun c => (digit? c).isSome) &&
    (CodePoint.ofNat (ofDigits 16 (t.filterMap digit?))).isWithin ideographs

/-- Holds of the name of a character. -/
def isKnown (name : Text) : Bool :=
  if syllableMark.isPrefixOf name then isSyllable (name.drop syllableMark.length)
  else if ideographMark.isPrefixOf name then isIdeograph (name.drop ideographMark.length)
  else isListed name

end Polyglot.CharacterName
