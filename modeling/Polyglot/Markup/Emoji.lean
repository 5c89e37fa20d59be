import Polyglot.Markup.EmojiNames
import Polyglot.Entries
import Polyglot.Text.Blank
import Polyglot.Text.Cells
import Polyglot.Text.Lower

/-! # Emoji codes

A code is a name between colons, without a blank in it, and stands for the emoji of that name in
whatever case it is written. A name may end with a wish for the shape of the emoji. A code whose
name is not known stands for itself, and its last colon opens no further code.
-/

namespace Polyglot.Emoji

/-- The sign at both ends of a code. -/
def colon : CodePoint := ':'

/-- The entries of a sequence of words in which every name comes before its emoji. -/
def entriesOf : List Text → List (Text × Text)
  | name :: emoji :: rest => (name, emoji) :: entriesOf rest
  | _ => []

/-- The emoji of things. -/
def thingEntries : List (Text × Text) := entriesOf (Text.words things)

/-- The emoji of persons and hands. -/
def personEntries : List (Text × Text) := entriesOf (Text.words people)

/-- The flags of regions. -/
def regionEntries : List (Text × Text) := entriesOf (Text.words regions)

/-- The tones of skin, as names end with them, and their modifiers. -/
def tones : List (Text × CodePoint) :=
  [("_light_skin_tone", 0x1F3FB), ("_medium-light_skin_tone", 0x1F3FC),
    ("_medium_skin_tone", 0x1F3FD), ("_medium-dark_skin_tone", 0x1F3FE),
    ("_dark_skin_tone", 0x1F3FF)]

/-- The mark for an emoji that is shown as a letter. -/
def letterMark : CodePoint := 0xFE0E

/-- The wishes for the shape of an emoji, as codes end with them, and their marks. -/
def shapes : List (Text × CodePoint) := [("-emoji", CodePoint.pictureMark), ("-text", letterMark)]

/-- The first of some endings that a text has, with the text before it. -/
def cutEnding {α : Type} (endings : List (Text × α)) (t : Text) : Option (Text × α) :=
  endings.findSome? fun (ending, a) =>
    if ending.isSuffixOf t then some (t.take (t.length - ending.length), a) else none

/-- Gives an emoji a tone. The tone belongs to the first code point and replaces a mark for the
picture there. -/
def withTone (tone : CodePoint) : Text → Text
  | [] => []
  | c :: rest =>
    c :: tone :: (if rest.head? = some CodePoint.pictureMark then rest.tail else rest)

/-- The emoji of a person or a hand with a tone. -/
def findToned? (name : Text) : Option Text := do
  let (person, tone) ← cutEnding tones name
  return withTone tone (← Entries.get? person personEntries)

/-- What the name of a region may begin with. -/
def flagMark : Text := "flag_for_"

/-- The name of a region without the words for a flag. -/
def regionName (name : Text) : Text :=
  if flagMark.isPrefixOf name then name.drop flagMark.length else name

/-- The emoji of a name in small letters. -/
def find? (name : Text) : Option Text :=
  (Entries.get? name thingEntries).or <|
    (Entries.get? name personEntries).or <|
      (findToned? name).or (Entries.get? (regionName name) regionEntries)

/-- The mark that the end of a code wishes for. -/
def marks (body : Text) : Text := ((cutEnding shapes body).map Prod.snd).toList

/-- The emoji of a code without its mark, given what is between its colons. -/
def named? (body : Text) : Option Text :=
  find? (Text.lower ((cutEnding shapes body).elim body Prod.fst))

/-- What a code shows, given what is between its colons. -/
def shown (body : Text) : Text :=
  (named? body).elim (colon :: body ++ [colon]) (· ++ marks body)

/-- Holds of what may be in a name. -/
def isNamePart (c : CodePoint) : Bool := c != colon && !c.isBlank

/-- What is between the colons of a code, given what follows the first one. -/
def codeBody? (t : Text) : Option Text :=
  let body := t.takeWhile isNamePart
  if (t.drop body.length).head? = some colon then some body else none

/-- Shows the emoji for the codes of a text, of which the first `skip` code points belong to a code
that has been shown. -/
def replaceFrom (skip : Nat) : Text → Text
  | [] => []
  | c :: rest =>
    match skip with
    | skip + 1 => replaceFrom skip rest
    | 0 =>
      match if c = colon then codeBody? rest else none with
      | some body => shown body ++ replaceFrom (body.length + 1) rest
      | none => c :: replaceFrom 0 rest

/-- Shows the emoji for the codes of a text. -/
def replace (t : Text) : Text := replaceFrom 0 t

end Polyglot.Emoji
