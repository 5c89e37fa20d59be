import Polyglot.Markup.Color
import Polyglot.Text.Blank

/-! # Styles

A style is written in words: attributes, which may be denied, a color, a color of the ground, and a
link. Attributes have short names too, and of two colors the last one counts. Different words for
one style have one normal form, which names the attributes in a fixed order and by their long names.
Words that are no style are their own normal form, but for blanks around them and for capitals.
-/

namespace Polyglot.Markup

/-- A style: the attributes that it grants or denies, its colors, and its link. -/
structure Style where
  attributes : List (Text × Bool)
  color : Option Text
  ground : Option Text
  link : Option Text

namespace Style

/-- The style that says nothing. -/
def plain : Style := ⟨[], none, none, none⟩

/-- The attributes in the order of the normal form. -/
def attributeNames : List Text :=
  ["bold", "dim", "italic", "underline", "blink", "blink2", "reverse", "conceal", "strike",
    "underline2", "frame", "encircle", "overline"]

/-- The short names of attributes. -/
def shortNames : List (Text × Text) :=
  [("b", "bold"), ("d", "dim"), ("i", "italic"), ("u", "underline"), ("r", "reverse"),
    ("c", "conceal"), ("s", "strike"), ("uu", "underline2"), ("o", "overline")]

/-- The attribute that a word names. -/
def attribute? (word : Text) : Option Text :=
  if attributeNames.contains word then some word else Entries.get? word shortNames

/-- Grants or denies an attribute. -/
def set (name : Text) (granted : Bool) (s : Style) : Style :=
  { s with attributes := Entries.put name granted s.attributes }

/-- Reads words and adds them to a style. -/
def readWords (s : Style) : List Text → Except StyleFlaw Style
  | [] => .ok s
  | word :: rest =>
    let key := Text.lower word
    if key = "on" then
      match rest with
      | [] => .error .unknown
      | ground :: rest => do
        let name ← Color.read ground
        readWords { s with ground := some name } rest
    else if key = "not" then
      match rest with
      | [] => .error .unknown
      | denied :: rest =>
        match attribute? denied with
        | some name => readWords (s.set name false) rest
        | none => .error .unknown
    else if key = "link" then
      match rest with
      | [] => .error .unknown
      | link :: rest => readWords { s with link := some link } rest
    else
      match attribute? key with
      | some name => readWords (s.set name true) rest
      | none => do
        let name ← Color.read key
        readWords { s with color := some name } rest

/-- The word for a style that says nothing. -/
def nothing : Text := "none"

/-- Reads a style. -/
def read (t : Text) : Except StyleFlaw Style :=
  if Text.strip t = nothing then .ok plain else readWords plain (Text.words t)

/-- The words for an attribute of a style, if it says something about it. -/
def attributeWords (s : Style) (name : Text) : List Text :=
  match Entries.get? name s.attributes with
  | some true => [name]
  | some false => ["not", name]
  | none => []

/-- A style in words. -/
def text (s : Style) : Text :=
  let marked (mark : Text) (name : Option Text) : List Text :=
    match name with
    | some name => [mark, name]
    | none => []
  let words :=
    attributeNames.flatMap s.attributeWords ++ s.color.toList ++ marked "on" s.ground ++
      marked "link" s.link
  if words.isEmpty then nothing else Text.join " " words

/-- The normal form of words that may be a style. -/
def normalForm (t : Text) : Except IntegerFault Text :=
  match read t with
  | .ok s => .ok s.text
  | .error .unknown => .ok (Text.lower (Text.strip t))
  | .error (.integer fault) => .error fault

/-- Looks up a style, which need not be there. -/
def lookUp (t : Text) : Except IntegerFault Unit :=
  match read t with
  | .error (.integer fault) => .error fault
  | _ => .ok ()

end Style

end Polyglot.Markup
