import Polyglot.Markup.Emoji
import Polyglot.Markup.Handler
import Polyglot.Markup.Style

/-! # Markup

A message on the console may contain tags in brackets, which begin with a small letter, a hash, a
slash or an at sign. Tags are not shown; a tag with a slash closes the last open tag of its name, or
the last one of all when it has no name. A backslash before a tag shows the tag itself, and two
backslashes show one. Between the tags, codes stand for emoji. What is shown is laid out in lines:
some control characters are left out, and a tab leads to the next multiple of eight columns.
-/

namespace Polyglot.Markup

/-- Text that is shown, or a tag with the place where it stands and what is between its brackets. -/
inductive Piece where
  | plain (t : Text)
  | tag (position : Nat) (body : Text)

/-- Why a message cannot be shown. -/
inductive Flaw where
  | noOpenTag (body : Text) (position : Nat)
  | nothingToClose (position : Nat)
  /-- A part of a color in a style is no number. -/
  | style (fault : IntegerFault)
  | handler (flaw : Handler.Flaw)

/-- The words of a flaw. -/
def Flaw.message : Flaw → Text
  | noOpenTag body position =>
    "closing tag '[" ++ body ++ "]' at position " ++ Text.ofNat position ++
      " doesn't match any open tag"
  | nothingToClose position =>
    "closing tag '[/]' at position " ++ Text.ofNat position ++ " has nothing to close"
  | style fault => fault.message
  | handler flaw => flaw.message

/-- A sign that a tag may begin with. -/
def opensTag (c : CodePoint) : Bool := c.isAsciiLower || List.elem c ("#/@" : Text)

/-- What stands between the brackets of a tag, given what follows the opening one. A tag ends with
the first closing bracket and holds no opening one. -/
def tagBody? (t : Text) : Option Text :=
  let body := t.takeWhile fun c => c ≠ CodePoint.openBracket ∧ c ≠ CodePoint.closeBracket
  match body, t.drop body.length with
  | c :: _, d :: _ => if opensTag c ∧ d = CodePoint.closeBracket then some body else none
  | _, _ => none

/-- A number of backslashes. -/
def backslashes (n : Nat) : Text := List.replicate n CodePoint.backslash

/-- The pieces for a tag with backslashes before it: half of the backslashes, and the tag, which is
shown itself after an odd number of them. -/
def tagPieces (slashes position : Nat) (body : Text) : List Piece :=
  let half := backslashes (slashes / 2)
  let start := position - slashes + 2 * (slashes / 2)
  let tag : Piece :=
    if slashes % 2 = 1 then
      .plain (CodePoint.openBracket :: body ++ [CodePoint.closeBracket])
    else .tag start body
  if half.isEmpty then [tag] else [.plain half, tag]

/-- Puts text in front of the pieces, as a part of the first one if it is a run of text. -/
def withText (t : Text) (pieces : List Piece) : List Piece :=
  if t.isEmpty then pieces else .plain t :: pieces

/-- The pieces of a message, from a position on: `skip` code points belong to the last tag,
`slashes` backslashes stand right before, and `run` is the text before them that belongs to no piece
yet, the last code point first. -/
def piecesFrom (skip slashes position : Nat) (run : Text) : Text → List Piece
  | [] => withText (backslashes slashes ++ run).reverse []
  | c :: rest =>
    match skip with
    | skip + 1 => piecesFrom skip 0 (position + 1) [] rest
    | 0 =>
      if c = CodePoint.backslash then piecesFrom 0 (slashes + 1) (position + 1) run rest
      else if c = CodePoint.openBracket then
        match tagBody? rest with
        | some body =>
          withText run.reverse (tagPieces slashes position body) ++
            piecesFrom (body.length + 1) 0 (position + 1) [] rest
        | none =>
          piecesFrom 0 0 (position + 1) (c :: backslashes (slashes - 1) ++ run) rest
      else piecesFrom 0 0 (position + 1) (c :: backslashes slashes ++ run) rest

/-- The pieces of a message. -/
def pieces (message : Text) : List Piece := piecesFrom 0 0 0 [] message

/-- A tag: its name, and what follows an equals sign, if there is one. -/
structure Tag where
  name : Text
  parameters : Option Text

/-- The tag between two brackets. -/
def Tag.ofBody (body : Text) : Tag :=
  let name := body.takeWhile (· ≠ ('=' : CodePoint))
  ⟨name, (body.drop name.length).tail?⟩

/-- The words for the style of a tag. -/
def Tag.style (tag : Tag) : Text :=
  match tag.parameters with
  | none => tag.name
  | some parameters => tag.name ++ " " ++ parameters

/-- Holds of a tag for a handler instead of a style. -/
def Tag.isHandler (tag : Tag) : Bool := tag.name.head? = some '@'

/-- A style for a part of a text. -/
structure Span where
  start : Nat
  stop : Nat
  style : Text

/-- What pieces show: the text, the tags that are open and where they were opened, and the styles of
the tags that are closed. The last tag comes first. -/
structure Shown where
  /-- The text, the last code point first. -/
  reversed : Text
  length : Nat
  openTags : List (Nat × Tag)
  spans : List Span

/-- The text that is shown. -/
def Shown.text (s : Shown) : Text := s.reversed.reverse

/-- Shows some text after the others. -/
def Shown.append (s : Shown) (t : Text) : Shown :=
  { s with reversed := t.reverse ++ s.reversed, length := s.length + t.length }

/-- The normal form of the name of a tag. -/
def usualName (name : Text) : Except Flaw Text := (Style.normalForm name).mapError Flaw.style

/-- Takes a tag away from those that are open: the last one of a name, or the last one of all when
the name is empty. -/
def takeTag (openTags : List (Nat × Tag)) (position : Nat) (body name : Text) :
    Except Flaw ((Nat × Tag) × List (Nat × Tag)) :=
  if name.isEmpty then
    match openTags with
    | [] => .error (.nothingToClose position)
    | tag :: rest => .ok (tag, rest)
  else do
    let usual ← usualName name
    match openTags.find? fun e => e.2.name = usual with
    | some tag => .ok (tag, openTags.eraseP fun e => e.2.name = usual)
    | none => .error (.noOpenTag body position)

/-- Closes a tag. The style of a tag covers what was shown since it was opened; the parameters of a
handler are read. -/
def Shown.close (s : Shown) (position : Nat) (body name : Text) : Except Flaw Shown := do
  let ((start, tag), rest) ← takeTag s.openTags position body name
  if tag.isHandler then
    (Handler.check (tag.parameters.getD [])).mapError Flaw.handler
    pure { s with openTags := rest }
  else pure { s with openTags := rest, spans := ⟨start, s.length, tag.style⟩ :: s.spans }

/-- A control character that is left out. -/
def isLeftOut (c : CodePoint) : Bool :=
  c == 0x07 || c == 0x08 || c == 0x0B || c == 0x0C || c == CodePoint.carriageReturn

/-- Shows one more piece. -/
def Shown.add (s : Shown) : Piece → Except Flaw Shown
  | .plain t => .ok (s.append ((Emoji.replace t).filter fun c => !isLeftOut c))
  | .tag position body =>
    let tag := Tag.ofBody body
    match tag.name with
    | [] => .ok s
    | c :: name =>
      if c = ('/' : CodePoint) then s.close position body (Text.strip name)
      else do
        let usual ← usualName (c :: name)
        pure { s with openTags := (s.length, ⟨usual, tag.parameters⟩) :: s.openTags }

/-- The styles of all tags: one that is not closed reaches to the end. -/
def Shown.allSpans (s : Shown) : List Span :=
  (s.openTags.map fun (start, tag) => ⟨start, s.length, tag.style⟩).reverse ++ s.spans

/-- Holds when a style covers something of a text. In a text of several lines, or with a tab, one
that covers no more than an end of line does not. -/
def Span.isVisible (text : Text) (span : Span) : Bool :=
  if text.contains CodePoint.lineFeed || text.contains CodePoint.tab then
    ((text.take span.stop).drop span.start).any (· ≠ CodePoint.lineFeed)
  else true

/-- Looks up the styles of a text. -/
def Shown.checkStyles (s : Shown) : Except Flaw Unit :=
  let text := s.text
  (s.allSpans.filter (Span.isVisible text)).forM fun span =>
    (Style.lookUp span.style).mapError Flaw.style

/-- The text that a message shows. -/
def shown (message : Text) : Except Flaw Text := do
  let s ← (pieces message).foldlM Shown.add ⟨[], 0, [], []⟩
  s.checkStyles
  pure s.text

/-- The distance of two tab stops. -/
def tabWidth : Nat := 8

/-- Lays out the parts of a line between its tabs. A tab is written as a blank and as many more as
lead to the next tab stop; the cells of a part are counted together with this blank. -/
def expandParts (column : Nat) : List Text → Text
  | [] => []
  | [part] => part
  | part :: next :: rest =>
    let part := part ++ [0x20]
    let column := column + Text.cells part
    let blanks := (tabWidth - column % tabWidth) % tabWidth
    part ++ List.replicate blanks 0x20 ++ expandParts (column + blanks) (next :: rest)

/-- Lays out a line. -/
def expandLine (line : Text) : Text := expandParts 0 (Text.cutAt CodePoint.tab line)

/-- The lines that a message makes on the console. -/
def layout (message : Text) : Except Flaw Text := do
  let lines := Text.cutAt CodePoint.lineFeed (← shown message)
  pure (Text.join [CodePoint.lineFeed] (lines.map expandLine) ++ [CodePoint.lineFeed])

end Polyglot.Markup
