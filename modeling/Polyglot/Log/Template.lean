import Polyglot.Log.Fault
import Polyglot.Number.Integer
import Polyglot.Number.Places

/-! # Message templates

A message is a template with directives, each of which begins with a percent sign and shows the next
argument. Between the sign and the letter that names the form stand, each of them optional, a key in
parentheses, flags, a width, and a precision; an asterisk takes width or precision from the
arguments. Two percent signs show one. A message without arguments is not read as a template. An
object that is the only argument is also a source of values for keys.
-/

namespace Polyglot.Log.Template

/-- The sign that begins a directive. -/
def percentSign : CodePoint := '%'

/-- The arguments that are left, and the members that keys name, if there are any. -/
structure Supply where
  queue : List Json
  members : Option (List (Text × Json))

namespace Supply

/-- The supply for the arguments of a message. -/
def ofArguments : List Json → Supply
  | [.object members] => ⟨[.object members], if members.isEmpty then none else some members⟩
  | arguments => ⟨arguments, none⟩

/-- The next argument. -/
def next (s : Supply) : Except TemplateFlaw (Json × Supply) :=
  match s.queue with
  | [] => .error .tooFewArguments
  | value :: rest => .ok (value, { s with queue := rest })

/-- Holds when a list of arguments has some left; an object need not be shown. -/
def isUnused (s : Supply) : Bool := s.members.isNone && !s.queue.isEmpty

/-- Makes the value of a key the only argument. -/
def select (s : Supply) (key : Text) : Except TemplateFlaw Supply :=
  match s.members with
  | none => .error .noMapping
  | some members =>
    match Entries.get? key members with
    | none => .error (.missingKey key)
    | some value => .ok { s with queue := [value] }

end Supply

/-- How a directive shows its argument. -/
structure Style where
  left : Bool
  plus : Bool
  blank : Bool
  alternate : Bool
  zero : Bool
  width : Nat
  precision : Option Nat

/-- The style that a run of flags asks for. -/
def Style.ofFlags (flags : Text) : Style :=
  { left := flags.contains '-'
    plus := flags.contains '+'
    blank := flags.contains ' '
    alternate := flags.contains '#'
    zero := flags.contains '0'
    width := 0
    precision := none }

/-- A flag. -/
def isFlag (c : CodePoint) : Bool := List.elem c ("-+ #0" : Text)

/-- A shown argument before it is padded: its sign, the mark of its base, and the rest. Only numbers
are padded with zeros. -/
structure Body where
  numeric : Bool
  sign : Text
  mark : Text
  rest : Text

/-- A body that is no number. -/
def Body.ofText (t : Text) : Body := ⟨false, [], [], t⟩

/-- The sign of a number. -/
def signText (style : Style) (negative : Bool) : Text :=
  if negative then "-" else if style.plus then "+" else if style.blank then " " else []

/-- Pads a body to the width of a style. -/
def Body.pad (style : Style) (b : Body) : Text :=
  let whole := b.sign ++ b.mark ++ b.rest
  let missing := style.width - whole.length
  let blanks : Text := List.replicate missing 0x20
  let zeros : Text := List.replicate missing '0'
  if style.left then whole ++ blanks
  else if b.numeric ∧ style.zero then b.sign ++ b.mark ++ zeros ++ b.rest
  else blanks ++ whole

/-- A text in a style: a precision cuts it. -/
def textBody (style : Style) (t : Text) : Body :=
  Body.ofText (match style.precision with
    | none => t
    | some n => t.take n)

/-- An integer in a style, in a base with a mark. -/
def integerBody (style : Style) (base : Nat) (mark : Text) (i : Int) : Body :=
  { numeric := true
    sign := signText style (i < 0)
    mark := if style.alternate then mark else []
    rest := Text.padLeft (style.precision.getD 0) '0' (Text.ofChars (Nat.toDigits base i.natAbs)) }

/-- The number of places that are shown when no precision is given. -/
def standardPrecision : Nat := 6

/-- The greatest precision. -/
def precisionLimit : Nat := 0x7FFFFFFF

/-- No double has as many significant digits. -/
def significantLimit : Nat := 1100

/-- The number of places that a style asks for under a letter. A number with an exponent has one
digit more, which the greatest precision leaves no room for, so that it counts as none; zeros after
the last significant digit are not counted where they are not shown. -/
def places (style : Style) (letter : CodePoint) : Nat :=
  let precision := style.precision.getD standardPrecision
  if letter = ('e' : CodePoint) then if precision = precisionLimit then 0 else precision
  else if letter = ('g' : CodePoint) ∧ !style.alternate then min precision significantLimit
  else precision

/-- The text of the magnitude of a double under a letter. -/
def magnitudeText (style : Style) (letter : CodePoint) (x : Float) : Text :=
  let r := Binary64.magnitude x
  let places := places style letter
  if x.isNaN then "nan"
  else if x.isInf then "inf"
  else if letter = ('f' : CodePoint) then Places.fixed style.alternate places r
  else if letter = ('e' : CodePoint) then Places.scientific style.alternate places r
  else Places.general style.alternate places r

/-- A double in a style. A capital letter gives capital letters. -/
def doubleBody (style : Style) (letter : CodePoint) (x : Float) : Body :=
  let shown := magnitudeText style letter.asciiLower x
  { numeric := true
    sign := signText style (Binary64.isNegative x && !x.isNaN)
    mark := []
    rest := if letter.isAsciiUpper then shown.map CodePoint.asciiUpper else shown }

/-- The integer of an argument; true and false count as integers. -/
def integer? : Json → Option Int
  | .int i => some i
  | .bool b => some (if b then 1 else 0)
  | _ => none

/-- The integer of an argument that may be a double, whose fraction is dropped. -/
def readNumber (letter : CodePoint) (value : Json) : Except TemplateFlaw Int :=
  match value with
  | .int _ | .bool _ | .double _ => (Integer.ofJson value).mapError TemplateFlaw.integer
  | other => .error (.noNumber letter other.kindName)

/-- The integer of an argument that has to be an integer. -/
def readInteger (letter : CodePoint) (value : Json) : Except TemplateFlaw Int :=
  match integer? value with
  | some i => .ok i
  | none => .error (.noInteger letter value.kindName)

/-- The double of an argument. -/
def readDouble (value : Json) : Except TemplateFlaw Float :=
  match value with
  | .double x => .ok x
  | other =>
    match integer? other with
    | none => .error (.noDouble other.kindName)
    | some i =>
      match Binary64.ofInt? i with
      | some x => .ok x
      | none => .error .integerTooLarge

/-- The character of an argument: a text of one code point, or the number of one. -/
def readCharacter (value : Json) : Except TemplateFlaw CodePoint :=
  match value with
  | .text [c] => .ok c
  | other =>
    match integer? other with
    | none => .error .noCharacter
    | some i =>
      if h : 0 ≤ i ∧ i < 0x110000 then .ok ⟨i.toNat, by omega⟩
      else .error .characterOutOfRange

/-- A text in ASCII: every other code point is written as an escape. -/
def escaped (t : Text) : Text :=
  t.flatMap fun c =>
    if c.val < 0x80 then [c]
    else if c.val < 0x100 then [CodePoint.backslash, 'x'] ++ Text.hex 2 c.val
    else if c.val < 0x10000 then [CodePoint.backslash, 'u'] ++ Text.hex 4 c.val
    else [CodePoint.backslash, 'U'] ++ Text.hex 8 c.val

/-- From this many code points on a message does not fit into memory. -/
def roomLimit : Nat := 0x10000000

/-- Refuses what does not fit into memory. -/
def checkRoom (n : Nat) : Except TemplateFlaw Unit :=
  if roomLimit ≤ n then .error .noRoom else .ok ()

/-- The greatest number of digits of an integer that is filled up with zeros. -/
def digitLimit : Nat := 0x7FFFFFFC

/-- Shows an integer in a style, in a base with a mark, unless it is to have too many digits. -/
def showInteger (style : Style) (base : Nat) (mark : Text) (i : Int) :
    Except TemplateFlaw Body := do
  let digits := style.precision.getD 0
  if digitLimit < digits then .error .tooManyDigits
  checkRoom digits
  pure (integerBody style base mark i)

/-- Shows a double in a style, unless it is to have too many places. -/
def showDouble (style : Style) (letter : CodePoint) (x : Float) : Except TemplateFlaw Body := do
  if x.isFinite then checkRoom (places style letter.asciiLower)
  pure (doubleBody style letter x)

/-- Shows an argument under the letter of a directive, which stands at a position. -/
def convert (style : Style) (letter : CodePoint) (position : Nat) (value : Json) :
    Except TemplateFlaw Body := do
  let isOne (letters : Text) : Bool := List.elem letter letters
  if isOne "s" then pure (textBody style (Json.display value))
  else if isOne "r" then pure (textBody style (Json.literal value))
  else if isOne "a" then pure (textBody style (escaped (Json.literal value)))
  else if isOne "diu" then showInteger style 10 [] (← readNumber letter value)
  else if isOne "o" then showInteger style 8 "0o" (← readInteger letter value)
  else if isOne "x" then showInteger style 16 "0x" (← readInteger letter value)
  else if isOne "X" then
    let body ← showInteger style 16 "0X" (← readInteger letter value)
    pure { body with rest := body.rest.map CodePoint.asciiUpper }
  else if isOne "eEfFgG" then showDouble style letter (← readDouble value)
  else if isOne "c" then pure (Body.ofText [← readCharacter value])
  else .error (.unknownDirective letter position)

/-- A key up to the parenthesis that closes it, and what follows; `depth` counts the parentheses
that were opened inside the key. -/
def keyFrom : (depth : Nat) → Text → Except TemplateFlaw (Text × Text)
  | _, [] => .error .incompleteKey
  | depth, c :: rest => do
    if c = (')' : CodePoint) then
      match depth with
      | 0 => pure ([], rest)
      | depth + 1 =>
        let (key, after) ← keyFrom depth rest
        pure (c :: key, after)
    else
      let (key, after) ← keyFrom (if c = ('(' : CodePoint) then depth + 1 else depth) rest
      pure (c :: key, after)

/-- Reads a key, if there is one, and selects its value. -/
def readKey (s : Supply) : Text → Except TemplateFlaw (Supply × Text)
  | [] => .ok (s, [])
  | c :: rest =>
    if c = ('(' : CodePoint) then
      if s.members.isNone then .error .noMapping
      else do
        let (key, after) ← keyFrom 0 rest
        pure (← s.select key, after)
    else .ok (s, c :: rest)

/-- A number at the front of a text: digits, of which there may be none, or an asterisk for an
argument. -/
def readAmount (s : Supply) (tooLarge : TemplateFlaw) (limit : Nat) :
    Text → Except TemplateFlaw (Option Int × Supply × Text)
  | [] => .ok (none, s, [])
  | c :: rest =>
    if c = ('*' : CodePoint) then do
      let (value, s) ← s.next
      match integer? value with
      | some i => pure (some i, s, rest)
      | none => .error .noAmount
    else
      let digits := (c :: rest).takeWhile CodePoint.isAsciiDigit
      let after := (c :: rest).dropWhile CodePoint.isAsciiDigit
      if digits.isEmpty then .ok (none, s, after)
      else if limit < Text.digitsValue digits ∧ 1 < digits.length then .error tooLarge
      else .ok (some (Text.digitsValue digits), s, after)

/-- The greatest width. -/
def widthLimit : Nat := 0x7FFFFFFFFFFFFFFF

/-- Refuses an amount beyond a limit in either direction. -/
def checkAmount (tooLarge : TemplateFlaw) (limit : Nat) (i : Int) : Except TemplateFlaw Int :=
  if -(limit : Int) - 1 ≤ i ∧ i ≤ limit then .ok i else .error tooLarge

/-- Reads a width; a negative one aligns to the left. -/
def readWidth (style : Style) (s : Supply) (t : Text) :
    Except TemplateFlaw (Style × Supply × Text) := do
  let (width, s, after) ← readAmount s .widthTooLarge widthLimit t
  let width ← checkAmount .widthArgumentTooLarge widthLimit (width.getD 0)
  pure ({ style with width := width.natAbs, left := style.left || width < 0 }, s, after)

/-- Reads a precision, if a point announces one; a negative one counts as zero. -/
def readPrecision (style : Style) (s : Supply) :
    Text → Except TemplateFlaw (Style × Supply × Text)
  | [] => .ok (style, s, [])
  | c :: rest =>
    if c = ('.' : CodePoint) then do
      let (precision, s, after) ← readAmount s .precisionTooLarge precisionLimit rest
      let precision ← checkAmount .precisionArgumentTooLarge precisionLimit (precision.getD 0)
      pure ({ style with precision := some precision.toNat }, s, after)
    else .ok (style, s, c :: rest)

/-- What follows a letter for the size of an argument, which means nothing. -/
def skipSize : Text → Text
  | [] => []
  | c :: rest => if List.elem c ("hlL" : Text) then rest else c :: rest

/-- Reads what follows a percent sign and shows the argument. The template has `total` code
points. -/
def directive (total : Nat) (s : Supply) (t : Text) :
    Except TemplateFlaw (Text × Supply × Text) := do
  let (s, t) ← readKey s t
  let style := Style.ofFlags (t.takeWhile isFlag)
  let (style, s, t) ← readWidth style s (t.dropWhile isFlag)
  let (style, s, t) ← readPrecision style s t
  match skipSize t with
  | [] => .error .incomplete
  | letter :: rest =>
    let (value, s) ← s.next
    let body ← convert style letter (total - rest.length - 1) value
    checkRoom style.width
    pure (body.pad style, s, rest)

/-- Shows what stands at the front of a template: a code point, a percent sign that is written
twice, or a directive. -/
def showFront (total : Nat) (s : Supply) (c : CodePoint) (rest : Text) :
    Except TemplateFlaw (Text × Supply × Text) :=
  if c ≠ percentSign then .ok ([c], s, rest)
  else
    match rest with
    | d :: after => if d = percentSign then .ok ([d], s, after) else directive total s rest
    | [] => directive total s rest

/-- Fills in a template. The fuel is a bound on its length. -/
def fill (total : Nat) : (fuel : Nat) → Supply → Text → Except TemplateFlaw Text
  | _, s, [] => if s.isUnused then .error .unusedArguments else .ok []
  | 0, _, _ => .ok []
  | fuel + 1, s, c :: rest => do
    let (shown, s, rest) ← showFront total s c rest
    return shown ++ (← fill total fuel s rest)

/-- The message of a template and its arguments. -/
def message (template : Text) : List Json → Except TemplateFlaw Text
  | [] => .ok template
  | arguments =>
    fill template.length template.length (Supply.ofArguments arguments) template

end Polyglot.Log.Template
