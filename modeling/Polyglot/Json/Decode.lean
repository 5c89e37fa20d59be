import Polyglot.Json.Basic
import Polyglot.Number.Binary64

/-! # Reading JSON

The reader accepts the grammar of JSON and the three literals for what is no finite number. It
works on what remains of the text; a complaint carries the remainder at which it arose, and from it
come position, line and column. Lists and objects may be nested up to a limit, and an integer may
have up to a fixed number of digits; passing either limit is no complaint about the grammar.
-/

namespace Polyglot.Json

/-- What the reader may miss or dislike in a text. -/
inductive Complaint where
  | byteOrderMark
  | noValue
  | noPropertyName
  | noColon
  | noComma
  | extraData
  | openString
  | controlCharacter
  | badEscape
  | badHexEscape

/-- Why reading stopped; `rest` begins at the code point that the complaint is about. -/
inductive Stop where
  | complaint (complaint : Complaint) (rest : Text)
  | longInteger (digits : Nat)
  | tooDeep

/-- A value and what follows it, or the reason for stopping. -/
abbrev Reading (α : Type) := Except Stop (α × Text)

/-- The four blanks of JSON. -/
def isBlank (c : CodePoint) : Bool :=
  c == 0x20 || c == CodePoint.tab || c == CodePoint.lineFeed || c == CodePoint.carriageReturn

/-- What follows the blanks at the front. -/
def skipBlanks (s : Text) : Text := s.dropWhile isBlank

/-- The code point that an escape of one letter stands for. -/
def escape? (c : CodePoint) : Option CodePoint :=
  if c = CodePoint.quotationMark ∨ c = CodePoint.backslash ∨ c = '/' then some c
  else if c = 'b' then some 0x08
  else if c = 'f' then some 0x0C
  else if c = 'n' then some CodePoint.lineFeed
  else if c = 'r' then some CodePoint.carriageReturn
  else if c = 't' then some CodePoint.tab
  else none

/-- The code point that four hexadecimal digits name. -/
def hexPoint? (a b c d : CodePoint) : Option CodePoint := do
  let digits ← [a, b, c, d].mapM CodePoint.hexValue?
  pure (CodePoint.ofNat (ofDigits 16 digits))

/-- Holds where a hexadecimal escape begins. -/
def startsHexEscape : Text → Bool
  | c :: d :: _ => c == CodePoint.backslash && d == 'u'
  | _ => false

/-- Puts an escaped code point in front of the text that was read after it. A high surrogate and a
low one that is escaped too become one code point. -/
def joinEscaped (c : CodePoint) (nextIsEscape : Bool) : Text → Text
  | [] => [c]
  | d :: t =>
    if nextIsEscape ∧ c.isHighSurrogate ∧ d.isLowSurrogate then CodePoint.ofPair c d :: t
    else c :: d :: t

/-- Puts something in front of the text of a reading. -/
def Reading.onText (f : Text → Text) (r : Reading Text) : Reading Text :=
  r.map fun (t, rest) => (f t, rest)

/-- Reads a string after its opening mark; `opening` is the remainder that begins with this mark. A
hexadecimal escape needs four digits and a code point after them. -/
def readString (opening : Text) : Text → Reading Text
  | [] => .error (.complaint .openString opening)
  | c :: rest =>
    if c = CodePoint.quotationMark then .ok ([], rest)
    else if c.val < 0x20 then .error (.complaint .controlCharacter (c :: rest))
    else if c ≠ CodePoint.backslash then (readString opening rest).onText (c :: ·)
    else
      match rest with
      | [] => .error (.complaint .openString opening)
      | d :: rest =>
        if d = 'u' then
          match rest with
          | h₁ :: h₂ :: h₃ :: h₄ :: tail =>
            match hexPoint? h₁ h₂ h₃ h₄, tail with
            | some e, _ :: _ =>
              (readString opening tail).onText (joinEscaped e (startsHexEscape tail))
            | _, _ => .error (.complaint .badHexEscape (d :: rest))
          | _ => .error (.complaint .badHexEscape (d :: rest))
        else
          match escape? d with
          | some e => (readString opening rest).onText (e :: ·)
          | none => .error (.complaint .badEscape (c :: d :: rest))

/-- An integer has at most this many digits. -/
def digitLimit : Nat := 4300

/-- The parts of a number: its sign, the digits before the point, the digits after it, and the
exponent of ten. An integer has neither of the last two. -/
structure Numeral where
  negative : Bool
  whole : Text
  fraction : Option Text
  exponent : Option Int

/-- Takes the digits of the integer part: a zero alone, or digits that begin with another one. -/
def takeWhole : Text → Option (Text × Text)
  | [] => none
  | c :: rest =>
    if c = '0' then some ([c], rest)
    else if CodePoint.isAsciiDigit c then some ((c :: rest).span CodePoint.isAsciiDigit)
    else none

/-- Takes a point and the digits after it; a point without a digit is left. -/
def takeFraction (s : Text) : Option Text × Text :=
  match s with
  | c :: rest =>
    if c = '.' then
      match rest.span CodePoint.isAsciiDigit with
      | ([], _) => (none, s)
      | (digits, rest) => (some digits, rest)
    else (none, s)
  | [] => (none, s)

/-- Takes a sign. -/
def takeSign : Text → Bool × Text
  | [] => (false, [])
  | c :: rest =>
    if c = '-' then (true, rest) else if c = '+' then (false, rest) else (false, c :: rest)

/-- Takes an exponent; a letter without digits after it is left. -/
def takeExponent (s : Text) : Option Int × Text :=
  match s with
  | c :: rest =>
    if c = 'e' ∨ c = 'E' then
      let (negative, rest) := takeSign rest
      match rest.span CodePoint.isAsciiDigit with
      | ([], _) => (none, s)
      | (digits, rest) =>
        let e : Int := Text.digitsValue digits
        (some (if negative then -e else e), rest)
    else (none, s)
  | [] => (none, s)

/-- Takes the longest number at the front. -/
def takeNumeral (s : Text) : Option (Numeral × Text) := do
  let (negative, unsigned) :=
    match s with
    | c :: rest => if c = '-' then (true, rest) else (false, s)
    | [] => (false, s)
  let (whole, rest) ← takeWhole unsigned
  let (fraction, rest) := takeFraction rest
  let (exponent, rest) := takeExponent rest
  pure (⟨negative, whole, fraction, exponent⟩, rest)

/-- The value of a number. -/
def Numeral.value (n : Numeral) : Except Stop Json :=
  match n.fraction, n.exponent with
  | none, none =>
    if digitLimit < n.whole.length then .error (.longInteger n.whole.length)
    else
      let i : Int := Text.digitsValue n.whole
      .ok (.int (if n.negative then -i else i))
  | fraction, exponent =>
    let after := fraction.getD []
    .ok (.double (Binary64.ofDecimal n.negative (Text.digitsValue (n.whole ++ after))
      (exponent.getD 0 - after.length)))

/-- Positive infinity. -/
def infinity : Float := Float.ofBits 0x7FF0000000000000

/-- What is no number. -/
def nan : Float := Float.ofBits 0x7FF8000000000000

/-- The words that stand for a value. -/
def words : List (Text × Json) :=
  [("null", .null), ("true", .bool true), ("false", .bool false), ("NaN", .double nan),
    ("Infinity", .double infinity), ("-Infinity", .double (-infinity))]

/-- Takes a word at the front. -/
def takeWord (s : Text) : Option (Json × Text) :=
  words.findSome? fun (word, v) =>
    if word.isPrefixOf s then some (v, s.drop word.length) else none

/-- Reads a word or a number. -/
def readAtom (s : Text) : Reading Json :=
  match takeWord s with
  | some result => .ok result
  | none =>
    match takeNumeral s with
    | none => .error (.complaint .noValue s)
    | some (n, rest) => n.value.map fun v => (v, rest)

mutual

/-- Reads a value. Each step takes one from `fuel`, which twice the length of the text covers;
`depth` is the number of lists and objects that may still be opened. -/
def readValue (fuel depth : Nat) (s : Text) : Reading Json :=
  match fuel with
  | 0 => .error .tooDeep
  | fuel + 1 =>
    match s with
    | [] => .error (.complaint .noValue s)
    | c :: rest =>
      if c = CodePoint.quotationMark then
        (readString s rest).map fun (t, rest) => (.text t, rest)
      else if c = CodePoint.openBrace then
        match depth, skipBlanks rest with
        | 0, _ => .error .tooDeep
        | depth + 1, inner =>
          if inner.head? = some CodePoint.closeBrace then .ok (.object [], inner.tail)
          else
            (readMembers fuel depth inner).map fun (members, rest) =>
              (.object (Entries.ofList members), rest)
      else if c = CodePoint.openBracket then
        match depth, skipBlanks rest with
        | 0, _ => .error .tooDeep
        | depth + 1, inner =>
          if inner.head? = some CodePoint.closeBracket then .ok (.list [], inner.tail)
          else (readItems fuel depth inner).map fun (items, rest) => (.list items, rest)
      else readAtom s

/-- Reads the items of a list from a place where one begins, and the closing bracket. -/
def readItems (fuel depth : Nat) (s : Text) : Except Stop (List Json × Text) :=
  match fuel with
  | 0 => .error .tooDeep
  | fuel + 1 => do
    let (item, rest) ← readValue fuel depth s
    let rest := skipBlanks rest
    if rest.head? = some CodePoint.closeBracket then pure ([item], rest.tail)
    else if rest.head? = some ',' then
      let (items, rest) ← readItems fuel depth (skipBlanks rest.tail)
      pure (item :: items, rest)
    else .error (.complaint .noComma rest)

/-- Reads the members of an object from a place where one begins, and the closing brace. -/
def readMembers (fuel depth : Nat) (s : Text) : Except Stop (List (Text × Json) × Text) :=
  match fuel with
  | 0 => .error .tooDeep
  | fuel + 1 => do
    if s.head? ≠ some CodePoint.quotationMark then .error (.complaint .noPropertyName s)
    else
      let (key, rest) ← readString s s.tail
      let rest := skipBlanks rest
      if rest.head? ≠ some ':' then .error (.complaint .noColon rest)
      else
        let (value, rest) ← readValue fuel depth (skipBlanks rest.tail)
        let rest := skipBlanks rest
        if rest.head? = some CodePoint.closeBrace then pure ([(key, value)], rest.tail)
        else if rest.head? = some ',' then
          let (members, rest) ← readMembers fuel depth (skipBlanks rest.tail)
          pure ((key, value) :: members, rest)
        else .error (.complaint .noComma rest)

end

/-- Reads a text that holds one value and blanks. -/
def read (depth : Nat) (s : Text) : Except Stop Json :=
  if s.head? = some CodePoint.byteOrderMark then .error (.complaint .byteOrderMark s)
  else do
    let (value, rest) ← readValue (2 * s.length + 2) depth (skipBlanks s)
    let rest := skipBlanks rest
    if rest.isEmpty then pure value else .error (.complaint .extraData rest)

/-- A place in a text: the code points before it, its line, and its column in this line. -/
structure Place where
  offset : Nat
  line : Nat
  column : Nat

/-- The place where a remainder of a text begins. -/
def placeOf (s rest : Text) : Place :=
  let before := s.take (s.length - rest.length)
  { offset := before.length
    line := before.count CodePoint.lineFeed + 1
    column := (before.reverse.takeWhile (· ≠ CodePoint.lineFeed)).length + 1 }

/-- Why a text is not read as a value. -/
inductive DecodeError where
  /-- The text is not in the grammar. -/
  | malformed (complaint : Complaint) (place : Place)
  /-- An integer has more digits than the limit. -/
  | longInteger (digits : Nat)
  /-- Lists and objects are nested beyond the limit. -/
  | tooDeep

/-- Reads a text that holds one value, nested at most `depth` deep. -/
def decode (depth : Nat) (s : Text) : Except DecodeError Json :=
  (read depth s).mapError fun
    | .complaint complaint rest => .malformed complaint (placeOf s rest)
    | .longInteger digits => .longInteger digits
    | .tooDeep => .tooDeep

/-- The words of a complaint. -/
def Complaint.message : Complaint → Text
  | .byteOrderMark => "Unexpected UTF-8 BOM (decode using utf-8-sig)"
  | .noValue => "Expecting value"
  | .noPropertyName => "Expecting property name enclosed in double quotes"
  | .noColon => "Expecting ':' delimiter"
  | .noComma => "Expecting ',' delimiter"
  | .extraData => "Extra data"
  | .openString => "Unterminated string starting at"
  | .controlCharacter => "Invalid control character at"
  | .badEscape => "Invalid \\escape"
  | .badHexEscape => "Invalid \\uXXXX escape"

/-- The line, column and offset that end a message. -/
def Place.message (p : Place) : Text :=
  "line " ++ Text.ofNat p.line ++ " column " ++ Text.ofNat p.column ++ " (char " ++
    Text.ofNat p.offset ++ ")"

/-- The message about an integer with too many digits. -/
def longIntegerMessage (digits : Nat) : Text :=
  "Exceeds the limit (" ++ Text.ofNat digitLimit ++
    " digits) for integer string conversion: value has " ++ Text.ofNat digits ++
    " digits; use sys.set_int_max_str_digits() to increase the limit"

end Polyglot.Json
