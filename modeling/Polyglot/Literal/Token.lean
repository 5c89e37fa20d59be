import Polyglot.Literal.Number
import Polyglot.Text.Utf8
import Polyglot.Text.Word

/-! # Tokens of expressions

An expression is made of names, numbers, strings and signs. Blanks separate tokens, a hash begins a
comment, and a backslash joins a line with the next one. Outside of brackets the end of a line is a
token, and so is a change of the blanks at the front of a line. A text that cannot be cut into
tokens has a flaw. Some flaws are noticed only by a reader that comes so far; such a flaw is the
last token.
-/

namespace Polyglot.Literal

/-- What a token is. -/
inductive Lexeme where
  | name (t : Text)
  | number (t : Text)
  /-- A string as it is written. -/
  | string (t : Text)
  | sign (t : Text)
  | newline
  | indent
  | dedent
  /-- The end of the text. -/
  | finish
  /-- A flaw for a reader that comes here. -/
  | stop (flaw : Flaw)

/-- Where a text begins in a text around it: the line, and the column in bytes. -/
structure Origin where
  line : Nat
  column : Nat

/-- Where a text begins that has no other one around it. -/
def Origin.outermost : Origin := ⟨1, 0⟩

/-- A token, the line and the column at which it begins, the column after it, the number of brackets
that are open after it, and whether the end of the text was noticed when it was made. Columns count
bytes; only on the first line of a text they include the column at which the text begins. -/
structure Token where
  lexeme : Lexeme
  line : Nat
  column : Nat
  nextColumn : Nat
  depth : Nat
  isAtEnd : Bool

/-- The tokens of a text, the innermost bracket that is open at their end, with its line, and the
flaw of the text, if there is one that no reader has to come to. -/
structure Tokens where
  list : List Token
  openBracket : Option (CodePoint × Nat)
  flaw? : Option Flaw

/-! ### Strings -/

/-- The letters before the quotation mark of a string, in small form. -/
def stringPrefixes : List Text := ["", "b", "r", "u", "f", "br", "rb", "fr", "rf"]

/-- A quotation mark. -/
def isQuote (c : CodePoint) : Bool := c == CodePoint.quotationMark || c == CodePoint.apostrophe

/-- The number of letters before the quotation mark with which a string begins. -/
def stringPrefix? (t : Text) : Option Nat :=
  let letters := t.takeWhile fun c => !isQuote c && continuesName c
  let after := t.drop letters.length
  if stringPrefixes.contains (Text.asciiLower letters) && (after.head?.map isQuote).getD false then
    some letters.length
  else none

/-- The length of a string up to its end, which is a number of quotation marks in a row; `seen` of
them stand right before, and `length` code points were passed. A string with a single mark at its
end has to end on its line. -/
def stringLength (quote : CodePoint) (marks : Nat) (escaped : Bool) (seen line length : Nat) :
    Text → Except Flaw Nat
  | [] => .error (if marks = 1 then .openString line else .openLongString line)
  | c :: rest =>
    let next := if c = CodePoint.lineFeed then line + 1 else line
    let length := length + 1
    if escaped then stringLength quote marks false 0 next length rest
    else if c = CodePoint.lineFeed ∧ marks = 1 then .error (.openString line)
    else if c = quote then
      if seen + 1 = marks then .ok length
      else stringLength quote marks false (seen + 1) next length rest
    else stringLength quote marks (c = CodePoint.backslash) 0 next length rest

/-- The length of a string that begins with a quotation mark on a line. -/
def quotedLength (line : Nat) : Text → Except Flaw Nat
  | [] => .ok 0
  | quote :: rest =>
    if rest.take 2 == [quote, quote] then stringLength quote 3 false 0 line 3 (rest.drop 2)
    else stringLength quote 1 false 0 line 1 rest

/-! ### Names and signs -/

/-- Refuses a name with a sign that no name has. -/
def checkName (name : Text) : Except Flaw Unit :=
  let isBad (e : CodePoint × Nat) : Bool :=
    if e.2 = 0 then !e.1.isNameStart else !e.1.isNamePart
  match name.zipIdx.find? isBad with
  | none => .ok ()
  | some (c, _) => .error (if c.isPrintable then .badCharacter c else .unprintable c)

/-- The signs of more than one code point, the longer ones first. -/
def longSigns : List Text :=
  ["**=", "//=", ">>=", "<<=", "...", "!=", "%=", "&=", "**", "*=", "+=", "-=", "->", "//", "/=",
    ":=", "<<", "<=", "<>", "==", ">=", ">>", "@=", "^=", "|="]

/-- The sign at the front of a text. -/
def signOf (t : Text) : Text :=
  (longSigns.find? fun sign => sign.isPrefixOf t).getD (t.take 1)

/-- The opening bracket for a closing one. -/
def opening? (c : CodePoint) : Option CodePoint :=
  if c = ')' then some '('
  else if c = CodePoint.closeBracket then some CodePoint.openBracket
  else if c = CodePoint.closeBrace then some CodePoint.openBrace
  else none

/-- Holds of an opening bracket. -/
def opens (c : CodePoint) : Bool :=
  c == '(' || c == CodePoint.openBracket || c == CodePoint.openBrace

/-! ### Lines -/

/-- Where the first token of a line stands, counted in two ways that differ on tabs. -/
structure Column where
  /-- A tab goes on to the next multiple of eight. -/
  wide : Nat
  /-- A tab is as wide as a blank. -/
  narrow : Nat

/-- The column at the front of a line. -/
def Column.zero : Column := ⟨0, 0⟩

/-- The column after a blank. -/
def Column.next (column : Column) : Column := ⟨column.wide + 1, column.narrow + 1⟩

/-- The column after a tab. -/
def Column.afterTab (column : Column) : Column := ⟨(column.wide / 8 + 1) * 8, column.narrow + 1⟩

/-- Where the cutting into tokens stands: the origin of the text, the line, the bytes before it on
that line, the brackets that are open with their lines, the innermost first, the columns at which
lines have begun, and whether the next sign is the first one of its line, or belongs to a line
without tokens. -/
structure Position where
  origin : Origin
  line : Nat
  column : Nat
  brackets : List (CodePoint × Nat)
  columns : List Column
  isFresh : Bool
  isBlank : Bool

/-- The position at the front of a text. -/
def Position.start (origin : Origin) : Position := ⟨origin, origin.line, 0, [], [], true, false⟩

/-- The bytes of the last line of a text. -/
def lastLineWidth (t : Text) : Nat :=
  Text.measure Utf8.width ((t.reverse.takeWhile (· ≠ CodePoint.lineFeed)).reverse)

/-- The position after a text that moves it. -/
def Position.moved (p : Position) (t : Text) : Position :=
  let width := lastLineWidth t
  { p with column := if t.contains CodePoint.lineFeed then width else p.column + width }

/-- The greatest number of brackets that are open together. -/
def bracketLimit : Nat := 200

/-- Opens or closes a bracket. -/
def Position.push (p : Position) (c : CodePoint) : Except Flaw Position :=
  match opening? c, p.brackets with
  | some _, [] => .error (.unmatched c)
  | some opening, (found, line) :: outer =>
    if found = opening then .ok { p with brackets := outer }
    else .error (.mismatched c found (if line = p.line then none else some line))
  | none, _ =>
    if !opens c then .ok p
    else if bracketLimit ≤ p.brackets.length then .error .tooManyBrackets
    else .ok { p with brackets := (c, p.line) :: p.brackets }

/-- The front of a line: the column of the first token, and what begins there. If the line is joined
of several ones, the first column with a backslash counts, which is `joined`, unless there are no
blanks before it. Nothing when a backslash joins no lines. -/
def lineFront? (joined column : Column) : Text → Option (Column × Text)
  | [] => some (if joined.wide = 0 then column else joined, [])
  | c :: rest =>
    if c = 0x20 then lineFront? joined column.next rest
    else if c = CodePoint.tab then lineFront? joined column.afterTab rest
    else if c = 0x0C then lineFront? joined .zero rest
    else if c = CodePoint.backslash then
      match rest with
      | d :: after =>
        if d = CodePoint.lineFeed ∧ !after.isEmpty then
          lineFront? (if joined.wide = 0 then ⟨column.wide, column.wide⟩ else joined) column after
        else none
      | [] => none
    else some (if joined.wide = 0 then column else joined, c :: rest)

/-- The greatest number of columns at which lines begin, one in another. -/
def columnLimit : Nat := 100

/-- The tokens for the blanks at the front of a line, and the columns of the lines after it. -/
def changeColumn (columns : List Column) (column : Column) : List Lexeme × List Column :=
  let outer := columns.dropWhile fun c => column.wide < c.wide
  let dedents := List.replicate (columns.length - outer.length) Lexeme.dedent
  let last := outer.headD .zero
  if column.wide = last.wide then
    if column.narrow = last.narrow then (dedents, outer) else ([.stop .mixedBlanks], columns)
  else if !dedents.isEmpty then ([.stop .badDedent], columns)
  else if columnLimit ≤ columns.length + 1 then ([.stop .tooManyColumns], columns)
  else if column.narrow ≤ last.narrow then ([.stop .mixedBlanks], columns)
  else ([.indent], column :: columns)

/-- Begins a line if the next sign is the first one of it. -/
def Position.beginLine (p : Position) (t : Text) : List Lexeme × Position :=
  if !p.isFresh then ([], p)
  else
    let p := { p with isFresh := false, isBlank := false }
    match lineFront? .zero .zero t with
    | none => ([], p)
    | some (column, rest) =>
      let isBlank := rest.head? = some '#' || rest.head? = some CodePoint.lineFeed
      let p := { p with isBlank }
      if isBlank || !p.brackets.isEmpty then ([], p)
      else
        let (lexemes, columns) := changeColumn p.columns column
        (lexemes, { p with columns })

/-! ### Texts -/

/-- What the front of a text is: the token there, if it is one, the number of code points of it, and
the position after it. -/
structure Front where
  lexeme : Option Lexeme
  length : Nat
  next : Position

/-- The token that is made of a text. -/
def Front.of (p : Position) (t : Text) (lexeme : Text → Lexeme) : Front :=
  ⟨some (lexeme t), t.length, { p with line := p.line + t.count CodePoint.lineFeed }⟩

/-- The number of code points at the front of a text that may belong to a number; a sign belongs to
it only after the letter of an exponent. -/
def numberReach (afterLetter : Bool) : Text → Nat
  | [] => 0
  | c :: rest =>
    if (isAscii c && continuesName c) || c == '.' || (afterLetter && (c == '+' || c == '-')) then
      numberReach (c == 'e' || c == 'E') rest + 1
    else 0

/-- The number at the front of a text. What decides on its end is not far behind it. -/
def frontNumber (t : Text) : Except Flaw Text := do
  let near := t.take (numberReach false t + 1)
  let rest ← passNumber near
  return near.take (near.length - rest.length)

/-- What a backslash outside of strings is the front of. -/
def joinLines (p : Position) (rest : Text) : Front :=
  match rest with
  | c :: after =>
    if c ≠ CodePoint.lineFeed then ⟨some (.stop .badContinuation), 1, p⟩
    else if after.isEmpty then
      let flaw :=
        match p.brackets with
        | (opening, _) :: _ => Flaw.unclosed opening
        | [] => Flaw.unexpectedEnd
      ⟨some (.stop flaw), 2, p⟩
    else ⟨none, 2, { p with line := p.line + 1 }⟩
  | [] => ⟨some (.stop .badContinuation), 1, p⟩

/-- What a sign is the front of. -/
def frontSign (p : Position) (t : Text) : Except Flaw Front := do
  let sign := signOf t
  match sign with
  | [c] =>
    let next ← p.push c
    if c.isPrintable then pure ⟨some (.sign sign), 1, next⟩ else .error (.unprintable c)
  | _ => pure ⟨some (.sign sign), sign.length, p⟩

/-- What the front of a text is. -/
def front (p : Position) : Text → Except Flaw Front
  | [] => .ok ⟨none, 0, p⟩
  | t@(c :: rest) =>
    if c = 0x20 ∨ c = CodePoint.tab ∨ c = 0x0C then .ok ⟨none, 1, p⟩
    else if c = '#' then .ok ⟨none, (t.takeWhile (· ≠ CodePoint.lineFeed)).length, p⟩
    else if c = CodePoint.lineFeed then
      let lexeme := if p.isBlank || !p.brackets.isEmpty then none else some Lexeme.newline
      .ok ⟨lexeme, 1, { p with line := p.line + 1, isFresh := true }⟩
    else
      match stringPrefix? t with
      | some n => do
        return Front.of p (t.take (n + (← quotedLength p.line (t.drop n)))) .string
      | none =>
        if startsName c then do
          let name := t.takeWhile continuesName
          checkName name
          pure ⟨some (.name name), name.length, p⟩
        else if c.isAsciiDigit || (c == '.' && startsDigit rest) then do
          return Front.of p (← frontNumber t) .number
        else if c = CodePoint.backslash then .ok (joinLines p rest)
        else frontSign p t

/-- Holds of a token after which there are no others. -/
def Lexeme.isLast : Lexeme → Bool
  | finish | stop _ => true
  | _ => false

/-- Holds of a token that is known to end only when what follows it has been looked at. -/
def Lexeme.looksAhead : Lexeme → Bool
  | name _ | number _ => true
  | string t => (t.dropWhile fun c => !isQuote c).length == 2
  | sign t => t.length ≤ 2
  | _ => false

/-- The line on which a lexeme ends, given the positions before and after it. -/
def Position.lastLine (p next : Position) : Lexeme → Nat
  | .newline => p.line
  | _ => next.line

/-- A lexeme as a token at a position, given the position after it. -/
def Position.token (p next : Position) (isAtEnd : Bool) (lexeme : Lexeme) : Token :=
  let shift := if p.lastLine next lexeme = p.origin.line then p.origin.column else 0
  ⟨lexeme, p.line, shift + p.column, shift + next.column, next.brackets.length,
    isAtEnd && lexeme.looksAhead⟩

/-- Tokens that end here. -/
def Position.ending (p : Position) (list : List Token) : Tokens := ⟨list, p.brackets.head?, none⟩

/-- Tokens that end here with a flaw. -/
def Position.broken (p : Position) (list : List Token) (flaw : Flaw) : Tokens :=
  ⟨list ++ [p.token p false (.stop flaw)], p.brackets.head?, some flaw⟩

/-- Puts tokens in front of others. -/
def Tokens.after (list : List Token) (ts : Tokens) : Tokens := { ts with list := list ++ ts.list }

/-- Holds when there are no tokens after some. -/
def areLast (list : List Token) : Bool := list.any fun t => t.lexeme.isLast

/-- The tokens of a text from a position on; the first `skip` code points belong to the last one. -/
def tokensFrom (skip : Nat) (p : Position) : Text → Tokens
  | [] =>
    let lexeme :=
      match p.brackets with
      | (opening, _) :: _ => Lexeme.stop (.unclosed opening)
      | [] => .finish
    p.ending [p.token p false lexeme]
  | c :: rest =>
    match skip with
    | skip + 1 => tokensFrom skip p rest
    | 0 =>
      let (before, p) := p.beginLine (c :: rest)
      let before := before.map (p.token p false)
      if areLast before then p.ending before
      else
        match front p (c :: rest) with
        | .error flaw => p.broken before flaw
        | .ok found =>
          let isAtEnd := (rest.drop (found.length - 1)).isEmpty
          let next := found.next.moved ((c :: rest).take found.length)
          let list := before ++ (found.lexeme.map (p.token next isAtEnd)).toList
          if areLast list then next.ending list
          else (tokensFrom (found.length - 1) next rest).after list

/-- The tokens of a text. -/
def tokens (origin : Origin) (t : Text) : Tokens := tokensFrom 0 (.start origin) t

end Polyglot.Literal
