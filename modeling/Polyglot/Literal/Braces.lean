import Polyglot.Literal.Strings

/-! # Expressions in strings

A string with braces is cut into pieces: what is outside of braces, and the expressions in them. An
expression ends before a sign that says what is done with its value: a sign of equality shows the
expression itself, a conversion follows an exclamation mark, and a format follows a colon. The
format may have braces again, but those in it may not. Two braces in a row stand for one, except in
a format.
-/

namespace Polyglot.Literal

/-- A part of a string with braces. -/
inductive Piece where
  /-- What is outside of braces, if it has escapes. -/
  | plain (t : Text)
  /-- An expression with its origin and the sign after it, if that is not the closing brace. -/
  | expression (origin : Origin) (t : Text) (next : Option CodePoint)

/-! ### Outside of braces -/

/-- How a text outside of braces goes on. -/
inductive Escaping where
  | plain
  /-- A backslash is right before. -/
  | escaped
  /-- The letter of an escape with a name is right before. -/
  | beforeName
  /-- The name of an escape goes on, up to a closing brace. -/
  | named

/-- What ends a text outside of braces. -/
inductive PlainEnd where
  | finish
  | brace
  /-- Two braces in a row, the first of which belongs to the text. -/
  | doubled
  /-- A closing brace that closes nothing. -/
  | single

/-- What a brace is for the text before it, given what follows, and the number of its code points
that belong to the text. -/
def braceEnd (isOuter : Bool) (c : CodePoint) (rest : Text) : Nat × PlainEnd :=
  if !isOuter then (0, .brace)
  else if rest.head? = some c then (1, .doubled)
  else if c = CodePoint.closeBrace then (0, .single)
  else (0, .brace)

/-- The number of code points before the end of a text outside of braces, and what ends it. Braces
of the name in an escape belong to the text, even if the escape has a flaw. -/
def plainEnd (isRaw isOuter : Bool) (e : Escaping) (length : Nat) : Text → Nat × PlainEnd
  | [] => (length, .finish)
  | c :: rest =>
    let isBrace := c = CodePoint.openBrace ∨ c = CodePoint.closeBrace
    let stop :=
      let (more, stop) := braceEnd isOuter c rest
      (length + more, stop)
    match e with
    | .plain =>
      if !isRaw && c == CodePoint.backslash && !rest.isEmpty then
        plainEnd isRaw isOuter .escaped (length + 1) rest
      else if isBrace then stop
      else plainEnd isRaw isOuter .plain (length + 1) rest
    | .escaped =>
      if c = 'N' then plainEnd isRaw isOuter .beforeName (length + 1) rest
      else if isBrace then stop
      else plainEnd isRaw isOuter .plain (length + 1) rest
    | .beforeName =>
      let next := if c = CodePoint.openBrace then Escaping.named else .plain
      plainEnd isRaw isOuter next (length + 1) rest
    | .named =>
      let next := if c = CodePoint.closeBrace then Escaping.plain else .named
      plainEnd isRaw isOuter next (length + 1) rest

/-! ### In braces -/

/-- Where the search for the end of an expression stands: the quotation mark of the string that is
open, whether it is one of three, and the brackets that are open, the innermost first. -/
structure Search where
  quote? : Option (CodePoint × Bool)
  brackets : List CodePoint

/-- The flaw of braces whose expression has no end. -/
def Search.flaw (s : Search) : BraceFlaw :=
  match s.quote?, s.brackets with
  | some _, _ => .openString
  | none, bracket :: _ => .unmatched bracket
  | none, [] => .unfinished

/-- Opens a string or a bracket, or closes a bracket, and tells how many code points after the first
one belong to that. -/
def Search.enter (s : Search) (c : CodePoint) (rest : Text) : Except BraceFlaw (Search × Nat) :=
  if isQuote c then
    let isTriple := rest.take 2 == [c, c]
    .ok ({ s with quote? := some (c, isTriple) }, if isTriple then 2 else 0)
  else if opens c then
    if bracketLimit ≤ s.brackets.length then .error .tooManyBrackets
    else .ok ({ s with brackets := c :: s.brackets }, 0)
  else
    match opening? c, s.brackets with
    | none, _ => .ok (s, 0)
    | some _, [] => .error (.unmatched c)
    | some opening, found :: outer =>
      if found = opening then .ok ({ s with brackets := outer }, 0)
      else .error (.mismatched c found)

/-- Closes a string if its mark comes next, and tells how many code points after the first one
belong to that. -/
def Search.leave (s : Search) (quote : CodePoint) (isTriple : Bool) (c : CodePoint) (rest : Text) :
    Search × Nat :=
  if c ≠ quote then (s, 0)
  else if !isTriple then ({ s with quote? := none }, 0)
  else if rest.take 2 == [c, c] then ({ s with quote? := none }, 2)
  else (s, 0)

/-- The number of code points of a sign that compares, and the end of an expression otherwise, for a
sign that is outside of brackets. -/
def comparing? (c : CodePoint) (rest : Text) : Option Nat :=
  if rest.head? = some '=' ∧ List.elem c ("!=<>" : Text) then some 1
  else if c = '<' ∨ c = '>' then some 0
  else none

/-- Holds of a sign that may end an expression in braces or compare. -/
def maybeEnds (c : CodePoint) : Bool := List.elem c ("!:\x7d=<>" : Text)

/-- The number of code points before the end of an expression in braces; `skip` code points have
been looked at. -/
def expressionLength (s : Search) (skip length : Nat) : Text → Except BraceFlaw Nat
  | [] => .error s.flaw
  | c :: rest =>
    match skip with
    | skip + 1 => expressionLength s skip (length + 1) rest
    | 0 =>
      if c = CodePoint.backslash then .error .backslash
      else
        match s.quote? with
        | some (quote, isTriple) =>
          let (s, skip) := s.leave quote isTriple c rest
          expressionLength s skip (length + 1) rest
        | none =>
          if c = '#' then .error .comment
          else if maybeEnds c && s.brackets.isEmpty then
            match comparing? c rest with
            | some skip => expressionLength s skip (length + 1) rest
            | none => .ok length
          else
            match s.enter c rest with
            | .error flaw => .error flaw
            | .ok (s, skip) => expressionLength s skip (length + 1) rest

/-- Passes the sign of equality after an expression and the blanks behind it. -/
def passEquality (t : Text) : Text :=
  if t.head? = some '=' then
    t.tail.dropWhile fun c => c = 0x20 || (0x09 ≤ c.val && c.val ≤ 0x0D)
  else t

/-- Passes a conversion. -/
def passConversion : Text → Except BraceFlaw Text
  | [] => .error .unfinished
  | c :: rest =>
    if c ≠ '!' then .ok (c :: rest)
    else
      match rest with
      | [] => .error .unfinished
      | letter :: rest =>
        if !List.elem letter ("sra" : Text) then .error .conversion
        else if rest.isEmpty then .error .unfinished
        else .ok rest

/-! ### Pieces -/

/-- The pieces of a string up to its end, up to the brace that ends a format, or up to a flaw. -/
structure Pieces where
  list : List Piece
  rest : Except BraceFlaw Text

/-- Puts pieces in front of others. -/
def Pieces.after (list : List Piece) (ps : Pieces) : Pieces := { ps with list := list ++ ps.list }

/-- Goes on after pieces that have no flaw. -/
def Pieces.andThen (ps : Pieces) (next : Text → Pieces) : Pieces :=
  match ps.rest with
  | .ok rest => (next rest).after ps.list
  | .error _ => ps

/-- Formats may be inside of so many others. -/
def formatLimit : Nat := 2

/-- The origin of the expression in a brace, given the origin of its string and what is left of the
string from the brace on. An expression on lines of its own has no column; otherwise the column is
the one of the brace, on the first line of the string together with the one of the string. -/
def Quotation.originAt (q : Quotation) (origin : Origin) (rest : Text) : Origin :=
  let before := q.body.take (q.body.length - rest.length)
  let lines := before.count CodePoint.lineFeed
  let isBelow :=
    (rest.tail.dropWhile fun c => c = 0x20 || c = CodePoint.tab || c = 0x0C).head? =
      some CodePoint.lineFeed
  let width := if lines = 0 then q.opening + lastLineWidth before else lastLineWidth before
  ⟨origin.line + lines,
    (if lines = 0 then origin.column else 0) + (if isBelow then 0 else width)⟩

/-- The pieces of a text. `originAt` gives the origin of an expression from its brace on, and the
second number is that of the formats that the text is in. -/
def piecesFrom (isRaw : Bool) (originAt : Text → Origin) : Nat → Nat → Text → Pieces
  | 0, _, _ => ⟨[], .ok []⟩
  | fuel + 1, level, t =>
    let (length, stop) := plainEnd isRaw (level == 0) .plain 0 t
    let plain := if isRaw || length == 0 then [] else [Piece.plain (t.take length)]
    let rest := t.drop length
    let close : Text → Pieces
      | [] => ⟨[], .error .unfinished⟩
      | c :: after =>
        if c = CodePoint.closeBrace then piecesFrom isRaw originAt fuel level after
        else ⟨[], .error .unfinished⟩
    match stop with
    | .single => ⟨[], .error .single⟩
    | .doubled => (piecesFrom isRaw originAt fuel level rest.tail).after plain
    | .finish => ⟨plain, if level = 0 then .ok [] else .error .unfinished⟩
    | .brace =>
      if rest.head? = some CodePoint.closeBrace then ⟨plain, .ok rest⟩
      else if formatLimit ≤ level then ⟨plain, .error .tooDeep⟩
      else
        match expressionLength ⟨none, []⟩ 0 0 rest.tail with
        | .error flaw => ⟨plain, .error flaw⟩
        | .ok length =>
          let after := rest.tail.drop length
          let next := after.head?.filter (· ≠ CodePoint.closeBrace)
          let expression := .expression (originAt rest) (rest.tail.take length) next
          let rest := passConversion (passEquality after)
          (Pieces.mk (plain ++ [expression]) rest).andThen fun rest =>
            if rest.head? = some ':' then
              if rest.tail.isEmpty then ⟨[], .error .unfinished⟩
              else (piecesFrom isRaw originAt fuel (level + 1) rest.tail).andThen close
            else close rest

/-- The pieces of a string with braces, given its origin. -/
def Quotation.pieces (q : Quotation) (origin : Origin) : Pieces :=
  piecesFrom q.isRaw (q.originAt origin) (q.body.length + 1) 0 q.body

/-- Holds of an expression that is none, since it has only blanks. -/
def isVoid (t : Text) : Bool :=
  t.all fun c => c = 0x20 || c = CodePoint.tab || c = CodePoint.lineFeed || c = 0x0C

section

variable {α : Type} (readOne : Origin → Text → Except Failure α)

/-- Reads the expressions in braces, given how one with an origin is read. -/
def readPieces : List Piece → Except Failure (List α)
  | [] => .ok []
  | .plain t :: rest =>
    match textFlaw? t with
    | some flaw => .error (.flaw (.escape flaw))
    | none => readPieces rest
  | .expression origin t next :: rest =>
    if isVoid t then .error (.flaw (.braces (.empty next)))
    else do
      let first ← readOne origin t
      return first :: (← readPieces rest)

/-- Reads the expressions in a string with an origin. -/
def Quotation.readBraces (q : Quotation) (origin : Origin) : Except Failure (List α) :=
  if q.hasBraces then do
    let ps := q.pieces origin
    let found ← readPieces readOne ps.list
    match ps.rest with
    | .error flaw => .error (.flaw (.braces flaw))
    | .ok _ => .ok found
  else .ok []

/-- Reads the expressions in strings that stand side by side, each with its origin; `kind?` tells
whether those before hold bytes. -/
def readStrings (kind? : Option Bool) : List (Origin × Text) → Except Failure (List α)
  | [] => .ok []
  | (origin, t) :: rest =>
    let q := Quotation.ofText t
    match q.flaw? with
    | some flaw => .error (.flaw flaw)
    | none =>
      if (kind?.map (· != q.isBytes)).getD false then .error (.flaw .mixedStrings)
      else do
        let first ← q.readBraces readOne origin
        return first ++ (← readStrings (some q.isBytes) rest)

end

end Polyglot.Literal
