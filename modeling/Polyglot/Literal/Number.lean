import Polyglot.Literal.Flaw

/-! # Numbers of expressions

A number is a run of digits in one of four bases, or has a point, an exponent or the mark of an
imaginary number. Digits may be joined by single signs. Each function passes a part of a number and
gives what follows it.
-/

namespace Polyglot.Literal

/-- Holds of a code point of ASCII. -/
def isAscii (c : CodePoint) : Bool := c.val < 0x80

/-- Holds of a sign that a name may begin with; letters beyond ASCII are looked at later. -/
def startsName (c : CodePoint) : Bool :=
  c.isAsciiLower || c.isAsciiUpper || c == '_' || 0x80 ≤ c.val

/-- Holds of a sign that a name may go on with; letters beyond ASCII are looked at later. -/
def continuesName (c : CodePoint) : Bool := startsName c || c.isAsciiDigit

/-- The words that may follow a number without a blank. -/
def followers : List Text := ["and", "else", "for", "or", "not"]

/-- The beginnings of words that may follow a number without a blank. -/
def followerStarts : List Text := ["if", "in", "is"]

/-- Holds when a word that may follow a number comes next. -/
def startsFollower (t : Text) : Bool :=
  followers.contains (t.takeWhile continuesName) ||
    followerStarts.any fun start => start.isPrefixOf t

/-- Ends a number of some form before a text. Apart from certain words nothing may follow that a
name may go on with. -/
def endNumber (form : NumberForm) (t : Text) : Except Flaw Text :=
  if !startsFollower t && (t.head?.map continuesName).getD false then .error (.badNumber form)
  else .ok t

/-- A digit of some kind, or the sign that joins two of them. -/
def isDigitOrJoiner (isDigit : CodePoint → Bool) (c : CodePoint) : Bool := isDigit c || c == '_'

/-- Passes digits that may be joined; a digit stands before them. -/
def passDigits (t : Text) : Except Flaw Text :=
  let run := t.takeWhile (isDigitOrJoiner CodePoint.isAsciiDigit)
  if (Text.cutAt '_' run).tail.any List.isEmpty then .error (.badNumber .decimal)
  else .ok (t.drop run.length)

/-- Passes the mark of an imaginary number and ends the number. -/
def passImaginary : Text → Except Flaw Text
  | [] => .ok []
  | c :: rest =>
    if c = 'j' ∨ c = 'J' then endNumber .imaginary rest else endNumber .decimal (c :: rest)

/-- Holds when a text begins with a digit. -/
def startsDigit (t : Text) : Bool := (t.head?.map CodePoint.isAsciiDigit).getD false

/-- A text without a sign of a number at its front. -/
def dropSign (t : Text) : Text :=
  if t.head? = some '+' ∨ t.head? = some '-' then t.tail else t

/-- Passes an exponent and ends the number. -/
def passExponent (t : Text) : Except Flaw Text :=
  match t with
  | [] => .ok []
  | c :: rest =>
    if c = 'e' ∨ c = 'E' then
      let digits := dropSign rest
      if startsDigit digits then do passImaginary (← passDigits digits)
      else if digits.length < rest.length then .error (.badNumber .decimal)
      else endNumber .decimal t
    else passImaginary t

/-- Passes what follows the point of a number. -/
def passFraction (t : Text) : Except Flaw Text := do
  passExponent (← if startsDigit t then passDigits t else pure t)

/-- Passes what follows the digits of the whole part of a number. -/
def passAfterWhole (t : Text) : Except Flaw Text :=
  if t.head? = some '.' then passFraction t.tail else passExponent t

/-- Passes the digits of a number in another base. -/
def passBased (form : NumberForm) (isDigit : CodePoint → Bool) (t : Text) : Except Flaw Text :=
  let run := t.takeWhile (isDigitOrJoiner isDigit)
  let groups := Text.cutAt '_' run
  let groups := if run.head? = some '_' then groups.tail else groups
  let rest := t.drop run.length
  let next? := rest.head?.filter CodePoint.isAsciiDigit
  if groups.dropLast.any List.isEmpty then .error (.badNumber form)
  else
    match next? with
    | some digit => .error (.badDigit digit form)
    | none =>
      if (groups.getLast?.map List.isEmpty).getD true then .error (.badNumber form)
      else endNumber form rest

/-- Passes what follows a zero at the front of a number. -/
def passAfterZero (t : Text) : Except Flaw Text :=
  match t with
  | [] => .ok []
  | c :: rest =>
    if c = 'x' ∨ c = 'X' then passBased .hexadecimal (fun d => d.hexValue?.isSome) rest
    else if c = 'o' ∨ c = 'O' then passBased .octal (fun d => 0x30 ≤ d.val && d.val < 0x38) rest
    else if c = 'b' ∨ c = 'B' then passBased .binary (fun d => d == '0' || d == '1') rest
    else do
      let after ← passDigits t
      let digits := t.take (t.length - after.length)
      if (after.head?.map fun d => List.elem d (".eEjJ" : Text)).getD false then
        passAfterWhole after
      else if digits.any fun d => d.isAsciiDigit && d != '0' then .error .leadingZeros
      else endNumber .decimal after

/-- Passes a number, which begins with a digit, or with a point before one. -/
def passNumber : Text → Except Flaw Text
  | [] => .ok []
  | c :: rest =>
    if c = '.' then passFraction rest
    else if c = '0' then passAfterZero rest
    else do passAfterWhole (← passDigits rest)

end Polyglot.Literal
