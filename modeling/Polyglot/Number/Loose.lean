import Polyglot.Number.Integer

/-! # Loose numerals

A strict numeral has a hyphen if it is negative, and digits of ASCII without a zero in front of
others. A loose one may besides have white space around it, a plus sign, zeros in front, zeros after
a point at its end, and single underscores inside. A strict numeral may be too long; a loose one
that is too long without its ornaments is no numeral at all.
-/

namespace Polyglot.Loose

/-- Why a text is no numeral. -/
inductive Flaw where
  | malformed
  | tooLong
  deriving DecidableEq

/-- The sign of a negative numeral. -/
def hyphen : CodePoint := '-'

/-- The sign that a loose numeral may begin with. -/
def plus : CodePoint := '+'

/-- The sign before the zeros that a loose numeral may end with. -/
def point : CodePoint := '.'

/-- The digit that counts for nothing in front. -/
def zero : CodePoint := '0'

/-- The greatest length of a strict numeral, its sign included. -/
def lengthLimit : Nat := 4300

/-- Reads digits after `signs` signs. The length is noticed before what follows the digits. -/
def readDigits (signs : Nat) (t : Text) : Except Flaw Nat :=
  let digits := t.takeWhile CodePoint.isAsciiDigit
  if t.head? = some zero then if t = [zero] then .ok 0 else .error .malformed
  else if digits.isEmpty then .error .malformed
  else if lengthLimit < signs + digits.length then .error .tooLong
  else if digits.length < t.length then .error .malformed
  else .ok (Text.digitsValue digits)

/-- Reads a strict numeral. -/
def readStrict : Text → Except Flaw Int
  | [] => .error .malformed
  | c :: rest =>
    if c = hyphen then (readDigits 1 rest).map fun n => -(n : Int)
    else (readDigits 0 (c :: rest)).map fun n => (n : Int)

/-- Holds of what a numeral begins with when there are no zeros in front. -/
def isLeading (c : CodePoint) : Bool := (c.isAsciiDigit && c != zero) || c == hyphen

/-- What is left behind zeros and underscores, the last of which is given. A zero before a point
stays, and so does the last sign when nothing follows. -/
def afterZeros (last : CodePoint) : Text → Option Text
  | [] => some [last]
  | c :: rest =>
    if c = zero ∨ c = Integer.joiner then afterZeros c rest
    else if isLeading c then some (c :: rest)
    else if c = point then some (last :: c :: rest)
    else none

/-- Leaves out the zeros in front. -/
def dropZeros : Text → Option Text
  | [] => none
  | c :: rest =>
    if c = zero then afterZeros c rest else if isLeading c then some (c :: rest) else none

/-- Leaves out a point with nothing but zeros after it. -/
def dropFraction (t : Text) : Text :=
  let whole := t.takeWhile (· ≠ point)
  let fraction := t.drop (whole.length + 1)
  if !fraction.isEmpty && fraction.all (· = zero) then whole else t

/-- Leaves out the underscores if each of them stands alone inside. -/
def dropJoiners (t : Text) : Text :=
  if Integer.isWellJoined t then t.filter (· ≠ Integer.joiner) else t

/-- Leaves out a plus sign in front, which no hyphen may follow. -/
def dropPlus : Text → Option Text
  | [] => some []
  | c :: rest =>
    if c ≠ plus then some (c :: rest) else if rest.head? = some hyphen then none else some rest

/-- Leaves out the zeros in front, which may follow a hyphen. -/
def dropInnerZeros : Text → Option Text
  | [] => none
  | c :: rest => if c = hyphen then (dropZeros rest).map (c :: ·) else dropZeros (c :: rest)

/-- A text without the ornaments of a loose numeral. -/
def plain? (t : Text) : Option Text := do
  let t ← dropPlus (Text.trim CodePoint.isWhiteSpace t)
  let t ← dropInnerZeros t
  pure (dropJoiners (dropFraction t))

/-- Reads a loose numeral. -/
def read (t : Text) : Except Flaw Int :=
  match readStrict t with
  | .ok i => .ok i
  | .error .tooLong => .error .tooLong
  | .error .malformed =>
    match (plain? t).map readStrict with
    | some (.ok i) => .ok i
    | _ => .error .malformed

/-- The integer of a loose numeral. -/
def integer? (t : Text) : Option Int := (read t).toOption

end Polyglot.Loose
