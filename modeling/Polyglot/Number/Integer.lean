import Polyglot.Fault
import Polyglot.Text.Blank
import Polyglot.Text.Digit

/-! # Integers from values

A setting that has to be an integer may be written in several ways: as an integer, as true or false,
as a double, whose fraction is dropped, or as a numeral in a text. A numeral may be surrounded by
white space, may have one sign, and may have single underscores between its digits, which may come
from any script.
-/

namespace Polyglot.Integer

/-- The sign that may join two digits. -/
def joiner : CodePoint := '_'

/-- A sign that stands at the front, and what follows it. -/
def splitSign : Text → Int × Text
  | [] => (1, [])
  | c :: rest =>
    if c = ('-' : CodePoint) then (-1, rest)
    else if c = ('+' : CodePoint) then (1, rest)
    else (1, c :: rest)

/-- A digit or a joiner. -/
def isNumeralSign (c : CodePoint) : Bool := c == joiner || (CodePoint.decimal? c).isSome

/-- Holds when every joiner stands between two digits and there is a digit. -/
def isWellJoined (run : Text) : Bool := (Text.cutAt joiner run).all fun group => !group.isEmpty

/-- Reads a numeral. Joiners out of place are noticed first, then the number of digits, then
what follows the digits. -/
def ofText (t : Text) : Except IntegerFault Int :=
  let (sign, body) := splitSign (Text.trim CodePoint.isWhiteSpace t)
  let run := body.takeWhile isNumeralSign
  let digits := run.filterMap CodePoint.decimal?
  if !isWellJoined run then .error (.badNumeral t)
  else if Json.digitLimit < digits.length then .error (.longNumeral digits.length)
  else if run.length < body.length then .error (.badNumeral t)
  else .ok (sign * ofDigits 10 digits)

/-- The integer that a value is read as. -/
def ofJson : Json → Except IntegerFault Int
  | .int i => .ok i
  | .bool b => .ok (if b then 1 else 0)
  | .double x =>
    if x.isNaN then .error .nan
    else if x.isInf then .error .infinite
    else .ok (Binary64.truncate x)
  | .text t => ofText t
  | other => .error (.noNumber other.kindName)

end Polyglot.Integer
