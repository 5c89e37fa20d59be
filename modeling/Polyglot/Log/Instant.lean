import Polyglot.Log.Fault

/-! # Instants

An instant counts microseconds from the start of 1970 in universal time. A number of seconds is
rounded to the nearest microsecond, a tie going to the even one. The date of an instant follows the
Gregorian calendar, which has years from 1 to 9999 here.
-/

namespace Polyglot.Log

/-- A number of microseconds from the start of 1970. -/
structure Instant where
  microseconds : Int
  deriving DecidableEq

namespace Instant

/-- Microseconds in a second. -/
def perSecond : Int := 1000000

/-- The instant after a whole number of seconds. -/
def ofSeconds (seconds : Int) : Instant := ⟨seconds * perSecond⟩

/-- The integer nearest to a finite double, a tie going to the even one. -/
def nearest (x : Float) : Int :=
  let n : Int := (Binary64.magnitude x).round
  if Binary64.isNegative x then -n else n

/-- The instant after a finite number of seconds. The fraction is scaled as a double before it is
rounded. -/
def ofFloat (x : Float) : Instant :=
  let seconds := Binary64.truncate x
  let part := x - (Binary64.ofInt? seconds).getD 0
  ⟨seconds * perSecond + nearest (part * 1000000)⟩

/-- The first number of seconds that is too large for the clock, in either direction. -/
def clockLimit : Int := 0x8000000000000000

/-- The instant after a number of seconds given by a value; a value of another kind is none. -/
def ofJson? : Json → Except InstantFlaw (Option Instant)
  | .int i =>
    if -clockLimit ≤ i ∧ i < clockLimit then .ok (some (ofSeconds i)) else .error .beyondClock
  | .double x =>
    if x.isNaN then .error .notANumber
    else if x.isInf then .error .beyondClock
    else
      let seconds := Binary64.truncate x
      if -clockLimit ≤ seconds ∧ seconds < clockLimit then .ok (some (ofFloat x))
      else .error .beyondClock
  | _ => .ok none

/-- A date of the Gregorian calendar. -/
structure Date where
  year : Int
  month : Nat
  day : Nat

/-- Days from the first of March of the year zero to the start of 1970. -/
def daysBeforeEpoch : Int := 719468

/-- The days of an era of four hundred years, after which the calendar repeats. -/
def daysPerEra : Int := 146097

/-- The date of a day that is counted from the start of 1970. Years begin with March here, so that
the leap day is the last day of its year. -/
def dateOfDay (day : Int) : Date :=
  let shifted := day + daysBeforeEpoch
  let era := shifted.fdiv daysPerEra
  let dayOfEra := (shifted.fmod daysPerEra).toNat
  let yearOfEra := (dayOfEra - dayOfEra / 1460 + dayOfEra / 36524 - dayOfEra / 146096) / 365
  let dayOfYear := dayOfEra - (365 * yearOfEra + yearOfEra / 4 - yearOfEra / 100)
  let marchMonth := (5 * dayOfYear + 2) / 153
  let month := if marchMonth < 10 then marchMonth + 3 else marchMonth - 9
  { year := yearOfEra + era * 400 + if month ≤ 2 then 1 else 0
    month
    day := dayOfYear - (153 * marchMonth + 2) / 5 + 1 }

/-- Seconds in a day. -/
def perDay : Int := 86400

/-- How many years the clock can tell apart: it counts them from 1900 in thirty-two bits, and shows
a year in as many. -/
def yearCount : Nat := 0x100000000

/-- The date of an instant in universal time, with the seconds of its day. -/
def calendar (t : Instant) : Except InstantFlaw (Date × Nat) :=
  let seconds := t.microseconds.fdiv perSecond
  let date := dateOfDay (seconds.fdiv perDay)
  let shown := date.year.bmod yearCount
  if (date.year - 1900).bmod yearCount ≠ date.year - 1900 then .error .yearTooLarge
  else if date.year < 1 ∨ 9999 < date.year then .error (.yearOutOfRange shown)
  else .ok (date, (seconds.fmod perDay).toNat)

/-- A date as a text. -/
def Date.text (d : Date) : Text :=
  Text.padded 4 d.year.toNat ++ "-" ++ Text.padded 2 d.month ++ "-" ++ Text.padded 2 d.day

/-- The time of day after a number of seconds. -/
def timeOfDay (seconds : Nat) : Text :=
  Text.padded 2 (seconds / 3600) ++ ":" ++ Text.padded 2 (seconds / 60 % 60) ++ ":" ++
    Text.padded 2 (seconds % 60)

/-- The fraction of the second of an instant; it is left out when it is zero. -/
def fractionText (t : Instant) : Text :=
  let fraction := (t.microseconds.fmod perSecond).toNat
  if fraction = 0 then [] else "." ++ Text.padded 6 fraction

/-- An instant in universal time, to the microsecond. -/
def text (t : Instant) : Except InstantFlaw Text := do
  let (date, seconds) ← t.calendar
  pure (date.text ++ "T" ++ timeOfDay seconds ++ t.fractionText ++ "+00:00")

/-- An instant in universal time, to the second. -/
def shortText (t : Instant) : Except InstantFlaw Text := do
  let (date, seconds) ← t.calendar
  pure (date.text ++ " " ++ timeOfDay seconds)

end Instant

end Polyglot.Log
