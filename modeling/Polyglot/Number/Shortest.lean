import Polyglot.Number.Binary64

/-! # The shortest decimal of a double

A double is written with the fewest digits that read back as the same double; among those the
nearest to its exact value is taken, and of two equally near the one with an even last digit.
The search looks at one, two, up to seventeen digits and keeps the first candidate that reads back,
so what it finds reads back by construction.
-/

namespace Polyglot.Shortest

/-- The number `coefficient * 10 ^ exponent`. -/
structure Decimal where
  coefficient : Nat
  exponent : Int

/-- Reads a decimal as a double. -/
def Decimal.read (d : Decimal) : Float := Binary64.ofDecimal false d.coefficient d.exponent

/-- The two neighbours of a number among the decimals with a given exponent, the nearer one first;
of two equally near ones the even one comes first. -/
def neighbours (r : Binary64.Quotient) (exponent : Int) : List Decimal :=
  let scaled := r.scale (-exponent)
  let below := scaled.num / scaled.den
  if scaled.round = below then [⟨below, exponent⟩, ⟨below + 1, exponent⟩]
  else [⟨below + 1, exponent⟩, ⟨below, exponent⟩]

/-- Drops the zeros at the end of a coefficient. -/
def dropZeros (fuel : Nat) (d : Decimal) : Decimal :=
  match fuel with
  | 0 => d
  | fuel + 1 =>
    if d.coefficient % 10 = 0 then dropZeros fuel ⟨d.coefficient / 10, d.exponent + 1⟩ else d

/-- The shortest decimal of a positive finite double. Seventeen digits always read back; the last
branch is there to make the function total. -/
def ofFloat (x : Float) : Decimal :=
  let r := Binary64.magnitude x
  let before := r.digitsBefore
  let candidates := (List.range 17).flatMap fun n => neighbours r (before - (n + 1 : Nat))
  let found := candidates.find? fun d => d.read.toBits == x.toBits
  dropZeros 17 (found.getD ⟨(r.scale (17 - before)).round, before - 17⟩)

/-- A number of zeros. -/
def zeros (n : Nat) : Text := List.replicate n '0'

/-- A decimal with a point: all its digits, and zeros up to the point or after it. At least one
digit stands on each side of the point. -/
def positional (digits : Text) (before : Int) : Text :=
  if before ≤ 0 then "0." ++ zeros (-before).toNat ++ digits
  else if (digits.length : Int) ≤ before then
    digits ++ zeros (before.toNat - digits.length) ++ ".0"
  else List.take before.toNat digits ++ ("." : Text) ++ List.drop before.toNat digits

/-- An exponent with its sign and at least two digits. -/
def exponentPart (e : Int) : Text :=
  (if e < 0 then "e-" else "e+") ++ Text.padded 2 e.natAbs

/-- A decimal with one digit before the point and an exponent. -/
def exponential (digits : Text) (before : Int) : Text :=
  let fraction : Text := if digits.length ≤ 1 then [] else "." ++ digits.tail
  digits.take 1 ++ fraction ++ exponentPart (before - 1)

/-- The text of a finite double. It is positional when the first digit counts at least `10 ^ (-4)`
and less than `10 ^ 16`, and has an exponent otherwise. Zero keeps its sign. -/
def finiteText (x : Float) : Text :=
  let sign : Text := if Binary64.isNegative x then "-" else ""
  if Binary64.mantissa x = 0 then sign ++ "0.0"
  else
    let d := ofFloat x.abs
    let digits := Text.ofNat d.coefficient
    let before : Int := digits.length + d.exponent
    sign ++ if -4 < before ∧ before ≤ 16 then positional digits before
      else exponential digits before

/-- The spellings of what is no number. -/
structure Spelling where
  nan : Text
  infinity : Text

/-- The text of a double, given the spellings of what is no finite number. -/
def text (spelling : Spelling) (x : Float) : Text :=
  if x.isNaN then spelling.nan
  else if x.isInf then
    if Binary64.isNegative x then "-" ++ spelling.infinity else spelling.infinity
  else finiteText x

end Polyglot.Shortest
