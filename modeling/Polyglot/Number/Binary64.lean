import Polyglot.Text.Numeral

/-! # Doubles as exact numbers

A finite double is an integer times a power of two. The functions here read that exact value off
the bits, so that conversions and comparisons with integers are done in integer arithmetic.
-/

namespace Polyglot.Binary64

/-- The sign bit, which zero and infinity have too. -/
def isNegative (x : Float) : Bool := x.toBits >>> 63 == 1

/-- The exponent field. -/
def exponentField (x : Float) : Nat := ((x.toBits >>> 52) &&& 0x7FF).toNat

/-- The fraction field. -/
def fractionField (x : Float) : Nat := (x.toBits &&& 0xFFFFFFFFFFFFF).toNat

/-- The magnitude of a finite double is `mantissa x * 2 ^ exponent x`. -/
def mantissa (x : Float) : Nat :=
  if exponentField x = 0 then fractionField x else 0x10000000000000 + fractionField x

/-- The magnitude of a finite double is `mantissa x * 2 ^ exponent x`. -/
def exponent (x : Float) : Int :=
  if exponentField x = 0 then -1074 else (exponentField x : Int) - 1075

/-- A positive quotient of natural numbers. -/
structure Quotient where
  num : Nat
  den : Nat

/-- The exact magnitude of a finite double. -/
def magnitude (x : Float) : Quotient :=
  if 0 ≤ exponent x then ⟨mantissa x * Nat.pow 2 (exponent x).toNat, 1⟩
  else ⟨mantissa x, Nat.pow 2 (-exponent x).toNat⟩

/-- The integer part of a finite double: the fraction is dropped. -/
def truncate (x : Float) : Int :=
  let whole := (magnitude x).num / (magnitude x).den
  if isNegative x then -(whole : Int) else whole

/-- The integer that a double equals, if there is one. -/
def toInt? (x : Float) : Option Int :=
  if x.isFinite ∧ (magnitude x).num % (magnitude x).den = 0 then some (truncate x) else none

/-- The double nearest to a natural number, a tie going to the even mantissa; none when that is
beyond the largest double. -/
def ofNat? (n : Nat) : Option Float :=
  let x := Float.ofScientific n false 0
  if x.isFinite then some x else none

/-- The double nearest to an integer, a tie going to the even mantissa; none when that is beyond the
largest double. -/
def ofInt? : Int → Option Float
  | .ofNat n => ofNat? n
  | .negSucc n => (ofNat? (n + 1)).map fun x => -x

/-- The double nearest to `± coefficient * 10 ^ exponent`, infinite when that is too large. -/
def ofDecimal (negative : Bool) (coefficient : Nat) (exponent : Int) : Float :=
  let x := Float.ofScientific coefficient (exponent < 0) exponent.natAbs
  if negative then -x else x

/-- A quotient rounded to the nearest integer, a tie going to the even one. -/
def Quotient.round (r : Quotient) : Nat :=
  let whole := r.num / r.den
  let twice := 2 * (r.num % r.den)
  if twice < r.den then whole
  else if r.den < twice then whole + 1
  else whole + whole % 2

/-- A quotient times a power of ten. -/
def Quotient.scale (r : Quotient) (places : Int) : Quotient :=
  if 0 ≤ places then ⟨r.num * Nat.pow 10 places.toNat, r.den⟩
  else ⟨r.num, r.den * Nat.pow 10 (-places).toNat⟩

/-- The number of digits before the point: the least `e` with `r < 10 ^ e`, for positive `r`. It is
negative or zero when zeros follow the point. -/
def Quotient.digitsBefore (r : Quotient) : Int :=
  let guess : Int := (Nat.toDigits 10 r.num).length - (Nat.toDigits 10 r.den).length
  let one := r.scale (-guess)
  if one.den ≤ one.num then guess + 1 else guess

end Polyglot.Binary64
