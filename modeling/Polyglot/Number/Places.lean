import Polyglot.Number.Shortest

/-! # Doubles with a given number of places

A number is rounded exactly, a tie going to the even neighbour, to places after the point or to
significant digits. An alternate form keeps the point, and the zeros at the end, where the plain one
drops them.
-/

namespace Polyglot.Places

open Binary64

/-- A point with the digits after it; without digits the point stands only in alternate form. -/
def fraction (alternate : Bool) (digits : Text) : Text :=
  if digits.isEmpty ∧ !alternate then [] else "." ++ digits

/-- A number with `places` digits after the point. -/
def fixed (alternate : Bool) (places : Nat) (r : Quotient) : Text :=
  let digits := Text.padded (places + 1) (r.scale places).round
  digits.take (digits.length - places) ++ fraction alternate (digits.drop (digits.length - places))

/-- The first `n` significant digits of a number, rounded, and the power of ten of the first one. -/
def significant (n : Nat) (r : Quotient) : Text × Int :=
  if r.num = 0 then (List.replicate n '0', 0)
  else
    let power := r.digitsBefore - 1
    let coefficient := (r.scale (n - 1 - power)).round
    if coefficient = Nat.pow 10 n then (Text.ofNat (Nat.pow 10 (n - 1)), power + 1)
    else (Text.ofNat coefficient, power)

/-- A number with one digit before the point, `places` digits after it, and an exponent. -/
def scientific (alternate : Bool) (places : Nat) (r : Quotient) : Text :=
  let (digits, power) := significant (places + 1) r
  digits.take 1 ++ fraction alternate (digits.drop 1) ++ Shortest.exponentPart power

/-- Digits after a point without the zeros at their end, unless the form is alternate. -/
def dropZeros (alternate : Bool) (digits : Text) : Text :=
  if alternate then digits else (digits.reverse.dropWhile (· = ('0' : CodePoint))).reverse

/-- A number with `n` significant digits. It has an exponent when the first digit counts less than
`10 ^ (-4)` or when there are digits before the point that are not significant. -/
def general (alternate : Bool) (n : Nat) (r : Quotient) : Text :=
  let n := max 1 n
  let (digits, power) := significant n r
  if power < -4 ∨ n ≤ power then
    digits.take 1 ++ fraction alternate (dropZeros alternate (digits.drop 1)) ++
      Shortest.exponentPart power
  else if power < 0 then
    let zeros : Text := List.replicate (-power - 1).toNat '0'
    "0" ++ fraction alternate (dropZeros alternate (zeros ++ digits))
  else
    let whole := power.toNat + 1
    digits.take whole ++ fraction alternate (dropZeros alternate (digits.drop whole))

end Polyglot.Places
