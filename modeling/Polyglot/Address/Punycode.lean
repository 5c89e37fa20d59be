import Polyglot.Text.Basic

/-! # Labels in ASCII

A label beyond ASCII is written in ASCII as its ASCII part, a hyphen if there is such a part, and a
sequence of numbers. Each number tells how far it is from one insertion of a code point to the next,
where insertions are ordered by code point and then by place. A number is written in digits of base
36, the least significant one first, and the thresholds that tell its last digit adapt to the
numbers before it.
-/

namespace Polyglot.Punycode

/-- The sign between the ASCII part and the numbers. -/
def delimiter : CodePoint := '-'

/-- The number of digits. -/
def base : Nat := 36

/-- The first code point that is inserted. -/
def firstPoint : Nat := 0x80

/-- The bias before the first number. -/
def firstBias : Nat := 72

/-- The value of a digit, small letters first. -/
def digitValue? (c : CodePoint) : Option Nat :=
  if c.isAsciiLower then some (c.val - 0x61)
  else if c.isAsciiDigit then some (c.val - 0x30 + 26)
  else none

/-- The digit of a value. -/
def digit (value : Nat) : CodePoint :=
  CodePoint.ofNat (if value < 26 then 0x61 + value else 0x30 + (value - 26))

/-- The threshold of a digit; `step` is 36 for the first digit, 72 for the second, and so on. A
digit below its threshold is the last one. -/
def threshold (bias step : Nat) : Nat :=
  if step ≤ bias then 1 else if bias + 26 ≤ step then 26 else step - bias

theorem one_le_threshold (bias step : Nat) : 1 ≤ threshold bias step := by
  unfold threshold
  split
  · exact Nat.le_refl 1
  · split <;> omega

/-- Divides a distance until it is small, and counts 36 for each division. -/
def reduce (distance : Nat) : Nat × Nat :=
  if 455 < distance then
    let (rest, count) := reduce (distance / 35)
    (rest, count + base)
  else (distance, 0)
termination_by distance
decreasing_by omega

/-- The bias after a number, given how many code points there are then. -/
def adapt (distance : Nat) (isFirst : Bool) (count : Nat) : Nat :=
  let distance := if isFirst then distance / 700 else distance / 2
  let (rest, bias) := reduce (distance + distance / count)
  bias + base * rest / (rest + 38)

/-! ### Reading -/

/-- What is known of a label while its numbers are read. `point` is inserted next, at `place` or
after it; `distance`, `weight` and `step` belong to the number that is being read. -/
structure Reading where
  text : Text
  point : Nat
  place : Nat
  bias : Nat
  isFirst : Bool
  distance : Nat
  weight : Nat
  step : Nat

/-- Begins to read a number. -/
def Reading.begin (text : Text) (point place bias : Nat) (isFirst : Bool) : Reading :=
  { text, point, place, bias, isFirst, distance := 0, weight := 1, step := base }

/-- Inserts a code point after a number; there is none beyond the greatest one. -/
def Reading.insert? (r : Reading) (distance : Nat) : Option Reading :=
  let count := r.text.length + 1
  let point := r.point + (r.place + distance) / count
  let place := (r.place + distance) % count
  if h : point < 0x110000 then
    some <| .begin (r.text.take place ++ ⟨point, h⟩ :: r.text.drop place) point (place + 1)
      (adapt distance r.isFirst count) false
  else none

/-- Reads a digit. -/
def Reading.push? (r : Reading) (c : CodePoint) : Option Reading := do
  let value ← digitValue? c
  let distance := r.distance + value * r.weight
  let limit := threshold r.bias r.step
  if value < limit then r.insert? distance
  else some { r with distance, weight := r.weight * (base - limit), step := r.step + base }

/-- Holds when no number has been begun. -/
def Reading.isComplete (r : Reading) : Bool := r.step == base

/-- The ASCII part of a label and its numbers. -/
def split (t : Text) : Text × Text :=
  let numbers := (t.reverse.takeWhile (· ≠ delimiter)).reverse
  (t.take (t.length - numbers.length - 1), numbers)

/-- The label that small letters, digits and hyphens stand for. -/
def decode? (t : Text) : Option Text := do
  let (kept, numbers) := split t
  let r ← numbers.foldlM Reading.push? (.begin kept firstPoint 0 firstBias true)
  if r.isComplete then some r.text else none

/-! ### Writing -/

/-- The digits of a number after those of the steps before. -/
def digitsFrom (bias step n : Nat) : Text :=
  let limit := threshold bias step
  if _h : n < limit then [digit n]
  else
    digit (limit + (n - limit) % (base - limit)) ::
      digitsFrom bias (step + base) ((n - limit) / (base - limit))
termination_by n
decreasing_by
  have hpos : 1 ≤ threshold bias step := one_le_threshold bias step
  have hle := Nat.div_le_self (n - threshold bias step) (base - threshold bias step)
  omega

/-- What has been written of a label: its digits, how far it is from the last insertion, the bias,
and how many code points have been dealt with. -/
structure Writing where
  digits : Text
  distance : Nat
  bias : Nat
  count : Nat

/-- Passes one code point of a label while all insertions of `point` are written. -/
def Writing.pass (kept point : Nat) (w : Writing) (c : CodePoint) : Writing :=
  if c.val < point then { w with distance := w.distance + 1 }
  else if c.val = point then
    { digits := w.digits ++ digitsFrom w.bias base w.distance
      distance := 0
      bias := adapt w.distance (w.count == kept) (w.count + 1)
      count := w.count + 1 }
  else w

/-- Writes all insertions of code points, which come in increasing order; `last` is the one below
which everything has been written. -/
def writePoints (t : Text) (kept last : Nat) (w : Writing) : List Nat → Text
  | [] => w.digits
  | point :: rest =>
    let w := { w with distance := w.distance + (point - last) * (w.count + 1) }
    let w := t.foldl (Writing.pass kept point) w
    writePoints t kept (point + 1) { w with distance := w.distance + 1 } rest

/-- The code points of a label that are inserted, in increasing order and without repetition. -/
def insertedPoints (t : Text) : List Nat :=
  let points := (t.filter fun c => firstPoint ≤ c.val).map fun c => c.val
  (points.mergeSort fun a b => a ≤ b).eraseDups

/-- The ASCII form of a label. -/
def encode (t : Text) : Text :=
  let kept := t.filter fun c => c.val < firstPoint
  kept ++ (if kept.isEmpty then [] else [delimiter]) ++
    writePoints t kept.length firstPoint ⟨[], 0, firstBias, kept.length⟩ (insertedPoints t)

end Polyglot.Punycode
