import Polyglot.Fault

/-! # Quantities

A quantity is an integer of any size or a double. Quantities are compared by their exact values, so
that no integer is rounded on the way; what is not a number stands in no order with anything.
-/

namespace Polyglot

/-- An integer or a double. -/
inductive Quantity where
  | whole (i : Int)
  | double (x : Float)

/-- The numerator of a finite double over the denominator of its magnitude. -/
def Binary64.numerator (x : Float) : Int :=
  if isNegative x then -((magnitude x).num : Int) else (magnitude x).num

namespace Quantity

/-- An integer times the denominator of a double, which compares with the numerator. -/
def scaled (i : Int) (x : Float) : Int := i * (Binary64.magnitude x).den

/-- Holds when one quantity is less than another. -/
def lt : Quantity → Quantity → Bool
  | whole i, whole j => i < j
  | whole i, double x => if x.isFinite then scaled i x < Binary64.numerator x else 0 < x
  | double x, whole i => if x.isFinite then Binary64.numerator x < scaled i x else x < 0
  | double x, double y => x < y

/-- Holds when one quantity is at most another. -/
def le : Quantity → Quantity → Bool
  | whole i, whole j => i ≤ j
  | whole i, double x => if x.isFinite then scaled i x ≤ Binary64.numerator x else 0 ≤ x
  | double x, whole i => if x.isFinite then Binary64.numerator x ≤ scaled i x else x ≤ 0
  | double x, double y => x ≤ y

instance : LT Quantity := ⟨fun a b => a.lt b = true⟩

instance : LE Quantity := ⟨fun a b => a.le b = true⟩

instance (a b : Quantity) : Decidable (a < b) := inferInstanceAs (Decidable (a.lt b = true))

instance (a b : Quantity) : Decidable (a ≤ b) := inferInstanceAs (Decidable (a.le b = true))

/-- The nearest double. -/
def toDouble : Quantity → Except Fault Float
  | double x => .ok x
  | whole i =>
    match Binary64.ofInt? i with
    | some x => .ok x
    | none => .error .integerTooLarge

end Quantity

end Polyglot
