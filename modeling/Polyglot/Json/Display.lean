import Polyglot.Json.Decode
import Polyglot.Number.Shortest
import Polyglot.Text.Quoted

/-! # Values in messages

A message shows a value as a literal: texts are quoted, null, true and false have names with a
capital letter, and lists and objects show their parts as literals. A text that is shown for itself
stands without quotation. There are values that no message can show: integers with too many digits,
and lists and objects that are nested too deep.
-/

namespace Polyglot.Json

/-- Holds of an integer with more digits than a message can show. -/
def isLong (i : Int) : Bool := Nat.pow 10 digitLimit ≤ i.natAbs

/-- What keeps a message from showing a value. -/
inductive Obstacle where
  | tooDeep
  | longInteger

/-- The first obstacle in a value of which `depth` levels of lists and objects can be shown. -/
def obstacle? : (depth : Nat) → Json → Option Obstacle
  | _, int i => if isLong i then some .longInteger else none
  | 0, list _ => some .tooDeep
  | 0, object _ => some .tooDeep
  | depth + 1, list items => items.findSome? (obstacle? depth)
  | depth + 1, object members => members.findSome? fun m => obstacle? depth m.2
  | _, _ => none

@[simp] theorem obstacle?_null (depth : Nat) : obstacle? depth null = none := by
  cases depth <;> rfl

@[simp] theorem obstacle?_text (depth : Nat) (t : Text) : obstacle? depth (text t) = none := by
  cases depth <;> rfl

theorem obstacle?_int (depth : Nat) (i : Int) :
    obstacle? depth (int i) = if isLong i then some .longInteger else none := by
  cases depth <;> rfl

/-- The words that a message uses for what is no finite number. -/
def displaySpelling : Shortest.Spelling := ⟨"nan", "inf"⟩

/-- The text of a double in a message. -/
def displayDouble (x : Float) : Text := Shortest.text displaySpelling x

mutual

/-- A value as a literal. -/
def literal : Json → Text
  | null => "None"
  | bool true => "True"
  | bool false => "False"
  | int i => Text.ofInt i
  | double x => displayDouble x
  | text t => Text.quoted t
  | list items => "[" ++ literalItems items ++ "]"
  | object members => "\x7b" ++ literalMembers members ++ "\x7d"

/-- The items of a list as literals. -/
def literalItems : List Json → Text
  | [] => []
  | [item] => literal item
  | item :: next :: rest => literal item ++ ", " ++ literalItems (next :: rest)

/-- The members of an object as literals. -/
def literalMembers : List (Text × Json) → Text
  | [] => []
  | [(key, value)] => Text.quoted key ++ ": " ++ literal value
  | (key, value) :: next :: rest =>
    Text.quoted key ++ ": " ++ literal value ++ ", " ++ literalMembers (next :: rest)

end

/-- A value as a message shows it for itself: a text is not quoted. -/
def display : Json → Text
  | text t => t
  | other => literal other

end Polyglot.Json
