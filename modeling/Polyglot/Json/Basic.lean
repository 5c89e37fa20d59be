import Polyglot.Entries
import Polyglot.Text.Basic

/-! # JSON values

A number without fraction and exponent is an integer of any size, any other number a double. An
object keeps the order in which its keys first appeared.
-/

namespace Polyglot

/-- A JSON value. -/
inductive Json where
  | null
  | bool (b : Bool)
  | int (i : Int)
  | double (x : Float)
  | text (t : Text)
  | list (items : List Json)
  | object (members : List (Text × Json))

namespace Json

instance : Inhabited Json := ⟨null⟩

/-- The name that a message gives to the kind of a value. -/
def kindName : Json → Text
  | null => "NoneType"
  | bool _ => "bool"
  | int _ => "int"
  | double _ => "float"
  | text _ => "str"
  | list _ => "list"
  | object _ => "dict"

/-- Holds of the values that count as absent: null, false, zero, and whatever is empty. -/
def isVoid : Json → Bool
  | null => true
  | bool b => !b
  | int i => i == 0
  | double x => x == 0
  | text t => t.isEmpty
  | list items => items.isEmpty
  | object members => members.isEmpty

/-- The value of a member of an object; any other value has no members. -/
def member? (key : Text) : Json → Option Json
  | object members => Entries.get? key members
  | _ => none

mutual

/-- How deep lists and objects are nested in a value. -/
def nesting : Json → Nat
  | list items => itemsNesting items + 1
  | object members => membersNesting members + 1
  | _ => 0

/-- The greatest nesting among some values. -/
def itemsNesting : List Json → Nat
  | [] => 0
  | item :: rest => max (nesting item) (itemsNesting rest)

/-- The greatest nesting among the values of some members. -/
def membersNesting : List (Text × Json) → Nat
  | [] => 0
  | (_, value) :: rest => max (nesting value) (membersNesting rest)

end

mutual

/-- Holds of a value without a double that is infinite or no number. -/
def isFinite : Json → Bool
  | double x => x.isFinite
  | list items => areFinite items
  | object members => areMembersFinite members
  | _ => true

/-- Holds when every one of some values is finite. -/
def areFinite : List Json → Bool
  | [] => true
  | item :: rest => isFinite item && areFinite rest

/-- Holds when the value of every member is finite. -/
def areMembersFinite : List (Text × Json) → Bool
  | [] => true
  | (_, value) :: rest => isFinite value && areMembersFinite rest

end

end Json

end Polyglot
