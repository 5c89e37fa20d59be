import Polyglot.Session

/-! # Devices

A device takes what is written to a file that is open. It holds an output back until it wants it,
and gets all of it when the file is closed. A device may have room for so many bytes only: what fits
is written then, and that it takes no more is noticed when the rest is handed on to it.
-/

namespace Polyglot

/-- What takes an output. -/
structure Device where
  /-- How many bytes of a file there is room for; there is always more if nothing is said. -/
  room : Option Nat
  /-- How more than that is refused. -/
  refusal : FileRefusal
  /-- Holds of an output that is handed on before the file is closed. -/
  wants : Text → Bool

namespace Device

/-- A device that takes everything, when the file is closed. -/
def endless : Device := ⟨none, .noRoom, fun _ => false⟩

/-- What the device takes of a content. -/
def taken (d : Device) (content : Bytes) : Bytes :=
  match d.room with
  | none => content
  | some n => content.take n

/-- Holds of a content that the device takes as a whole. -/
def takes (d : Device) (content : Bytes) : Bool :=
  match d.room with
  | none => true
  | some n => content.length ≤ n

/-- Hands the whole output of a file on, and tells whether the device takes it. -/
def handOn (d : Device) (id : FileId) (output : Text) : Action Bool := do
  Action.write id (d.taken (Utf8.encode output))
  pure (d.takes (Utf8.encode output))

end Device

end Polyglot
