/-! # Limits of nesting

What recurs over a value gives up when lists and objects are nested too deep in it. How deep that is
depends on the calls that are in progress, so every place where a program recurs has a limit of its
own. Nothing is assumed of the limits, but that a tree may have some hundred levels.
-/

namespace Polyglot

/-- How deep lists and objects may be nested, for each place where a program recurs over them. -/
class Limits where
  /-- In a text that is decoded. -/
  decoding : Nat
  /-- In a value that a message shows. -/
  showing : Nat
  /-- In a tree of an asset. -/
  levels : Nat
  /-- In a path, when an object is read as settings. -/
  reading : Nat
  /-- In a path, when a draft is settled. -/
  settling : Nat
  levels_large : 300 ≤ levels

namespace Limits.Usual

/-- The limits of an interpreter that bounds the calls in progress by a thousand, for a program that
is near its start. An object is read by one call more than a draft is settled by. -/
scoped instance usual : Limits where
  decoding := 990
  showing := 990
  levels := 990
  reading := 990
  settling := 991
  levels_large := by decide

end Limits.Usual

end Polyglot
