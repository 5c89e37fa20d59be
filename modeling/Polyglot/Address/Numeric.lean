import Polyglot.Text.Numeral

/-! # Numeric hosts

A host may be four numbers with dots between them, or eight groups of hexadecimal digits with colons
between them. A run of groups that are zero may be left out, once, and the last two groups may be
written as four numbers. A percent sign and the name of a zone may follow.
-/

namespace Polyglot.Numeric

/-- The greatest of the four numbers. -/
def greatest : Nat := 255

/-- Holds of one of the four numbers; it has no zero in front. -/
def isNumber (t : Text) : Bool :=
  !t.isEmpty && t.all CodePoint.isAsciiDigit && t.length ≤ 3 &&
    (t.length == 1 || t.head? != some '0') && Text.digitsValue t ≤ greatest

/-- Holds of four numbers with dots between them. -/
def isFour (t : Text) : Bool :=
  let numbers := Text.cutAt '.' t
  numbers.length == 4 && numbers.all isNumber

/-- Holds of what looks like four numbers with one code point of any kind between neighbours. A run
of digits may be cut into numbers by its own digits. -/
def looksLikeFour (t : Text) : Bool :=
  let runs := t.splitOnP fun c => !c.isAsciiDigit
  runs.all (fun run => !run.isEmpty) && runs.length ≤ 4 &&
    4 ≤ runs.foldl (fun n run => n + (run.length + 1) / 2) 0

/-- Holds of a group of hexadecimal digits. -/
def isGroup (t : Text) : Bool :=
  !t.isEmpty && t.length ≤ 4 && t.all fun c => c.hexValue?.isSome

/-- The groups of a text between its colons, where four numbers at the end stand for two groups. -/
def groups? (t : Text) : Option (List Text) :=
  let parts := Text.cutAt ':' t
  let last := parts.getLastD []
  if last.contains ('.' : CodePoint) then
    if isFour last then some (parts.dropLast ++ (["0", "0"] : List Text)) else none
  else some parts

/-- The number of groups. -/
def groupCount : Nat := 8

/-- Holds of groups of which none is left out. -/
def isWhole (groups : List Text) : Bool := groups.length == groupCount && groups.all isGroup

/-- Holds of the groups before and behind those that are left out. An empty group at an end stands
there alone. -/
def isShortened (before behind : List Text) : Bool :=
  let before := if before = [[]] then [] else before
  let behind := if behind = [[]] then [] else behind
  before.length + behind.length < groupCount && (before ++ behind).all isGroup

/-- Holds of eight groups, or of fewer if some are left out; an empty group that is not at an end
tells where. -/
def areGroups (groups : List Text) : Bool :=
  match groups.dropLast.tail.findIdx? List.isEmpty with
  | none => isWhole groups
  | some index => isShortened (groups.take (index + 1)) (groups.drop (index + 2))

/-- Holds of groups with at least two colons and at most eight. -/
def isEight (t : Text) : Bool :=
  let colons := (t.filter (· = (':' : CodePoint))).length
  match groups? t with
  | some groups => 2 ≤ colons && groups.length ≤ groupCount + 1 && areGroups groups
  | none => false

/-- Holds of the name of a zone. -/
def isZone (t : Text) : Bool := !t.isEmpty && !t.contains ('%' : CodePoint)

/-- Holds of groups that may be followed by a zone. -/
def isEightInZone (t : Text) : Bool :=
  let groups := t.takeWhile (· ≠ ('%' : CodePoint))
  match t.drop groups.length with
  | [] => isEight groups
  | _ :: zone => isZone zone && isEight groups

end Polyglot.Numeric
