import Polyglot.Literal.Reading
import Polyglot.Number.Binary64

/-! # Values of literals

A literal is an expression that stands for a value by itself: a number with signs, a string, a
constant, or a tuple, a set or a dictionary of literals. Members of sets and keys of dictionaries
have to be values that never change. Of a value only this is told, and which kind of number it is.
A whole number to which an imaginary one is added may not be too large for a double.
-/

namespace Polyglot.Literal

/-- Why an expression is no literal. -/
inductive ValueFlaw where
  /-- The expression, or a part of it, stands for no value by itself. -/
  | noLiteral
  /-- A dictionary has a part without a key. -/
  | noKey
  | changing (kind : Text)
  /-- A whole number with an imaginary one is too large. -/
  | tooLarge

/-- The words of a flaw. -/
def ValueFlaw.message : ValueFlaw → Text
  | noLiteral => "malformed node or string"
  | noKey => "malformed node or string: None"
  | changing kind => "unhashable type: '" ++ kind ++ "'"
  | tooLarge => "int too large to convert to float"

/-- What is told of a value. -/
inductive Value where
  | real
  | imaginary
  | constant
  /-- A value of a kind that may change, or with such a value inside. -/
  | changing (kind : Text)

/-- A value that never changes. -/
def Value.check : Value → Except ValueFlaw Unit
  | changing kind => .error (.changing kind)
  | _ => .ok ()

/-- The value of a number. -/
def numberValue (t : Text) : Value :=
  if t.getLast? = some 'j' ∨ t.getLast? = some 'J' then .imaginary else .real

/-- The whole number that a number is; nothing if it has a point, an exponent or the mark of an
imaginary one. -/
def whole? (t : Text) : Option Nat :=
  let based (base : Nat) : Option Nat := some (ofDigits base ((t.drop 2).filterMap (·.hexValue?)))
  let mark := Text.asciiLower (t.take 2)
  if mark = "0x" then based 16
  else if mark = "0o" then based 8
  else if mark = "0b" then based 2
  else if t.all (isDigitOrJoiner CodePoint.isAsciiDigit) then
    some (Text.digitsValue (t.filter CodePoint.isAsciiDigit))
  else none

/-- Holds of a whole number that is too large to be one with a fraction. -/
def isTooLarge (t : Text) : Bool :=
  match whole? t with
  | some n => (Binary64.ofNat? n).isNone
  | none => false

/-- The number of an expression that is one with or without a sign. -/
def signedNumber? : Tree → Option Text
  | .leaf (.number t) => some t
  | .node .positive [.leaf (.number t)] => some t
  | .node .negative [.leaf (.number t)] => some t
  | _ => none

/-- The value of a real number with an imaginary one added or taken away. -/
def complexValue (left : Tree) (right : Tree) : Except ValueFlaw Value :=
  match signedNumber? left, right with
  | some t, .leaf (.number u) =>
    match numberValue t, numberValue u with
    | .real, .imaginary => if isTooLarge t then .error .tooLarge else .ok .imaginary
    | _, _ => .error .noLiteral
  | _, _ => .error .noLiteral

/-- The value of strings side by side. -/
def stringValue (ts : List Tree) : Except ValueFlaw Value :=
  let isPlain : Tree → Bool
    | .leaf (.string t) => !(Quotation.ofText t).hasBraces
    | _ => false
  if ts.all isPlain then .ok .constant else .error .noLiteral

/-- The constants with a name. -/
def constantNames : List Text := ["True", "False", "None"]

/-- The value of a leaf. -/
def leafValue : Lexeme → Except ValueFlaw Value
  | .number t => .ok (numberValue t)
  | .name t => if constantNames.contains t then .ok .constant else .error .noLiteral
  | .sign _ => .ok .constant
  | _ => .error .noLiteral

/-- The kind of a set. -/
def setKind : Text := "set"

/-- The kind of a dictionary. -/
def dictKind : Text := "dict"

mutual

/-- The value of an expression. -/
def Tree.value : Tree → Except ValueFlaw Value
  | .leaf lexeme => leafValue lexeme
  | .node .strings parts => stringValue parts
  | .node .tuple parts => tupleValue parts
  | .node .set parts => do
    checkMembers parts
    pure (.changing setKind)
  | .node .dict parts => do
    checkPairs parts
    pure (.changing dictKind)
  | .node .call [.leaf (.name t)] =>
    if Text.plainLetters t = setKind then .ok (.changing setKind) else .error .noLiteral
  | .node .plus [left, right] => complexValue left right
  | .node .minus [left, right] => complexValue left right
  | .node form parts =>
    match signedNumber? (.node form parts) with
    | some t => .ok (numberValue t)
    | none => .error .noLiteral

/-- The value of a tuple with some parts: it may change if one of them may. -/
def tupleValue : List Tree → Except ValueFlaw Value
  | [] => .ok .constant
  | part :: rest => do
    let first ← part.value
    let others ← tupleValue rest
    pure (match first with
      | .changing kind => .changing kind
      | _ => others)

/-- Refuses members of a set that are no literals or may change. -/
def checkMembers : List Tree → Except ValueFlaw Unit
  | [] => .ok ()
  | member :: rest => do
    (← member.value).check
    checkMembers rest

/-- Refuses pairs of a dictionary that are no literals or have a key that may change. -/
def checkPairs : List Tree → Except ValueFlaw Unit
  | [] => .ok ()
  | .node .pair [key, value] :: rest => do
    let key ← key.value
    let _ ← value.value
    key.check
    checkPairs rest
  | _ :: _ => .error .noKey

end

end Polyglot.Literal
