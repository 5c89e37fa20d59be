import Polyglot.Literal.Strings
import Polyglot.Text.Letterform

/-! # Trees of expressions

Reading a text makes a tree of the names, numbers, strings and constants in it, in which punctuation
has no place. Here is also what messages call a tree, and how deep it is.
-/

namespace Polyglot.Literal

/-- The forms of expressions, and of what is only a part of one. -/
inductive Form where
  | strings
  /-- An expression between braces in a string. -/
  | braced
  | attribute
  | call
  | keyword
  | operation
  | plus
  | minus
  | positive
  | negative
  | comparison
  /-- A step of a comparison that asks whether the left side is in the right one. -/
  | membership
  | conditional
  | function
  | assignment
  | tuple
  | set
  | dict
  | pair
  | unpacked
  | starred
  | setFor
  | dictFor
  | generator
  | yielded
  | awaited
  deriving DecidableEq

/-- What an expression is made of. -/
inductive Tree where
  | leaf (lexeme : Lexeme)
  | node (form : Form) (parts : List Tree)

/-- The words of the language, which are no names. -/
def reservedWords : List Text :=
  Text.words <|
    "False None True and as assert async await break class continue def del elif else except " ++
      "finally for from global if import in is lambda nonlocal not or pass raise return try " ++
      "while with yield"

/-- What a message calls an expression. -/
def Tree.title : Tree → Text
  | .leaf (.name t) => if reservedWords.contains t then t else "name"
  | .leaf (.sign _) => "ellipsis"
  | .leaf _ => "literal"
  | .node form parts =>
    match form with
    | .strings =>
      let hasBraces : Tree → Bool
        | .leaf (.string t) => (Quotation.ofText t).hasBraces
        | _ => false
      if parts.any hasBraces then "f-string expression" else "literal"
    | .attribute => "attribute"
    | .call => "function call"
    | .comparison => "comparison"
    | .conditional => "conditional expression"
    | .function => "lambda"
    | .assignment => "named expression"
    | .tuple => "tuple"
    | .set => "set display"
    | .dict => "dict literal"
    | .starred => "starred"
    | .setFor => "set comprehension"
    | .dictFor => "dict comprehension"
    | .generator => "generator expression"
    | .yielded => "yield expression"
    | .awaited => "await expression"
    | _ => "expression"

/-- The name of a call that was once written without brackets. -/
def Tree.oldCall? : Tree → Option Text
  | .leaf (.name t) =>
    let name := Text.plainLetters t
    if name = "print" ∨ name = "exec" then some name else none
  | _ => none

mutual

/-- The first part of an expression that nothing can be assigned to. -/
def Tree.noTarget? : Tree → Option Tree
  | .leaf (.name t) => if reservedWords.contains t then some (.leaf (.name t)) else none
  | .node .attribute _ => none
  | .node .tuple parts => firstNoTarget? parts
  | .node .starred parts => firstNoTarget? parts
  | .node .comparison (left :: .node .membership _ :: _) => left.noTarget?
  | .node .comparison _ => none
  | other => some other

/-- The first of some expressions that nothing can be assigned to. -/
def firstNoTarget? : List Tree → Option Tree
  | [] => none
  | t :: rest => t.noTarget?.or (firstNoTarget? rest)

end

/-- Holds of an argument that is given by its place. -/
def Tree.isPositional : Tree → Bool
  | .node .keyword _ => false
  | .node .unpacked _ => false
  | _ => true

/-- Holds of an argument that gives many keys. -/
def Tree.isUnpacked : Tree → Bool
  | .node .unpacked _ => true
  | _ => false

/-- The number of expressions that a form adds to those that lie one in another. Some forms are
only parts of another expression. -/
def Form.size : Form → Nat
  | pair | membership => 0
  | _ => 1

/-- Holds of a tree in which more than a number of expressions lie one in another; the first
argument bounds the forms that do. -/
def Tree.isDeeper : Nat → Nat → Tree → Bool
  | _, limit, .leaf _ => limit == 0
  | 0, _, _ => true
  | fuel + 1, limit, .node form parts =>
    limit < form.size || parts.any (isDeeper fuel (limit - form.size))

end Polyglot.Literal
