import Polyglot.Literal.Value
import Polyglot.Text.Blank
import Polyglot.Text.Quoted
import Polyglot.Text.Utf8

/-! # Handlers

A tag may stand for a handler instead of a style. Its parameters are a name, arguments in
parentheses, or both, and the arguments have to be a literal; parameters of another form are read as
a literal as a whole. They are read when the tag is closed.
-/

namespace Polyglot.Markup.Handler

/-- Why the parameters of a handler cannot be read. -/
inductive Flaw where
  /-- The part that should be a literal is no expression. -/
  | syntactic (parameters part : Text) (flaw : Literal.Flaw)
  /-- The part cannot be read as an expression. -/
  | unread (parameters : Text) (limit : Literal.Limit)
  /-- The part is an expression and no literal. -/
  | value (parameters : Text) (flaw : Literal.ValueFlaw)
  /-- A surrogate stands alone in the part. -/
  | notEncodable (parameters : Text) (error : Utf8.EncodeError)

/-- The words for parameters that cannot be read. -/
def complaint (parameters reason : Text) : Text :=
  "error parsing " ++ Text.quoted parameters ++ "; " ++ reason

/-- The words of a flaw. -/
def Flaw.message : Flaw → Text
  | syntactic parameters part flaw =>
    "error parsing " ++ Text.quoted part ++ " in " ++ Text.quoted parameters ++ "; " ++ flaw.message
  | unread parameters limit => complaint parameters limit.message
  | value parameters flaw => complaint parameters flaw.message
  | notEncodable parameters error => complaint parameters error.message

/-- What is left of parameters without the name at their front. -/
def withoutName (t : Text) : Text := t.dropWhile fun c => c.isWordSign || c == '.'

/-- Holds of arguments in parentheses on one line. -/
def isEnclosed (t : Text) : Bool :=
  2 ≤ t.length && t.head? = some '(' && t.getLast? = some ')' &&
    !t.contains CodePoint.lineFeed

/-- The part of parameters that should be a literal; nothing when a name stands alone. -/
def literalPart? (t : Text) : Option Text :=
  let arguments := withoutName t
  if arguments.isEmpty then none else if isEnclosed arguments then some arguments else some t

/-- Refuses a part of parameters that is no literal. -/
def checkLiteral (parameters part : Text) : Except Flaw Unit :=
  match Utf8.encodeError? part with
  | some error => .error (.notEncodable parameters error)
  | none =>
    match Literal.Tree.ofText part with
    | .error (.flaw flaw) => .error (.syntactic parameters part flaw)
    | .error (.limit limit) => .error (.unread parameters limit)
    | .ok tree =>
      match tree.value with
      | .error flaw => .error (.value parameters flaw)
      | .ok _ => .ok ()

/-- Refuses parameters that cannot be read. A handler may have none. -/
def check (parameters : Text) : Except Flaw Unit :=
  match literalPart? (Text.strip parameters) with
  | none => .ok ()
  | some part => checkLiteral parameters part

end Polyglot.Markup.Handler
