import Polyglot.Json.Decode
import Polyglot.Json.Encode
import Polyglot.Number.Loose

/-! # Queries

A query asks for the language of a text. It is read from an object, and every field that does not
fit is reported, in the order version, text, scores, settings. The version may be given as anything
that is clearly an integer, and the wish for scores as anything that clearly says yes or no. A
report tells the place, the problem, and the value that was found.
-/

namespace Polyglot.Service

/-- The least version of a query. -/
def leastVersion : Int := 1

/-- What is wrong with a field or with the whole body. -/
inductive Problem where
  | missing
  | malformed (complaint : Json.Complaint)
  | noObject
  | noInteger
  | fractional
  | notFinite
  | badNumeral
  | longNumeral
  | tooSmall
  | noText
  | brokenText
  | badWord
  | noTruthValue
  | noSettings

/-- The name of a problem. -/
def Problem.name : Problem → Text
  | missing => "missing"
  | malformed _ => "json_invalid"
  | noObject => "model_attributes_type"
  | noInteger => "int_type"
  | fractional => "int_from_float"
  | notFinite => "finite_number"
  | badNumeral => "int_parsing"
  | longNumeral => "int_parsing_size"
  | tooSmall => "greater_than_equal"
  | noText => "string_type"
  | brokenText => "string_unicode"
  | badWord => "bool_parsing"
  | noTruthValue => "bool_type"
  | noSettings => "dict_type"

/-- The words of a problem. -/
def Problem.message : Problem → Text
  | missing => "Field required"
  | malformed _ => "JSON decode error"
  | noObject => "Input should be a valid dictionary or object to extract fields from"
  | noInteger => "Input should be a valid integer"
  | fractional => "Input should be a valid integer, got a number with a fractional part"
  | notFinite => "Input should be a finite number"
  | badNumeral => "Input should be a valid integer, unable to parse string as an integer"
  | longNumeral => "Unable to parse input string as an integer, exceeded maximum size"
  | tooSmall => "Input should be greater than or equal to " ++ Text.ofInt leastVersion
  | noText => "Input should be a valid string"
  | brokenText => "Input should be a valid string, unable to parse raw data as a unicode string"
  | badWord => "Input should be a valid boolean, unable to interpret input"
  | noTruthValue => "Input should be a valid boolean"
  | noSettings => "Input should be a valid dictionary"

/-- What the words of a problem are about, where they need it. -/
def Problem.context : Problem → Option (List (Text × Json))
  | malformed complaint => some [("error", .text complaint.message)]
  | tooSmall => some [("ge", .int leastVersion)]
  | _ => none

/-- Where a problem is: in the body as a whole, in a field, or at a position of the body. -/
inductive Spot where
  | body
  | field (key : Text)
  | position (n : Nat)

/-- The way to a spot. -/
def Spot.toJson : Spot → Json
  | body => .list [.text "body"]
  | field key => .list [.text "body", .text key]
  | position n => .list [.text "body", .int n]

/-- A problem, its place, and the value that was found there. -/
structure Report where
  spot : Spot
  problem : Problem
  found : Json

/-- Holds of the keys whose members are not shown. -/
def isHidden (key : Text) : Bool := ("_sa" : Text).isPrefixOf key

mutual

/-- A value as a report shows it. -/
def visible : Json → Json
  | .list items => .list (visibleItems items)
  | .object members => .object (visibleMembers members)
  | atom => atom

/-- Items as a report shows them. -/
def visibleItems : List Json → List Json
  | [] => []
  | item :: rest => visible item :: visibleItems rest

/-- Members as a report shows them. -/
def visibleMembers : List (Text × Json) → List (Text × Json)
  | [] => []
  | (key, value) :: rest =>
    if isHidden key then visibleMembers rest
    else (key, visible value) :: visibleMembers rest

end

/-- A report as an object. -/
def Report.toJson (r : Report) : Json :=
  let context : Option (Text × Json) :=
    r.problem.context.map fun members => ("ctx", .object members)
  .object (("type", .text r.problem.name) :: ("loc", r.spot.toJson) ::
    ("msg", .text r.problem.message) :: ("input", visible r.found) ::
      context.toList)

/-- A query. -/
structure Query where
  version : Int
  text : Text
  scores : Bool
  /-- The members of the settings, if there are any. -/
  settings : Option (List (Text × Json))

/-- The version of the service, which is also the version of a query that gives none. -/
def version : Int := 1

/-- The integer of a numeral. -/
def readNumeral (t : Text) : Except Problem Int :=
  match Loose.read t with
  | .ok i => .ok i
  | .error .malformed => .error .badNumeral
  | .error .tooLong => .error .longNumeral

/-- The size from which on a number has too many digits for a machine word. -/
def wordLimit : Int := 0x8000000000000000

/-- The integer of a double. -/
def readWhole (x : Float) : Except Problem Int :=
  if !x.isFinite then .error .notFinite
  else
    match Binary64.toInt? x with
    | none => .error .fractional
    | some i => if -wordLimit < i ∧ i < wordLimit then .ok i else .error .longNumeral

/-- Holds of a text with a surrogate that stands alone. -/
def isBroken (t : Text) : Bool := t.any CodePoint.isSurrogate

/-- The integer of a value. -/
def readInteger : Json → Except Problem Int
  | .int i => .ok i
  | .bool b => .ok (if b then 1 else 0)
  | .double x => readWhole x
  | .text t => if isBroken t then .error .brokenText else readNumeral t
  | _ => .error .noInteger

/-- The version of a query. -/
def readVersion : Option Json → Except Problem Int
  | none => .ok version
  | some value => do
    let i ← readInteger value
    if i < leastVersion then .error .tooSmall else pure i

/-- The text of a query. -/
def readText : Option Json → Except Problem Text
  | none => .error .missing
  | some (.text t) => .ok t
  | some _ => .error .noText

/-- The words that say yes, in small letters. -/
def yesWords : List Text := ["1", "on", "t", "true", "y", "yes"]

/-- The words that say no, in small letters. -/
def noWords : List Text := ["0", "off", "f", "false", "n", "no"]

/-- The truth value of an integer: one says yes, and zero no. -/
def readFlag (i : Int) : Except Problem Bool :=
  if i = 0 then .ok false
  else if i = 1 then .ok true
  else .error .badWord

/-- Whether scores are wished for. -/
def readScores : Option Json → Except Problem Bool
  | none => .ok false
  | some (.bool b) => .ok b
  | some (.int i) => if -wordLimit ≤ i ∧ i < wordLimit then readFlag i else .error .noTruthValue
  | some (.double x) =>
    match Binary64.toInt? x with
    | some i => if -wordLimit < i ∧ i < wordLimit then readFlag i else .error .noTruthValue
    | none => .error .noTruthValue
  | some (.text t) =>
    if isBroken t then .error .brokenText
    else if yesWords.contains t.asciiLower then .ok true
    else if noWords.contains t.asciiLower then .ok false
    else .error .badWord
  | some _ => .error .noTruthValue

/-- The settings of a query. -/
def readSettings : Option Json → Except Problem (Option (List (Text × Json)))
  | none => .ok none
  | some .null => .ok none
  | some (.object members) => .ok (some members)
  | some _ => .error .noSettings

/-- The report on a field, if there is something wrong with it. A field that is missing is missing
from the whole body. -/
def reportOn {α : Type} (body : Json) (key : Text) : Except Problem α → List Report
  | .ok _ => []
  | .error problem => [⟨.field key, problem, (body.member? key).getD body⟩]

/-- Reads a query from a value. -/
def Query.ofJson (body : Json) : Except (List Report) Query :=
  match body with
  | .object _ =>
    let version := readVersion (body.member? "schema_version")
    let text := readText (body.member? "text")
    let scores := readScores (body.member? "scores")
    let settings := readSettings (body.member? "config")
    match version, text, scores, settings with
    | .ok version, .ok text, .ok scores, .ok settings => .ok ⟨version, text, scores, settings⟩
    | version, text, scores, settings =>
      .error (reportOn body "schema_version" version ++ reportOn body "text" text ++
        reportOn body "scores" scores ++ reportOn body "config" settings)
  | _ => .error [⟨.body, .noObject, body⟩]

end Polyglot.Service
