import Polyglot.Records.Basic

/-! # Scoring a classifier

Scoring compares the language of each record with the one that the record expects. A record that
cannot be classified counts as an error and enters the confusion table with a mark for its
prediction; a row that is no record counts as an error alone. The table remembers in which order
expectations and predictions were first seen.
-/

namespace Polyglot.Scoring

open Records

variable [Limits]

/-- The keys of the text and of the expected label. -/
structure Keys where
  text : Text
  label : Text

/-- The keys that are used when none are given. -/
def Keys.standard : Keys := ⟨"text", "language"⟩

/-- What becomes of a row. -/
inductive Outcome where
  | classified (expected predicted : Text)
  | unclassified (expected : Text)
  | skipped (reason : Reason)

/-- The prediction for a record that cannot be classified. -/
def failureMark : Text := "<error>"

/-- Scores a record. -/
def scoreRecord (c : Classifier) (keys : Keys) (members : List (Text × Json)) :
    Except Fault Outcome :=
  let expected := Text.strip (textAt keys.label members)
  match c.classify (textAt keys.text members) with
  | .ok language => .ok (.classified expected language)
  | .error fault => if fault.isExpected then .ok (.unclassified expected) else .error fault

/-- Scores the record of a row. -/
def score (c : Classifier) (keys : Keys) (content : Text) : Except Fault Outcome := do
  match ← parse content with
  | .error reason => pure (.skipped reason)
  | .ok (.object members) => scoreRecord c keys members
  | .ok _ => pure (.skipped .noObject)

/-- The expected and the predicted label of an outcome that enters the table. -/
def Outcome.pair? : Outcome → Option (Text × Text)
  | classified expected predicted => some (expected, predicted)
  | unclassified expected => some (expected, failureMark)
  | skipped _ => none

/-- Holds when the prediction is the expected one. -/
def Outcome.isCorrect (o : Outcome) : Bool :=
  match o.pair? with
  | some (expected, predicted) => predicted == expected
  | none => false

/-- Holds when no language was predicted. -/
def Outcome.isError : Outcome → Bool
  | classified _ _ => false
  | unclassified _ => true
  | skipped _ => true

/-- The warning about an outcome. -/
def warning? (file : Text) : Row × Outcome → Option Log.Entry
  | (row, .skipped reason) => some (skipping file row reason)
  | _ => none

/-- How often each expectation met each prediction. -/
abbrev Confusion := List (Text × List (Text × Nat))

/-- Counts one more prediction. -/
def Confusion.add (table : Confusion) (pair : Text × Text) : Confusion :=
  let increment (n : Option Nat) : Nat := n.getD 0 + 1
  Entries.alter pair.1 (fun row => Entries.alter pair.2 increment (row.getD [])) table

/-- The table of pairs of an expectation and a prediction. -/
def confusion (pairs : List (Text × Text)) : Confusion := pairs.foldl Confusion.add []

/-- The scores of a file. -/
structure Summary where
  rows : Nat
  correct : Nat
  errors : Nat
  confusion : Confusion

/-- The share of the rows that are correct; without rows it is zero. -/
def Summary.accuracy (s : Summary) : Float :=
  if s.rows = 0 then 0 else Float.ofNat s.correct / Float.ofNat s.rows

/-- The summary of outcomes. -/
def summarize (outcomes : List (Row × Outcome)) : Summary :=
  { rows := outcomes.length
    correct := outcomes.countP fun o => o.2.isCorrect
    errors := outcomes.countP fun o => o.2.isError
    confusion := confusion (outcomes.filterMap fun o => o.2.pair?) }

/-- The object form of a table. -/
def Confusion.toJson (table : Confusion) : Json :=
  .object (table.map fun (expected, row) =>
    (expected, .object (row.map fun (predicted, n) => (predicted, .int n))))

/-- The object form of a summary. -/
def Summary.toJson (s : Summary) : Json :=
  .object [("n_rows", .int s.rows), ("n_correct", .int s.correct), ("n_errors", .int s.errors),
    ("accuracy", .double s.accuracy), ("confusion", s.confusion.toJson)]

/-- A classifier, and the file with the records. -/
structure Job where
  classifier : Classifier
  input : FileId

/-- What is done before the first row is looked at. -/
def prepare (classifier : Action Classifier) (source : Path) : Action Job := do
  let c ← classifier
  let input ← Action.openFile source
  pure ⟨c, input⟩

/-- Scores the rows; a warning names the file as it was given. -/
def scoreRows (keys : Keys) (file : Text) (job : Job) : Action Summary := do
  let r := (← readFrom job.input).run (score job.classifier keys)
  Action.logAll (r.handled.filterMap (warning? file))
  Action.lift (r.finish (summarize r.handled))

/-- Scores the records of a file. -/
def scoreFile (classifier : Action Classifier) (keys : Keys) (source : Path) : Action Summary := do
  scoreRows keys source.text (← prepare classifier source)

end Polyglot.Scoring
