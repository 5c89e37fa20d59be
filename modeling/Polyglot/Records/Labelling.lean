import Polyglot.Device
import Polyglot.Json.Encode
import Polyglot.Records.Basic

/-! # Labelling records

Labelling a file writes each record that can be classified to another file, with its language under
a key. A record that has the key already keeps its place; otherwise the key comes last. A row that
is no object, or whose text cannot be classified, is skipped and counted as an error. The output is
made before the input is read, so a file that is labelled onto itself counts as empty. It is written
row by row and closed in the end, also when a row has aborted the run or the output was refused.
-/

namespace Polyglot.Labelling

open Records

variable [Limits]

/-- The keys of the text and of the label. -/
structure Keys where
  text : Text
  output : Text

/-- The keys that are used when none are given. -/
def Keys.standard : Keys := ⟨"text", "language"⟩

/-- What becomes of a row. -/
inductive Outcome where
  | labelled (members : List (Text × Json))
  | skipped (reason : Reason)

/-- Labels a record. -/
def labelRecord (c : Classifier) (keys : Keys) (members : List (Text × Json)) :
    Except Fault Outcome :=
  match c.classify (textAt keys.text members) with
  | .ok language => .ok (.labelled (Entries.put keys.output (.text language) members))
  | .error fault =>
    if fault.isExpected then .ok (.skipped (.unclassified fault)) else .error fault

/-- Labels the record of a row. -/
def label (c : Classifier) (keys : Keys) (content : Text) : Except Fault Outcome := do
  match ← parse content with
  | .error reason => pure (.skipped reason)
  | .ok (.object members) => labelRecord c keys members
  | .ok other => pure (.skipped (.noMembers other.kindName))

/-- The line that is written for an outcome. -/
def Outcome.line : Outcome → Text
  | labelled members => Json.encode (.object members) ++ [CodePoint.lineFeed]
  | skipped _ => []

/-- Holds of the outcomes that are written. -/
def Outcome.isLabelled : Outcome → Bool
  | labelled _ => true
  | skipped _ => false

/-- The warning about an outcome. -/
def warning? (file : Text) : Row × Outcome → Option Log.Entry
  | (row, .skipped reason) => some (skipping file row reason)
  | (_, .labelled _) => none

/-- How many rows were read, written and skipped. -/
structure Summary where
  rowsIn : Nat
  rowsOut : Nat
  errors : Nat
  deriving DecidableEq

/-- The object form of a summary. -/
def Summary.toJson (s : Summary) : Json :=
  .object
    [("n_rows_in", .int s.rowsIn), ("n_rows_out", .int s.rowsOut), ("n_errors", .int s.errors)]

/-- The summary of outcomes. -/
def summarize (outcomes : List (Row × Outcome)) : Summary :=
  { rowsIn := outcomes.length
    rowsOut := outcomes.countP fun o => o.2.isLabelled
    errors := outcomes.countP fun o => !o.2.isLabelled }

/-- The text that is written for outcomes. -/
def output (outcomes : List (Row × Outcome)) : Text := outcomes.flatMap fun o => o.2.line

/-- A classifier, and the files to read and to write. -/
structure Job where
  classifier : Classifier
  input : FileId
  output : FileId

/-- What is done before the first row is looked at. -/
def prepare (classifier : Action Classifier) (source target : Path) : Action Job := do
  Action.makeDirectories target.parent
  let c ← classifier
  let input ← Action.openFile source
  let output ← Action.createFile target
  pure ⟨c, input, output⟩

/-- Labels rows one after another, behind those that have been handled. A warning names the file as
it was given. -/
def labelEach (device : Device) (keys : Keys) (file : Text) (job : Job)
    (handled : List (Row × Outcome)) : List Row → Action (Run Outcome)
  | [] => pure ⟨handled, none⟩
  | row :: rest =>
    match label job.classifier keys row.content with
    | .error fault => pure ⟨handled, some fault⟩
    | .ok outcome => do
      let handled := handled ++ [(row, outcome)]
      Action.logAll (warning? file (row, outcome)).toList
      if outcome.isLabelled ∧ device.wants (output handled) then
        if ← device.handOn job.output (output handled) then
          labelEach device keys file job handled rest
        else pure ⟨handled, some (.unwritten device.refusal)⟩
      else labelEach device keys file job handled rest

/-- Labels the rows of a file and closes the output. -/
def labelRowsOn (device : Device) (keys : Keys) (file : Text) (job : Job) : Action Summary := do
  let reading ← readFrom job.input
  let r ← labelEach device keys file job [] reading.rows
  -- The output is closed in any case, and a refusal comes before the fault that ended the rows.
  if ← device.handOn job.output (output r.handled) then
    Action.lift ({ r with stop := r.stop.or reading.stop }.finish (summarize r.handled))
  else Action.lift (.error (.unwritten device.refusal))

/-- Labels the records of a file and writes them to another one, on a device. -/
def labelFileOn (device : Device) (classifier : Action Classifier) (keys : Keys)
    (source target : Path) : Action Summary := do
  labelRowsOn device keys source.text (← prepare classifier source target)

/-- Labels the records of a file and writes them to another one, for which there is room. -/
def labelFile : Action Classifier → Keys → Path → Path → Action Summary := labelFileOn .endless

end Polyglot.Labelling
