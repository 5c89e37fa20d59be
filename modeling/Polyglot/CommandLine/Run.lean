import Polyglot.CommandLine.Command
import Polyglot.Console
import Polyglot.Log.Line
import Polyglot.Records.Labelling
import Polyglot.Records.Scoring
import Polyglot.Report

/-! # Running commands

A command writes to two streams and ends with a code: zero when it has done its work, one when there
was nothing to classify, and two when it was misused or the model could not be loaded. Any other
fault escapes, which gives code one; what was written before stays. A verbose command also writes
the log to the error stream, in front of its own messages.
-/

namespace Polyglot.CommandLine

variable [Limits] [Console]

/-- What ends a command before its time. -/
inductive Escape where
  | fault (fault : Fault)
  /-- A message cannot be shown. -/
  | unshown (flaw : Console.Flaw)

/-- What a command leaves behind. -/
structure Result where
  out : Text
  err : Text
  code : Nat
  escape : Option Escape

namespace Result

/-- A command that has written to the output. -/
def done (out : Text) : Result := ⟨out, [], 0, none⟩

/-- A command that a fault has ended. -/
def escaped (fault : Fault) : Result := ⟨[], [], 1, some (.fault fault)⟩

/-- Shows a message on the error stream and ends with a code. -/
def complain (code : Nat) (message : Text) : Result :=
  match Console.layout message with
  | .ok err => ⟨[], err, code, none⟩
  | .error flaw => ⟨[], [], 1, some (.unshown flaw)⟩

/-- Shows messages on the output, one after another; one that cannot be shown ends the command. -/
def print : List Text → Result
  | [] => done []
  | message :: rest =>
    match Console.layout message with
    | .ok line => let r := print rest; { r with out := line ++ r.out }
    | .error flaw => ⟨[], [], 1, some (.unshown flaw)⟩

/-- Adds to the error stream of a command that has not been ended. -/
def withErr (r : Result) (err : Text) : Result :=
  match r.escape with
  | none => { r with err := r.err ++ err }
  | some _ => r

end Result

/-- A command on a session. -/
abbrev Program := StateM Session Result

/-- Performs an action and goes on with what it gives; a fault escapes. -/
def attempt {α : Type} (a : Action α) (next : α → Program) : Program := do
  let (outcome, s) := a.perform (← get)
  set s
  match outcome with
  | .ok x => next x
  | .error fault => pure (Result.escaped fault)

/-- The draft of the settings for a model and a limit that may be given. -/
def draft (model : Option Text) (maxChars : Option Int) : Settings.Draft :=
  { Settings.Draft.standard with
    modelPath := (model.map fun t => Json.text (Path.ofText t).text).getD .null
    maxInputChars := (maxChars.map Json.int).getD .null }

/-- What is said when there is no classifier. -/
def loadFailure (fault : Fault) : Text := "[red]Could not load model:[/red] " ++ fault.message

/-- Makes a classifier and goes on with it; the faults of choosing a model are shown. -/
def withClassifier (model : Option Text) (maxChars : Option Int) (next : Classifier → Program) :
    Program := do
  let (outcome, s) := (Classifier.build (draft model maxChars)).perform (← get)
  set s
  match outcome with
  | .ok c => next c
  | .error fault =>
    if fault.isReported then pure (Result.complain 2 (loadFailure fault))
    else pure (Result.escaped fault)

/-- A value on a line of its own. -/
def jsonLine (value : Json) : Text := Json.encode value ++ [CodePoint.lineFeed]

/-- The scores of an analysis as an object. -/
def scoresToJson (a : Analysis) : Json :=
  .object [("language", .text a.language), ("n_tokens", .int a.tokenCount),
    ("n_known_tokens", .int a.knownCount),
    ("votes", .object (a.votes.map fun e => (e.1, .double e.2)))]

/-- Shows the language of a text. -/
def showLanguage (c : Classifier) (scores : Bool) (t : Text) : Result :=
  match c.analyze t with
  | .ok a =>
    let r := Result.print [a.language]
    if scores then r.withErr (jsonLine (scoresToJson a)) else r
  | .error .emptyInput =>
    Result.complain 1 ("[red]Nothing to classify:[/red] " ++ Fault.emptyInput.message)
  | .error fault => Result.escaped fault

/-- The text of a file for a snippet: decoded leniently, with unified ends of line. -/
def snippetOf (content : Bytes) : Text := Text.unifyNewlines (Utf8.decodeLenient content)

/-- Detects the language of a snippet, of a file, or of the input. -/
def detect (input : Text) (snippet file model : Option Text) (maxChars : Option Int)
    (scores : Bool) : Program :=
  withClassifier model maxChars fun c =>
    match snippet, file with
    | some t, _ => pure (showLanguage c scores t)
    | none, some path =>
      attempt (Action.readFile (Path.ofText path)) fun content =>
        pure (showLanguage c scores (snippetOf content))
    | none, none => pure (showLanguage c scores (Text.unifyNewlines input))

/-- Labels a file of records. -/
def batch (input output : Text) (keys : Labelling.Keys) (model : Option Text) : Program :=
  withClassifier model none fun c =>
    attempt (Labelling.labelFile (pure c) keys (Path.ofText input) (Path.ofText output)) fun s =>
      pure (Result.done (jsonLine s.toJson))

/-- Writes a file, with the directories on the way to it. -/
def writeFile (path : Path) (content : Text) : Action Unit := do
  Action.makeDirectories path.parent
  let id ← Action.createFile path
  Action.write id (Utf8.encode content)

/-- Evaluates the model and shows the scores, or writes them to a file. -/
def evaluate (input : Text) (keys : Scoring.Keys) (report model : Option Text) : Program :=
  withClassifier model none fun c =>
    attempt (Scoring.scoreFile (pure c) keys (Path.ofText input)) fun s =>
      let content := Json.encodeLines 0 s.toJson ++ [CodePoint.lineFeed]
      match report with
      | none => pure (Result.done content)
      | some t =>
        let path := Path.ofText t
        attempt (writeFile path content) fun _ =>
          pure (Result.print ["[green]Wrote report:[/green] " ++ path.text])

/-- Performs a command. The input is what the input stream holds. -/
def perform (around : Surroundings) (input : Text) : Command → Program
  | .detect snippet file model maxChars scores =>
    detect input snippet file model maxChars scores
  | .labels model =>
    withClassifier model none fun c => pure (Result.print c.model.labels.languages)
  | .batch source target textKey outputKey model =>
    batch source target ⟨textKey, outputKey⟩ model
  | .evaluate source textKey labelKey report model =>
    evaluate source ⟨textKey, labelKey⟩ report model
  | .doctor =>
    attempt (Report.collect around) fun report =>
      pure (Result.done (Json.encodeLines 0 report ++ [CodePoint.lineFeed]))

/-- How the program is used. -/
def usage : Text :=
  Text.join "\n"
    ["Usage: polyglot [--verbose] [--help] COMMAND [ARGS]...", "",
      "Detect the programming language of a code snippet.", "", "Commands:",
      "  detect [TEXT] [--file FILE] [--model FILE] [--max-chars N] [--scores]",
      "  labels [--model FILE]",
      "  batch IN OUT [--text-key KEY] [--output-key KEY] [--model FILE]",
      "  evaluate IN [--text-key KEY] [--label-key KEY] [--report FILE] [--model FILE]",
      "  doctor", ""]

/-- Runs the program; the lines of the log show a given time. -/
def execute (around : Surroundings) (time input : Text) (arguments : List Text) : Program := do
  let s ← get
  match readRequest s.files arguments with
  | .help => pure (Result.done usage)
  | .nothing => pure ⟨usage, [], 2, none⟩
  | .misuse => pure ⟨[], usage, 2, none⟩
  | .run verbose command =>
    let r ← perform around input command
    let entries := (← get).log.drop s.log.length
    let lines := entries.flatMap fun e => e.textLine time ++ [CodePoint.lineFeed]
    pure (if verbose then { r with err := lines ++ r.err } else r)

end Polyglot.CommandLine
