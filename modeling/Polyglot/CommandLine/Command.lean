import Polyglot.CommandLine.Arguments
import Polyglot.FileStore
import Polyglot.Number.Loose

/-! # Commands

The program has five commands: to detect the language of a snippet, to list the languages, to label
a file of records, to evaluate the model on labelled records, and to report on the state of the
model. Arguments that do not fit a command are misuse. Asking for help comes before everything but
arguments that cannot be read at all.
-/

namespace Polyglot.CommandLine

/-- What the program is to do. -/
inductive Command where
  | detect (snippet file model : Option Text) (maxChars : Option Int) (scores : Bool)
  | labels (model : Option Text)
  | batch (input output : Text) (textKey outputKey : Text) (model : Option Text)
  | evaluate (input : Text) (textKey labelKey : Text) (report model : Option Text)
  | doctor

/-- What the program is asked for. -/
inductive Request where
  | help
  /-- Nothing at all was asked for, which is answered with help. -/
  | nothing
  | misuse
  | run (verbose : Bool) (command : Command)

/-- An option with a value. -/
def valueOption (names : List Text) : OptionSpec := ⟨names, true⟩

/-- An option without a value. -/
def flagOption (names : List Text) : OptionSpec := ⟨names, false⟩

/-- The option that asks for help. -/
def helpOption : OptionSpec := flagOption ["--help"]

/-- The option that names a model. -/
def modelOption : OptionSpec := valueOption ["--model"]

/-- The options of the program itself, which stand before the command. -/
def programOptions : List OptionSpec := [flagOption ["--verbose", "-v"], helpOption]

/-- A text that can be a path. What it leads to, if there is anything, has to be readable. -/
def readPath (files : FileStore) (t : Text) : Option Text :=
  let p := Path.ofText t
  match p.check, files.locate p with
  | .error _, _ => none
  | .ok (), .error _ => some t
  | .ok (), .ok place =>
    if (files.node? place).isNone ∨ files.allows .read place then some t else none

/-- A text that leads to a file. -/
def readFile (files : FileStore) (t : Text) : Option Text := do
  let t ← readPath files t
  match files.find? (Path.ofText t) with
  | some (.file _) => some t
  | _ => none

/-- The value of an option that need not be given; nothing when it is given and cannot be read. -/
def optional {α : Type} (read : Text → Option α) (given : Option Text) : Option (Option α) :=
  match given with
  | none => some none
  | some t => (read t).map some

/-- The model that is asked for. -/
def readModel (files : FileStore) (a : Arguments) : Option (Option Text) :=
  optional (readPath files) (a.value? "--model")

/-- Reads the arguments of a command whose options are given. -/
def request (options : List OptionSpec) (arguments : List Text) (verbose : Bool)
    (command : Arguments → Option Command) : Request :=
  match parse (helpOption :: options) true arguments with
  | none => .misuse
  | some a =>
    if a.hasFlag "--help" then .help
    else
      match command a with
      | none => .misuse
      | some command => .run verbose command

/-- The command that detects a language. -/
def readDetect (files : FileStore) (a : Arguments) : Option Command := do
  let snippet ←
    match a.operands with
    | [] => some none
    | [t] => some (some t)
    | _ => none
  let file ← optional (readFile files) (a.value? "--file")
  let maxChars ← optional Loose.integer? (a.value? "--max-chars")
  pure (.detect snippet file (← readModel files a) maxChars (a.hasFlag "--scores"))

/-- The command that lists the languages. -/
def readLabels (files : FileStore) (a : Arguments) : Option Command :=
  match a.operands with
  | [] => (readModel files a).map .labels
  | _ => none

/-- The command that labels a file. -/
def readBatch (files : FileStore) (a : Arguments) : Option Command :=
  match a.operands with
  | [input, output] => do
    let input ← readFile files input
    let output ← readPath files output
    pure (.batch input output ((a.value? "--text-key").getD "text")
      ((a.value? "--output-key").getD "language") (← readModel files a))
  | _ => none

/-- The command that evaluates the model. -/
def readEvaluate (files : FileStore) (a : Arguments) : Option Command :=
  match a.operands with
  | [input] => do
    let input ← readFile files input
    let report ← optional (readPath files) (a.value? "--report")
    pure (.evaluate input ((a.value? "--text-key").getD "text")
      ((a.value? "--label-key").getD "language") report (← readModel files a))
  | _ => none

/-- The command that reports on the model. -/
def readDoctor (a : Arguments) : Option Command :=
  match a.operands with
  | [] => some .doctor
  | _ => none

/-- What is asked for when the name of a command is none: a name may still ask for help. -/
def readUnknown (arguments : List Text) : Request :=
  match parse programOptions false arguments with
  | some a => if a.hasFlag "--help" then .help else .misuse
  | none => .misuse

/-- Reads a command by its name. -/
def readCommand (files : FileStore) (verbose : Bool) (name : Text) (arguments : List Text) :
    Request :=
  if name = "detect" then
    request [valueOption ["--file", "-f"], modelOption, valueOption ["--max-chars"],
      flagOption ["--scores"]] arguments verbose (readDetect files)
  else if name = "labels" then request [modelOption] arguments verbose (readLabels files)
  else if name = "batch" then
    request [valueOption ["--text-key"], valueOption ["--output-key"], modelOption] arguments
      verbose (readBatch files)
  else if name = "evaluate" then
    request [valueOption ["--text-key"], valueOption ["--label-key"], valueOption ["--report"],
      modelOption] arguments verbose (readEvaluate files)
  else if name = "doctor" then request [] arguments verbose readDoctor
  else readUnknown (name :: arguments)

/-- Reads the arguments of the program. -/
def readRequest (files : FileStore) (arguments : List Text) : Request :=
  if arguments.isEmpty then .nothing
  else
    match parse programOptions false arguments with
    | none => .misuse
    | some a =>
      if a.hasFlag "--help" then .help
      else
        match a.operands with
        | [] => .misuse
        | name :: rest => readCommand files (a.hasFlag "--verbose") name rest

end Polyglot.CommandLine
