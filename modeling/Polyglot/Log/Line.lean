import Polyglot.Json.Encode
import Polyglot.Log.Entry
import Polyglot.Log.Instant
import Polyglot.Log.Template
import Polyglot.Path

/-! # Log lines

A record of the log is written as a line of JSON or as a line of text. The line of JSON names the
file that the record comes from without its last extension, fills the arguments into the template of
the message, and shows the fault that the record is about, if there is one.
-/

namespace Polyglot.Log

/-- The severity of a record: a number, of which some have names. -/
def severityName (severity : Int) : Text :=
  match severity with
  | 0 => "NOTSET"
  | 10 => "DEBUG"
  | 20 => "INFO"
  | 30 => "WARNING"
  | 40 => "ERROR"
  | 50 => "CRITICAL"
  | other => "Level " ++ Text.ofInt other

/-- The fault that a record is about: its kind and what it says. -/
structure Cause where
  kind : Text
  message : Text

/-- What is logged, where, and when. -/
structure Record where
  logger : Text
  severity : Int
  file : Text
  line : Int
  function : Option Text
  time : Instant
  template : Text
  arguments : List Json
  cause : Option Cause

/-- The last name of a path, without its last extension. -/
def moduleName (file : Text) : Text := Path.stem ((Text.cutAt '/' file).getLastD [])

/-- The namespace of the kinds of faults. -/
def faultNamespace : Text := "snippet_lid.errors."

/-- How a record shows a fault; a fault that says nothing is shown by its kind. -/
def Cause.text (c : Cause) : Text :=
  let name := faultNamespace ++ c.kind
  if c.message.isEmpty then name else name ++ ": " ++ c.message

/-- A record as an object. -/
def Record.toJson (r : Record) : Except Fault Json := do
  let time ← r.time.text.mapError Fault.instant
  let message ← (Template.message r.template r.arguments).mapError Fault.template
  let cause : List (Text × Json) :=
    match r.cause with
    | none => []
    | some c => [("exception", .text c.text)]
  let members : List (Text × Json) :=
    [("timestamp", .text time), ("severity", .text (severityName r.severity)),
      ("logger", .text r.logger), ("message", .text message),
      ("module", .text (moduleName r.file)),
      ("function", (r.function.map Json.text).getD .null), ("line", .int r.line)]
  pure (.object (members ++ cause))

/-- A record as a line of JSON. -/
def Record.jsonLine (r : Record) : Except Fault Text := r.toJson.map Json.encode

/-- An entry as a line of text, with the time at its front. -/
def Entry.textLine (time : Text) (e : Entry) : Text :=
  time ++ " [" ++ e.level.name ++ "] " ++ e.logger ++ ": " ++ e.message

end Polyglot.Log
