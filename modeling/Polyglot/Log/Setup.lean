import Polyglot.Log.Fault
import Polyglot.Session
import Polyglot.Text.Capital

/-! # Setting up the log

A program that logs asks for a level by its name, in any case, or leaves the choice to the
environment; a name that is not known counts as the level of warnings. The environment also chooses
between lines of JSON and lines of text. All lines go to one handler, which writes them to the
error stream.
-/

namespace Polyglot.Log

/-- The form of a log line. -/
inductive Form where
  | text
  | json
  deriving DecidableEq

/-- The name of a form. -/
def Form.name : Form → Text
  | text => "Formatter"
  | json => "JSONFormatter"

/-- The pattern of a line in a form. -/
def Form.pattern : Form → Text
  | text => "%(asctime)s [%(levelname)s] %(name)s: %(message)s"
  | json => "%(message)s"

/-- How the log is set up: the least severity that is shown, and the form of the lines. -/
structure Setup where
  severity : Int
  form : Form

/-- The environment variable that names a level. -/
def levelVariable : Text := "SNIPPET_LID_LOG_LEVEL"

/-- The environment variable that names a form. -/
def formVariable : Text := "SNIPPET_LID_LOG_FORMAT"

/-- The severity of warnings, which is the standard. -/
def warning : Int := 30

/-- The severities that have names. -/
def severities : List (Text × Int) :=
  [("CRITICAL", 50), ("FATAL", 50), ("ERROR", 40), ("WARNING", 30), ("WARN", 30), ("INFO", 20),
    ("DEBUG", 10), ("NOTSET", 0)]

/-- A name that stands for a pattern of lines instead of a level. -/
def patternName : Text := "BASIC_FORMAT"

/-- The pattern that it stands for. -/
def basicPattern : Text := "%(levelname)s:%(name)s:%(message)s"

/-- A name that stands for the ways to write patterns instead of a level. -/
def stylesName : Text := "_STYLES"

/-- The table of the ways to write patterns, each with its sign and its basic pattern. -/
def stylesShown : Text :=
  "\x7b'%': (<class 'logging.PercentStyle'>, '%(levelname)s:%(name)s:%(message)s'), " ++
    "'\x7b': (<class 'logging.StrFormatStyle'>, " ++
    "'\x7blevelname\x7d:\x7bname\x7d:\x7bmessage\x7d'), " ++
    "'$': (<class 'logging.StringTemplateStyle'>, " ++
    "'$\x7blevelname\x7d:$\x7bname\x7d:$\x7bmessage\x7d')\x7d"

/-- The severity that a name stands for. -/
def severityOf (name : Text) : Except Fault Int :=
  let name := Text.asciiCapitals name
  if name = patternName then .error (.unknownLevel (Text.quoted basicPattern))
  else if name = stylesName then .error (.badLevel stylesShown)
  else .ok ((Entries.get? name severities).getD warning)

/-- The form that the environment chooses. -/
def formOf (choice : Option Text) : Form :=
  if (choice.getD []).asciiLower = "json" then .json else .text

/-- The name of the level: the one that is asked for, else the one of the environment. An empty name
asks for nothing. -/
def levelName (asked fallback : Option Text) : Text :=
  match asked.filter fun name => !name.isEmpty with
  | some name => name
  | none => fallback.getD "WARNING"

/-- Sets up the log in a session. -/
def setup (asked : Option Text) (s : Session) : Except Fault Setup := do
  let severity ← severityOf (levelName asked (s.getVariable levelVariable))
  pure ⟨severity, formOf (s.getVariable formVariable)⟩

end Polyglot.Log
