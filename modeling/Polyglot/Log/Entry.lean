import Polyglot.Text.Basic

/-! # Log entries

The library reports what it does to named loggers. The names belong to the output and are fixed.
-/

namespace Polyglot.Log

/-- How serious an entry is. -/
inductive Level where
  | debug
  | info
  | warning
  deriving DecidableEq

/-- The name of a level. -/
def Level.name : Level → Text
  | debug => "DEBUG"
  | info => "INFO"
  | warning => "WARNING"

/-- A message to a logger. -/
structure Entry where
  level : Level
  logger : Text
  message : Text

/-- The logger of the models. -/
def modelLogger : Text := "snippet_lid.model"

/-- The logger of the labelled records. -/
def batchLogger : Text := "snippet_lid.batch"

end Polyglot.Log
