import Polyglot.FileStore
import Polyglot.Log.Entry
import Polyglot.Model.Basic

/-! # Sessions

A session is what operations share: the site that a program runs at, the files, the environment, the
models that have been loaded, and the log. A model that has been loaded carries the number of its
loading, which tells it from any other loading of the same asset. An action may fail; what it
changed before stays changed.
-/

namespace Polyglot

/-- A model, and the number of its loading. -/
structure Loaded where
  model : Model
  serial : Nat

/-- What a program finds where it runs, and nothing it does changes. -/
structure Site where
  /-- The homes of users. -/
  users : Users
  /-- Where the packaged asset stands. -/
  packaged : Path
  /-- The path of the packaged asset is read again from its text. -/
  packaged_read : Path.ofText packaged.text = packaged

/-- A site where no user is known. -/
def Site.plain : Site where
  users := ⟨none, fun _ => none⟩
  packaged := ⟨.slash, ["packaged", "model.json"]⟩
  packaged_read := by decide +kernel

/-- What operations share. -/
structure Session where
  site : Site
  files : FileStore
  environment : List (Text × Text)
  /-- The models by the text of the path they were asked for. -/
  shelf : List (Text × Loaded)
  /-- How many models have been loaded. -/
  loadings : Nat
  log : List Log.Entry

/-- An operation on a session. -/
abbrev Action (α : Type) := ExceptT Fault (StateM Session) α

namespace Session

/-- The session before any operation. -/
def initial (site : Site) (files : FileStore) : Session := ⟨site, files, [], [], 0, []⟩

/-- The value of an environment variable. -/
def getVariable (s : Session) (name : Text) : Option Text := Entries.get? name s.environment

/-- Sets an environment variable, or unsets it. -/
def setVariable (s : Session) (name : Text) : Option Text → Session
  | some value => { s with environment := Entries.put name value s.environment }
  | none => { s with environment := Entries.erase name s.environment }

/-- Adds an entry to the log. -/
def record (s : Session) (entry : Log.Entry) : Session := { s with log := s.log ++ [entry] }

end Session

namespace Action

/-- A computation that needs no session. -/
def lift {α : Type} (r : Except Fault α) : Action α := ExceptT.mk (pure r)

/-- Adds an entry to the log. -/
def log (level : Log.Level) (logger message : Text) : Action Unit :=
  modify fun s => s.record ⟨level, logger, message⟩

/-- Adds entries to the log. -/
def logAll (entries : List Log.Entry) : Action Unit :=
  modify fun s => { s with log := s.log ++ entries }

/-- The content of a file. -/
def readFile (p : Path) : Action Bytes := do lift ((← get).files.read p)

/-- The file that a path leads to. -/
def openFile (p : Path) : Action FileId := do lift ((← get).files.openFile p)

/-- The content of a file that is open. -/
def contentOf (id : FileId) : Action Bytes := do pure ((← get).files.content id)

/-- Makes a directory and the directories on the way to it. -/
def makeDirectories (p : Path) : Action Unit := do
  let (outcome, files) := (← get).files.makeDirectoriesOf p
  modify fun s => { s with files }
  lift outcome

/-- Empties or makes a file and opens it. -/
def createFile (p : Path) : Action FileId := do
  let (id, files) ← lift ((← get).files.create p)
  modify fun s => { s with files }
  pure id

/-- Gives a file that is open another content. -/
def write (id : FileId) (content : Bytes) : Action Unit :=
  modify fun s => { s with files := s.files.write id content }

/-- Marks a model as loaded now. -/
def enlist (model : Model) : Action Loaded := do
  let serial := (← get).loadings
  modify fun s => { s with loadings := serial + 1 }
  pure ⟨model, serial⟩

/-- The outcome of an action and the session after it. -/
def perform {α : Type} (a : Action α) (s : Session) : Except Fault α × Session := a.run s

end Action

end Polyglot
