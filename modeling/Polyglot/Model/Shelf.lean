import Polyglot.Session
import Polyglot.Text.Newline

/-! # Loading models

A model is loaded from a file of UTF-8 text. The shelf keeps each model that was asked for by the
text of its path, so that the file is read once; a file that could not be loaded is read again next
time. The path is the one that was asked for, else the one that the environment names, else that of
the packaged asset; an empty path counts as none. A tilde at the front of the first two stands for a
home.
-/

namespace Polyglot.Model

variable [Limits]

/-- The environment variable that names a model. -/
def pathVariable : Text := "SNIPPET_LID_MODEL_PATH"

/-- The environment variable that names the home of the user. -/
def homeVariable : Text := "HOME"

/-- A text that is not empty. -/
def nonempty? (t : Option Text) : Option Text := t.filter fun t => !t.isEmpty

/-- The path of the model that is asked for. -/
def resolvePath (asked : Option Text) : Action Path := do
  let s ← get
  match (nonempty? asked).or (nonempty? (s.getVariable pathVariable)) with
  | some t => Action.lift ((Path.ofText t).expandHome s.site.users (s.getVariable homeVariable))
  | none => pure s.site.packaged

/-- Reads a model from the content of a file. -/
def ofBytes (path : Text) (content : Bytes) : Except Fault Model :=
  match Utf8.decode content with
  | .error e => .error (.malformedModel (.notUtf8 path e))
  | .ok t =>
    match Json.decode Limits.decoding (Text.unifyNewlines t) with
    | .error (.malformed complaint place) =>
      .error (.malformedModel (.notJson path complaint place))
    | .error (.longInteger digits) => .error (.longInteger digits)
    | .error .tooDeep => .error .tooDeep
    | .ok payload => ofJson path payload

/-- The report that a model was loaded. -/
def loadedMessage (m : Model) : Text :=
  "Loaded language model from " ++ m.source ++ " (" ++ Text.ofNat m.vocabulary.size ++
    " features, " ++ Text.ofNat m.forest.length ++ " trees, " ++ Text.ofNat m.labels.size ++
    " labels)"

/-- Loads the model in a file, whether or not it has been loaded before. -/
def load (path : Path) : Action Loaded := do
  let content ← Action.readFile path
  let model ← Action.lift (ofBytes path.text content)
  Action.log .info Log.modelLogger (loadedMessage model)
  Action.enlist model

/-- The shared model of a path: the one on the shelf, or else the one in the file. -/
def shared (asked : Option Text) : Action Loaded := do
  let path ← resolvePath asked
  let key := path.text
  match Entries.get? key (← get).shelf with
  | some loaded => pure loaded
  | none =>
    Action.log .debug Log.modelLogger ("Initializing shared language model: " ++ key)
    let loaded ← load (Path.ofText key)
    modify fun s => { s with shelf := Entries.put key loaded s.shelf }
    pure loaded

/-- Empties the shelf. -/
def clearShelf : Action Unit := modify fun s => { s with shelf := [] }

end Polyglot.Model
