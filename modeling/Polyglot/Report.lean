import Polyglot.Model.Shelf

/-! # Health report

The report says whether the model that would be used is there and can be loaded, and how large it
is. What is known about the machine and about installed packages is added as it was found out.
-/

namespace Polyglot

/-- What is known about the machine. -/
structure Surroundings where
  runtime : Json
  platform : Json
  /-- The versions of the packages that are installed. -/
  versions : List (Text × Text)

namespace Report

variable [Limits]

/-- How loading the model came out. -/
inductive Outcome where
  | valid (features trees labels : Nat)
  | invalid (message : Text)

/-- The state of the model. -/
structure ModelState where
  path : Text
  /-- The path that the environment names, as it is written there. -/
  override : Option Text
  /-- How loading came out; nothing when there is no file. -/
  outcome : Option Outcome

/-- Loads the model of the environment; a fault that a report shows is an outcome. -/
def tryModel : Action Outcome := do
  let (result, s) := (Model.shared none).perform (← get)
  set s
  match result with
  | .ok loaded =>
    let m := loaded.model
    pure (.valid m.vocabulary.size m.forest.length m.labels.size)
  | .error fault =>
    if fault.isReported then pure (.invalid fault.message) else Action.lift (.error fault)

/-- Finds out the state of the model. -/
def inspect : Action ModelState := do
  let path ← Model.resolvePath none
  let override := (← get).getVariable Model.pathVariable
  if ← Action.lift ((← get).files.testFile path) then
    pure ⟨path.text, override, some (← tryModel)⟩
  else pure ⟨path.text, override, none⟩

/-- The members that an outcome adds. -/
def Outcome.members : Outcome → List (Text × Json)
  | valid features trees labels =>
    [("valid", .bool true), ("n_features", .int features), ("n_trees", .int trees),
      ("n_labels", .int labels)]
  | invalid message => [("valid", .bool false), ("error", .text message)]

/-- The state of the model as an object. -/
def ModelState.toJson (s : ModelState) : Json :=
  let members : List (Text × Json) :=
    [("path", .text s.path), ("present", .bool s.outcome.isSome),
      ("env_override", (s.override.map Json.text).getD .null)]
  .object (members ++ (s.outcome.map Outcome.members).getD [])

/-- The packages that a report tells about. -/
def packages : List Text :=
  ["regex", "typer", "rich", "fastapi", "pydantic", "uvicorn", "httpx", "pytest"]

/-- What a report tells about a package. -/
def packageToJson (versions : List (Text × Text)) (name : Text) : Text × Json :=
  match Entries.get? name versions with
  | some version => (name, .object [("installed", .bool true), ("version", .text version)])
  | none => (name, .object [("installed", .bool false), ("version", .null)])

/-- The report. -/
def collect (around : Surroundings) : Action Json := do
  let state ← inspect
  pure <| .object
    [("python", around.runtime), ("platform", around.platform), ("model", state.toJson),
      ("packages", .object (packages.map (packageToJson around.versions)))]

end Report

end Polyglot
