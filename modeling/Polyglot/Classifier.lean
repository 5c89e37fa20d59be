import Polyglot.Model.Shelf
import Polyglot.Settings
import Polyglot.Token

/-! # Classifying a text

A classifier is a model with settings. Analysing a text cuts it to the length that the settings
allow, counts its tokens, lets the forest vote, and names the winner. An observer may be told of
each stage. What it is told are values, which it cannot change; whatever it does with them, and also
when it fails, the analysis comes out the same.
-/

namespace Polyglot

/-- A model with settings. -/
structure Classifier where
  settings : Settings
  loaded : Loaded

/-- What an analysis finds out about a text. -/
structure Analysis where
  language : Text
  label : Int
  /-- The total of each language that a tree voted for, in the order of the first votes. -/
  votes : List (Text × Float)
  tokenCount : Nat
  knownCount : Nat

/-- A stage of an analysis, told when it is complete. -/
inductive Event where
  | tokenized (count : Nat) (preview : List Text)
  | counted (count known : Nat) (mass : Float)
  | voted (trees : Nat) (votes : List (Text × Float))
  | decided (language : Text)

/-- A listener with a state of its own, which may fail. -/
abbrev Observer (σ : Type) := Event → StateM σ (Except Text Unit)

namespace Classifier

/-- The model of a classifier. -/
def model (c : Classifier) : Model := c.loaded.model

/-- A classifier with canonical settings and the shared model of its path. -/
def build [Limits] (draft : Settings.Draft) : Action Classifier := do
  let settings ← Action.lift draft.settle
  let loaded ← Model.shared settings.modelPath
  pure ⟨settings, loaded⟩

/-- A classifier with canonical settings and a model of its own. -/
def withModel [Limits] (loaded : Loaded) (draft : Settings.Draft) : Except Fault Classifier := do
  let settings ← draft.settle
  pure ⟨settings, loaded⟩

/-- The part of a text that is looked at. -/
def cut (c : Classifier) (t : Text) : Text :=
  match c.settings.maxInputChars with
  | none => t
  | some n => t.take n

/-- The analysis of a frequency vector. -/
def verdict (m : Model) (f : Frequency) : Except Fault Analysis := do
  let tally ← Tally.ofForest m.labels.size m.forest f
  let named ← tally.totals.mapM fun (label, total) => do
    let symbol ← m.labels.resolve label
    pure (symbol, total)
  let language ← m.labels.resolve tally.winner
  pure ⟨language, tally.winner, Entries.ofList named, f.tokenCount, f.knownCount⟩

/-- Analyses a text. -/
def analyze (c : Classifier) (t : Text) : Except Fault Analysis := do
  let f ← Frequency.ofTokens c.model.vocabulary (tokens (c.cut t))
  verdict c.model f

/-- How many tokens an observer is shown. -/
def previewLength : Nat := 12

/-- Tells an observer of a stage; its failure is ignored. -/
def tell {σ : Type} (observer : Observer σ) (event : Event) : ExceptT Fault (StateM σ) Unit := do
  let _ ← observer event

/-- Analyses a text and tells an observer of each stage. -/
def analyzeWith {σ : Type} (observer : Observer σ) (c : Classifier) (t : Text) :
    ExceptT Fault (StateM σ) Analysis := do
  let ts := tokens (c.cut t)
  tell observer (.tokenized ts.length (ts.take previewLength))
  let f ← ExceptT.mk (pure (Frequency.ofTokens c.model.vocabulary ts))
  tell observer (.counted f.tokenCount f.knownCount f.total)
  let analysis ← ExceptT.mk (pure (verdict c.model f))
  tell observer (.voted c.model.forest.length analysis.votes)
  tell observer (.decided analysis.language)
  pure analysis

/-- The language of a text. -/
def classify (c : Classifier) (t : Text) : Except Fault Text := (c.analyze t).map Analysis.language

/-- The languages of several texts; the first text that fails decides. -/
def classifyAll (c : Classifier) (ts : List Text) : Except Fault (List Text) := ts.mapM c.classify

end Classifier

end Polyglot
