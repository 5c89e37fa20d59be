import Polyglot.Forest
import Polyglot.LabelTable

/-! # Models

A model is a vocabulary, a forest and a label table that fit together: the forest has a tree, and
every tree asks for features of the vocabulary and votes for labels of the table. A model is read
from an asset, a JSON object with the three parts as lists; the kind of a node shows in the number
of its items. Of several flaws the first in the order object, version, lists, vocabulary, labels,
trees decides, and inside a tree the first from the root, the left subtree before the right one.
-/

namespace Polyglot

/-- A vocabulary, a forest and a label table that fit together, and where they come from. -/
structure Model where
  vocabulary : Vocabulary
  labels : LabelTable
  forest : List FloatTree
  forest_ne_nil : forest ≠ []
  fits : ∀ t ∈ forest, t.Fits vocabulary.size labels.size
  source : Text

namespace Model

variable [Limits]

/-- The only version of the asset format. -/
def formatVersion : Int := 1

/-- The source of a model that was not read from a file. -/
def inMemory : Text := "<memory>"

/-- A tree that fits bounds on features and labels. -/
abbrev FittingTree (features labels : Nat) := { t : FloatTree // t.Fits features labels }

/-- A flaw of a node as a fault. -/
def nodeFault (place : NodePlace) (flaw : NodeFlaw) : Fault := (ModelFlaw.node place flaw).fault

/-- Reads a finite number at a node; an integer is rounded to the nearest double. -/
def readNumber (place : NodePlace) (part : NodePart) : Json → Except Fault Float
  | .int i =>
    match Binary64.ofInt? i with
    | some x => .ok x
    | none => .error .integerTooLarge
  | .double x => if x.isFinite then .ok x else .error (nodeFault place (.notFinite part))
  | _ => .error (nodeFault place (.noNumber part))

/-- Reads an integer at a node; true and false are none. -/
def readInteger (place : NodePlace) (part : NodePart) : Json → Except Fault Int
  | .int i => .ok i
  | _ => .error (nodeFault place (.noInteger part))

/-- Reads a tree of at most `depth` levels, whose root is at a place of the forest. -/
def readTree (features labels : Nat) :
    (depth : Nat) → NodePlace → Json → Except Fault (FittingTree features labels)
  | 0, _, _ => .error ModelFlaw.tooDeep.fault
  | depth + 1, place, raw =>
    match raw with
    | .list [rawLabel, rawWeight] => do
      let label ← readInteger place .labelId rawLabel
      if inTable : 0 ≤ label ∧ label < labels then
        let weight ← readNumber place .weight rawWeight
        pure ⟨.leaf ⟨label, weight⟩, inTable⟩
      else .error (nodeFault place (.unknownLabel label))
    | .list [rawFeature, rawThreshold, rawLeft, rawRight] => do
      let feature ← readInteger place .featureId rawFeature
      if inVocabulary : 0 ≤ feature ∧ feature < features then
        let threshold ← readNumber place .threshold rawThreshold
        let left ← readTree features labels depth ⟨place.tree, place.path ++ [.left]⟩ rawLeft
        let right ← readTree features labels depth ⟨place.tree, place.path ++ [.right]⟩ rawRight
        pure ⟨.branch feature threshold left.1 right.1, inVocabulary, left.2, right.2⟩
      else .error (nodeFault place (.featureOutOfRange feature))
    | .list items => .error (nodeFault place (.badArity items.length))
    | _ => .error (nodeFault place .noList)

/-- Reads the trees of a forest in order. -/
def readForest (features labels : Nat) (raw : List Json) :
    Except Fault (List (FittingTree features labels)) :=
  raw.zipIdx.mapM fun (item, index) => readTree features labels Limits.levels ⟨index, []⟩ item

/-- Holds of the values that equal the format version: the integer, the double and true. -/
def isFormatVersion : Json → Bool
  | .int i => i == formatVersion
  | .double x => x == 1
  | .bool b => b
  | _ => false

/-- The list at a key of an asset. -/
def listAt (payload : Json) (key : Text) : Except Fault (List Json) :=
  match payload.member? key with
  | some (.list items) => .ok items
  | _ => .error (ModelFlaw.noListAt key).fault

/-- Refuses an asset of another version; an asset may leave its version out. -/
def checkVersion (payload : Json) : Except Fault Unit :=
  match payload.member? "format_version" with
  | none => .ok ()
  | some found =>
    if isFormatVersion found then .ok () else .error (ModelFlaw.badVersion found).fault

/-- Reads a model from the three lists of an asset. -/
def ofParts (source : Text) (rawVocabulary rawForest rawLabels : List Json) :
    Except Fault Model := do
  let vocabulary ← (Vocabulary.ofList rawVocabulary).mapError fun flaw =>
    (ModelFlaw.vocabulary flaw).fault
  let labels ← (LabelTable.ofList rawLabels).mapError fun flaw =>
    (ModelFlaw.labels flaw).fault
  let trees ← readForest vocabulary.size labels.size rawForest
  if noTrees : trees = [] then .error ModelFlaw.emptyForest.fault
  else
    pure
      { vocabulary, labels, source
        forest := trees.map Subtype.val
        forest_ne_nil := fun h => noTrees (List.map_eq_nil_iff.1 h)
        fits := by
          intro t ht
          obtain ⟨fitting, _, rfl⟩ := List.mem_map.1 ht
          exact fitting.2 }

/-- Reads a model from an asset. -/
def ofJson (source : Text) : Json → Except Fault Model
  | payload@(.object _) => do
    checkVersion payload
    let rawVocabulary ← listAt payload "vocabulary"
    let rawForest ← listAt payload "forest"
    let rawLabels ← listAt payload "labels"
    ofParts source rawVocabulary rawForest rawLabels
  | _ => .error ModelFlaw.noObject.fault

/-- The asset form of a tree. -/
def treeToJson : FloatTree → Json
  | .leaf l => .list [.int l.label, .double l.weight]
  | .branch feature threshold left right =>
    .list [.int feature, .double threshold, treeToJson left, treeToJson right]

/-- The asset with given tables and trees; tokens and languages are numbered in order. -/
def asset (tokens languages : List Text) (forest : List FloatTree) : Json :=
  .object [
    ("format_version", .int formatVersion),
    ("labels", .list (languages.zipIdx.map fun (symbol, id) => .list [.int id, .text symbol])),
    ("vocabulary", .list (tokens.zipIdx.map fun (token, id) => .list [.text token, .int id])),
    ("forest", .list (forest.map treeToJson))]

end Model

end Polyglot
