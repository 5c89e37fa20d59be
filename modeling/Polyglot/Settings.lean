import Polyglot.Limits
import Polyglot.Number.Integer

/-! # Settings

Settings say which model to use and how much of a text to look at. A draft holds any value under
each name; settling it gives settings in canonical form, and writing settings as an object and
reading them gives them back. An object may have keys that are not known and may lack any key;
an object is also forgiving about its version, which a draft is not. A path is the text that shows a
value; a value that cannot be shown is a fault, also of an object.
-/

namespace Polyglot

/-- Settings in canonical form. -/
structure Settings where
  /-- The path of the model, without blanks at its ends. -/
  modelPath : Option Text
  /-- How many code points of a text are looked at. -/
  maxInputChars : Option Nat
  schemaVersion : Nat
  modelPath_stripped : ∀ p ∈ modelPath, p ≠ [] ∧ Text.strip p = p
  one_le_maxInputChars : ∀ n ∈ maxInputChars, 1 ≤ n
  one_le_schemaVersion : 1 ≤ schemaVersion
  deriving DecidableEq

namespace Settings

/-- The version of the settings that is written when none is given. -/
def currentVersion : Nat := 1

/-- Settings that leave everything open. -/
def standard : Settings := ⟨none, none, currentVersion, by simp, by simp, Nat.le.refl⟩

/-- A value under each name. -/
structure Draft where
  modelPath : Json
  maxInputChars : Json
  schemaVersion : Json

/-- The draft of the standard settings. -/
def Draft.standard : Draft := ⟨.null, .null, .int currentVersion⟩

/-- A text that can be the path of settings: it is not empty and has no blanks at its ends. -/
abbrev TrimmedPath := { p : Text // p ≠ [] ∧ Text.strip p = p }

/-- The path that a value shows, nested at most `depth` deep, without the blanks at its ends; null
and blank ones show none. -/
def readPath (depth : Nat) : Json → Except Fault (Option TrimmedPath)
  | .null => .ok none
  | value =>
    match Json.obstacle? depth value with
    | some obstacle => .error (.ofObstacle obstacle)
    | none =>
      let path := Text.strip (Json.display value)
      .ok (if visible : path ≠ [] then some ⟨path, visible, Text.strip_strip _⟩ else none)

/-- A fault of an integer that settings refuse by themselves. Being infinite is none of these. -/
def isRefused : IntegerFault → Bool
  | .infinite => false
  | _ => true

/-- The limit that a value sets; null sets none. -/
def readLimit : Json → Except Fault (Option { n : Nat // 1 ≤ n })
  | .null => .ok none
  | value =>
    match Integer.ofJson value with
    | .error fault =>
      .error (if isRefused fault then .invalidSettings .limitNotInteger else .integer fault)
    | .ok limit =>
      if positive : 1 ≤ limit then .ok (some ⟨limit.toNat, by omega⟩)
      else .error (.invalidSettings .limitTooSmall)

variable [Limits]

/-- Brings a draft into canonical form. -/
def Draft.settle (d : Draft) : Except Fault Settings := do
  let limit ← readLimit d.maxInputChars
  let path ← readPath Limits.settling d.modelPath
  let version ← (Integer.ofJson d.schemaVersion).mapError Fault.integer
  pure
    { modelPath := path.map Subtype.val
      maxInputChars := limit.map Subtype.val
      schemaVersion := max 1 version.toNat
      modelPath_stripped := by
        intro p hp
        obtain ⟨q, _, rfl⟩ := Option.map_eq_some_iff.1 hp
        exact q.2
      one_le_maxInputChars := by
        intro n hn
        obtain ⟨m, _, rfl⟩ := Option.map_eq_some_iff.1 hn
        exact m.2
      one_le_schemaVersion := Nat.le_max_left 1 _ }

/-- The draft with the values of canonical settings. -/
def draft (s : Settings) : Draft :=
  { modelPath := (s.modelPath.map Json.text).getD .null
    maxInputChars := (s.maxInputChars.map fun n => Json.int n).getD .null
    schemaVersion := .int s.schemaVersion }

/-- The keys of the settings. -/
def keys : List Text := ["model_path", "max_input_chars", "schema_version"]

/-- The object form of settings. -/
def toJson (s : Settings) : Json :=
  .object [("model_path", s.draft.modelPath), ("max_input_chars", s.draft.maxInputChars),
    ("schema_version", s.draft.schemaVersion)]

/-- The key that stands for the settings themselves. -/
def ownKey : Text := "self"

/-- Changes the value under a key; other keys are not known. -/
def Draft.put (d : Draft) (key : Text) (value : Json) : Except Fault Draft :=
  if key = "model_path" then .ok { d with modelPath := value }
  else if key = "max_input_chars" then .ok { d with maxInputChars := value }
  else if key = "schema_version" then .ok { d with schemaVersion := value }
  else if key = ownKey then .error (.reservedKey key)
  else .error (.unexpectedKey key)

/-- The draft with the values of named members; a name that is not known is refused. -/
def Draft.ofMembers (members : List (Text × Json)) : Except Fault Draft :=
  members.foldlM (fun d (key, value) => d.put key value) Draft.standard

/-- Holds when a key may stand before another one in the order of their code points. -/
def isInOrder (a b : Text) : Bool := !List.lex b a fun x y => x.val < y.val

/-- The keys that are not known, in order. -/
def unknownKeys (members : List (Text × Json)) : List Text :=
  ((Entries.keys members).filter fun key => !keys.contains key).mergeSort isInOrder

/-- The version that an object gives; what is no integer counts as the current version. -/
def readVersion : Json → Except Fault Int
  | .null => .ok currentVersion
  | value =>
    match Integer.ofJson value with
    | .ok version => .ok version
    | .error fault => if isRefused fault then .ok currentVersion else .error (.integer fault)

/-- Reads settings from an object. A strict reading refuses keys that are not known. -/
def ofJson (strict : Bool) : Json → Except Fault Settings
  | raw@(.object members) => do
    let unknown := unknownKeys members
    if strict ∧ unknown ≠ [] then .error (.invalidSettings (.unknownKeys unknown))
    let path ← readPath Limits.reading ((raw.member? "model_path").getD .null)
    let version ← readVersion ((raw.member? "schema_version").getD .null)
    Draft.settle
      { modelPath := (path.map fun p => Json.text p.1).getD .null
        maxInputChars := (raw.member? "max_input_chars").getD .null
        schemaVersion := .int version }
  | _ => .error (.invalidSettings .noObject)

end Settings

end Polyglot
