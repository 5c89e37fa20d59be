import Polyglot.Json.Decode
import Polyglot.Json.Display
import Polyglot.Limits
import Polyglot.Text.Utf8

/-! # Faults

Every way in which an operation may fail, as a cause with the data that its message shows. The
wording stands in the functions named `message`, and nothing else depends on it. A model that is
refused for its content has a flaw; limits of numbers, files and nesting are faults of their own.
-/

namespace Polyglot

/-- Why a list of pairs is no vocabulary. Entries are counted from zero. -/
inductive VocabularyFlaw where
  | noPair (index : Nat)
  | badToken (index : Nat)
  | badId (index : Nat)
  | duplicateToken (token : Text)
  | duplicateId (id : Int)
  | sparse

/-- Why a list of pairs is no label table. Entries are counted from zero. -/
inductive LabelFlaw where
  | noPair (index : Nat)
  | badId (index : Nat)
  | badSymbol (index : Nat)
  | duplicateId (id : Nat)
  | duplicateSymbol (symbol : Text)
  | empty
  | sparse

/-- A child of an inner node. -/
inductive Side where
  | left
  | right
  deriving DecidableEq

/-- A number at a node. -/
inductive NodePart where
  | labelId
  | weight
  | featureId
  | threshold

/-- Why a value is no node of a tree. -/
inductive NodeFlaw where
  | noList
  | badArity (arity : Nat)
  | noInteger (part : NodePart)
  | noNumber (part : NodePart)
  | notFinite (part : NodePart)
  | unknownLabel (id : Int)
  | featureOutOfRange (id : Int)

/-- A node of a forest: its tree, and the way to it from the root. -/
structure NodePlace where
  tree : Nat
  path : List Side

/-- Why a value, or a file, is no model. -/
inductive ModelFlaw where
  | noObject
  | badVersion (found : Json)
  | noListAt (key : Text)
  | vocabulary (flaw : VocabularyFlaw)
  | labels (flaw : LabelFlaw)
  | emptyForest
  | node (place : NodePlace) (flaw : NodeFlaw)
  | tooDeep
  | notUtf8 (path : Text) (error : Utf8.DecodeError)
  | notJson (path : Text) (complaint : Json.Complaint) (place : Json.Place)

/-- Why settings are refused. -/
inductive SettingsFlaw where
  | noObject
  | unknownKeys (keys : List Text)
  | limitNotInteger
  | limitTooSmall

/-- What the file store refuses. -/
inductive FileRefusal where
  | missing
  /-- There is no permission. -/
  | denied
  | exists
  | notDirectory
  | isDirectory
  /-- What is to be written has no room. -/
  | noRoom
  | nameTooLong
  /-- Too many links had to be followed. -/
  | tooManyLinks

/-- Why a value is no integer, or an integer is not shown. -/
inductive IntegerFault where
  | badNumeral (t : Text)
  | longNumeral (digits : Nat)
  | nan
  | infinite
  | noNumber (kind : Text)
  | longInteger

/-- Why an operation fails. -/
inductive Fault where
  /-- The text has no tokens. -/
  | emptyInput
  | malformedModel (flaw : ModelFlaw)
  /-- A key that is no label id, shown as a message shows values. -/
  | unknownLabel (key : Text)
  | invalidSettings (flaw : SettingsFlaw)
  /-- Settings were given a key that they do not have. -/
  | unexpectedKey (key : Text)
  /-- Settings were given the key that stands for the settings themselves. -/
  | reservedKey (key : Text)
  | integer (fault : IntegerFault)
  /-- An integer is beyond the largest double. -/
  | integerTooLarge
  /-- A vote of no trees. -/
  | emptyTally
  /-- A leaf names a label that has no slot. -/
  | labelOutOfRange
  | file (refusal : FileRefusal) (path : Text)
  /-- A file that is open takes no more. -/
  | unwritten (refusal : FileRefusal)
  /-- A path holds the code point that ends a path for the system. -/
  | nulInPath
  /-- A text that is to be written has no encoding. -/
  | notEncodable (error : Utf8.EncodeError)
  | notUtf8 (error : Utf8.DecodeError)
  /-- An integer of a JSON text has too many digits. -/
  | longInteger (digits : Nat)
  /-- Lists and objects are nested too deep. -/
  | tooDeep
  /-- A path begins with the home of a user who has none. -/
  | noHome
  | unsupportedSource (kind : Text)
  | notIterable (kind : Text)
  | unhashable (kind : Text)
  /-- A double without a JSON form is part of an answer. -/
  | notJsonNumber

/-- The fault of showing a value that cannot be shown. -/
def Fault.ofObstacle : Json.Obstacle → Fault
  | .tooDeep => .tooDeep
  | .longInteger => .integer .longInteger

@[simp] theorem Fault.ofObstacle_ne_malformedModel (obstacle : Json.Obstacle) (flaw : ModelFlaw) :
    ofObstacle obstacle ≠ .malformedModel flaw := by
  cases obstacle <;> nofun

@[simp] theorem Fault.ofObstacle_ne_invalidSettings (obstacle : Json.Obstacle)
    (flaw : SettingsFlaw) : ofObstacle obstacle ≠ .invalidSettings flaw := by
  cases obstacle <;> nofun

namespace VocabularyFlaw

def message : VocabularyFlaw → Text
  | noPair i => "vocabulary[" ++ Text.ofNat i ++ "] must be a [token, id] pair"
  | badToken i => "vocabulary[" ++ Text.ofNat i ++ "] token must be a non-empty string"
  | badId i => "vocabulary[" ++ Text.ofNat i ++ "] id must be an integer"
  | duplicateToken token => "Duplicate vocabulary token: " ++ Text.quoted token
  | duplicateId id => "Duplicate vocabulary id: " ++ Text.ofInt id
  | sparse => "Vocabulary ids must be dense over 0..len-1"

end VocabularyFlaw

namespace LabelFlaw

def message : LabelFlaw → Text
  | noPair i => "labels[" ++ Text.ofNat i ++ "] must be an [id, symbol] pair"
  | badId i => "labels[" ++ Text.ofNat i ++ "] id must be a non-negative integer"
  | badSymbol i => "labels[" ++ Text.ofNat i ++ "] symbol must be a non-empty string"
  | duplicateId id => "Duplicate label id: " ++ Text.ofNat id
  | duplicateSymbol symbol => "Duplicate label symbol: " ++ Text.quoted symbol
  | empty => "Label table is empty"
  | sparse => "Label ids must be dense over 0..len-1"

end LabelFlaw

def NodePart.name : NodePart → Text
  | labelId => "label_id"
  | weight => "weight"
  | featureId => "feature_id"
  | threshold => "threshold"

/-- A step to a child. -/
def Side.name : Side → Text
  | left => ".L"
  | right => ".R"

/-- The place of a node: its tree by number, then the way down. -/
def NodePlace.name (p : NodePlace) : Text :=
  "forest[" ++ Text.ofNat p.tree ++ "]" ++ (p.path.map Side.name).flatten

namespace NodeFlaw

/-- The message about a flaw at a place that has a name. -/
def message (place : Text) : NodeFlaw → Text
  | noList => place ++ ": node must be a list"
  | badArity n => place ++ ": node has arity " ++ Text.ofNat n ++ " (expected 2 or 4)"
  | noInteger part => place ++ "." ++ part.name ++ " must be an integer"
  | noNumber part => place ++ "." ++ part.name ++ " must be a number"
  | notFinite part => place ++ "." ++ part.name ++ " must be finite"
  | unknownLabel id => place ++ ": leaf references unknown label id " ++ Text.ofInt id
  | featureOutOfRange id => place ++ ": feature id " ++ Text.ofInt id ++ " is out of range"

end NodeFlaw

namespace ModelFlaw

def message : ModelFlaw → Text
  | noObject => "Model asset must be a JSON object"
  | badVersion found =>
    "Unsupported model format_version=" ++ Json.literal found ++ " (expected 1)"
  | noListAt key => "Model asset is missing a '" ++ key ++ "' list"
  | vocabulary flaw => flaw.message
  | labels flaw => flaw.message
  | emptyForest => "Model forest is empty"
  | node place flaw => flaw.message place.name
  | tooDeep => "Model tree is too deep to parse"
  | notUtf8 path error => "Model asset is not UTF-8 text: " ++ path ++ ": " ++ error.message
  | notJson path complaint place =>
    "Model asset is not valid JSON: " ++ path ++ ": " ++ complaint.message ++ ": " ++ place.message

variable [Limits]

/-- What keeps the message of a flaw from showing the value that is at fault. -/
def obstacle? : ModelFlaw → Option Json.Obstacle
  | badVersion found => Json.obstacle? Limits.showing found
  | vocabulary (.duplicateId id) => Json.obstacle? Limits.showing (.int id)
  | labels (.duplicateId id) => Json.obstacle? Limits.showing (.int id)
  | node _ (.unknownLabel id) => Json.obstacle? Limits.showing (.int id)
  | node _ (.featureOutOfRange id) => Json.obstacle? Limits.showing (.int id)
  | _ => none

/-- The fault with which a model is refused for a flaw; a flaw that cannot be shown gives a fault of
its own. -/
def fault (flaw : ModelFlaw) : Fault :=
  match flaw.obstacle? with
  | none => .malformedModel flaw
  | some obstacle => .ofObstacle obstacle

end ModelFlaw

namespace SettingsFlaw

def message : SettingsFlaw → Text
  | noObject => "config must be a dict"
  | unknownKeys keys => "Unknown config keys: " ++ Text.join ", " keys
  | limitNotInteger => "max_input_chars must be an integer"
  | limitTooSmall => "max_input_chars must be >= 1"

end SettingsFlaw

namespace FileRefusal

/-- The number and the words of a refusal. -/
def message : FileRefusal → Text
  | missing => "[Errno 2] No such file or directory"
  | denied => "[Errno 13] Permission denied"
  | «exists» => "[Errno 17] File exists"
  | notDirectory => "[Errno 20] Not a directory"
  | isDirectory => "[Errno 21] Is a directory"
  | noRoom => "[Errno 28] No space left on device"
  | nameTooLong => "[Errno 36] File name too long"
  | tooManyLinks => "[Errno 40] Too many levels of symbolic links"

end FileRefusal

namespace IntegerFault

/-- A message quotes at most this much of a text that is no numeral. -/
def quoteLimit : Nat := 200

def message : IntegerFault → Text
  | badNumeral t =>
    "invalid literal for int() with base 10: " ++ List.take quoteLimit (Text.quoted t)
  | longNumeral digits => Json.longIntegerMessage digits
  | nan => "cannot convert float NaN to integer"
  | infinite => "cannot convert float infinity to integer"
  | noNumber kind =>
    "int() argument must be a string, a bytes-like object or a real number, not '" ++ kind ++ "'"
  | longInteger =>
    "Exceeds the limit (" ++ Text.ofNat Json.digitLimit ++ " digits) for integer string " ++
      "conversion; use sys.set_int_max_str_digits() to increase the limit"

end IntegerFault

namespace Fault

def message : Fault → Text
  | emptyInput => "Cannot classify input with no tokens"
  | malformedModel flaw => flaw.message
  | unknownLabel key => "Unknown label id: " ++ key
  | invalidSettings flaw => flaw.message
  | unexpectedKey key =>
    "ClassifierConfig.__init__() got an unexpected keyword argument '" ++ key ++ "'"
  | reservedKey key =>
    "ClassifierConfig.__init__() got multiple values for argument '" ++ key ++ "'"
  | integer fault => fault.message
  | integerTooLarge => "int too large to convert to float"
  | emptyTally => "Cannot pick a label from an empty tally"
  | labelOutOfRange => "list index out of range"
  | file refusal path => refusal.message ++ ": " ++ Text.quoted path
  | unwritten refusal => refusal.message
  | nulInPath => "embedded null byte"
  | notEncodable error => error.message
  | notUtf8 error => error.message
  | longInteger digits => Json.longIntegerMessage digits
  | tooDeep => "maximum recursion depth exceeded"
  | noHome => "Could not determine home directory."
  | unsupportedSource kind => "Unsupported buffer type: " ++ kind
  | notIterable kind => "'" ++ kind ++ "' object is not iterable"
  | unhashable kind => "unhashable type: '" ++ kind ++ "'"
  | notJsonNumber => "Out of range float values are not JSON compliant"

/-- The faults that a caller of the library expects: they concern the input, the model, the labels
or the settings. -/
def isExpected : Fault → Bool
  | emptyInput | malformedModel _ | unknownLabel _ | invalidSettings _ => true
  | _ => false

/-- The faults of choosing a model that a program shows and goes on: the expected ones, and what the
file store refuses. -/
def isReported : Fault → Bool
  | file _ _ => true
  | unwritten _ => true
  | fault => fault.isExpected

end Fault

end Polyglot
