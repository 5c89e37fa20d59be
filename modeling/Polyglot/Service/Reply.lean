import Polyglot.Classifier
import Polyglot.Service.Body
import Polyglot.Service.Front
import Polyglot.Text.Capital

/-! # Replies

The service has three paths: one tells that it is alive, one lists the languages, and one classifies
a text. The model is fixed; the settings of a query decide only how much of its text is looked at. A
query that does not fit is answered with what is wrong with it, and a text without tokens or bad
settings with a detail. Other faults escape, and so does a reply that cannot be written: a surrogate
stands alone in it, or a report shows a number that is not finite. Some more paths describe the
service. A request for the head of a reply gets no body.
-/

namespace Polyglot.Service

/-- A request: a method, a target, and the text of its body. -/
structure Request where
  method : Text
  target : Text
  body : Text

/-- Why there is no reply to a request. -/
inductive Escape [Front] where
  | fault (fault : Fault)
  | badTarget (flaw : Front.Flaw)
  /-- A text of an answer has no encoding. -/
  | unwritable (error : Utf8.EncodeError)

/-- The words of an escape. -/
def Escape.message [Front] : Escape → Text
  | .fault cause => cause.message
  | .badTarget flaw => Front.words flaw
  | .unwritable error => "Error serializing to JSON: UnicodeEncodeError: " ++ error.message

/-- An answer with a value, reports on a body that does not fit, a page for people, or the head of a
reply, which comes without a body. -/
inductive Reply where
  | answer (status : Nat) (body : Json)
  | invalid (reports : List Report)
  | page (text : Text)
  | head (status : Nat)

namespace Reply

/-- The status of a reply. -/
def status : Reply → Nat
  | answer status _ => status
  | invalid _ => 422
  | page _ => 200
  | head status => status

/-- The body of reports. -/
def reportBody (reports : List Report) : Json :=
  .object [("detail", .list (reports.map Report.toJson))]

/-- An answer that gives a detail. -/
def detail (status : Nat) (message : Text) : Reply :=
  answer status (.object [("detail", .text message)])

end Reply

variable [Limits] [Front]

/-- The settings with nothing but a limit. -/
def onlyLimit (s : Settings) : Settings :=
  { Settings.standard with
    maxInputChars := s.maxInputChars
    one_le_maxInputChars := s.one_le_maxInputChars }

/-- The classifier for a query: settings with members replace those of the classifier, except for
the model. -/
def classifierFor (c : Classifier) : Option (List (Text × Json)) → Except Fault Classifier
  | none => .ok c
  | some [] => .ok c
  | some members => do
    let settings ← Settings.ofJson false (.object members)
    pure { c with settings := onlyLimit settings }

/-- The analysis that a query asks for. -/
def analyze (c : Classifier) (q : Query) : Except Fault Analysis := do
  let c ← classifierFor c q.settings
  c.analyze q.text

/-- What is said about a version of the future. -/
def versionMessage (v : Int) : Text :=
  "Unsupported schema_version=" ++ Text.ofInt v ++
    ". Server supports <= " ++ Text.ofInt version ++ "."

/-- A total; one that is not finite is not told. -/
def totalToJson (x : Float) : Json := if x.isFinite then .double x else .null

/-- The votes of an analysis as an object. -/
def votesToJson (votes : List (Text × Float)) : Json :=
  .object (votes.map fun e => (e.1, totalToJson e.2))

/-- What the service tells of an analysis. -/
structure Finding where
  language : Text
  tokenCount : Nat
  knownCount : Nat
  /-- The votes, if they are wished for. -/
  votes : Option (List (Text × Float))

/-- What is told of an analysis to a query. -/
def Finding.ofAnalysis (a : Analysis) (scores : Bool) : Finding :=
  ⟨a.language, a.tokenCount, a.knownCount, if scores then some a.votes else none⟩

/-- The answer that tells a finding. -/
def Finding.toJson (f : Finding) : Json :=
  .object [("schema_version", .int version), ("language", .text f.language),
    ("n_tokens", .int f.tokenCount), ("n_known_tokens", .int f.knownCount),
    ("votes", (f.votes.map votesToJson).getD .null)]

/-- The texts of the answer that tells a finding. -/
def Finding.texts (f : Finding) : List Text :=
  f.language :: (f.votes.map Entries.keys).getD []

/-- What comes of a query, before it is written. -/
inductive Decision where
  | told (finding : Finding)
  | refused (status : Nat) (message : Text)

/-- Gives an answer unless one of its texts has no encoding. -/
def writable (ts : List Text) (r : Reply) : Except Escape Reply :=
  match ts.findSome? Utf8.encodeError? with
  | some error => .error (.unwritable error)
  | none => .ok r

/-- Gives reports unless they cannot be written. -/
def reporting (reports : List Report) : Except Escape Reply :=
  let body := Reply.reportBody reports
  if !body.isFinite then .error (.fault .notJsonNumber)
  else
    match Utf8.encodeError? (Json.encodeCompact body) with
    | some error => .error (.fault (.notEncodable error))
    | none => .ok (.invalid reports)

/-- Holds of the faults that are answered with a detail. -/
def isAnswered : Fault → Bool
  | .emptyInput | .invalidSettings _ => true
  | _ => false

/-- What comes of a fault. -/
def Decision.ofFault (fault : Fault) : Except Fault Decision :=
  if isAnswered fault then .ok (.refused 400 fault.message) else .error fault

/-- Decides what comes of a query. -/
def handle (c : Classifier) (q : Query) : Except Fault Decision :=
  if version < q.version then .ok (.refused 400 (versionMessage q.version))
  else
    match analyze c q with
    | .ok a => .ok (.told (.ofAnalysis a q.scores))
    | .error fault => Decision.ofFault fault

/-- Writes what has come of a query. -/
def Decision.write : Decision → Except Escape Reply
  | told finding => writable finding.texts (.answer 200 finding.toJson)
  | refused status message => .ok (.detail status message)

/-- Answers a query. -/
def answerQuery (c : Classifier) (q : Query) : Except Escape Reply := do
  (← (handle c q).mapError .fault).write

/-- What is said about a body that cannot be read although its grammar may be right. -/
def unreadable : Text := "There was an error parsing the body"

/-- Answers a request to classify with a body of some text. -/
def classifyText (c : Classifier) (t : Text) : Except Escape Reply :=
  match Json.decode Limits.decoding t with
  | .error (.malformed complaint place) =>
    reporting [⟨.position place.offset, .malformed complaint, .object []⟩]
  | .error (.longInteger _) => .ok (.detail 400 unreadable)
  | .error .tooDeep => .ok (.detail 400 unreadable)
  | .ok value =>
    match Front.query value with
    | .error reports => reporting reports
    | .ok query => answerQuery c query

/-- Answers a request to classify. -/
def classify (c : Classifier) (body : Bytes) : Except Escape Reply :=
  if body.isEmpty then reporting [⟨.body, .missing, .null⟩]
  else
    match bodyText? body with
    | none => .ok (.detail 400 unreadable)
    | some t => classifyText c t

/-- The answer that tells that the service is alive. -/
def health : Reply := .answer 200 (.object [("ok", .bool true), ("schema_version", .int version)])

/-- The answer that lists the languages. -/
def languages (c : Classifier) : Except Escape Reply :=
  let names := c.model.labels.languages
  writable names <| .answer 200 <|
    .object [("schema_version", .int version), ("languages", .list (names.map Json.text))]

/-! ### Paths and methods -/

/-- Answers a request if its method is one of those that its path has. -/
def withMethod (methods : List Text) (method : Text) (reply : Except Escape Reply) :
    Except Escape Reply :=
  if methods.contains method then reply else .ok (.detail 405 "Method Not Allowed")

/-- The answer of a path that leads to nothing. -/
def notFound : Reply := .detail 404 "Not Found"

/-- Answers a request with a method in capitals whose target leads to a path. -/
def replyAt (c : Classifier) (method body path : Text) : Except Escape Reply :=
  if path = "/classify" then withMethod ["POST"] method (classify c (Utf8.encode body))
  else if path = "/labels" then withMethod ["GET"] method (languages c)
  else if path = "/healthz" then withMethod ["GET"] method (.ok health)
  else if path = Description.path then
    withMethod ["GET", "HEAD"] method (.ok (.answer 200 Description.whole))
  else if Description.pagePaths.contains path then
    withMethod ["GET", "HEAD"] method (.ok (.page Description.page))
  else .ok notFound

/-- The method that asks for the head of a reply. -/
def headMethod : Text := "HEAD"

/-- Answers a request whose target leads to a path. -/
def respondAt (c : Classifier) (r : Request) (path : Text) : Except Escape Reply := do
  let method := Text.asciiCapitals r.method
  let reply ← replyAt c method r.body path
  return if method = headMethod then .head reply.status else reply

/-- Answers a request. A text that is no target is noticed before a body without an encoding, and
that before a target that leads nowhere. -/
def respond (c : Classifier) (r : Request) : Except Escape Reply :=
  match Front.target r.target with
  | .error flaw => .error (.badTarget flaw)
  | .ok reached =>
    match Utf8.encodeError? r.body, reached with
    | some error, _ => .error (.fault (.notEncodable error))
    | none, .error flaw => .error (.badTarget flaw)
    | none, .ok path => respondAt c r path

end Polyglot.Service
