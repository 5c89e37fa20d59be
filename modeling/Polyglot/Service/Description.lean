import Polyglot.Json.Basic

/-! # The description of the service

The service describes itself: its paths, what a request to each of them holds, and what the answers
to it hold. The description is a value that other programs read; the page for people only names
where it is.
-/

namespace Polyglot.Service.Description

/-- The name of the service. -/
def title : Text := "snippet-lid API"

/-- What the service does. -/
def purpose : Text := "Programming-language identification for code snippets."

/-- The path of the description. -/
def path : Text := "/openapi.json"

/-- The paths of the pages for people. -/
def pagePaths : List Text := ["/docs", "/docs/oauth2-redirect", "/redoc"]

/-- The page for people. -/
def page : Text :=
  "\n    <!DOCTYPE html>\n    <html>\n    <head><title>" ++ title ++ "</title></head>\n" ++
    "    <body>" ++ purpose ++ " See " ++ path ++ ".</body>\n    </html>\n    "

/-! ### Kinds of values -/

/-- What is said about a value. -/
abbrev Facts := List (Text × Json)

/-- A fact that a text tells. -/
def fact (key value : Text) : Text × Json := (key, .text value)

/-- Values of a kind. -/
def ofKind (kind : Text) : Facts := [fact "type" kind]

/-- Integers. -/
def integer : Facts := ofKind "integer"

/-- Integers from one on. -/
def atLeastOne : Facts := integer ++ ([("minimum", .double 1)] : Facts)

/-- What stands for a value that is missing. -/
def standard (value : Json) : Facts := [("default", value)]

/-- Texts. -/
def string : Facts := ofKind "string"

/-- Truth values. -/
def boolean : Facts := ofKind "boolean"

/-- Lists with items of a kind. -/
def listOf (item : Facts) : Facts := [("items", .object item), fact "type" "array"]

/-- Objects with members of a kind. -/
def tableOf (member : Json) : Facts := [("additionalProperties", member), fact "type" "object"]

/-- Values of one of some kinds. -/
def oneOf (kinds : List Facts) : Facts := [("anyOf", .list (kinds.map Json.object))]

/-- Values of a kind that may be missing. -/
def maybe (kind : Facts) : Facts := oneOf [kind, ofKind "null"]

/-- Values of a kind that is described by its name. -/
def named (name : Text) : Facts := [fact "$ref" ("#/components/schemas/" ++ name)]

/-- A field of an object: its name, its title and what its values are. -/
structure Field where
  name : Text
  title : Text
  facts : Facts

/-- An object with fields, of which some have to be there. -/
def withFields (name : Text) (fields : List Field) (required : List Text) : Text × Json :=
  let entry (f : Field) : Text × Json := (f.name, .object (f.facts ++ [fact "title" f.title]))
  let demand : Facts :=
    if required.isEmpty then [] else [("required", .list (required.map Json.text))]
  let shape : Facts := [("properties", .object (fields.map entry)), fact "type" "object"]
  (name, .object (shape ++ demand ++ [fact "title" name]))

/-- The object of a request to classify. -/
def request : Text × Json :=
  withFields "ClassifyRequest"
    [⟨"schema_version", "Schema Version", atLeastOne ++ standard (.int 1)⟩,
      ⟨"text", "Text", string⟩,
      ⟨"scores", "Scores", boolean ++ standard (.bool false)⟩,
      ⟨"config", "Config", maybe (tableOf (.bool true))⟩]
    ["text"]

/-- The object that tells an analysis. -/
def response : Text × Json :=
  withFields "ClassifyResponse"
    [⟨"schema_version", "Schema Version", integer⟩, ⟨"language", "Language", string⟩,
      ⟨"n_tokens", "N Tokens", integer⟩, ⟨"n_known_tokens", "N Known Tokens", integer⟩,
      ⟨"votes", "Votes", maybe (tableOf (.object (ofKind "number")))⟩]
    ["schema_version", "language", "n_tokens", "n_known_tokens"]

/-- The object that lists the languages. -/
def languages : Text × Json :=
  withFields "LabelsResponse"
    [⟨"schema_version", "Schema Version", integer⟩, ⟨"languages", "Languages", listOf string⟩]
    ["schema_version", "languages"]

/-- The object that tells what is wrong with a request. -/
def failure : Text × Json :=
  withFields "HTTPValidationError" [⟨"detail", "Detail", listOf (named "ValidationError")⟩] []

/-- One thing that is wrong with a request. -/
def report : Text × Json :=
  withFields "ValidationError"
    [⟨"loc", "Location", listOf (oneOf [string, integer])⟩, ⟨"msg", "Message", string⟩,
      ⟨"type", "Error Type", string⟩, ⟨"input", "Input", []⟩,
      ⟨"ctx", "Context", ofKind "object"⟩]
    ["loc", "msg", "type"]

/-! ### Paths -/

/-- A value of a kind in a body. -/
def content (facts : Facts) : Text × Json :=
  ("content", .object [("application/json", .object [("schema", .object facts)])])

/-- An answer with a status. -/
def answer (status description : Text) (facts : Facts) : Text × Json :=
  (status, .object [fact "description" description, content facts])

/-- The answer to a request that fits. -/
def success (facts : Facts) : Text × Json := answer "200" "Successful Response" facts

/-- What is said about a method of a path. -/
def operation (method summary name : Text) (more : Facts) (answers : List (Text × Json)) : Json :=
  .object [(method, .object ([fact "summary" summary, fact "operationId" name] ++ more ++
    ([("responses", .object answers)] : Facts)))]

/-- What is said about all paths. -/
def paths : Json :=
  .object
    [("/healthz", operation "get" "Healthz" "healthz_healthz_get" []
        [success (tableOf (.bool true) ++ [fact "title" "Response Healthz Healthz Get"])]),
      ("/labels", operation "get" "Labels Endpoint" "labels_endpoint_labels_get" []
        [success (named "LabelsResponse")]),
      ("/classify", operation "post" "Classify Endpoint" "classify_endpoint_classify_post"
        [("requestBody", .object [content (named "ClassifyRequest"), ("required", .bool true)])]
        [success (named "ClassifyResponse"),
          answer "422" "Validation Error" (named "HTTPValidationError")])]

/-- The whole description. -/
def whole : Json :=
  .object
    [fact "openapi" "3.1.0",
      ("info", .object [fact "title" title, fact "description" purpose, fact "version" "1"]),
      ("paths", paths),
      ("components", .object
        [("schemas", .object [request, response, failure, languages, report])])]

end Polyglot.Service.Description
