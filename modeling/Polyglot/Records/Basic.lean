import Polyglot.Source

/-! # Records

A file of records has one JSON value on each line. Blank lines do not count, but they take part in
the numbering. Rows are handled one after another; a row may be skipped for a reason, and a fault
that is no concern of the row alone aborts the run, so that only the rows before it are handled.
A file is read block by block, and a block that holds bytes that encode nothing is refused as a
whole, so that the rows before it are handled and none of its own. What shows that bytes encode
nothing may be the byte after them or the end of the file, and then it is in the block of that byte,
or behind the last block, that they are noticed.
-/

namespace Polyglot.Records

variable [Limits]

/-- A line that is not blank, without the blanks at its ends, and its number counted from one. -/
structure Row where
  number : Nat
  content : Text

/-- The row of a numbered line, if the line is not blank. -/
def row? (line : Text × Nat) : Option Row :=
  if (Text.strip line.1).isEmpty then none else some ⟨line.2, Text.strip line.1⟩

/-- The rows of a text. -/
def rows (t : Text) : List Row := ((Text.lines t).zipIdx 1).filterMap row?

/-- Why a row is skipped. -/
inductive Reason where
  | malformed (complaint : Json.Complaint) (place : Json.Place)
  | noMembers (kind : Text)
  | noObject
  | unclassified (fault : Fault)

/-- The words of a reason. -/
def Reason.message : Reason → Text
  | malformed complaint place => complaint.message ++ ": " ++ place.message
  | noMembers kind => "'" ++ kind ++ "' object has no attribute 'get'"
  | noObject => "expected a JSON object"
  | unclassified fault => fault.message

/-- The warning that a row of a file is skipped. -/
def skipping (file : Text) (row : Row) (reason : Reason) : Log.Entry :=
  { level := .warning
    logger := Log.batchLogger
    message := "Skipping " ++ file ++ " line " ++ Text.ofNat row.number ++ ": " ++ reason.message }

/-- The text under a key of a record: its value as a message shows it, and nothing when the value
is void or missing. -/
def textAt (key : Text) (members : List (Text × Json)) : Text :=
  match Entries.get? key members with
  | none => []
  | some value => if value.isVoid then [] else Json.display value

/-- What a row holds: a value, or a complaint that makes it skipped. -/
def parse (content : Text) : Except Fault (Except Reason Json) :=
  match Json.decode Limits.decoding content with
  | .ok value => .ok (.ok value)
  | .error (.malformed complaint place) => .ok (.error (.malformed complaint place))
  | .error (.longInteger digits) => .error (.longInteger digits)
  | .error .tooDeep => .error .tooDeep

/-- The rows of a file as far as they can be read, and the fault that ends the reading early. -/
structure Reading where
  rows : List Row
  stop : Option Fault

/-- The lines of a text that are known to be ended. A carriage return at the very end may be a part
of an end of line that goes on. -/
def endedLines (t : Text) : Text :=
  let settled := if t.getLast? = some CodePoint.carriageReturn then t.dropLast else t
  ((Text.unifyNewlines settled).reverse.dropWhile (· ≠ CodePoint.lineFeed)).reverse

/-- A file is read in blocks of this many bytes. -/
def blockSize : Nat := 8192

/-- Holds when the first two bytes have the form that those of a surrogate would have. -/
def beginsSurrogate (bytes : Bytes) : Bool :=
  match bytes with
  | first :: second :: _ => first == 0xED && 0xA0 ≤ second && second ≤ 0xBF
  | _ => false

/-- How many bytes of a content have to be there before a broken piece is noticed. The first two
bytes of a surrogate wait for a third one, although none would complete them. -/
def noticedAfter (content : Bytes) (e : Utf8.DecodeError) : Nat :=
  if beginsSurrogate (content.drop e.position) then e.position + 3
  else if e.flaw = .start then e.position + 1
  else e.position + e.bytes.length + 1

/-- How many bytes of a broken content are decoded before the fault is noticed. An encoding that a
block does not complete is left for the next block. -/
def settledBytes (content : Bytes) (e : Utf8.DecodeError) : Nat :=
  let noticed := noticedAfter content e
  let before :=
    if content.length < noticed then content.length else (noticed - 1) / blockSize * blockSize
  match Utf8.decode (content.take before) with
  | .ok _ => before
  | .error cut => cut.position

/-- The text of the lines that are read from a content, and the fault that ends the reading early.
The place of the fault is told from where the decoding of the block begins. -/
def delivered (content : Bytes) : Text × Option Fault :=
  match Utf8.decode content with
  | .ok t => (Text.unifyNewlines t, none)
  | .error e =>
    let settled := settledBytes content e
    (endedLines (Utf8.decodeLenient (content.take settled)),
      some (.notUtf8 { e with position := e.position - settled }))

/-- Reads the content of a file. -/
def Reading.ofBytes (content : Bytes) : Reading :=
  ⟨Records.rows (delivered content).1, (delivered content).2⟩

/-- What became of the rows of a file. -/
structure Run (α : Type) where
  /-- The rows that were handled, with their outcomes. -/
  handled : List (Row × α)
  /-- The fault that aborted the run. -/
  stop : Option Fault

/-- Handles rows until one of them aborts the run. -/
def run {α : Type} (handle : Text → Except Fault α) : List Row → Run α
  | [] => ⟨[], none⟩
  | row :: rest =>
    match handle row.content with
    | .error fault => ⟨[], some fault⟩
    | .ok outcome => { run handle rest with handled := (row, outcome) :: (run handle rest).handled }

/-- Handles the rows that can be read. -/
def Reading.run {α : Type} (reading : Reading) (handle : Text → Except Fault α) : Run α :=
  let r := Records.run handle reading.rows
  { r with stop := r.stop.or reading.stop }

/-- The result of a run that was not aborted. -/
def Run.finish {α β : Type} (r : Run α) (result : β) : Except Fault β :=
  match r.stop with
  | none => .ok result
  | some fault => .error fault

/-- Reads a file that is open. -/
def readFrom (id : FileId) : Action Reading := do
  pure (Reading.ofBytes (← Action.contentOf id))

end Polyglot.Records
