import Polyglot.Text.Newline
import Polyglot.Classifier

/-! # Sources of text

A text may come as it is, as bytes, or from an object that gives another source when it is asked for
its value or is read. Bytes are decoded leniently. An object is asked for its value when this can be
done, and is read otherwise. So a buffer gives its whole content, wherever its position is. A file
has no value and gives what follows its position; one that is open as text decodes this strictly
and unifies its ends of line.
-/

namespace Polyglot

/-- What an object has under a name. -/
inductive Attribute (α : Type) where
  | missing
  /-- Anything that cannot be called. -/
  | plain
  /-- A method, with the outcome of calling it. -/
  | method (outcome : Except Fault α)

/-- Where a text may come from. -/
inductive Source where
  | text (t : Text)
  | bytes (content : Bytes)
  /-- An object of some kind, with what it has for being asked for its value and for being read. -/
  | object (kind : Text) (value reading : Attribute Source)

namespace Source

/-- A buffer of text: its value is its whole content, and it is read from its position on. -/
def textBuffer (content : Text) (position : Nat) : Source :=
  .object "TextBuffer" (.method (.ok (.text content)))
    (.method (.ok (.text (content.drop position))))

/-- A buffer of bytes. -/
def byteBuffer (content : Bytes) (position : Nat) : Source :=
  .object "ByteBuffer" (.method (.ok (.bytes content)))
    (.method (.ok (.bytes (content.drop position))))

/-- A file that is open for its bytes. -/
def binaryFile (content : Bytes) (position : Nat) : Source :=
  .object "BinaryFile" .missing (.method (.ok (.bytes (content.drop position))))

/-- The text of a file that is open as text. -/
def decodeFile (content : Bytes) : Except Fault Text :=
  match Utf8.decode content with
  | .ok t => .ok (Text.unifyNewlines t)
  | .error e => .error (.notUtf8 e)

/-- A file that is open as text. -/
def textFile (content : Bytes) (position : Nat) : Source :=
  .object "TextFile" .missing (.method ((decodeFile (content.drop position)).map .text))

/-- A JSON value; only texts are read. -/
def value : Json → Source
  | .text t => .text t
  | v => .object v.kindName .missing .missing

/-- The whole text of a source. -/
def read : Source → Except Fault Text
  | text t => .ok t
  | bytes content => .ok (Utf8.decodeLenient content)
  | object _ (.method (.ok source)) _ => read source
  | object _ (.method (.error fault)) _ => .error fault
  | object _ _ (.method (.ok source)) => read source
  | object _ _ (.method (.error fault)) => .error fault
  | object kind _ _ => .error (.unsupportedSource kind)

end Source

/-- The language of the text of a source. -/
def Classifier.classifySource (c : Classifier) (source : Source) : Except Fault Text := do
  c.classify (← source.read)

end Polyglot
