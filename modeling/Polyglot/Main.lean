import Polyglot.CommandLine.Run
import Polyglot.Model.Packaged
import Std.Time.DateTime.Timestamp

/-! # The program

The outer layer of the program: it takes the files that the arguments and the environment may name
into a file store, runs the command, writes the streams, and puts the files that the command wrote
back in their places.
-/

namespace Polyglot

open scoped Limits.Usual Console.Usual

/-- The environment variables that the program looks at. -/
def environmentNames : List String :=
  ["HOME", "SNIPPET_LID_MODEL_PATH", "SNIPPET_LID_LOG_LEVEL", "SNIPPET_LID_LOG_FORMAT"]

/-- The paths that an argument may name: itself, what follows an equals sign, and what follows a
short name. -/
def namedPaths (argument : Text) : List Text :=
  [argument, (argument.dropWhile (· ≠ ('=' : CodePoint))).tail, argument.drop 2]

/-- Takes a file or a directory into a store. -/
def takeIn (files : FileStore) (path : Path) : IO FileStore := do
  let name := path.text.toString
  try
    let bytes ← IO.FS.readBinFile name
    pure (files.install path bytes.toList)
  catch _ =>
    try
      let place ← IO.FS.realPath name
      pure (if ← place.isDir then files.installDirectory path else files)
    catch _ => pure files

/-- Puts a file back if a command changed it. -/
def putBack (before after : FileStore) (path : Path) : IO Unit := do
  let unchanged :=
    match before.read path, after.read path with
    | _, .error _ => true
    | .ok old, .ok new => old == new
    | .error _, .ok _ => false
  if !unchanged then
    IO.FS.createDirAll path.parent.text.toString
    match after.read path with
    | .ok content => IO.FS.writeBinFile path.text.toString ⟨content.toArray⟩
    | .error _ => pure ()

/-- Takes a variable of the environment into a session. -/
def takeVariable (s : Session) (name : String) : IO Session := do
  let value ← IO.getEnv name
  pure (s.setVariable name (value.map Text.ofString))

/-- Where the program stands. The packaged asset is part of the program and is put where no file is
taken in from, and the homes of users other than the one in the environment are unknown. -/
def site : Site where
  users := ⟨none, fun _ => none⟩
  packaged := ⟨.slash, ["usr", "share", "polyglot", "language_model.json"]⟩
  packaged_read := by decide +kernel

/-- The session in which a command runs, given the paths that it may look at. -/
def openSession (paths : List Path) : IO Session := do
  let working := Path.ofText (Text.ofString (← IO.currentDir).toString)
  let packaged := (FileStore.empty working.names).install site.packaged Model.Packaged.content
  let s ← environmentNames.foldlM takeVariable (Session.initial site packaged)
  let chosen :=
    match (Model.resolvePath none).perform s with
    | (.ok path, _) => [path]
    | (.error _, _) => []
  let files ← (paths ++ chosen).foldlM takeIn s.files
  pure { s with files }

/-- Holds when a request reads the input stream. -/
def readsInput : CommandLine.Request → Bool
  | .run _ (.detect none none _ _ _) => true
  | _ => false

/-- All that is left of a stream. -/
partial def readAll (stream : IO.FS.Stream) (sofar : ByteArray) : IO ByteArray := do
  let chunk ← stream.read 65536
  if chunk.isEmpty then pure sofar else readAll stream (sofar ++ chunk)

/-- The time of the clock as a log line shows it. -/
def clockText : IO Text := do
  let now ← Std.Time.Timestamp.now
  match (Log.Instant.ofSeconds now.toSecondsSinceUnixEpoch.val).shortText with
  | .ok t => pure t
  | .error _ => pure []

/-- What a fault that escapes says on the error stream. -/
def escapeMessage : CommandLine.Escape → Text
  | .fault fault => fault.message ++ [CodePoint.lineFeed]
  | .unshown flaw => Console.words flaw ++ [CodePoint.lineFeed]

/-- Nothing is known about the machine. -/
def unknownSurroundings : Surroundings := ⟨.null, .null, []⟩

/-- Runs the program with its arguments and tells its code. -/
def runProgram (arguments : List Text) : IO UInt32 := do
  let paths := (arguments.flatMap namedPaths).map Path.ofText
  let session ← openSession paths
  let input ←
    if readsInput (CommandLine.readRequest session.files arguments) then
      readAll (← IO.getStdin) ByteArray.empty
    else pure ByteArray.empty
  let (result, after) :=
    (CommandLine.execute unknownSurroundings (← clockText) (Utf8.decodeLenient input.toList)
      arguments).run session
  paths.forM (putBack session.files after.files)
  (← IO.getStdout).putStr result.out.toString
  let err := result.err ++ ((result.escape.map escapeMessage).getD [])
  (← IO.getStderr).putStr err.toString
  pure result.code.toUInt32

end Polyglot

/-- Runs the program with the arguments of the command line. -/
def main (arguments : List String) : IO UInt32 :=
  Polyglot.runProgram (arguments.map Polyglot.Text.ofString)
