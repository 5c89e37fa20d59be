import Polyglot.Path

/-! # Files

A file store maps places to files, directories and links. A place is told by the names that lead to
it from the root, and a file has a number of its own, so that a file that stands at two places, or
that two paths lead to, is known to be one. A path leads through its names, one after another, from
the working directory or from the root; every name but the last has to lead through a directory that
may be searched, or through a link to one; a pair of dots leads back, and a single dot or an empty
name stays. The working directory and the directories above it are always there. Names and paths may
not be too long, and not everything may be read or written. Faults name the path as it was given,
and no operation changes a store that it refuses to change.
-/

namespace Polyglot

/-- The number of a file. -/
abbrev FileId := Nat

/-- What stands at a place. -/
inductive Node where
  | file (id : FileId)
  | directory
  /-- A link to where a path leads from the directory of the link. -/
  | link (target : Path)

/-- Holds of files. -/
def Node.isFile : Node → Bool
  | file _ => true
  | _ => false

/-- Holds of directories. -/
def Node.isDirectory : Node → Bool
  | directory => true
  | _ => false

/-- The names that lead from the root to a place. -/
abbrev Place := List Text

/-- What may be allowed at a place. -/
inductive Right where
  /-- Looking up the names of a directory. -/
  | search
  /-- Reading a file. -/
  | read
  /-- Writing a file, or making and removing what stands in a directory. -/
  | write

/-- Files, directories and links by place, and the contents of the files. -/
structure FileStore where
  /-- The working directory. -/
  working : Place
  at? : Place → Option Node
  content : FileId → Bytes
  /-- The number of the file that is made next. -/
  next : FileId
  allows : Right → Place → Bool
  fresh : ∀ place id, at? place = some (.file id) → id < next

namespace FileStore

/-- Holds of the working directory and the directories above it. -/
def isAbove (s : FileStore) (place : Place) : Bool := place.isPrefixOf s.working

/-- What stands at a place. -/
def node? (s : FileStore) (place : Place) : Option Node :=
  if s.isAbove place then some .directory else s.at? place

/-- Where a link leads that stands at a place. -/
def link? (s : FileStore) (place : Place) : Option Path :=
  match s.node? place with
  | some (.link target) => some target
  | _ => none

/-- A store without files, in which everything is allowed. -/
def empty (working : Place) : FileStore where
  working
  at? _ := none
  content _ := []
  next := 0
  allows _ _ := true
  fresh := by simp

/-- Puts something that is no file at a place, or nothing. -/
def put (s : FileStore) (place : Place) (node : Option Node)
    (noFile : ∀ id, node ≠ some (.file id)) : FileStore :=
  { s with
    at? := fun p => if p = place then node else s.at? p
    fresh := by
      intro p id h
      split at h
      next => exact absurd h (noFile id)
      next => exact s.fresh p id h }

/-- Puts a directory at a place. -/
def addDirectory (s : FileStore) (place : Place) : FileStore :=
  s.put place (some .directory) (by simp)

/-- Leaves nothing at a place. -/
def clear (s : FileStore) (place : Place) : FileStore := s.put place none (by simp)

/-- Gives a file another content. -/
def write (s : FileStore) (id : FileId) (content : Bytes) : FileStore :=
  { s with content := fun i => if i = id then content else s.content i }

/-- Puts a new file at a place. -/
def addFile (s : FileStore) (place : Place) (content : Bytes) : FileStore :=
  { s with
    at? := fun p => if p = place then some (.file s.next) else s.at? p
    content := fun i => if i = s.next then content else s.content i
    next := s.next + 1
    fresh := by
      intro p id h
      split at h
      next =>
        cases h
        exact Nat.lt_succ_self _
      next => exact Nat.lt_succ_of_lt (s.fresh p id h) }

/-- The greatest number of bytes of a name. -/
def nameLimit : Nat := 255

/-- The greatest number of bytes of a path. -/
def pathLimit : Nat := 4095

/-- How many links are followed for one path. -/
def linkLimit : Nat := 40

/-! ## Where paths lead -/

/-- Refuses a place where no directory stands. -/
def requireDirectory (s : FileStore) (place : Place) : Except FileRefusal Unit :=
  match s.node? place with
  | none => .error .missing
  | some .directory => .ok ()
  | some _ => .error .notDirectory

/-- Refuses a place at which something is not allowed. -/
def require (s : FileStore) (right : Right) (place : Place) : Except FileRefusal Unit :=
  if s.allows right place then .ok () else .error .denied

/-- Where a name leads to from a directory. -/
def placeAfter (place : Place) (name : Text) : Place :=
  if name = "." then place else if name = ".." then place.dropLast else place ++ [name]

/-- The place one name further. -/
def enter (s : FileStore) (place : Place) (name : Text) : Except FileRefusal Place := do
  s.requireDirectory place
  if name = [] then pure place
  else
    s.require .search place
    if nameLimit < Path.byteCount name then .error .nameTooLong
    else pure (placeAfter place name)

/-- How far names lead: to a place, or to a link in a directory, with the names that are left. -/
inductive Stretch where
  | arrived (place : Place)
  | linked (directory : Place) (target : Path) (rest : List Text)

/-- Follows names up to the first link. A link that the last name leads to is followed if it is
passed through. -/
def advance (s : FileStore) (through : Bool) : Place → List Text → Except FileRefusal Stretch
  | place, [] => pure (.arrived place)
  | place, name :: rest => do
    let reached ← s.enter place name
    match s.link? reached with
    | some target =>
      if through ∨ rest ≠ [] then pure (.linked place target rest) else pure (.arrived reached)
    | none => s.advance through reached rest

/-- Where the names of a path begin, in a directory. -/
def origin (directory : Place) (root : Root) : Place := if root = .relative then directory else []

/-- The place that names lead to, with so many links that may still be followed. -/
def walk (s : FileStore) (through : Bool) :
    (links : Nat) → Place → List Text → Except FileRefusal Place
  | 0, place, names => do
    match ← s.advance through place names with
    | .arrived reached => pure reached
    | .linked _ _ _ => .error .tooManyLinks
  | links + 1, place, names => do
    match ← s.advance through place names with
    | .arrived reached => pure reached
    | .linked directory target rest =>
      s.walk through links (origin directory target.root) (target.names ++ rest)

/-- Refuses a path without a text, and one that is too long. -/
def checkLength (p : Path) : Except FileRefusal Unit :=
  if p.text.isEmpty then .error .missing
  else if pathLimit < Path.byteCount p.text then .error .nameTooLong
  else .ok ()

/-- The place that names lead to from the beginning of a path. -/
def follow (s : FileStore) (through : Bool) (p : Path) (names : List Text) :
    Except FileRefusal Place := do
  checkLength p
  s.walk through linkLimit (origin s.working p.root) names

/-- The place that a path leads to, at which nothing need stand. -/
def locate (s : FileStore) (p : Path) : Except FileRefusal Place := s.follow true p p.names

/-- The place that a path names, even if a link stands there. -/
def locateEntry (s : FileStore) (p : Path) : Except FileRefusal Place := s.follow false p p.names

/-- The place of a file that is to be made. A path that ends with a slash asks for a directory, and
is refused as one, whatever its last name leads to. -/
def locateNew (s : FileStore) (p : Path) : Except FileRefusal Place :=
  match p.names.reverse with
  | [] :: before => do
    let directory ← s.follow true p (before.dropWhile List.isEmpty).tail.reverse
    s.requireDirectory directory
    s.require .search directory
    .error .isDirectory
  | _ => s.locate p

/-- The outcome for a path: a path that the system cannot be asked for is a fault of its own, and a
refusal becomes one. -/
def refuse {α : Type} (p : Path) (r : Except FileRefusal α) : Except Fault α := do
  p.check
  r.mapError fun refusal => .file refusal p.text

/-- What a path leads to; nothing when it leads nowhere. -/
def find? (s : FileStore) (p : Path) : Option Node :=
  match s.locate p with
  | .ok place => s.node? place
  | .error _ => none

/-! ## Reading -/

/-- The file that a path leads to, which may be read. -/
def openFile (s : FileStore) (p : Path) : Except Fault FileId :=
  refuse p do
    let place ← s.locate p
    match s.node? place with
    | none => .error .missing
    | some (.file id) => do
      s.require .read place
      pure id
    | some _ => do
      s.require .read place
      .error .isDirectory

/-- The content of the file that a path leads to. -/
def read (s : FileStore) (p : Path) : Except Fault Bytes := (s.openFile p).map s.content

/-- Holds of the refusals that only tell that there is nothing. -/
def tellsNothing : FileRefusal → Bool
  | .missing | .notDirectory | .tooManyLinks => true
  | _ => false

/-- Tells whether something is found where a path leads. A path that the system cannot be asked for
leads nowhere. -/
def test (s : FileStore) (holds : Node → Bool) (p : Path) : Except Fault Bool :=
  match p.check, s.locate p with
  | .error _, _ => .ok false
  | .ok (), .ok place => .ok ((s.node? place).any holds)
  | .ok (), .error refusal =>
    if tellsNothing refusal then .ok false else .error (.file refusal p.text)

/-- Tells whether a path leads to a file. -/
def testFile (s : FileStore) (p : Path) : Except Fault Bool := s.test Node.isFile p

/-- Tells whether a path leads to a directory. -/
def testDirectory (s : FileStore) (p : Path) : Except Fault Bool := s.test Node.isDirectory p

/-! ## Making and removing -/

/-- Empties the file that a path leads to, or makes it. -/
def create (s : FileStore) (p : Path) : Except Fault (FileId × FileStore) :=
  refuse p do
    let place ← s.locateNew p
    match s.node? place with
    | none => do
      s.requireDirectory place.dropLast
      s.require .write place.dropLast
      pure (s.next, s.addFile place [])
    | some (.file id) => do
      s.require .write place
      pure (id, s.write id [])
    | some _ => .error .isDirectory

/-- Makes one directory. -/
def makeDirectory (s : FileStore) (p : Path) : Except FileRefusal FileStore := do
  let place ← s.locateEntry p
  match s.node? place with
  | some _ => .error .exists
  | none => do
    s.requireDirectory place.dropLast
    s.require .write place.dropLast
    pure (s.addDirectory place)

/-- What comes of a directory that was refused: one that is there already is kept. -/
def keepDirectory (s : FileStore) (p : Path) (refusal : FileRefusal) : Except Fault Unit := do
  if ← s.testDirectory p then pure () else .error (.file refusal p.text)

/-- Makes the directory that a path of `depth` names leads to and the directories on the way. One
that is there already is kept. A refusal leaves the directories that were made before it. -/
def makeDirectories (s : FileStore) (root : Root) : (names : List Text) → (depth : Nat) →
    Except Fault Unit × FileStore
  | names, 0 =>
    let p : Path := ⟨root, names⟩
    match s.makeDirectory p with
    | .ok s' => (.ok (), s')
    | .error refusal => (s.keepDirectory p refusal, s)
  | names, depth + 1 =>
    let p : Path := ⟨root, names⟩
    match s.makeDirectory p with
    | .ok s' => (.ok (), s')
    | .error .missing =>
      match s.makeDirectories root names.dropLast depth with
      | (.ok (), s') =>
        match s'.makeDirectory p with
        | .ok s'' => (.ok (), s'')
        | .error refusal => (s'.keepDirectory p refusal, s')
      | failed => failed
    | .error refusal => (s.keepDirectory p refusal, s)

/-- Makes the directory of a path and the directories on the way to it. -/
def makeDirectoriesOf (s : FileStore) (p : Path) : Except Fault Unit × FileStore :=
  match p.check with
  | .ok () => s.makeDirectories p.root p.names p.names.length
  | .error fault => (.error fault, s)

/-- Writes a file, with the directories on the way to it, whatever stands there. -/
def install (s : FileStore) (p : Path) (content : Bytes) : FileStore :=
  let s := (s.makeDirectoriesOf p.parent).2
  match s.create p with
  | .ok (id, s) => s.write id content
  | .error _ => s

/-- Makes a directory, with the directories on the way to it. -/
def installDirectory (s : FileStore) (p : Path) : FileStore := (s.makeDirectoriesOf p).2

/-- Holds of the last names that only a directory has: none, an empty one, and dots. -/
def isDirectoryName (name : Option Text) : Bool :=
  name.all fun name => name == [] || name == "." || name == ".."

/-- Removes the file or the link that a path names. A path that can only name a directory is refused
as one, whether or not its directory may be changed. -/
def remove (s : FileStore) (p : Path) : Except Fault FileStore :=
  refuse p do
    let place ← s.locateEntry p
    match s.node? place with
    | none => .error .missing
    | some node => do
      if isDirectoryName p.names.getLast? then .error .isDirectory
      s.require .write place.dropLast
      if node.isDirectory then .error .isDirectory else pure (s.clear place)

end FileStore

end Polyglot
