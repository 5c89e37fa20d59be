import Polyglot.Fault

/-! # Paths

A path is a root and a sequence of names. Empty names and single dots are left out when a path is
read, so that different spellings of one path are equal; a pair of dots stays, since what it leads
to depends on the files. Exactly two leading slashes make a root of their own, and any other number
of them counts as one. A path may also be kept as it is spelled, with all its names. A tilde at the
front stands for the home of a user, which the environment or the system knows.
-/

namespace Polyglot

/-- What a path begins with. -/
inductive Root where
  | relative
  | slash
  | twoSlashes
  deriving DecidableEq

/-- A root, and the names that lead from it. -/
structure Path where
  root : Root
  names : List Text
  deriving DecidableEq

namespace Path

/-- The root of a text: one for each way to begin with slashes. -/
def rootOf (t : Text) : Root :=
  match (t.takeWhile (· = ('/' : CodePoint))).length with
  | 0 => .relative
  | 2 => .twoSlashes
  | _ => .slash

/-- Reads a path. -/
def ofText (t : Text) : Path :=
  ⟨rootOf t, (Text.cutAt '/' t).filter fun name => name ≠ [] ∧ name ≠ "."⟩

/-- The path with every name of a text, so that its text is spelled in the same way. -/
def spelled : Text → Path
  | [] => ⟨.relative, [[]]⟩
  | c :: rest =>
    if c = ('/' : CodePoint) then ⟨.slash, Text.cutAt '/' rest⟩
    else ⟨.relative, Text.cutAt '/' (c :: rest)⟩

/-- The text of a root. -/
def rootText : Root → Text
  | .relative => ""
  | .slash => "/"
  | .twoSlashes => "//"

/-- The text of a path; a relative path without names is a dot. -/
def text (p : Path) : Text :=
  if p.root = .relative ∧ p.names = [] then "."
  else rootText p.root ++ Text.join "/" p.names

/-- A surrogate that stands for a byte of a name that is no UTF-8. -/
def isRawByte (c : CodePoint) : Bool := 0xDC80 ≤ c.val && c.val ≤ 0xDCFF

/-- The number of bytes that a text has for the system. -/
def byteCount (t : Text) : Nat := t.measure fun c => if isRawByte c then 1 else Utf8.width c

/-- Refuses a text that cannot be handed to the system: a surrogate stands alone in it, or it holds
the code point zero. -/
def checkText (t : Text) : Except Fault Unit :=
  match Utf8.findSurrogates isRawByte 0 t with
  | some e => .error (.notEncodable e)
  | none => if t.contains 0 then .error .nulInPath else .ok ()

/-- Refuses a path that cannot be handed to the system. -/
def check (p : Path) : Except Fault Unit := checkText p.text

/-- The path without its last name. -/
def parent (p : Path) : Path := ⟨p.root, p.names.dropLast⟩

end Path

/-- The homes that the system knows. -/
structure Users where
  /-- The home of the user who runs the program. -/
  own : Option Text
  /-- The homes of users by their names. -/
  named : Text → Option Text

namespace Path

/-- A home without slashes at its end, except for the root. -/
def trimHome (home : Text) : Text :=
  let trimmed := (home.reverse.dropWhile (· = ('/' : CodePoint))).reverse
  if trimmed = [] then "/" else trimmed

/-- The path of a home; one that begins with a tilde again is none. -/
def ofHome : Option Text → Except Fault Path
  | none => .error .noHome
  | some home =>
    let home := trimHome home
    if home.head? = some ('~' : CodePoint) then .error .noHome else .ok (ofText home)

/-- The home that a name after a tilde stands for: without a name that of the environment or, where
it gives none, of the user who runs the program. The system is asked for the home of a user, which
it can only be by a text that it understands. -/
def homeOf (users : Users) (home : Option Text) (name : Text) : Except Fault Path :=
  if name = [] then ofHome (home.or users.own)
  else do
    checkText name
    ofHome (users.named name)

/-- Replaces a tilde at the front of a relative path, with the name after it, by a home. -/
def expandHome (users : Users) (home : Option Text) (p : Path) : Except Fault Path :=
  match p.root, p.names with
  | .relative, first :: rest =>
    if first.head? = some ('~' : CodePoint) then do
      let base ← homeOf users home first.tail
      pure ⟨base.root, base.names ++ rest⟩
    else pure p
  | _, _ => pure p

/-- A name without its last extension; dots at its front begin no extension. -/
def stem (name : Text) : Text :=
  match (Text.cutAt '.' name).reverse with
  | _ :: rest@(_ :: _) =>
    let kept := Text.join "." rest.reverse
    if kept.all (· = ('.' : CodePoint)) then name else kept
  | _ => name

end Path

end Polyglot
