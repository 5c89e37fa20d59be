import Polyglot.Address.Basic

/-! # Targets of requests

The target of a request leads to a path of the service. It may be a whole address, of which only the
path counts in the end, or what follows the address of the service. Dots in the place of a name are
resolved as they are written, and escapes are read after that, twice. A target may be refused for
its host although the host does not count: a host name in its ASCII form is read, its server has to
be in ASCII, the scheme has to be a known one, and the first colon in a server stands before a port.
-/

namespace Polyglot.Service

/-- The first run of code points beyond ASCII in a text, and the place where it begins. -/
structure ForeignRun where
  position : Nat
  run : Text

/-- The first run of a text beyond ASCII. -/
def foreignRun? (t : Text) : Option ForeignRun :=
  (t.findIdx? fun c => !HostLabel.isAscii c).map fun position =>
    ⟨position, (t.drop position).takeWhile fun c => !HostLabel.isAscii c⟩

/-- A code point beyond ASCII as a message names it. -/
def foreignName (c : CodePoint) : Text :=
  if c.val < 0x100 then "\\x" ++ Text.hex 2 c.val
  else if c.val < 0x10000 then "\\u" ++ Text.hex 4 c.val
  else "\\U" ++ Text.hex 8 c.val

/-- The message names the code point when the run has only one, and its range otherwise. -/
def ForeignRun.message (r : ForeignRun) : Text :=
  let place : Text :=
    match r.run with
    | [c] => "character '" ++ foreignName c ++ "' in position " ++ Text.ofNat r.position
    | run =>
      "characters in position " ++ Text.ofNat r.position ++ "-" ++
        Text.ofNat (r.position + run.length - 1)
  "'ascii' codec can't encode " ++ place ++ ": ordinal not in range(128)"

/-- Why a target is refused. -/
inductive TargetFlaw where
  | address (flaw : AddressFlaw)
  | host (flaw : HostFlaw)
  | foreignServer (run : ForeignRun)
  | unknownScheme (name : Text)
  | badPort (port : Text)
  /-- The place without slashes at its end is sent back, and it is no address. -/
  | badLocation (flaw : AddressFlaw)

/-- The words of a flaw. -/
def TargetFlaw.message : TargetFlaw → Text
  | address flaw => flaw.message
  | host flaw => flaw.message
  | foreignServer run => run.message
  | unknownScheme name => Text.quoted name
  | badPort port => (IntegerFault.badNumeral port).message
  | badLocation flaw => "Invalid URL in location header: " ++ flaw.message ++ "."

namespace Target

/-- The scheme of the address of the service. -/
def ownScheme : Text := "http"

/-- The host of the address of the service. -/
def ownHost : Text := "testserver"

/-- The address that a target leads to. -/
def address (t : Text) : Except AddressFlaw Address := do
  let address ← Address.ofText t
  if address.isWhole then return address else address.onServer ownScheme ownHost

/-- The schemes that the service knows. -/
def schemes : List Text := ["http", "https", "ws", "wss"]

/-- What is wrong with a host in the ASCII form of a host name. -/
def nameFlaw? (a : Address) : Option TargetFlaw :=
  if HostLabel.asciiMark.isPrefixOf a.host then (HostName.asciiFlaw? a.host).map .host else none

/-- What is wrong with the port, which follows the first colon of a server. In a host with colons it
is the first one. -/
def portFlaw? (server : Text) : Option TargetFlaw :=
  match server.dropWhile (· ≠ (':' : CodePoint)) with
  | [] => none
  | _ :: port =>
    match Integer.ofText port with
    | .ok _ => none
    | .error _ => some (.badPort port)

/-- What is wrong with the server of an address. -/
def serverFlaw? (a : Address) : Option TargetFlaw :=
  (nameFlaw? a).or <| ((foreignRun? a.server).map .foreignServer).or <|
    if schemes.contains a.scheme then portFlaw? a.server else some (.unknownScheme a.scheme)

/-- The path of an address on its server. -/
def path (a : Address) : Text := Escaped.read (Escaped.read a.path)

/-- The address that is sent back to lead to another path. -/
def location (a : Address) (path : Text) : Text :=
  let query := a.query.getD []
  let address := a.scheme ++ "://" ++ a.server ++ path ++
    if query.isEmpty then [] else ('?' : CodePoint) :: query
  Escaped.write Escaped.keepsInLocation address

/-- What is wrong with the address that leads to another path. The fragment goes along, with its
escapes read. -/
def sendingFlaw? (a : Address) (path : Text) : Option TargetFlaw :=
  match Address.ofText (location a path) with
  | .error flaw => some (.badLocation flaw)
  | .ok _ =>
    (Address.control? (Escaped.read (a.fragment.getD []))).map fun (c, position) =>
      .address (.unprintableIn .fragment c position)

end Target

end Polyglot.Service
