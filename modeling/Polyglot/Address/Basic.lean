import Polyglot.Address.Escaped
import Polyglot.Address.Label
import Polyglot.Address.Numeric
import Polyglot.Number.Integer
import Polyglot.Text.Lower

/-! # Addresses

An address has a scheme, a user, a host, a port, a path, a query and a fragment, and most of them
may be missing. Everything but the scheme and the port is held with its escapes. Dots in the place
of a name in the path are resolved as they are written, if there is a scheme or a host. What stands
for a host may be a numeric host, a host in ASCII, or a host name that has a form in ASCII.
-/

namespace Polyglot

/-- A part of an address that can be given by itself. -/
inductive AddressPart where
  | path
  | query
  | fragment

/-- The name of a part. -/
def AddressPart.name : AddressPart → Text
  | path => "path"
  | query => "query"
  | fragment => "fragment"

/-- Why a text is no address, or a part does not fit. -/
inductive AddressFlaw where
  | tooLong
  | unprintable (c : CodePoint) (position : Nat)
  | notEncodable (error : Utf8.EncodeError)
  | badFour (host : Text)
  | badEight (host : Text)
  | badName (host : Text)
  | badPort (port : Text)
  | startsWithSlashes
  | startsWithColon
  | partTooLong (part : AddressPart)
  | unprintableIn (part : AddressPart) (c : CodePoint) (position : Nat)

namespace AddressFlaw

/-- The words for a control character. -/
def unprintableMessage (place : Text) (c : CodePoint) (position : Nat) : Text :=
  "Invalid non-printable ASCII character in URL" ++ place ++ ", " ++ Text.quoted [c] ++
    " at position " ++ Text.ofNat position ++ "."

/-- The words of a flaw. -/
def message : AddressFlaw → Text
  | tooLong => "URL too long"
  | unprintable c position => unprintableMessage "" c position
  | notEncodable error => error.message
  | badFour host => "Invalid IPv4 address: " ++ Text.quoted host
  | badEight host => "Invalid IPv6 address: " ++ Text.quoted host
  | badName host => "Invalid IDNA hostname: " ++ Text.quoted host
  | badPort port => "Invalid port: " ++ Text.quoted port
  | startsWithSlashes => "Relative URLs cannot have a path starting with '//'"
  | startsWithColon => "Relative URLs cannot have a path starting with ':'"
  | partTooLong part => "URL component '" ++ part.name ++ "' too long"
  | unprintableIn part c position =>
    unprintableMessage (" " ++ part.name ++ " component") c position

end AddressFlaw

/-- An address, or a part of one that is to be completed. -/
structure Address where
  scheme : Text
  user : Text
  host : Text
  port : Option Int
  path : Text
  query : Option Text
  fragment : Option Text

namespace Address

/-- The greatest length of an address and of each of its parts. -/
def lengthLimit : Nat := 65536

/-- A control character of ASCII. -/
def isControl (c : CodePoint) : Bool := c.val < 0x20 || c.val == 0x7F

/-- The first control character of a text and its position. -/
def control? (t : Text) : Option (CodePoint × Nat) :=
  (t.findIdx? isControl).map fun position => (t.getD position 0, position)

/-! ### Schemes, hosts and ports -/

/-- A code point that a scheme may hold. -/
def isSchemePart (c : CodePoint) : Bool :=
  c.isAsciiLower || c.isAsciiUpper || c.isAsciiDigit || List.elem c ("+.-" : Text)

/-- Takes a scheme, which begins with a letter and ends at a colon; it may be empty. -/
def takeScheme (t : Text) : Text × Text :=
  let scheme := t.takeWhile isSchemePart
  let isLetter (c : CodePoint) : Bool := c.isAsciiLower || c.isAsciiUpper
  match t.drop scheme.length with
  | c :: rest =>
    if c = (':' : CodePoint) && (scheme.head?.map isLetter).getD true then (scheme, rest)
    else ([], t)
  | [] => ([], t)

/-- Holds of the signs that end an authority, that is, a user, a host and a port. -/
def endsAuthority (c : CodePoint) : Bool := List.elem c ("/?#" : Text)

/-- Takes an authority, which follows two slashes. -/
def takeAuthority : Text → Text × Text
  | c :: d :: rest =>
    if c = ('/' : CodePoint) ∧ d = ('/' : CodePoint) then rest.span fun c => !endsAuthority c
    else ([], c :: d :: rest)
  | t => ([], t)

/-- What follows the last occurrence of a code point; the whole text if there is none. -/
def afterLast (separator : CodePoint) (t : Text) : Text :=
  (t.reverse.takeWhile (· ≠ separator)).reverse

/-- Takes the user of an authority, which ends at the last at sign. -/
def takeUser (authority : Text) : Text × Text :=
  let rest := afterLast '@' authority
  (authority.take (authority.length - rest.length - 1), rest)

/-- Takes a host: one in brackets ends at the last bracket, any other at a colon. -/
def takeHost (t : Text) : Text × Text :=
  if t.head? = some CodePoint.openBracket ∧ t.contains CodePoint.closeBracket then
    let rest := afterLast CodePoint.closeBracket t
    (t.take (t.length - rest.length), rest)
  else t.span (· ≠ (':' : CodePoint))

/-- Takes the colon before a port. -/
def afterColon : Text → Text
  | [] => []
  | c :: rest => if c = (':' : CodePoint) then rest else c :: rest

/-- Holds of a text in brackets. -/
def isBracketed (t : Text) : Bool :=
  t.head? = some CodePoint.openBracket && t.getLast? = some CodePoint.closeBracket

/-- The host that a text stands for. -/
def hostOf (t : Text) : Except AddressFlaw Text :=
  if Numeric.looksLikeFour t then
    if Numeric.isFour t then .ok t else .error (.badFour t)
  else if isBracketed t then
    let inner := t.tail.dropLast
    if Numeric.isEightInZone inner then .ok inner else .error (.badEight t)
  else if t.all HostLabel.isAscii then .ok (Escaped.write Escaped.keepsInHost (Text.asciiLower t))
  else
    match HostName.toAscii? (Text.lower t) with
    | some host => .ok host
    | none => .error (.badName t)

/-- The port of each scheme that has one. -/
def standardPorts : List (Text × Int) :=
  [("ftp", 21), ("http", 80), ("https", 443), ("ws", 80), ("wss", 443)]

/-- The port that a text stands for; that of the scheme as it is written is left out. -/
def portOf (scheme t : Text) : Except AddressFlaw (Option Int) :=
  if t.isEmpty then .ok none
  else
    match Integer.ofText t with
    | .ok port => .ok (if Entries.get? scheme standardPorts = some port then none else some port)
    | .error _ => .error (.badPort t)

/-! ### Paths -/

/-- Adds a name to the names before it, the last one first. A dot adds none, and a pair of dots
takes one away, except for an empty one that stands alone. -/
def pushName (names : List Text) (name : Text) : List Text :=
  if name = "." then names
  else if name = ".." then if names = [[]] then names else names.tail
  else name :: names

/-- Resolves the dots of a path. -/
def resolve (path : Text) : Text :=
  Text.join "/" ((Text.cutAt '/' path).foldl pushName []).reverse

/-- What is wrong with a path without a scheme and a host: it could be taken for one with a host, or
with a scheme. -/
def barePathFlaw? (path : Text) : Option AddressFlaw :=
  if ("//" : Text).isPrefixOf path then some .startsWithSlashes
  else if path.head? = some ':' then some .startsWithColon
  else none

/-! ### Reading an address -/

/-- Writes the escapes of a part. A surrogate has no encoding; code points are encoded one by one,
so that it stands at the front. -/
def escaped (keeps : CodePoint → Bool) (t : Text) : Except AddressFlaw Text :=
  match t.find? CodePoint.isSurrogate with
  | some c => .error (.notEncodable ⟨0, [c]⟩)
  | none => .ok (Escaped.write keeps t)

/-- Writes the escapes of a part that may be missing. -/
def escapedPart (keeps : CodePoint → Bool) : Option Text → Except AddressFlaw (Option Text)
  | none => .ok none
  | some t => return some (← escaped keeps t)

/-- What follows a sign at the front of a text. -/
def after? (sign : CodePoint) : Text → Option Text
  | [] => none
  | c :: rest => if c = sign then some rest else none

/-- Holds of the signs that end a path. -/
def endsPath (c : CodePoint) : Bool := List.elem c ("?#" : Text)

/-- The pieces of an address as they are written. Each may be empty, and a query and a fragment may
be missing. -/
structure Pieces where
  scheme : Text
  user : Text
  host : Text
  port : Text
  path : Text
  query : Option Text
  fragment : Option Text

/-- Cuts an address into its pieces. -/
def Pieces.ofText (t : Text) : Pieces :=
  let (scheme, rest) := takeScheme t
  let (authority, rest) := takeAuthority rest
  let (user, server) := takeUser authority
  let (host, port) := takeHost server
  let path := rest.takeWhile fun c => !endsPath c
  let rest := rest.drop path.length
  { scheme, user, host, port := afterColon port, path
    query := (after? '?' rest).map fun t => t.takeWhile (· ≠ ('#' : CodePoint))
    fragment := after? '#' (rest.dropWhile (· ≠ ('#' : CodePoint))) }

/-- The address that a text without control characters stands for. -/
def ofVisible (t : Text) : Except AddressFlaw Address := do
  let pieces := Pieces.ofText t
  let user ← escaped Escaped.keepsInUser pieces.user
  let host ← hostOf pieces.host
  let port ← portOf pieces.scheme pieces.port
  let isBare := pieces.scheme.isEmpty && user.isEmpty && host.isEmpty && port.isNone
  if let some flaw := if isBare then barePathFlaw? pieces.path else none then throw flaw
  let path ← escaped Escaped.keepsInPath (if isBare then pieces.path else resolve pieces.path)
  let query ← escapedPart Escaped.keepsInQuery pieces.query
  let fragment ← escapedPart Escaped.keepsInFragment pieces.fragment
  return { scheme := Text.asciiLower pieces.scheme, user, host, port, path, query, fragment }

/-- The address that a text stands for. -/
def ofText (t : Text) : Except AddressFlaw Address :=
  if lengthLimit < t.length then .error .tooLong
  else
    match control? t with
    | some (c, position) => .error (.unprintable c position)
    | none => ofVisible t

/-- Holds of an address that tells a server. -/
def isWhole (a : Address) : Bool := !a.scheme.isEmpty && !a.host.isEmpty

/-- The host and the port as an address shows them. -/
def server (a : Address) : Text :=
  (if a.host.contains (':' : CodePoint) then "[" ++ a.host ++ "]" else a.host) ++
    match a.port with
    | some port => ":" ++ Text.ofInt port
    | none => ""

/-- The path and the query of an address, taken as what follows the slash behind a server. -/
def onServer (scheme host : Text) (a : Address) : Except AddressFlaw Address :=
  let path := ('/' : CodePoint) :: a.path.dropWhile (· = ('/' : CodePoint))
  if lengthLimit < path.length then .error (.partTooLong .path)
  else if a.query.any fun query => lengthLimit < query.length then .error (.partTooLong .query)
  else
    .ok { scheme, user := [], host, port := none, path := resolve path, query := a.query,
          fragment := none }

end Address

end Polyglot
