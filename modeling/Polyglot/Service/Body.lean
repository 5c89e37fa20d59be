import Polyglot.Json.Decode
import Polyglot.Text.Utf8

/-! # Bodies of requests

The bytes of a body do not say how they encode its text. Since the text is JSON, its first two code
points are in ASCII, and the zeros among the first bytes tell how many bytes a code point has and
which of them comes first. Surrogates may stand alone.
-/

namespace Polyglot.Service

/-- The order of the bytes of a unit. -/
inductive ByteOrder where
  | big
  | little

/-- How bytes encode a text. -/
inductive Encoding where
  | utf8
  | utf16 (order : ByteOrder)
  | utf32 (order : ByteOrder)

/-- The encoding that the first bytes of a JSON text show. -/
def Encoding.detect : Bytes → Encoding
  | [a, b] => if a = 0 then .utf16 .big else if b = 0 then .utf16 .little else .utf8
  | a :: b :: c :: d :: _ =>
    if a = 0 then if b = 0 then .utf32 .big else .utf16 .big
    else if b = 0 then if c = 0 ∧ d = 0 then .utf32 .little else .utf16 .little
    else .utf8
  | _ => .utf8

/-- The number that bytes name. -/
def ByteOrder.value (order : ByteOrder) (bytes : Bytes) : Nat :=
  let bytes :=
    match order with
    | big => bytes
    | little => bytes.reverse
  ofDigits 256 (bytes.map UInt8.toNat)

/-- The numbers of two bytes each; a byte that is left over makes the reading fail. -/
def halves? (order : ByteOrder) : Bytes → Option (List Nat)
  | [] => some []
  | a :: b :: rest => (halves? order rest).map (order.value [a, b] :: ·)
  | _ => none

/-- The numbers of four bytes each; bytes that are left over make the reading fail. -/
def words? (order : ByteOrder) : Bytes → Option (List Nat)
  | [] => some []
  | a :: b :: c :: d :: rest => (words? order rest).map (order.value [a, b, c, d] :: ·)
  | _ => none

/-- Puts a code point in front of a text. A surrogate that makes a pair with the first code point
there becomes one with it. -/
def joinPair (c : CodePoint) : Text → Text
  | [] => [c]
  | d :: t =>
    if c.isHighSurrogate ∧ d.isLowSurrogate then CodePoint.ofPair c d :: t else c :: d :: t

/-- The code point with a number, if there is one. -/
def point? (n : Nat) : Option CodePoint := if h : n < 0x110000 then some ⟨n, h⟩ else none

/-- A text without a byte order mark at its front. -/
def withoutMark : Text → Text
  | [] => []
  | c :: rest => if c = CodePoint.byteOrderMark then rest else c :: rest

/-- The text that bytes encode; nothing when they encode none. -/
def Encoding.read? (bytes : Bytes) : Encoding → Option Text
  | utf8 => (Utf8.decode bytes).toOption.map withoutMark
  | utf16 order => (halves? order bytes).map fun units =>
    (units.map CodePoint.ofNat).foldr joinPair []
  | utf32 order => do (← words? order bytes).mapM point?

/-- The text of a body; nothing when its bytes encode none. -/
def bodyText? (bytes : Bytes) : Option Text := (Encoding.detect bytes).read? bytes

end Polyglot.Service
