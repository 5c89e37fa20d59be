import Polyglot.Text.Numeral

/-! # UTF-8

Bytes are read as a sequence of pieces: a scalar value, or the longest run of bytes that begins an
encoding and cannot be continued by what follows. Strict decoding refuses the first broken piece;
lenient decoding writes one replacement character for each. Overlong forms, surrogates and numbers
beyond the last code point are no encodings, so the range of a second byte depends on the first.
-/

namespace Polyglot.Utf8

/-- Why a run of bytes encodes nothing. -/
inductive Flaw where
  /-- The byte begins no encoding. -/
  | start
  /-- The next byte does not continue the encoding. -/
  | continuation
  /-- The bytes end inside the encoding. -/
  | truncated
  deriving DecidableEq

/-- A scalar value, or bytes that encode nothing. -/
inductive Piece where
  | scalar (c : CodePoint)
  | broken (bytes : Bytes) (flaw : Flaw)

/-- An encoding that has begun: the bytes read, how many are still due, the range of the next one,
and the number read so far. -/
structure Pending where
  seen : Bytes
  due : Nat
  low : UInt8
  high : UInt8
  value : Nat

/-- What a first byte begins. -/
inductive Start where
  | whole (c : CodePoint)
  | opens (pending : Pending)
  | refused

/-- Reads a first byte. -/
def start (b : UInt8) : Start :=
  let opening (due : Nat) (low high : UInt8) (value : Nat) : Start :=
    .opens ⟨[b], due, low, high, value⟩
  if b < 0x80 then .whole (CodePoint.ofNat b.toNat)
  else if b < 0xC2 then .refused
  else if b < 0xE0 then opening 1 0x80 0xBF (b.toNat - 0xC0)
  else if b = 0xE0 then opening 2 0xA0 0xBF 0
  else if b = 0xED then opening 2 0x80 0x9F 0xD
  else if b < 0xF0 then opening 2 0x80 0xBF (b.toNat - 0xE0)
  else if b = 0xF0 then opening 3 0x90 0xBF 0
  else if b < 0xF4 then opening 3 0x80 0xBF (b.toNat - 0xF0)
  else if b = 0xF4 then opening 3 0x80 0x8F 4
  else .refused

/-- Adds a continuation byte to an encoding that has begun. -/
def Pending.push (p : Pending) (b : UInt8) : Pending :=
  ⟨p.seen ++ [b], p.due - 1, 0x80, 0xBF, p.value * 64 + (b.toNat - 0x80)⟩

/-- The pieces that follow a first byte; `more` reads the bytes after it. -/
def Start.andThen (b : UInt8) (more : Option Pending → List Piece) : Start → List Piece
  | .whole c => .scalar c :: more none
  | .opens p => more (some p)
  | .refused => .broken [b] .start :: more none

/-- The pieces of a sequence of bytes, given the encoding that has begun before them. -/
def piecesFrom : Option Pending → Bytes → List Piece
  | none, [] => []
  | some p, [] => [.broken p.seen .truncated]
  | none, b :: rest => (start b).andThen b fun state => piecesFrom state rest
  | some p, b :: rest =>
    if p.low ≤ b ∧ b ≤ p.high then
      let q := p.push b
      if q.due = 0 then .scalar (CodePoint.ofNat q.value) :: piecesFrom none rest
      else piecesFrom (some q) rest
    else
      .broken p.seen .continuation :: (start b).andThen b fun state => piecesFrom state rest

/-- The pieces of a sequence of bytes. -/
def pieces (bytes : Bytes) : List Piece := piecesFrom none bytes

/-- The number of bytes that encode a code point. -/
def width (c : CodePoint) : Nat :=
  if c.val < 0x80 then 1 else if c.val < 0x800 then 2 else if c.val < 0x10000 then 3 else 4

/-- The first broken piece of a sequence of bytes, and the place where it begins. -/
structure DecodeError where
  position : Nat
  bytes : Bytes
  flaw : Flaw

/-- Reads pieces up to the first broken one; `position` counts the bytes before them. -/
def scalars (position : Nat) : List Piece → Except DecodeError Text
  | [] => .ok []
  | .scalar c :: rest => (scalars (position + width c) rest).map (c :: ·)
  | .broken bytes flaw :: _ => .error ⟨position, bytes, flaw⟩

/-- Strict decoding: refuses bytes that encode nothing. -/
def decode (bytes : Bytes) : Except DecodeError Text := scalars 0 (pieces bytes)

/-- The code point that lenient decoding writes for a piece. -/
def Piece.lenient : Piece → CodePoint
  | .scalar c => c
  | .broken _ _ => CodePoint.replacement

/-- Lenient decoding: every broken piece becomes one replacement character. -/
def decodeLenient (bytes : Bytes) : Text := (pieces bytes).map Piece.lenient

/-- The bytes of one code point; a surrogate gets the three bytes of its number. -/
def encodePoint (c : CodePoint) : Bytes :=
  let tail (weight : Nat) : UInt8 := UInt8.ofNat (0x80 + c.val / weight % 0x40)
  match width c with
  | 1 => [UInt8.ofNat c.val]
  | 2 => [UInt8.ofNat (0xC0 + c.val / 0x40), tail 1]
  | 3 => [UInt8.ofNat (0xE0 + c.val / 0x1000), tail 0x40, tail 1]
  | _ => [UInt8.ofNat (0xF0 + c.val / 0x40000), tail 0x1000, tail 0x40, tail 1]

/-- The bytes of a text. -/
def encode (t : Text) : Bytes := t.flatMap encodePoint

/-- A run of surrogates, which have no encoding, and the place where it begins. -/
structure EncodeError where
  position : Nat
  run : Text

/-- The first run of surrogates in a text that begins at a position. Surrogates that are exempt
begin no run, but may be part of one. -/
def findSurrogates (exempt : CodePoint → Bool) (position : Nat) : Text → Option EncodeError
  | [] => none
  | c :: rest =>
    if c.isSurrogate && !exempt c then some ⟨position, (c :: rest).takeWhile CodePoint.isSurrogate⟩
    else findSurrogates exempt (position + 1) rest

/-- Why a text has no encoding; nothing when it has one. -/
def encodeError? (t : Text) : Option EncodeError := findSurrogates (fun _ => false) 0 t

/-- The message names the surrogate when the run has only one, and its range otherwise. -/
def EncodeError.message (e : EncodeError) : Text :=
  let place : Text :=
    match e.run with
    | [c] => "character '\\u" ++ Text.hex 4 c.val ++ "' in position " ++ Text.ofNat e.position
    | run =>
      "characters in position " ++ Text.ofNat e.position ++ "-" ++
        Text.ofNat (e.position + run.length - 1)
  "'utf-8' codec can't encode " ++ place ++ ": surrogates not allowed"

/-- The reason that a message gives. -/
def Flaw.message : Flaw → Text
  | .start => "invalid start byte"
  | .continuation => "invalid continuation byte"
  | .truncated => "unexpected end of data"

/-- The message names the byte when the broken piece is one byte, and its range otherwise. -/
def DecodeError.message (e : DecodeError) : Text :=
  let place : Text :=
    match e.bytes with
    | [b] => "byte 0x" ++ Text.hex 2 b.toNat ++ " in position " ++ Text.ofNat e.position
    | bytes =>
      "bytes in position " ++ Text.ofNat e.position ++ "-" ++
        Text.ofNat (e.position + bytes.length - 1)
  "'utf-8' codec can't decode " ++ place ++ ": " ++ e.flaw.message

end Polyglot.Utf8
