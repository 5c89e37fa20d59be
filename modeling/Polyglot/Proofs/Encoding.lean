import Polyglot.Proofs.Settled
import Polyglot.Text.Utf8

/-! # Encoded texts are decoded

The bytes of a code point that is no surrogate are read as this code point. The first byte opens an
encoding with the upper digits of its number, to base 64, and each byte behind it adds the next one.
The range of the second byte keeps out overlong forms, surrogates and what is no code point; the
digits of a code point that is no surrogate stay within it.
-/

namespace Polyglot.Utf8

variable {c : CodePoint} {p : Pending} {n k : ℕ}

/-- The byte of a digit of a number to base 64. -/
def digitByte (n k : ℕ) : UInt8 := UInt8.ofNat (0x80 + n / 64 ^ k % 64)

/-- The bytes of the lowest digits of a number. -/
def digitBytes (n : ℕ) : ℕ → Bytes
  | 0 => []
  | k + 1 => digitByte n k :: digitBytes n k

/-- The first byte of a code point that takes several bytes. -/
def leadByte (c : CodePoint) : UInt8 :=
  match width c with
  | 2 => UInt8.ofNat (0xC0 + c.val / 64)
  | 3 => UInt8.ofNat (0xE0 + c.val / 64 ^ 2)
  | _ => UInt8.ofNat (0xF0 + c.val / 64 ^ 3)

theorem encodePoint_of_ascii (hascii : c.val < 0x80) : encodePoint c = [UInt8.ofNat c.val] := by
  simp [encodePoint, width, hascii]

theorem encodePoint_eq_cons (hwide : 0x80 ≤ c.val) :
    encodePoint c = leadByte c :: digitBytes c.val (width c - 1) := by
  unfold encodePoint leadByte width
  rw [if_neg (by omega)]
  split_ifs <;> simp [digitBytes, digitByte]

theorem toNat_digitByte (n k : ℕ) : (digitByte n k).toNat = 0x80 + n / 64 ^ k % 64 := by
  rw [digitByte, UInt8.toNat_ofNat']
  omega

theorem le_digitByte (n k : ℕ) : 0x80 ≤ digitByte n k := by
  rw [UInt8.le_iff_toNat_le, toNat_digitByte]
  exact Nat.le_add_right 0x80 _

theorem digitByte_le (n k : ℕ) : digitByte n k ≤ 0xBF := by
  have hdigit : n / 64 ^ k % 64 ≤ 0x3F := Nat.le_of_lt_succ (Nat.mod_lt _ (by decide))
  rw [UInt8.le_iff_toNat_le, toNat_digitByte]
  exact Nat.add_le_add_left hdigit 0x80

theorem ite_le_digitByte {exceptional : Prop} [Decidable exceptional] {low : UInt8}
    (h : exceptional → low.toNat ≤ 0x80 + n / 64 ^ k % 64) :
    (if exceptional then low else 0x80) ≤ digitByte n k := by
  split_ifs with hex
  · rw [UInt8.le_iff_toNat_le, toNat_digitByte]
    exact h hex
  · exact le_digitByte n k

theorem digitByte_le_ite {exceptional : Prop} [Decidable exceptional] {high : UInt8}
    (h : exceptional → 0x80 + n / 64 ^ k % 64 ≤ high.toNat) :
    digitByte n k ≤ if exceptional then high else 0xBF := by
  split_ifs with hex
  · rw [UInt8.le_iff_toNat_le, toNat_digitByte]
    exact h hex
  · exact digitByte_le n k

/-- Holds of an encoding that has begun when what has been read are the digits of a number but for
the lowest `k + 1` ones, and the next digit is in range. -/
structure Pending.Awaits (p : Pending) (n k : ℕ) : Prop where
  due : p.due = k + 1
  value : p.value = n / 64 ^ (k + 1)
  low : p.low ≤ digitByte n k
  high : digitByte n k ≤ p.high

theorem Pending.Awaits.value_push (hp : p.Awaits n k) :
    (p.push (digitByte n k)).value = n / 64 ^ k := by
  have hupper : n / 64 ^ (k + 1) = n / 64 ^ k / 64 := by
    rw [Nat.pow_succ, Nat.div_div_eq_div_mul]
  have hvalue := hp.value
  rw [push, toNat_digitByte]
  dsimp only
  omega

theorem Pending.Awaits.due_push (hp : p.Awaits n k) : (p.push (digitByte n k)).due = k := by
  rw [push, hp.due]
  rfl

theorem Pending.Awaits.push (hp : p.Awaits n (k + 1)) :
    (p.push (digitByte n (k + 1))).Awaits n k :=
  ⟨hp.due_push, hp.value_push, le_digitByte n k, digitByte_le n k⟩

/-- The digits that are awaited bring an encoding to its end. -/
theorem piecesFrom_digitBytes (hp : p.Awaits n k) (rest : Bytes) :
    piecesFrom (some p) (digitBytes n (k + 1) ++ rest) =
      .scalar (CodePoint.ofNat n) :: pieces rest := by
  induction k generalizing p with
  | zero =>
      rw [digitBytes, List.cons_append, piecesFrom, if_pos ⟨hp.low, hp.high⟩]
      dsimp only
      rw [if_pos hp.due_push, hp.value_push, Nat.pow_zero, Nat.div_one]
      rfl
  | succ k ih =>
      have hmore : (p.push (digitByte n (k + 1))).due ≠ 0 := by
        rw [hp.due_push]
        exact k.succ_ne_zero
      rw [digitBytes, List.cons_append, piecesFrom, if_pos ⟨hp.low, hp.high⟩]
      dsimp only
      rw [if_neg hmore, ih hp.push]

theorem start_of_ascii (hascii : c.val < 0x80) :
    start (UInt8.ofNat c.val) = .whole c := by
  have hlt : UInt8.ofNat c.val < 0x80 := by
    rw [UInt8.lt_iff_toNat_lt, UInt8.toNat_ofNat']
    exact Nat.lt_of_le_of_lt (Nat.mod_le _ _) hascii
  have hbyte : (UInt8.ofNat c.val).toNat = c.val := by
    rw [UInt8.toNat_ofNat']
    exact Nat.mod_eq_of_lt (by omega)
  simp only [start, if_pos hlt, hbyte, CodePoint.ofNat, c.isLt, dif_pos, Fin.eta]

theorem start_of_two {b : UInt8} (hlow : 0xC2 ≤ b.toNat) (hhigh : b.toNat < 0xE0) :
    start b = .opens ⟨[b], 1, 0x80, 0xBF, b.toNat - 0xC0⟩ := by
  simp only [start, UInt8.lt_iff_toNat_lt, UInt8.reduceToNat]
  rw [if_neg (by omega), if_neg (by omega), if_pos hhigh]

theorem start_of_three {b : UInt8} (hlow : 0xE0 ≤ b.toNat) (hhigh : b.toNat < 0xF0) :
    start b = .opens ⟨[b], 2, if b.toNat = 0xE0 then 0xA0 else 0x80,
      if b.toNat = 0xED then 0x9F else 0xBF, b.toNat - 0xE0⟩ := by
  simp only [start, UInt8.lt_iff_toNat_lt, ← UInt8.toNat_inj, UInt8.reduceToNat]
  rw [if_neg (by omega), if_neg (by omega), if_neg (by omega)]
  split_ifs <;> first | omega | simp [*]

theorem start_of_four {b : UInt8} (hlow : 0xF0 ≤ b.toNat) (hhigh : b.toNat < 0xF5) :
    start b = .opens ⟨[b], 3, if b.toNat = 0xF0 then 0x90 else 0x80,
      if b.toNat = 0xF4 then 0x8F else 0xBF, b.toNat - 0xF0⟩ := by
  simp only [start, UInt8.lt_iff_toNat_lt, ← UInt8.toNat_inj, UInt8.reduceToNat]
  rw [if_neg (by omega), if_neg (by omega), if_neg (by omega), if_neg (by omega),
    if_neg (by omega), if_neg (by omega)]
  split_ifs <;> first | omega | simp [*]

/-- Holds of what a first byte begins when it opens an encoding that awaits the digits of a number
behind those that it has itself. -/
def Start.Awaits (s : Start) (n k : ℕ) : Prop := ∃ p, s = .opens p ∧ p.Awaits n k

/-- A first byte has the upper digits of a number, apart from the bits that tell how many bytes
follow. -/
theorem awaits_of_start {b low high : UInt8} {base : ℕ}
    (hstart : start b = .opens ⟨[b], k + 1, low, high, b.toNat - base⟩)
    (hbyte : b.toNat = base + n / 64 ^ (k + 1)) (hlow : low ≤ digitByte n k)
    (hhigh : digitByte n k ≤ high) : (start b).Awaits n k := by
  have hvalue : b.toNat - base = n / 64 ^ (k + 1) := by rw [hbyte, Nat.add_sub_cancel_left]
  exact ⟨_, hstart, ⟨rfl, hvalue, hlow, hhigh⟩⟩

theorem awaits_of_two (hwide : 0x80 ≤ c.val) (hlt : c.val < 0x800) :
    (start (leadByte c)).Awaits c.val 0 ∧ width c = 2 := by
  have hwidth : width c = 2 := by rw [width, if_neg (by omega), if_pos hlt]
  have hlead : (leadByte c).toNat = 0xC0 + c.val / 64 ^ 1 := by
    simp only [leadByte, hwidth, UInt8.toNat_ofNat']
    omega
  have hstart := start_of_two (b := leadByte c) (by omega) (by omega)
  exact ⟨awaits_of_start hstart hlead (le_digitByte _ _) (digitByte_le _ _), hwidth⟩

/-- Surrogates are beyond the range of the second byte, and so are numbers that take two bytes. -/
theorem awaits_of_three (hc : c.val < 0xD800 ∨ 0xE000 ≤ c.val) (hwide : 0x800 ≤ c.val)
    (hlt : c.val < 0x10000) : (start (leadByte c)).Awaits c.val 1 ∧ width c = 3 := by
  have hwidth : width c = 3 := by rw [width, if_neg (by omega), if_neg (by omega), if_pos hlt]
  have hlead : (leadByte c).toNat = 0xE0 + c.val / 64 ^ 2 := by
    simp only [leadByte, hwidth, UInt8.toNat_ofNat']
    omega
  have hstart := start_of_three (b := leadByte c) (by omega) (by omega)
  refine ⟨awaits_of_start hstart hlead (ite_le_digitByte fun _ => ?_)
    (digitByte_le_ite fun _ => ?_), hwidth⟩
  · show 0xA0 ≤ 0x80 + c.val / 64 ^ 1 % 64
    omega
  · show 0x80 + c.val / 64 ^ 1 % 64 ≤ 0x9F
    omega

/-- Numbers that take three bytes are beyond the range of the second byte, and so is what is no code
point. -/
theorem awaits_of_four (hwide : 0x10000 ≤ c.val) :
    (start (leadByte c)).Awaits c.val 2 ∧ width c = 4 := by
  have hlt := c.isLt
  have hwidth : width c = 4 := by
    rw [width, if_neg (by omega), if_neg (by omega), if_neg (by omega)]
  have hlead : (leadByte c).toNat = 0xF0 + c.val / 64 ^ 3 := by
    simp only [leadByte, hwidth, UInt8.toNat_ofNat']
    omega
  have hstart := start_of_four (b := leadByte c) (by omega) (by omega)
  refine ⟨awaits_of_start hstart hlead (ite_le_digitByte fun _ => ?_)
    (digitByte_le_ite fun _ => ?_), hwidth⟩
  · show 0x90 ≤ 0x80 + c.val / 64 ^ 2 % 64
    omega
  · show 0x80 + c.val / 64 ^ 2 % 64 ≤ 0x8F
    omega

/-- The first byte of a code point that is no surrogate opens an encoding that awaits the digits
behind it. -/
theorem exists_awaits_leadByte (hc : c.isSurrogate = false) (hwide : 0x80 ≤ c.val) :
    ∃ k, (start (leadByte c)).Awaits c.val k ∧ width c = k + 2 := by
  rw [CodePoint.isSurrogate_eq_false_iff] at hc
  rcases lt_or_ge c.val 0x800 with hlt | hthree
  · exact ⟨0, awaits_of_two hwide hlt⟩
  rcases lt_or_ge c.val 0x10000 with hlt | hfour
  · exact ⟨1, awaits_of_three hc hthree hlt⟩
  · exact ⟨2, awaits_of_four hfour⟩

theorem pieces_encodePoint_append (hc : c.isSurrogate = false) (rest : Bytes) :
    pieces (encodePoint c ++ rest) = .scalar c :: pieces rest := by
  rcases lt_or_ge c.val 0x80 with hascii | hwide
  · rw [encodePoint_of_ascii hascii, List.singleton_append, pieces, piecesFrom,
      start_of_ascii hascii]
    rfl
  · obtain ⟨k, ⟨p, hstart, hp⟩, hwidth⟩ := exists_awaits_leadByte hc hwide
    have hdigits : width c - 1 = k + 1 := by omega
    rw [encodePoint_eq_cons hwide, hdigits, List.cons_append, pieces, piecesFrom, hstart]
    exact (piecesFrom_digitBytes hp rest).trans (by rw [CodePoint.ofNat_val])

/-- The bytes of a text without surrogates are read as its code points. -/
theorem pieces_encode {t : Text} (ht : Json.IsScalar t) : pieces (encode t) = t.map .scalar := by
  induction t with
  | nil => rfl
  | cons c t ih =>
      have hc := ht c List.mem_cons_self
      have hrest : Json.IsScalar t := ht.of_suffix (List.suffix_cons c t)
      rw [encode, List.flatMap_cons, pieces_encodePoint_append hc, ← encode, ih hrest,
        List.map_cons]

/-! ## Whole texts -/

theorem scalars_map_scalar (position : ℕ) (t : Text) :
    scalars position (t.map .scalar) = .ok t := by
  induction t generalizing position with
  | nil => rfl
  | cons c t ih =>
      rw [List.map_cons, scalars, ih]
      rfl

theorem eq_map_of_scalars {position : ℕ} {ps : List Piece} {t : Text}
    (h : scalars position ps = .ok t) : ps = t.map .scalar := by
  induction ps generalizing position t with
  | nil =>
      cases h
      rfl
  | cons p ps ih =>
      cases p with
      | scalar c =>
          obtain ⟨u, hu, rfl⟩ := Outcome.map_eq_ok.mp h
          rw [ih hu, List.map_cons]
      | broken => cases h

/-- Bytes are decoded exactly when no piece of them is broken. -/
theorem decode_eq_ok_iff {bytes : Bytes} {t : Text} :
    decode bytes = .ok t ↔ pieces bytes = t.map .scalar := by
  refine ⟨eq_map_of_scalars, fun h => ?_⟩
  rw [decode, h, scalars_map_scalar]

/-- Bytes that strict decoding admits are decoded in the same way leniently. -/
theorem decodeLenient_of_decode {bytes : Bytes} {t : Text} (h : decode bytes = .ok t) :
    decodeLenient bytes = t := by
  rw [decodeLenient, decode_eq_ok_iff.mp h, List.map_map]
  exact List.map_id t

theorem decode_encode {t : Text} (ht : Json.IsScalar t) : decode (encode t) = .ok t :=
  decode_eq_ok_iff.mpr (pieces_encode ht)

theorem decodeLenient_encode {t : Text} (ht : Json.IsScalar t) : decodeLenient (encode t) = t :=
  decodeLenient_of_decode (decode_encode ht)

theorem decode_encode_of_ascii {t : Text} (hascii : ∀ c ∈ t, c.val < 0x80) :
    decode (encode t) = .ok t := by
  refine decode_encode fun c hc => ?_
  have hlt := hascii c hc
  exact CodePoint.isSurrogate_eq_false_iff.mpr (.inl (by omega))

end Polyglot.Utf8
