import Mathlib
import Polyglot.Proofs.Binary64

/-! # The bits of a double

A double is packed into its bits and unpacked from them without loss: what its bits name packs to
the same bits, and a form that fits unpacks to itself. The parts of a finite double are its sign,
its mantissa and its exponent.
-/

namespace Polyglot.Binary64

open Float.Model (Format UnpackedFloat)
open Float.Model.UnpackedFloat

/-- Holds of a mantissa and an exponent that are the form of a double, unless the exponent is too
great: the mantissa has all its bits, or else the exponent is the least one. -/
structure Canonical (m : ℕ) (e : ℤ) : Prop where
  pos : 0 < m
  lt : m < 2 ^ 53
  le : -1074 ≤ e
  normal : 2 ^ 52 ≤ m ∨ e = -1074

/-- A double as the parts that its bits name. -/
abbrev parts (x : Float) : UnpackedFloat := x.toModel.unpack

/-- The double of some parts. -/
abbrev ofParts (u : UnpackedFloat) : Float := .ofModel (.pack u)

theorem toNat_append_one {n : ℕ} (b : BitVec n) : (1#1 ++ b).toNat = 2 ^ n + b.toNat := by
  rw [BitVec.toNat_append, ← Nat.shiftLeft_add_eq_or_of_lt b.isLt, Nat.shiftLeft_eq]
  simp

/-- Unpacking loses nothing. -/
theorem ofParts_parts (x : Float) : ofParts (parts x) = x := by
  obtain ⟨⟨bits, hvalid⟩⟩ := x
  have hbits := pack_unpack_of_valid hvalid
  simp only [parts, ofParts, Float.Model.pack, Float.Model.unpack, hbits]

theorem toNat_ofNat_of_lt {width n : ℕ} (h : n < 2 ^ width) :
    (BitVec.ofNat width n).toNat = n := by
  rw [BitVec.toNat_ofNat, Nat.mod_eq_of_lt h]

theorem ofNat_ne_zero {width n : ℕ} (h : n < 2 ^ width) (hpos : 0 < n) :
    BitVec.ofNat width n ≠ 0#_ := by
  intro heq
  have hnat := congrArg BitVec.toNat heq
  rw [toNat_ofNat_of_lt h, BitVec.toNat_ofNat, Nat.zero_mod] at hnat
  omega

/-- Packing loses nothing of a form that fits. -/
theorem parts_ofParts {s : Sign} {m : ℕ} {e : ℤ} (hc : Canonical m e) (he : e ≤ 971) :
    parts (ofParts (.finite s m e hc.pos)) = .finite s m e hc.pos := by
  change UnpackedFloat.unpack Format.binary64
    (UnpackedFloat.pack Format.binary64 (.finite s m e hc.pos)) = _
  obtain ⟨hpos, hlt, hle, hnormal⟩ := hc
  by_cases hfull : 2 ^ 52 ≤ m
  · -- A normal number: its highest bit is left out, and its exponent field is not zero.
    obtain ⟨k, hk⟩ := Int.eq_ofNat_of_zero_le (show 0 ≤ e + 1075 by omega)
    have hbiased : (e + Format.binary64.exponentBias +
        Format.binary64.mantissaBitsWithoutImplicit).toNat = k := by
      change (e + 1023 + 52).toNat = k
      omega
    have hlog : m.log2 = 52 := (Nat.log2_eq_iff hpos.ne').mpr ⟨hfull, hlt⟩
    have hones : BitVec.ofNat 11 k ≠ -1#_ := ofNat_ne_ones (by omega)
    have hzero : BitVec.ofNat 11 k ≠ 0#_ := ofNat_ne_zero (by omega) (by omega)
    have hmantissa : (1#1 ++ BitVec.ofNat 52 m).toNat = m := by
      rw [toNat_append_one, BitVec.toNat_ofNat]
      omega
    have hexponent : (((BitVec.ofNat 11 k).toNat : ℤ) - (Format.binary64.exponentBias +
        Format.binary64.mantissaBitsWithoutImplicit)) = e := by
      rw [toNat_ofNat_of_lt (by omega)]
      change (k : ℤ) - (1023 + 52) = e
      omega
    rw [UnpackedFloat.pack, hbiased, if_neg (by change ¬(2048 ≤ k + 1); omega),
      if_pos (by rw [hlog]; rfl)]
    dsimp only [UnpackedFloat.unpack]
    simp only [unpackExponent_packComponents, unpackMantissa_packComponents,
      unpackSign_packComponents, Sign.ofBitVec_toBitVec, hones, hzero, if_false, hmantissa,
      hexponent]
  · -- A subnormal number: the exponent field is zero, and all bits are there.
    obtain rfl : e = -1074 := hnormal.resolve_left hfull
    have hlog : m.log2 < 52 := (Nat.log2_lt hpos.ne').mpr (by omega)
    have hmantissa : (BitVec.ofNat 52 m).toNat = m := toNat_ofNat_of_lt (by omega)
    have hne : BitVec.ofNat 52 m ≠ 0#_ := ofNat_ne_zero (by omega) hpos
    rw [UnpackedFloat.pack, if_neg (by decide), if_neg (by change ¬(_ + 1 = 53); omega)]
    dsimp only [UnpackedFloat.unpack]
    simp only [unpackExponent_packComponents, unpackMantissa_packComponents,
      unpackSign_packComponents, Sign.ofBitVec_toBitVec, hne, hmantissa]
    rfl

/-- A form with an exponent that is too great for a double is packed as infinity. -/
theorem ofParts_of_large {s : Sign} {m : ℕ} {e : ℤ} (hm : 0 < m) (he : 971 < e) :
    ofParts (.finite s m e hm) = ofParts (.infinity s) := by
  have hpacked : UnpackedFloat.pack Format.binary64 (.finite s m e hm) =
      UnpackedFloat.packedInfinity Format.binary64 s := by
    rw [UnpackedFloat.pack, if_pos]
    change 2048 ≤ (e + 1023 + 52).toNat + 1
    omega
  simp only [ofParts, Float.Model.pack, hpacked]
  rfl

/-- The bits of a double, as the fields of its format. -/
abbrev bits (x : Float) : BitVec Format.binary64.numBits := x.toBits.toBitVec

theorem exponentField_eq (x : Float) : exponentField x = (unpackExponent (bits x)).toNat := by
  have hbits : (bits x).toNat = x.toBits.toNat := rfl
  rw [exponentField, unpackExponent, BitVec.toNat_cast, BitVec.extractLsb_toNat, UInt64.toNat_and,
    UInt64.toNat_shiftRight, hbits]
  exact Nat.and_two_pow_sub_one_eq_mod _ 11

theorem fractionField_eq (x : Float) : fractionField x = (unpackMantissa (bits x)).toNat := by
  have hbits : (bits x).toNat = x.toBits.toNat := rfl
  rw [fractionField, unpackMantissa, BitVec.toNat_cast, BitVec.extractLsb_toNat, UInt64.toNat_and,
    hbits]
  exact Nat.and_two_pow_sub_one_eq_mod _ 52

/-- The sign of a double, which zero has too. -/
def signOf (x : Float) : Sign := if isNegative x then .negative else .positive

theorem signOf_eq (x : Float) : signOf x = Sign.ofBitVec (unpackSign (bits x)) := by
  have hbits : (bits x).toNat = x.toBits.toNat := rfl
  have hlt := x.toBits.toNat_lt
  have hsign : (unpackSign (bits x)).toNat = x.toBits.toNat >>> 63 := by
    rw [unpackSign, BitVec.toNat_cast, BitVec.extractLsb_toNat, hbits]
    apply Nat.mod_eq_of_lt
    rw [Nat.shiftRight_eq_div_pow]
    change x.toBits.toNat / 2 ^ 63 < 2 ^ 1
    omega
  have hnegative : (isNegative x : Prop) ↔ x.toBits.toNat >>> 63 = 1 := by
    rw [isNegative, beq_iff_eq, ← UInt64.toNat_inj, UInt64.toNat_shiftRight]
    rfl
  have hpositive : (unpackSign (bits x) = 0#1) ↔ ¬isNegative x := by
    rw [hnegative, ← BitVec.toNat_inj, hsign, Nat.shiftRight_eq_div_pow, BitVec.toNat_ofNat]
    omega
  simp only [signOf, Sign.ofBitVec, hpositive, ite_not]

/-- The parts of a finite double are its sign, its mantissa and its exponent. -/
theorem parts_of_isFinite {x : Float} (hx : x.isFinite) :
    parts x = if hm : mantissa x = 0 then .zero (signOf x)
      else .finite (signOf x) (mantissa x) (exponent x) (Nat.pos_of_ne_zero hm) := by
  have hones : unpackExponent (bits x) ≠ -1#_ := (isFinite_unpack _).mp hx
  change UnpackedFloat.unpack Format.binary64 (bits x) = _
  have hsum : (1#1 ++ unpackMantissa (bits x)).toNat = 2 ^ 52 + fractionField x := by
    rw [toNat_append_one, fractionField_eq]
  dsimp only [UnpackedFloat.unpack]
  rw [if_neg hones]
  by_cases hzero : unpackExponent (bits x) = 0#_
  · have hfield : exponentField x = 0 := by
      rw [exponentField_eq, hzero]
      rfl
    rw [if_pos hzero]
    by_cases hmantissa : unpackMantissa (bits x) = 0#_
    · have hm : mantissa x = 0 := by
        rw [mantissa, if_pos hfield, fractionField_eq, hmantissa]
        rfl
      rw [dif_pos hmantissa, dif_pos hm, signOf_eq]
    · have hm : mantissa x = (unpackMantissa (bits x)).toNat := by
        rw [mantissa, if_pos hfield, fractionField_eq]
      have hne : mantissa x ≠ 0 := by
        rw [hm]
        exact fun h => hmantissa (BitVec.eq_of_toNat_eq h)
      have he : exponent x = -1074 := if_pos hfield
      rw [dif_neg hmantissa, dif_neg hne, signOf_eq]
      simp only [hm, he, hzero]
      rfl
  · have hfield : exponentField x ≠ 0 := by
      rw [exponentField_eq]
      exact fun h => hzero (BitVec.eq_of_toNat_eq h)
    have hm : mantissa x = 2 ^ 52 + fractionField x := if_neg hfield
    have he : exponent x = (exponentField x : ℤ) - 1075 := if_neg hfield
    rw [if_neg hzero, dif_neg (by omega), signOf_eq]
    simp only [hsum, hm, he, exponentField_eq]
    rfl

theorem canonical_of_isFinite {x : Float} (hx : x.isFinite) (hm : mantissa x ≠ 0) :
    Canonical (mantissa x) (exponent x) ∧ exponent x ≤ 971 := by
  have hones := toNat_add_one_lt ((isFinite_unpack _).mp hx)
  have hexponent : exponentField x + 1 < 2048 := by
    rw [exponentField_eq]
    exact hones
  have hfraction : fractionField x < 2 ^ 52 := by
    rw [fractionField_eq]
    exact (unpackMantissa (bits x)).isLt
  by_cases hfield : exponentField x = 0
  · have hmantissa : mantissa x = fractionField x := if_pos hfield
    have he : exponent x = -1074 := if_pos hfield
    exact ⟨⟨Nat.pos_of_ne_zero hm, by omega, by omega, .inr he⟩, by omega⟩
  · have hmantissa : mantissa x = 2 ^ 52 + fractionField x := if_neg hfield
    have he : exponent x = (exponentField x : ℤ) - 1075 := if_neg hfield
    exact ⟨⟨by omega, by omega, by omega, .inl (by omega)⟩, by omega⟩

section Sign

variable {x : Float}

theorem parts_abs (hx : x.isFinite) (hm : mantissa x ≠ 0) :
    parts x.abs = .finite .positive (mantissa x) (exponent x) (Nat.pos_of_ne_zero hm) := by
  obtain ⟨hcanonical, he⟩ := canonical_of_isFinite hx hm
  have hparts := parts_of_isFinite hx
  rw [dif_neg hm] at hparts
  change parts (ofParts (UnpackedFloat.abs (parts x))) = _
  rw [hparts]
  exact parts_ofParts hcanonical he

/-- The magnitude of a double that is not zero is a positive double. -/
theorem abs_positive (hx : x.isFinite) (hm : mantissa x ≠ 0) :
    x.abs.isFinite ∧ mantissa x.abs ≠ 0 ∧ isNegative x.abs = false := by
  have hparts := parts_abs hx hm
  have hfinite : x.abs.isFinite := by
    change (parts x.abs).isFinite = true
    rw [hparts]
    rfl
  rw [parts_of_isFinite hfinite] at hparts
  split at hparts
  next => cases hparts
  next hne =>
    injection hparts with hsign
    refine ⟨hfinite, hne, ?_⟩
    rw [signOf] at hsign
    split at hsign
    next => cases hsign
    next hpositive => exact Bool.not_eq_true _ ▸ hpositive

theorem neg_abs (hx : x.isFinite) (hm : mantissa x ≠ 0) (hsign : isNegative x) : -x.abs = x := by
  have hparts := parts_of_isFinite hx
  rw [dif_neg hm, signOf, if_pos hsign] at hparts
  change ofParts (UnpackedFloat.neg (parts x.abs)) = x
  rw [parts_abs hx hm]
  exact (congrArg ofParts hparts.symm).trans (ofParts_parts x)

theorem abs_eq_self (hx : x.isFinite) (hm : mantissa x ≠ 0) (hsign : isNegative x = false) :
    x.abs = x := by
  have hparts := parts_of_isFinite hx
  rw [dif_neg hm, signOf, hsign, if_neg (by decide)] at hparts
  rw [← ofParts_parts x.abs, parts_abs hx hm, ← hparts, ofParts_parts]

end Sign

end Polyglot.Binary64
