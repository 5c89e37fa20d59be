import Mathlib.Algebra.Group.Nat.Defs
import Polyglot.Number.Binary64

/-! # Finite doubles

A double is finite exactly when its exponent field is not all ones. Negation keeps the field away
from all ones, so that every integer that is converted to a double gives a finite one.
-/

namespace Polyglot.Binary64

open Float.Model (Format UnpackedFloat)
open Float.Model.UnpackedFloat (unpackExponent)

variable {format : Format}

theorem isFinite_unpack (bits : BitVec format.numBits) :
    (UnpackedFloat.unpack format bits).isFinite ↔ unpackExponent bits ≠ -1#_ := by
  dsimp only [UnpackedFloat.unpack]
  by_cases hones : unpackExponent bits = -1#_
  · rw [if_pos hones]
    refine iff_of_false ?_ fun hne => hne hones
    by_cases hmantissa : UnpackedFloat.unpackMantissa bits = 0#_
    · rw [if_pos hmantissa]
      exact Bool.false_ne_true
    · rw [if_neg hmantissa]
      exact Bool.false_ne_true
  · rw [if_neg hones]
    refine iff_of_true ?_ hones
    by_cases hzero : unpackExponent bits = 0#_
    · rw [if_pos hzero]
      by_cases hmantissa : UnpackedFloat.unpackMantissa bits = 0#_
      · rw [dif_pos hmantissa]
        rfl
      · rw [dif_neg hmantissa]
        rfl
    · rw [if_neg hzero]
      rfl

theorem toNat_add_one_lt {width : Nat} {field : BitVec width}
    (hfield : field ≠ -BitVec.ofNat width 1) :
    field.toNat + 1 < 2 ^ width := by
  have hlt := field.isLt
  have hne : field.toNat ≠ 2 ^ width - 1 := by
    intro heq
    apply hfield
    apply BitVec.eq_of_toNat_eq
    rw [heq, BitVec.neg_one_eq_allOnes, BitVec.toNat_allOnes]
  omega

theorem ofNat_ne_ones {width n : Nat} (hlt : n + 1 < 2 ^ width) :
    BitVec.ofNat width n ≠ -BitVec.ofNat width 1 := by
  intro heq
  have hnat := congrArg BitVec.toNat heq
  rw [BitVec.toNat_ofNat, BitVec.neg_one_eq_allOnes, BitVec.toNat_allOnes,
    Nat.mod_eq_of_lt (by omega)] at hnat
  omega

/-- A number whose biased exponent is below all ones is packed without becoming infinite. -/
theorem unpackExponent_pack_finite {sign : UnpackedFloat.Sign} {m : Nat} {e : Int} {hm : 0 < m}
    (hlt : (e + format.exponentBias + format.mantissaBitsWithoutImplicit).toNat + 1 <
      2 ^ format.exponentBits) :
    unpackExponent (UnpackedFloat.pack format (.finite sign m e hm)) ≠ -1#_ := by
  have hfits : ¬2 ^ format.exponentBits ≤
      (e + format.exponentBias + format.mantissaBitsWithoutImplicit).toNat + 1 := by omega
  rw [show UnpackedFloat.pack format (.finite sign m e hm) = _ from if_neg hfits]
  split
  next =>
    rw [UnpackedFloat.unpackExponent_packComponents]
    exact ofNat_ne_ones hlt
  next =>
    rw [UnpackedFloat.unpackExponent_packComponents]
    exact ofNat_ne_ones (by omega)

theorem unpackExponent_pack_neg {bits : BitVec format.numBits}
    (hbits : unpackExponent bits ≠ -1#_) (hwide : 1 < format.exponentBits) :
    unpackExponent (UnpackedFloat.pack format (UnpackedFloat.unpack format bits).neg) ≠
      -1#_ := by
  have hlt := toNat_add_one_lt hbits
  have hroom : 2 ^ 2 ≤ 2 ^ format.exponentBits := Nat.pow_le_pow_right (by decide) hwide
  dsimp only [UnpackedFloat.unpack]
  rw [if_neg hbits]
  by_cases hzero : unpackExponent bits = 0#_
  · rw [if_pos hzero]
    by_cases hmantissa : UnpackedFloat.unpackMantissa bits = 0#_
    · rw [dif_pos hmantissa]
      change unpackExponent (UnpackedFloat.packComponents format _ 0#_ 0#_) ≠ -1#_
      rw [UnpackedFloat.unpackExponent_packComponents]
      exact ofNat_ne_ones (n := 0) (by omega)
    · rw [dif_neg hmantissa]
      -- A subnormal number has the exponent of the least normal one.
      apply unpackExponent_pack_finite
      simp only [hzero, BitVec.toNat_ofNat, Nat.zero_mod]
      omega
  · rw [if_neg hzero]
    apply unpackExponent_pack_finite
    omega

theorem isFinite_neg {x : Float} (hx : x.isFinite) : (-x).isFinite :=
  (isFinite_unpack _).mpr (unpackExponent_pack_neg ((isFinite_unpack _).mp hx) (by decide))

theorem isFinite_of_ofNat? {n : Nat} {x : Float} (hx : ofNat? n = some x) : x.isFinite := by
  dsimp only [ofNat?] at hx
  split at hx
  next hfinite =>
    cases hx
    exact hfinite
  next => cases hx

/-- The double of an integer is finite; an integer beyond the finite doubles has none. -/
theorem isFinite_of_ofInt? {i : Int} {x : Float} (hx : ofInt? i = some x) : x.isFinite := by
  cases i with
  | ofNat n => exact isFinite_of_ofNat? hx
  | negSucc n =>
      obtain ⟨y, hy, rfl⟩ := Option.map_eq_some_iff.mp hx
      exact isFinite_neg (isFinite_of_ofNat? hy)

end Polyglot.Binary64
