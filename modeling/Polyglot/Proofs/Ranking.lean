import Mathlib.Data.Prod.Lex
import Polyglot.Proofs.Packing

/-! # The order of doubles

Every double that is a number has a rank in a linear order, infinities included, and comparing
doubles compares their ranks. A sum with a finite double is a number again: only two infinities
could cancel, and rounding ends in an infinity at worst.
-/

namespace Polyglot.Binary64

open Float.Model (Format UnpackedFloat)
open Float.Model.UnpackedFloat

/-- The rank of some parts: the sign and the kind first, then the exponent, then the mantissa. -/
def partsRank : UnpackedFloat → ℤ ×ₗ ℤ ×ₗ ℤ
  | .infinity .negative => toLex (-2, toLex (0, 0))
  | .finite .negative m e _ => toLex (-1, toLex (-e, -m))
  | .zero _ | .notANumber => toLex (0, toLex (0, 0))
  | .finite .positive m e _ => toLex (1, toLex (e, m))
  | .infinity .positive => toLex (2, toLex (0, 0))

/-- The rank of a double; the one that is no number has the rank of zero. -/
def rank (x : Float) : ℤ ×ₗ ℤ ×ₗ ℤ := partsRank (parts x)

section Parts

variable {u v : UnpackedFloat}

theorem compare_partsRank (hu : u.isNaN = false) (hv : v.isNaN = false) :
    u.compare v ≠ none ∧ (u.compare v = some .lt ↔ partsRank u < partsRank v) ∧
      (u.compare v = some .gt ↔ partsRank v < partsRank u) := by
  -- Parts of two kinds are told apart by the first component, so two infinities and two finite
  -- numbers of one sign are left.
  rcases u with (_ | _) | _ | _ | ⟨_ | _, m, e, _⟩ <;>
    rcases v with (_ | _) | _ | _ | ⟨_ | _, n, f, _⟩ <;>
    simp [UnpackedFloat.isNaN, UnpackedFloat.compare, partsRank, Prod.Lex.lt_iff,
      Ordering.then_eq_lt, Ordering.then_eq_gt, compare_lt_iff_lt, compare_gt_iff_gt] at hu hv ⊢
  case infinity.negative.infinity.positive => rfl
  case infinity.positive.infinity.negative => rfl
  case finite.negative.finite.negative => rw [eq_comm]
  case finite.positive.finite.positive => rw [eq_comm]

theorem lt_iff_partsRank (hu : u.isNaN = false) (hv : v.isNaN = false) :
    u.lt v = true ↔ partsRank u < partsRank v := by
  rw [UnpackedFloat.lt, beq_iff_eq, (compare_partsRank hu hv).2.1]

theorem le_iff_partsRank (hu : u.isNaN = false) (hv : v.isNaN = false) :
    u.le v = true ↔ partsRank u ≤ partsRank v := by
  obtain ⟨hsome, -, hgt⟩ := compare_partsRank hu hv
  rw [UnpackedFloat.le, ← not_lt, ← hgt]
  rcases hcompare : u.compare v with _ | _ | _ | _
  · exact absurd hcompare hsome
  all_goals simp

theorem isNaN_eq_false_of_lt (h : u.lt v = true) : u.isNaN = false ∧ v.isNaN = false := by
  cases u <;> cases v <;> simp_all [UnpackedFloat.lt, UnpackedFloat.compare, UnpackedFloat.isNaN]

theorem isNaN_eq_false_of_isFinite (hu : u.isFinite = true) : u.isNaN = false := by
  cases u <;> simp_all [UnpackedFloat.isFinite, UnpackedFloat.isNaN]

theorem isNaN_normalize (m e : ℤ) (s : Sign) :
    (UnpackedFloat.normalize Format.binary64 m e s).isNaN = false := by
  unfold UnpackedFloat.normalize UnpackedFloat.round roundWithAccuracy
  split
  next => dsimp only; split <;> rfl
  next => rfl
  next => dsimp only; split <;> rfl

/-- What is a number stays one when it is packed; too great an exponent gives an infinity. -/
theorem isNaN_unpack_pack (hu : u.isNaN = false) :
    (UnpackedFloat.unpack Format.binary64 (UnpackedFloat.pack Format.binary64 u)).isNaN =
      false := by
  have hinfinity (s : Sign) : (UnpackedFloat.unpack Format.binary64
      (packedInfinity Format.binary64 s)).isNaN = false := by
    simp only [packedInfinity, UnpackedFloat.unpack, unpackExponent_packComponents,
      unpackMantissa_packComponents, if_true]
    rfl
  cases u with
  | notANumber => cases hu
  | infinity s => exact hinfinity s
  | zero s =>
      apply isNaN_eq_false_of_isFinite
      rw [isFinite_unpack, UnpackedFloat.pack, packedZero, unpackExponent_packComponents]
      decide
  | finite s m e hm =>
      by_cases hlarge : 2 ^ Format.binary64.exponentBits ≤ (e + Format.binary64.exponentBias +
          Format.binary64.mantissaBitsWithoutImplicit).toNat + 1
      · rw [show UnpackedFloat.pack Format.binary64 (.finite s m e hm) = _ from if_pos hlarge]
        exact hinfinity s
      · apply isNaN_eq_false_of_isFinite
        rw [isFinite_unpack]
        exact unpackExponent_pack_finite (not_le.mp hlarge)

theorem isNaN_parts_add (hu : u.isNaN = false) (hv : v.isFinite = true) :
    (UnpackedFloat.add Format.binary64 u v).isNaN = false := by
  cases u with
  | notANumber => cases hu
  | infinity s => cases v <;> first | rfl | cases hv
  | zero s =>
      cases v with
      | zero s' => rw [UnpackedFloat.add]; split <;> rfl
      | finite => rfl
      | _ => cases hv
  | finite s m e hm =>
      cases v with
      | zero => rfl
      | finite => exact isNaN_normalize _ _ _
      | _ => cases hv

end Parts

section Doubles

variable {x y : Float}

theorem lt_iff_rank (hx : x.isNaN = false) (hy : y.isNaN = false) : x < y ↔ rank x < rank y :=
  decide_eq_true_iff.trans (lt_iff_partsRank hx hy)

theorem le_iff_rank (hx : x.isNaN = false) (hy : y.isNaN = false) : x ≤ y ↔ rank x ≤ rank y :=
  decide_eq_true_iff.trans (le_iff_partsRank hx hy)

/-- What is greater than a double is a number. -/
theorem isNaN_of_lt (h : x < y) : y.isNaN = false :=
  (isNaN_eq_false_of_lt (decide_eq_true_iff.mp h)).2

/-- What is less than a double is a number. -/
theorem isNaN_of_gt (h : x < y) : x.isNaN = false :=
  (isNaN_eq_false_of_lt (decide_eq_true_iff.mp h)).1

/-- A number stays one when a finite double is added, however far the sum goes. -/
theorem isNaN_add (hx : x.isNaN = false) (hy : y.isFinite) : (x + y).isNaN = false :=
  isNaN_unpack_pack (isNaN_parts_add hx hy)

end Doubles

end Polyglot.Binary64
