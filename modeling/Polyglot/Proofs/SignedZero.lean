import Polyglot.Proofs.Positive
import Polyglot.Proofs.Ranking

/-! # The sign of zero

The two zeros are told apart by their signs alone, and no comparison tells them apart. A sum is the
negative zero only where both of its parts are, since rounding turns no sum into a zero. Therefore a
sum that starts at zero is never the negative one, and such sums are equal in order only if they are
the same double.
-/

namespace Polyglot.Binary64

open Float.Model (Format UnpackedFloat)
open Float.Model.UnpackedFloat

/-! ## Sums -/

@[simp] theorem parts_ofParts_infinity (s : Sign) : parts (ofParts (.infinity s)) = .infinity s := by
  cases s <;> rfl

theorem parts_zero_ne : parts 0 ≠ .zero .negative := by
  rw [show parts 0 = .zero .positive from rfl]
  exact nofun

/-- A number that is not below the least double is not rounded to zero. -/
theorem parts_rounded_ne_zero {x : ℚ} (hx : 2 ^ (-1074 : ℤ) ≤ x) (s s' : Sign) :
    parts (ofParts (rounded s x)) ≠ .zero s' := by
  obtain ⟨m, e, hc, -, h⟩ := exists_rounded s hx
  rw [h]
  by_cases he : e ≤ 971
  · rw [parts_ofParts hc he]
    simp
  · rw [ofParts_of_large hc.pos (not_le.mp he)]
    simp

/-- A sum of finite parts is the positive zero where they cancel, and no zero elsewhere. -/
theorem parts_normalize_ne {e : ℤ} (he : -1074 ≤ e) (n : ℤ) :
    parts (ofParts (UnpackedFloat.normalize Format.binary64 n e .positive)) ≠ .zero .negative := by
  rcases lt_trichotomy n 0 with hneg | rfl | hpos
  · have hmagnitude : 0 < (-n).toNat := by omega
    have hnormalize : UnpackedFloat.normalize Format.binary64 n e .positive =
        UnpackedFloat.round Format.binary64 .negative (-n).toNat e := by
      rw [UnpackedFloat.normalize, Int.compare_eq_lt.mpr hneg]
    rw [hnormalize, round_eq hmagnitude]
    exact parts_rounded_ne_zero (least_le_mul_zpow hmagnitude he) _ _
  · have hzero : parts (ofParts (.zero .positive)) = .zero .positive := rfl
    rw [show UnpackedFloat.normalize Format.binary64 0 e .positive = .zero .positive from rfl, hzero]
    simp
  · obtain ⟨m, rfl⟩ := Int.eq_ofNat_of_zero_le hpos.le
    have hm : 0 < m := by omega
    rw [normalize_natCast hm]
    exact parts_rounded_ne_zero (least_le_mul_zpow hm he) _ _

/-- A sum is the negative zero only if its first part is. -/
theorem parts_add_ne {x : Float} (hx : parts x ≠ .zero .negative) (y : Float) :
    parts (x + y) ≠ .zero .negative := by
  change parts (ofParts (UnpackedFloat.add Format.binary64 (parts x) (parts y))) ≠ _
  have hnan : parts (ofParts .notANumber) ≠ .zero .negative := by
    rw [show parts (ofParts .notANumber) = .notANumber from rfl]
    exact nofun
  have hinfinity : ∀ s, parts (ofParts (.infinity s)) ≠ .zero .negative := by simp
  have hpositive : parts (ofParts (.zero .positive)) ≠ .zero .negative := parts_zero_ne
  -- By the kinds of the two parts; only where both are zeros, or both finite, a zero can come out.
  cases hxparts : parts x with
  | notANumber => exact hnan
  | infinity s =>
      cases parts y with
      | infinity s' => cases s <;> cases s' <;> first | exact hnan | exact hinfinity _
      | notANumber => exact hnan
      | _ => exact hinfinity s
  | zero s =>
      obtain rfl : s = .positive := by
        cases s with
        | negative => exact absurd hxparts hx
        | positive => rfl
      cases hyparts : parts y with
      | zero s' => cases s' <;> exact hpositive
      | notANumber => exact hnan
      | infinity s' => exact hinfinity s'
      | finite s' m' e' hm' =>
          change parts (ofParts (.finite s' m' e' hm')) ≠ _
          rw [← hyparts, ofParts_parts, hyparts]
          exact nofun
  | finite s m e hm =>
      cases hyparts : parts y with
      | notANumber => exact hnan
      | infinity s' => exact hinfinity s'
      | zero s' =>
          change parts (ofParts (.finite s m e hm)) ≠ _
          rwa [← hxparts, ofParts_parts]
      | finite s' m' e' hm' =>
          exact parts_normalize_ne (le_min (le_exponent_of_parts hxparts)
            (le_exponent_of_parts hyparts)) _

/-! ## Equal ranks -/

/-- Ranks tell all parts of numbers apart but the two zeros. -/
theorem eq_of_partsRank_eq {u v : UnpackedFloat} (hu : u.isNaN = false) (hv : v.isNaN = false)
    (hu' : u ≠ .zero .negative) (hv' : v ≠ .zero .negative) (h : partsRank u = partsRank v) :
    u = v := by
  rcases u with (_ | _) | _ | (_ | _) | ⟨_ | _, m, e, _⟩ <;>
    rcases v with (_ | _) | _ | (_ | _) | ⟨_ | _, n, f, _⟩ <;>
    simp_all [UnpackedFloat.isNaN, partsRank]

/-- Two doubles that are numbers and not the negative zero are the same if neither is greater. -/
theorem eq_of_le_of_ge {x y : Float} (hx : x.isNaN = false) (hy : y.isNaN = false)
    (hx' : parts x ≠ .zero .negative) (hy' : parts y ≠ .zero .negative) (hle : x ≤ y)
    (hge : y ≤ x) : x = y := by
  have hrank : rank x = rank y :=
    le_antisymm ((le_iff_rank hx hy).mp hle) ((le_iff_rank hy hx).mp hge)
  have hparts : parts x = parts y := eq_of_partsRank_eq hx hy hx' hy' hrank
  rw [← ofParts_parts x, hparts, ofParts_parts]

end Polyglot.Binary64
