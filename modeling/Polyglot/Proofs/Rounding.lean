import Mathlib
import Polyglot.Proofs.Binary64

/-! # Rounding to a double

A mantissa with two more bits stands for any number that lies above it by less than one: one bit is
the next digit, the other tells whether anything follows. Shifting keeps what it stands for, so that
rounding the mantissa in the end rounds the number itself, to the even mantissa in a tie.
-/

namespace Polyglot.Binary64

open Float.Model (Format UnpackedFloat totalExponent)
open Float.Model.UnpackedFloat

/-- The natural number nearest to a number that is not negative, a tie going to the even one. -/
def nearest (x : ℚ) : ℕ :=
  if x < ⌊x⌋₊ + 1 / 2 then ⌊x⌋₊
  else if x = ⌊x⌋₊ + 1 / 2 then ⌊x⌋₊ + ⌊x⌋₊ % 2
  else ⌊x⌋₊ + 1

/-- Holds when a mantissa with its round bit and its sticky bit stands for a number. -/
inductive Shows : ExtendedMantissa → ℚ → Prop where
  | exact (m : ℕ) : Shows ⟨m, false, false⟩ m
  | below {m : ℕ} {x : ℚ} (hlow : m < x) (hhigh : x < m + 1 / 2) : Shows ⟨m, false, true⟩ x
  | half (m : ℕ) : Shows ⟨m, true, false⟩ (m + 1 / 2)
  | above {m : ℕ} {x : ℚ} (hlow : m + 1 / 2 < x) (hhigh : x < m + 1) : Shows ⟨m, true, true⟩ x

theorem nearest_natCast (m : ℕ) : nearest m = m := by
  simp [nearest]

namespace Shows

variable {em : ExtendedMantissa} {x : ℚ}

theorem bounds (h : Shows em x) : (em.mantissa : ℚ) ≤ x ∧ x < em.mantissa + 1 := by
  cases h with
  | exact m => simp
  | below hlow hhigh => exact ⟨hlow.le, by linarith⟩
  | half m => constructor <;> norm_num
  | above hlow hhigh => exact ⟨by linarith, hhigh⟩

theorem floor_eq (h : Shows em x) : ⌊x⌋₊ = em.mantissa :=
  (Nat.floor_eq_iff (le_trans (Nat.cast_nonneg _) h.bounds.1)).mpr h.bounds

theorem roundedMantissa_eq (h : Shows em x) : em.roundedMantissa = nearest x := by
  rw [nearest, h.floor_eq]
  cases h with
  | exact m => simp [ExtendedMantissa.roundedMantissa, ExtendedMantissa.accuracy,
      Accuracy.roundToNearestEven]
  | below hlow hhigh =>
      rw [if_pos hhigh]
      rfl
  | half m =>
      rw [if_neg (lt_irrefl _), if_pos rfl]
      rfl
  | above hlow hhigh =>
      rw [if_neg hlow.not_gt, if_neg hlow.ne']
      rfl

theorem shiftRightOne (h : Shows em x) : Shows em.shiftRightOne (x / 2) := by
  have hsplit (m : ℕ) : (m : ℚ) = 2 * (m / 2 : ℕ) + (m % 2 : ℕ) := by
    exact_mod_cast (Nat.div_add_mod m 2).symm
  -- The bit that is shifted out is the new round bit, and both old bits go into the sticky one.
  rcases Nat.mod_two_eq_zero_or_one em.mantissa with hparity | hparity
  · have hhalf := hsplit em.mantissa
    rw [hparity, Nat.cast_zero, add_zero] at hhalf
    unfold ExtendedMantissa.shiftRightOne
    rw [hparity]
    cases h with
    | exact m =>
        dsimp only at hhalf
        rw [hhalf, mul_div_cancel_left₀ _ two_ne_zero]
        exact .exact _
    | below hlow hhigh => exact .below (by linarith) (by linarith)
    | half m => exact .below (by linarith) (by linarith)
    | above hlow hhigh => exact .below (by linarith) (by linarith)
  · have hhalf := hsplit em.mantissa
    rw [hparity, Nat.cast_one] at hhalf
    unfold ExtendedMantissa.shiftRightOne
    rw [hparity]
    cases h with
    | exact m =>
        dsimp only at hhalf
        rw [hhalf, add_div, mul_div_cancel_left₀ _ two_ne_zero]
        exact .half _
    | below hlow hhigh => exact .above (by linarith) (by linarith)
    | half m => exact .above (by linarith) (by linarith)
    | above hlow hhigh => exact .above (by linarith) (by linarith)

theorem shiftRight (h : Shows em x) (n : ℕ) : Shows (em >>> n) (x / 2 ^ n) := by
  change Shows (n.repeat ExtendedMantissa.shiftRightOne em) _
  induction n with
  | zero => simpa [Nat.repeat] using h
  | succ n ih =>
      rw [Nat.repeat, pow_succ, div_mul_eq_div_div]
      exact ih.shiftRightOne

end Shows

/-- The exponent of the unit in which a positive number is rounded. -/
def unitExponent (x : ℚ) : ℤ := max (Int.log 2 x - 52) (-1074)

theorem targetExponent_binary64 (total : ℤ) :
    Format.binary64.targetExponent total = max (total - 53) (-1074) := rfl

theorem neg_1074_le_unitExponent (x : ℚ) : -1074 ≤ unitExponent x := le_max_right _ _

theorem div_unit_lt {x : ℚ} : x / 2 ^ unitExponent x < 2 ^ 53 := by
  rw [div_lt_iff₀ (by positivity), ← zpow_natCast, ← zpow_add₀ two_ne_zero]
  refine (Int.lt_zpow_succ_log_self one_lt_two x).trans_le ?_
  have hlog : Int.log 2 x - 52 ≤ unitExponent x := le_max_left _ _
  exact zpow_le_zpow_right₀ one_le_two (by push_cast; omega)

/-- In the unit in which it is rounded a number has all bits, unless this is the least unit. -/
theorem le_div_unit {x : ℚ} (hx : 0 < x) (hexp : unitExponent x = Int.log 2 x - 52) :
    2 ^ 52 ≤ x / 2 ^ unitExponent x := by
  rw [le_div_iff₀ (by positivity), ← zpow_natCast, ← zpow_add₀ two_ne_zero, hexp]
  have hself := Int.zpow_log_le_self (b := 2) one_lt_two hx
  push_cast at hself ⊢
  convert hself using 2
  omega

theorem floor_le_nearest (x : ℚ) : ⌊x⌋₊ ≤ nearest x := by
  unfold nearest
  split_ifs <;> omega

theorem nearest_le {x : ℚ} {n : ℕ} (hx : 0 ≤ x) (h : x ≤ n) : nearest x ≤ n := by
  rcases h.lt_or_eq with hlt | rfl
  · have hfloor := (Nat.floor_lt hx).mpr hlt
    unfold nearest
    split_ifs <;> omega
  · rw [nearest_natCast]

/-- A number is taken for the nearest mantissa as long as it is less than half a unit away. -/
theorem nearest_eq {x : ℚ} {n : ℕ} (h : |x - n| < 1 / 2) : nearest x = n := by
  obtain ⟨hlow, hhigh⟩ := abs_lt.mp h
  rcases le_or_gt (n : ℚ) x with hle | hlt
  · have hfloor : ⌊x⌋₊ = n := Nat.floor_eq_on_Ico n x ⟨hle, by linarith⟩
    rw [nearest, hfloor, if_pos (by linarith)]
  · cases n with
    | zero =>
        rw [Nat.cast_zero] at hlt
        rw [nearest, Nat.floor_of_nonpos hlt.le, if_pos (by push_cast; linarith)]
    | succ n =>
        push_cast at hlow hlt
        have hfloor : ⌊x⌋₊ = n := Nat.floor_eq_on_Ico n x ⟨by linarith, hlt⟩
        have hmore : n + 1 / 2 < x := by linarith
        rw [nearest, hfloor, if_neg hmore.not_gt, if_neg hmore.ne']

/-- The number with a mantissa and an exponent; a mantissa of one bit too many is halved. -/
def carried (s : Sign) (m : ℕ) (e : ℤ) : UnpackedFloat :=
  if h : m = 0 then .zero s
  else if m < 2 ^ 53 then .finite s m e (Nat.pos_of_ne_zero h)
  else .finite s (2 ^ 52) (e + 1) (by decide)

/-- A positive number rounded to a double, to the even mantissa in a tie. -/
def rounded (s : Sign) (x : ℚ) : UnpackedFloat :=
  carried s (nearest (x / 2 ^ unitExponent x)) (unitExponent x)

theorem shiftToTargetExponent_eq_self {m : ℕ} {e : ℤ} (hm : m < 2 ^ 53) (he : -1074 ≤ e) :
    shiftToTargetExponent Format.binary64 m e .exact = (⟨m, false, false⟩, e) := by
  have hlog : m.log2 ≤ 52 := by
    rcases Nat.eq_zero_or_pos m with rfl | hpos
    · simp
    · exact Nat.le_of_lt_succ ((Nat.log2_lt hpos.ne').mpr hm)
  have hshift : (Format.binary64.targetExponent (totalExponent m e) - e).toNat = 0 := by
    rw [targetExponent_binary64, totalExponent]
    omega
  simp [shiftToTargetExponent, shiftToExponent, hshift, HShiftRight.hShiftRight, Nat.repeat,
    ExtendedMantissa.ofMantissaAndAccuracy]

theorem shiftToTargetExponent_carry {e : ℤ} (he : -1074 ≤ e) :
    shiftToTargetExponent Format.binary64 (2 ^ 53) e .exact = (⟨2 ^ 52, false, false⟩, e + 1) := by
  have hshift : (Format.binary64.targetExponent (totalExponent (2 ^ 53) e) - e).toNat = 1 := by
    rw [targetExponent_binary64, totalExponent, Nat.log2_two_pow]
    push_cast
    omega
  rw [shiftToTargetExponent, shiftToExponent, hshift]
  rfl

section Log

variable {m k : ℕ} {e : ℤ} {x : ℚ}

theorem le_log {n : ℤ} (hx : 0 < x) (h : 2 ^ n ≤ x) : n ≤ Int.log 2 x :=
  (Int.zpow_le_iff_le_log one_lt_two hx).mp (by exact_mod_cast h)

theorem log_lt {n : ℤ} (hx : 0 < x) (h : x < 2 ^ n) : Int.log 2 x < n :=
  (Int.lt_zpow_iff_log_lt one_lt_two hx).mp (by exact_mod_cast h)

theorem le_log_of_div (hx : 0 < x) (h : 2 ^ k ≤ x / 2 ^ e) : k + e ≤ Int.log 2 x := by
  rw [le_div_iff₀ (by positivity), ← zpow_natCast, ← zpow_add₀ two_ne_zero] at h
  exact le_log hx h

theorem log_lt_of_div (hx : 0 < x) (h : x / 2 ^ e < 2 ^ k) : Int.log 2 x < k + e := by
  rw [div_lt_iff₀ (by positivity), ← zpow_natCast, ← zpow_add₀ two_ne_zero] at h
  exact log_lt hx h

/-- A number has the bits of the mantissa that it lies above by less than one. -/
theorem log_eq (hx : 0 < x) (hm : 0 < m) (hlow : m ≤ x / 2 ^ e) (hhigh : x / 2 ^ e < m + 1) :
    Int.log 2 x = m.log2 + e := by
  have hself : (2 : ℚ) ^ m.log2 ≤ m := by exact_mod_cast Nat.log2_self_le hm.ne'
  have hsucc : (m : ℚ) + 1 ≤ 2 ^ (m.log2 + 1) := by exact_mod_cast Nat.lt_log2_self (n := m)
  have hlt := log_lt_of_div hx (hhigh.trans_le hsucc)
  have hle := le_log_of_div hx (hself.trans hlow)
  omega

/-- Where a mantissa stands for a number, the exponent it is shifted to is that of the unit. -/
theorem targetExponent_eq_unitExponent (hx : 0 < x) (hlow : m ≤ x / 2 ^ e)
    (hhigh : x / 2 ^ e < m + 1) (he : e ≤ unitExponent x) :
    Format.binary64.targetExponent (totalExponent m e) = unitExponent x := by
  rw [targetExponent_binary64, totalExponent]
  rcases Nat.eq_zero_or_pos m with rfl | hpos
  · -- A number below the unit is rounded in the least unit of all.
    rw [Nat.cast_zero, zero_add] at hhigh
    have hlog := log_lt_of_div (k := 0) hx hhigh
    rw [Nat.log2_zero]
    unfold unitExponent at he ⊢
    omega
  · rw [unitExponent, log_eq hx hpos hlow hhigh]
    omega

end Log

/-- Rounding a mantissa that stands for a number in small enough a unit rounds the number. -/
theorem roundWithAccuracy_eq {s : Sign} {m : ℕ} {e : ℤ} {accuracy : Accuracy} {x : ℚ} (hx : 0 < x)
    (hshows : Shows (ExtendedMantissa.ofMantissaAndAccuracy m accuracy) (x / 2 ^ e))
    (he : e ≤ unitExponent x) :
    roundWithAccuracy Format.binary64 s m e accuracy = rounded s x := by
  have hmantissa : (ExtendedMantissa.ofMantissaAndAccuracy m accuracy).mantissa = m := by
    rcases accuracy with _ | _ | _ | _ <;> rfl
  obtain ⟨hlow, hhigh⟩ := hshows.bounds
  rw [hmantissa] at hlow hhigh
  have htarget := targetExponent_eq_unitExponent hx hlow hhigh he
  obtain ⟨k, hk⟩ := Int.eq_ofNat_of_zero_le (sub_nonneg.mpr he)
  have hunit : unitExponent x = e + k := by omega
  have hfirst := hshows.shiftRight k
  rw [div_div, ← zpow_natCast, ← zpow_add₀ two_ne_zero, ← hunit] at hfirst
  have hround : (ExtendedMantissa.ofMantissaAndAccuracy m accuracy >>> k).roundedMantissa =
      nearest (x / 2 ^ unitExponent x) := hfirst.roundedMantissa_eq
  have hbound : nearest (x / 2 ^ unitExponent x) ≤ 2 ^ 53 :=
    nearest_le (by positivity) (by push_cast; exact div_unit_lt.le)
  have hmin := neg_1074_le_unitExponent x
  have hshift : shiftToTargetExponent Format.binary64 m e accuracy =
      (ExtendedMantissa.ofMantissaAndAccuracy m accuracy >>> k, unitExponent x) := by
    rw [shiftToTargetExponent, htarget, shiftToExponent, hk, hunit]
    rfl
  rw [roundWithAccuracy, hshift, rounded, ← hround]
  rw [← hround] at hbound
  dsimp only
  generalize (ExtendedMantissa.ofMantissaAndAccuracy m accuracy >>> k).roundedMantissa = r at *
  -- Rounding up may carry into one more bit, which the second shift takes away again.
  rcases hbound.lt_or_eq with hlt | rfl
  · rw [shiftToTargetExponent_eq_self hlt hmin, carried]
    simp only [hlt, if_true]
  · rw [shiftToTargetExponent_carry hmin]
    rfl

end Polyglot.Binary64
