import Mathlib.Algebra.Order.Field.Power
import Mathlib.Data.Rat.Floor
import Mathlib.Tactic.FieldSimp
import Mathlib.Tactic.Linarith
import Mathlib.Tactic.Positivity
import Mathlib.Tactic.Ring
import Polyglot.Number.Binary64

/-! # Quotients as numbers

A quotient is a number, and scaling and rounding do to it what they say. The number of digits before
the point names the two powers of ten between which a quotient lies.
-/

namespace Polyglot.Binary64

namespace Quotient

variable {r : Quotient} {p : ℤ}

/-- The number that a quotient is. -/
def value (r : Quotient) : ℚ := r.num / r.den

theorem den_scale_pos (hden : 0 < r.den) : 0 < (r.scale p).den := by
  unfold scale
  split
  next => exact hden
  next => exact Nat.mul_pos hden (Nat.pow_pos (by decide))

theorem value_scale (r : Quotient) (p : ℤ) : (r.scale p).value = r.value * 10 ^ p := by
  unfold scale value
  split
  next hp =>
    obtain ⟨n, rfl⟩ := Int.eq_ofNat_of_zero_le hp
    simp only [Int.toNat_natCast, Nat.pow_eq, zpow_natCast]
    push_cast
    ring
  next hp =>
    obtain ⟨n, rfl⟩ := Int.exists_eq_neg_ofNat (not_le.mp hp).le
    simp only [neg_neg, Int.toNat_natCast, Nat.pow_eq, zpow_neg, zpow_natCast]
    push_cast
    rw [div_mul_eq_div_div, div_eq_mul_inv _ ((10 : ℚ) ^ n)]

theorem value_eq_floor_add (hden : 0 < r.den) :
    r.value = (r.num / r.den : ℕ) + (r.num % r.den : ℕ) / r.den := by
  have hden' : (r.den : ℚ) ≠ 0 := by positivity
  rw [value, div_eq_iff hden', add_mul, div_mul_cancel₀ _ hden']
  exact_mod_cast (Nat.div_add_mod' r.num r.den).symm

theorem floor_le_round (r : Quotient) : r.num / r.den ≤ r.round := by
  unfold round
  dsimp only
  split_ifs <;> omega

theorem round_eq_floor_or (r : Quotient) :
    r.round = r.num / r.den ∨ r.round = r.num / r.den + 1 := by
  unfold round
  dsimp only
  split_ifs <;> omega

/-- Rounding to an integer changes a number by a half at most. -/
theorem abs_round_sub_le (hden : 0 < r.den) : |(r.round : ℚ) - r.value| ≤ 1 / 2 := by
  have hden' : (0 : ℚ) < r.den := by exact_mod_cast hden
  have hmod : ((r.num % r.den : ℕ) : ℚ) / r.den < 1 := by
    rw [div_lt_one hden']
    exact_mod_cast Nat.mod_lt _ hden
  have hnonneg : (0 : ℚ) ≤ ((r.num % r.den : ℕ) : ℚ) / r.den := by positivity
  have hhalf : (r.den ≤ 2 * (r.num % r.den) → 1 / 2 ≤ ((r.num % r.den : ℕ) : ℚ) / r.den) ∧
      (2 * (r.num % r.den) ≤ r.den → ((r.num % r.den : ℕ) : ℚ) / r.den ≤ 1 / 2) := by
    constructor
    · intro h
      have hcast : (r.den : ℚ) ≤ 2 * (r.num % r.den : ℕ) := by exact_mod_cast h
      rw [le_div_iff₀ hden']
      linarith
    · intro h
      have hcast : (2 * (r.num % r.den : ℕ) : ℚ) ≤ r.den := by exact_mod_cast h
      rw [div_le_iff₀ hden']
      linarith
  rw [value_eq_floor_add hden, abs_le]
  unfold round
  dsimp only
  split_ifs with hlt hgt
  · have := hhalf.2 hlt.le
    constructor <;> linarith
  · have := hhalf.1 hgt.le
    push_cast
    constructor <;> linarith
  · have hlow := hhalf.1 (not_lt.mp hlt)
    have hhigh := hhalf.2 (not_lt.mp hgt)
    rcases Nat.mod_two_eq_zero_or_one (r.num / r.den) with hparity | hparity
    · rw [hparity]
      push_cast
      constructor <;> linarith
    · rw [hparity]
      push_cast
      constructor <;> linarith

theorem toDigits_bounds {n : ℕ} (hn : 0 < n) :
    (10 : ℚ) ^ ((Nat.toDigits 10 n).length - 1 : ℤ) ≤ n ∧
      (n : ℚ) < 10 ^ ((Nat.toDigits 10 n).length : ℤ) := by
  have hpos : 0 < (Nat.toDigits 10 n).length := Nat.length_toDigits_pos
  obtain ⟨k, hk⟩ := Nat.exists_eq_add_of_lt hpos
  have hhigh : n < 10 ^ (Nat.toDigits 10 n).length :=
    (Nat.length_toDigits_le_iff (by decide) hpos).mp le_rfl
  have hlow : 10 ^ k ≤ n := by
    rcases Nat.eq_zero_or_pos k with rfl | hk'
    · exact hn
    · rw [← not_lt, ← Nat.length_toDigits_le_iff (by decide) hk']
      omega
  rw [hk] at hhigh ⊢
  constructor
  · rw [show ((0 + k + 1 : ℕ) : ℤ) - 1 = (k : ℕ) by push_cast; ring, zpow_natCast]
    exact_mod_cast hlow
  · rw [zpow_natCast]
    exact_mod_cast hhigh

/-- A positive number lies between the powers of ten that its number of digits names. -/
theorem digitsBefore_bounds (hnum : 0 < r.num) (hden : 0 < r.den) :
    10 ^ (r.digitsBefore - 1) ≤ r.value ∧ r.value < 10 ^ r.digitsBefore := by
  obtain ⟨hnumlow, hnumhigh⟩ := toDigits_bounds hnum
  obtain ⟨hdenlow, hdenhigh⟩ := toDigits_bounds hden
  have hden' : (0 : ℚ) < r.den := by exact_mod_cast hden
  have hten : (10 : ℚ) ≠ 0 := by norm_num
  -- The numbers of digits of the two parts leave one power of ten open, and the search decides it.
  set guess : ℤ := (Nat.toDigits 10 r.num).length - (Nat.toDigits 10 r.den).length with hguess
  have hlow : 10 ^ (guess - 1) ≤ r.value := by
    rw [value, le_div_iff₀ hden']
    calc (10 : ℚ) ^ (guess - 1) * r.den
        ≤ 10 ^ (guess - 1) * 10 ^ ((Nat.toDigits 10 r.den).length : ℤ) := by gcongr
      _ = 10 ^ ((Nat.toDigits 10 r.num).length - 1 : ℤ) := by
          rw [← zpow_add₀ hten]
          congr 1
          omega
      _ ≤ r.num := hnumlow
  have hhigh : r.value < 10 ^ (guess + 1) := by
    rw [value, div_lt_iff₀ hden']
    calc (r.num : ℚ) < 10 ^ ((Nat.toDigits 10 r.num).length : ℤ) := hnumhigh
      _ = 10 ^ (guess + 1) * 10 ^ ((Nat.toDigits 10 r.den).length - 1 : ℤ) := by
          rw [← zpow_add₀ hten]
          congr 1
          omega
      _ ≤ 10 ^ (guess + 1) * r.den := by gcongr
  have hone : (r.scale (-guess)).den ≤ (r.scale (-guess)).num ↔ 10 ^ guess ≤ r.value := by
    have hscaled : (0 : ℚ) < (r.scale (-guess)).den := by exact_mod_cast den_scale_pos hden
    have hvalue := value_scale r (-guess)
    rw [value, zpow_neg, ← div_eq_mul_inv] at hvalue
    rw [← Nat.cast_le (α := ℚ), ← one_le_div hscaled, hvalue, one_le_div (by positivity)]
  unfold digitsBefore
  dsimp only
  rw [← hguess]
  split
  next hle =>
    rw [add_sub_cancel_right]
    exact ⟨hone.mp hle, hhigh⟩
  next hlt => exact ⟨hlow, not_le.mp (hone.not.mp hlt)⟩

end Quotient

theorem magnitude_num_pos {x : Float} (hm : mantissa x ≠ 0) : 0 < (magnitude x).num := by
  have hpos := Nat.pos_of_ne_zero hm
  unfold magnitude
  split
  next => exact Nat.mul_pos hpos (Nat.pow_pos (by decide))
  next => exact hpos

theorem magnitude_den_pos (x : Float) : 0 < (magnitude x).den := by
  unfold magnitude
  split
  next => exact Nat.one_pos
  next => exact Nat.pow_pos (by decide)

theorem value_magnitude (x : Float) : (magnitude x).value = mantissa x * 2 ^ exponent x := by
  unfold magnitude Quotient.value
  split
  next he =>
    obtain ⟨n, hn⟩ := Int.eq_ofNat_of_zero_le he
    rw [hn]
    simp only [Int.toNat_natCast, Nat.pow_eq, zpow_natCast]
    push_cast
    ring
  next he =>
    obtain ⟨n, hn⟩ := Int.exists_eq_neg_ofNat (not_le.mp he).le
    rw [hn]
    simp only [neg_neg, Int.toNat_natCast, Nat.pow_eq, zpow_neg, zpow_natCast]
    push_cast
    exact div_eq_mul_inv _ _

end Polyglot.Binary64
