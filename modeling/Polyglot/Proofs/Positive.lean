import Polyglot.Proofs.Scientific

/-! # Positive doubles

A double is positive exactly when its parts are those of a positive number or of infinity. Rounding
turns a number into zero only below the least double of all. Therefore a positive quotient of
integers is a positive double as long as the divisor is within the doubles, and a sum with a
positive double is positive if nothing negative is added.
-/

namespace Polyglot.Binary64

open Float.Model (Format UnpackedFloat)
open Float.Model.UnpackedFloat

/-! ## The sign of a double -/

section Doubles

variable {x : Float}

theorem pos_iff : 0 < x ↔ parts x = .infinity .positive ∨
    ∃ m e hm, parts x = .finite .positive m e hm := by
  have hlt : 0 < x ↔ (UnpackedFloat.zero .positive).lt (parts x) = true := decide_eq_true_iff
  rw [hlt]
  rcases parts x with (_ | _) | _ | _ | ⟨_ | _, m, e, hm⟩ <;>
    simp [UnpackedFloat.lt, UnpackedFloat.compare]
  exact hm

theorem nonneg_iff : 0 ≤ x ↔ (∃ s, parts x = .zero s) ∨ 0 < x := by
  have hle : 0 ≤ x ↔ (UnpackedFloat.zero .positive).le (parts x) = true := decide_eq_true_iff
  rw [hle, pos_iff]
  rcases parts x with (_ | _) | _ | _ | ⟨_ | _, m, e, hm⟩ <;>
    simp [UnpackedFloat.le, UnpackedFloat.compare]
  exact hm

theorem bne_zero_of_pos (hx : 0 < x) : (x != 0) = true := by
  have hbeq : (x == 0) = (parts x).beq (.zero .positive) := rfl
  rw [bne, hbeq]
  rcases pos_iff.mp hx with hparts | ⟨m, e, hm, hparts⟩
  · rw [hparts]
    rfl
  · rw [hparts]
    rfl

theorem pos_infinity : 0 < ofParts (.infinity .positive) := pos_iff.mpr (.inl rfl)

/-- The exponent of a finite double is not below that of the least one. -/
theorem le_exponent_of_parts {s : Sign} {m : ℕ} {e : ℤ} {hm : 0 < m}
    (h : parts x = .finite s m e hm) : -1074 ≤ e := by
  have hfinite : x.isFinite := by
    change (parts x).isFinite = true
    rw [h]
    rfl
  have hparts := parts_of_isFinite hfinite
  rw [h] at hparts
  split at hparts
  next => cases hparts
  next hne =>
    injection hparts with _ _ hexponent
    rw [hexponent]
    exact (canonical_of_isFinite hfinite hne).1.le

end Doubles

/-! ## Rounding to a positive double -/

/-- A positive multiple of a unit is not below the least double. -/
theorem least_le_mul_zpow {n : ℕ} {e : ℤ} (hn : 0 < n) (he : -1074 ≤ e) :
    (2 : ℚ) ^ (-1074 : ℤ) ≤ n * 2 ^ e := by
  have hone : (1 : ℚ) ≤ n := by exact_mod_cast hn
  calc (2 : ℚ) ^ (-1074 : ℤ) ≤ 2 ^ e := zpow_le_zpow_right₀ one_le_two he
    _ ≤ n * 2 ^ e := le_mul_of_one_le_left (by positivity) hone

section Rounding

variable {x : ℚ}

/-- A number that is not below the least double is rounded to a form that fits, unless its exponent
is too great. -/
theorem exists_rounded (s : Sign) (hx : 2 ^ (-1074 : ℤ) ≤ x) :
    ∃ m e, ∃ hc : Canonical m e, e ≤ unitExponent x + 1 ∧ rounded s x = .finite s m e hc.pos := by
  have hpos : 0 < x := lt_of_lt_of_le (by positivity) hx
  have hmin := neg_1074_le_unitExponent x
  have hfloor := floor_le_nearest (x / 2 ^ unitExponent x)
  have hmantissa : 0 < nearest (x / 2 ^ unitExponent x) ∧
      (2 ^ 52 ≤ nearest (x / 2 ^ unitExponent x) ∨ unitExponent x = -1074) := by
    rcases hmin.lt_or_eq with hlt | heq
    · have hexp : unitExponent x = Int.log 2 x - 52 := by
        unfold unitExponent at hlt ⊢
        omega
      have hfull : 2 ^ 52 ≤ ⌊x / 2 ^ unitExponent x⌋₊ :=
        Nat.le_floor (by exact_mod_cast le_div_unit hpos hexp)
      omega
    · have hone : 1 ≤ x / 2 ^ unitExponent x := by
        rw [← heq]
        exact (one_le_div (by positivity)).mpr hx
      have hfloorpos : 1 ≤ ⌊x / 2 ^ unitExponent x⌋₊ := Nat.le_floor (by exact_mod_cast hone)
      exact ⟨by omega, .inr heq.symm⟩
  have hbound : nearest (x / 2 ^ unitExponent x) ≤ 2 ^ 53 :=
    nearest_le (by positivity) (by push_cast; exact div_unit_lt.le)
  unfold rounded
  generalize nearest (x / 2 ^ unitExponent x) = m at *
  rw [carried, dif_neg hmantissa.1.ne']
  split
  next hlt => exact ⟨m, _, ⟨hmantissa.1, hlt, hmin, hmantissa.2⟩, by omega, rfl⟩
  next => exact ⟨2 ^ 52, _, ⟨by decide, by decide, by omega, .inl le_rfl⟩, le_rfl, rfl⟩

theorem pos_ofParts_rounded (hx : 2 ^ (-1074 : ℤ) ≤ x) : 0 < ofParts (rounded .positive x) := by
  obtain ⟨m, e, hc, -, h⟩ := exists_rounded .positive hx
  rw [h]
  by_cases he : e ≤ 971
  · exact pos_iff.mpr (.inr ⟨m, e, hc.pos, parts_ofParts hc he⟩)
  · rw [ofParts_of_large hc.pos (not_le.mp he)]
    exact pos_infinity

end Rounding

/-! ## Quotients and sums -/

/-- An integer of at most 1023 bits is rounded to a finite double. -/
theorem exists_parts_ofNat {n k : ℕ} (hn : 0 < n) (hlt : n < 2 ^ k) (hk : k ≤ 1023) :
    ∃ m e, ∃ hm : 0 < m, parts (Float.ofNat n) = .finite .positive m e hm ∧
      (m * 2 ^ e : ℚ) < 2 ^ (1024 : ℤ) := by
  have hone : (1 : ℚ) ≤ n := by exact_mod_cast hn
  have hleast : (2 : ℚ) ^ (-1074 : ℤ) ≤ n :=
    le_trans (zpow_le_one_of_nonpos₀ one_le_two (by decide)) hone
  obtain ⟨m, e, hc, hexp, h⟩ := exists_rounded .positive hleast
  have hlog : Int.log 2 (n : ℚ) < k := by
    apply log_lt (by positivity)
    rw [zpow_natCast]
    exact_mod_cast hlt
  have he : e ≤ 971 := by
    unfold unitExponent at hexp
    omega
  refine ⟨m, e, hc.pos, ?_, ?_⟩
  · rw [ofNat_eq_rounded hn, h]
    exact parts_ofParts hc he
  · have hm : (m : ℚ) < 2 ^ (53 : ℤ) := by exact_mod_cast hc.lt
    calc (m * 2 ^ e : ℚ) < 2 ^ (53 : ℤ) * 2 ^ e := by gcongr
      _ ≤ 2 ^ (53 : ℤ) * 2 ^ (971 : ℤ) := by
          gcongr
          exact one_le_two
      _ = 2 ^ (1024 : ℤ) := (zpow_add₀ two_ne_zero 53 971).symm

/-- A quotient of positive integers is positive if the divisor is not beyond the doubles. -/
theorem div_ofNat_pos {l n k : ℕ} (hl : 0 < l) (hllt : l < 2 ^ 53) (hn : 0 < n) (hlt : n < 2 ^ k)
    (hk : k ≤ 1023) : 0 < Float.ofNat l / Float.ofNat n := by
  obtain ⟨m, e, hm, -, hvalue, hdividend⟩ := isExactly_ofNat hl hllt
  obtain ⟨m', e', hm', hdivisor, hbound⟩ := exists_parts_ofNat hn hlt hk
  change 0 < ofParts (UnpackedFloat.div Format.binary64 (parts _) (parts _))
  rw [hdividend, hdivisor, div_finite, ← hvalue]
  apply pos_ofParts_rounded
  have hone : (1 : ℚ) ≤ l := by exact_mod_cast hl
  rw [le_div_iff₀ (by positivity)]
  calc (2 : ℚ) ^ (-1074 : ℤ) * (m' * 2 ^ e') ≤ 2 ^ (-1074 : ℤ) * 2 ^ (1024 : ℤ) := by gcongr
    _ = 2 ^ (-50 : ℤ) := (zpow_add₀ two_ne_zero (-1074) 1024).symm
    _ ≤ 1 := zpow_le_one_of_nonpos₀ one_le_two (by decide)
    _ ≤ l := hone

/-- A sum of positive numbers does not vanish: it is a multiple of the least double, at least one.
-/
theorem pos_ofParts_add {m₁ m₂ : ℕ} {e₁ e₂ : ℤ} {h₁ : 0 < m₁} {h₂ : 0 < m₂} (he₁ : -1074 ≤ e₁)
    (he₂ : -1074 ≤ e₂) :
    0 < ofParts (UnpackedFloat.add Format.binary64 (.finite .positive m₁ e₁ h₁)
      (.finite .positive m₂ e₂ h₂)) := by
  set e := min e₁ e₂ with he
  set n := m₁ <<< (e₁ - e).toNat + m₂ <<< (e₂ - e).toNat with hn
  have hpos : 0 < n := by
    rw [hn, Nat.shiftLeft_eq]
    positivity
  have hadd : UnpackedFloat.add Format.binary64 (.finite .positive m₁ e₁ h₁)
      (.finite .positive m₂ e₂ h₂) = UnpackedFloat.normalize Format.binary64 n e .positive := by
    rw [hn, Nat.cast_add]
    rfl
  rw [hadd, normalize_natCast hpos]
  exact pos_ofParts_rounded (least_le_mul_zpow hpos (le_min he₁ he₂))

/-- A zero of either sign adds nothing. -/
theorem zero_add_parts {y : Float} (hy : 0 < y) (s : Sign) :
    UnpackedFloat.add Format.binary64 (.zero s) (parts y) = parts y := by
  rcases pos_iff.mp hy with hparts | ⟨m, e, hm, hparts⟩
  · rw [hparts]
    rfl
  · rw [hparts]
    rfl

/-- Adding a positive double to one that is not negative gives a positive one. -/
theorem add_pos {x y : Float} (hx : 0 ≤ x) (hy : 0 < y) : 0 < x + y := by
  change 0 < ofParts (UnpackedFloat.add Format.binary64 (parts x) (parts y))
  rcases nonneg_iff.mp hx with ⟨s, hzero⟩ | hpos
  · rwa [hzero, zero_add_parts hy, ofParts_parts]
  · -- Without a zero only two finite numbers have to be added; any other sum is infinite.
    rcases pos_iff.mp hpos with hxparts | ⟨m, e, hm, hxparts⟩ <;>
      rcases pos_iff.mp hy with hyparts | ⟨m', e', hm', hyparts⟩ <;>
      rw [hxparts, hyparts]
    · exact pos_infinity
    · exact pos_infinity
    · exact pos_infinity
    · exact pos_ofParts_add (le_exponent_of_parts hxparts) (le_exponent_of_parts hyparts)

end Polyglot.Binary64
