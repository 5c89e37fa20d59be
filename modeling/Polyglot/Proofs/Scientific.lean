import Polyglot.Proofs.Packing
import Polyglot.Proofs.Rounding

/-! # Doubles of decimals

A product and a quotient of doubles are rounded once, and so is the number that a decimal names:
what it is read as depends on its value alone, in whatever way coefficient and exponent share it. A
number that is close to a double, in relation to its size, is read as this double.
-/

namespace Polyglot.Binary64

open Float.Model (Format UnpackedFloat totalExponent)
open Float.Model.UnpackedFloat

section Rounded

variable {m : ℕ} {e : ℤ} {s : Sign} {x : ℚ}

theorem le_unitExponent (h : 2 ^ 52 ≤ m) : e ≤ unitExponent (m * 2 ^ e) := by
  have hpos : (0 : ℚ) < m := by exact_mod_cast lt_of_lt_of_le (by decide) h
  have hscaled : (2 : ℚ) ^ 52 ≤ m * 2 ^ e / 2 ^ e := by
    rw [mul_div_cancel_right₀ _ (by positivity)]
    exact_mod_cast h
  have hlog := le_log_of_div (by positivity) hscaled
  have hmax := le_max_left (Int.log 2 ((m : ℚ) * 2 ^ e) - 52) (-1074)
  unfold unitExponent
  omega

/-- In the unit of a double, all numbers less than half a unit away are rounded to it. -/
theorem rounded_of_unit (hexp : unitExponent x = e) (hpos : 0 < m) (hlt : m < 2 ^ 53)
    (hnear : |x / 2 ^ e - m| < 1 / 2) : rounded s x = .finite s m e hpos := by
  rw [rounded, hexp, nearest_eq hnear, carried, dif_neg hpos.ne', if_pos hlt]

/-- Just below a power of two the unit is half as great, and the mantissa carries. -/
theorem rounded_of_half_unit (hexp : unitExponent x = e - 1)
    (hnear : |x / 2 ^ e - 2 ^ 52| < 1 / 4) : rounded s x = .finite s (2 ^ 52) e (by decide) := by
  have hdouble : x / 2 ^ (e - 1) = 2 * (x / 2 ^ e) := by
    rw [zpow_sub_one₀ two_ne_zero]
    field_simp
  have hcarried : |x / 2 ^ (e - 1) - (2 ^ 53 : ℕ)| < 1 / 2 := by
    rw [abs_lt] at hnear ⊢
    rw [hdouble]
    push_cast
    constructor <;> linarith
  rw [rounded, hexp, nearest_eq hcarried, carried, dif_neg (by decide), if_neg (by decide)]
  congr 1
  omega

/-- A number within a relative distance of `10 ^ (-16) / 2` from a double is rounded to it. -/
theorem rounded_eq_of_close (hc : Canonical m e)
    (hclose : |x - m * 2 ^ e| ≤ m * 2 ^ e / (2 * 10 ^ 16)) :
    rounded s x = .finite s m e hc.pos := by
  obtain ⟨hpos, hlt, hle, hnormal⟩ := hc
  have hunit : (0 : ℚ) < 2 ^ e := by positivity
  have hone : (1 : ℚ) ≤ m := by exact_mod_cast hpos
  have hmax : (m : ℚ) ≤ 9007199254740991 := by exact_mod_cast Nat.le_of_lt_succ hlt
  have hscaled : |x / 2 ^ e - m| ≤ m / (2 * 10 ^ 16) := by
    have hdiv : x / 2 ^ e - m = (x - m * 2 ^ e) / 2 ^ e := by field_simp
    rw [hdiv, abs_div, abs_of_pos hunit, div_le_iff₀ hunit, div_mul_eq_mul_div]
    exact hclose
  obtain ⟨hlow, hhigh⟩ := abs_le.mp hscaled
  have hx : 0 < x := by
    have hscaledpos : 0 < x / 2 ^ e := by linarith
    exact (div_pos_iff_of_pos_right hunit).mp hscaledpos
  have hloglt : Int.log 2 x < 53 + e := log_lt_of_div (k := 53) hx (by linarith)
  by_cases hsame : e ≤ unitExponent x
  · have hexp : unitExponent x = e := by
      unfold unitExponent at hsame ⊢
      omega
    exact rounded_of_unit hexp hpos hlt (by linarith)
  · -- The number has one bit less, so that the double can only be the power of two above it.
    have hfull : 2 ^ 52 ≤ m := by
      refine hnormal.resolve_right ?_
      rintro rfl
      exact hsame (neg_1074_le_unitExponent x)
    have hbelow : x / 2 ^ e < 2 ^ 52 := by
      by_contra hnot
      have hlog := le_log_of_div hx (not_lt.mp hnot)
      unfold unitExponent at hsame
      omega
    obtain rfl : m = 2 ^ 52 := by
      have hcast : (m : ℚ) < 4503599627370497 := by linarith
      have hmlt : m < 4503599627370497 := by exact_mod_cast hcast
      omega
    push_cast at hlow hscaled
    have hloge : 51 + e ≤ Int.log 2 x := le_log_of_div (k := 51) hx (by linarith)
    have hexp : unitExponent x = e - 1 := by
      unfold unitExponent at hsame ⊢
      omega
    exact rounded_of_half_unit hexp (by linarith)

end Rounded

theorem rounded_mul_zpow {m : ℕ} {e : ℤ} (s : Sign) (hc : Canonical m e) :
    rounded s (m * 2 ^ e) = .finite s m e hc.pos := by
  apply rounded_eq_of_close hc
  rw [sub_self, abs_zero]
  positivity

/-- A product of doubles is rounded once. -/
theorem mul_finite {s₁ s₂ : Sign} {m₁ m₂ : ℕ} {e₁ e₂ : ℤ} {h₁ : 0 < m₁} {h₂ : 0 < m₂}
    (hfull : 2 ^ 52 ≤ m₁) :
    UnpackedFloat.mul Format.binary64 (.finite s₁ m₁ e₁ h₁) (.finite s₂ m₂ e₂ h₂) =
      rounded (s₁ * s₂) (m₁ * 2 ^ e₁ * (m₂ * 2 ^ e₂)) := by
  have hvalue : (m₁ * 2 ^ e₁ * (m₂ * 2 ^ e₂) : ℚ) = (m₁ * m₂ : ℕ) * 2 ^ (e₁ + e₂) := by
    rw [zpow_add₀ two_ne_zero]
    push_cast
    ring
  rw [hvalue]
  apply roundWithAccuracy_eq
  · have hpos := Nat.mul_pos h₁ h₂
    positivity
  · rw [mul_div_cancel_right₀ _ (by positivity)]
    exact .exact _
  · exact le_unitExponent (hfull.trans (Nat.le_mul_of_pos_right m₁ h₂))

theorem shows_div (n : ℕ) {d : ℕ} (hd : 0 < d) :
    Shows (ExtendedMantissa.ofMantissaAndAccuracy (n / d) (accuracyOfFraction (n % d) d))
      (n / d) := by
  have hsplit : (n : ℚ) / d = (n / d : ℕ) + (n % d : ℕ) / d := by
    rw [div_eq_iff (by positivity), add_mul, div_mul_cancel₀ _ (by positivity)]
    exact_mod_cast (Nat.div_add_mod' n d).symm
  have hmod : ((n % d : ℕ) : ℚ) < d := by exact_mod_cast Nat.mod_lt n hd
  have hd' : (0 : ℚ) < d := by exact_mod_cast hd
  rw [hsplit, accuracyOfFraction]
  by_cases hzero : n % d = 0
  · rw [if_pos hzero, hzero, Nat.cast_zero, zero_div, add_zero]
    exact .exact _
  · rw [if_neg hzero]
    have hpos : (0 : ℚ) < (n % d : ℕ) / d :=
      div_pos (by exact_mod_cast Nat.pos_of_ne_zero hzero) hd'
    rcases Nat.lt_trichotomy (2 * (n % d)) d with hlt | heq | hgt
    · rw [Nat.compare_eq_lt.mpr hlt]
      have hcast : (2 * (n % d : ℕ) : ℚ) < d := by exact_mod_cast hlt
      have hhalf : ((n % d : ℕ) : ℚ) / d < 1 / 2 := by
        rw [div_lt_iff₀ hd']
        linarith
      exact .below (by linarith) (by linarith)
    · rw [Nat.compare_eq_eq.mpr heq]
      have hcast : (2 * (n % d : ℕ) : ℚ) = d := by exact_mod_cast heq
      have hhalf : ((n % d : ℕ) : ℚ) / d = 1 / 2 := by
        rw [div_eq_iff hd'.ne']
        linarith
      rw [hhalf]
      exact .half _
    · rw [Nat.compare_eq_gt.mpr hgt]
      have hcast : (d : ℚ) < 2 * (n % d : ℕ) := by exact_mod_cast hgt
      have hlow : 1 / 2 < ((n % d : ℕ) : ℚ) / d := by
        rw [lt_div_iff₀ hd']
        linarith
      have hhigh : ((n % d : ℕ) : ℚ) / d < 1 := by rwa [div_lt_one hd']
      exact .above (by linarith) (by linarith)

/-- A quotient of doubles is rounded once. -/
theorem div_finite {s₁ s₂ : Sign} {m₁ m₂ : ℕ} {e₁ e₂ : ℤ} {h₁ : 0 < m₁} {h₂ : 0 < m₂} :
    UnpackedFloat.div Format.binary64 (.finite s₁ m₁ e₁ h₁) (.finite s₂ m₂ e₂ h₂) =
      rounded (s₁ / s₂) (m₁ * 2 ^ e₁ / (m₂ * 2 ^ e₂)) := by
  rw [UnpackedFloat.div, divCore]
  dsimp only
  set target := min (e₁ - e₂)
    (Format.binary64.targetExponent (totalExponent m₁ e₁ - totalExponent m₂ e₂)) with htarget
  obtain ⟨k, hk⟩ := Int.eq_ofNat_of_zero_le (sub_nonneg.mpr (min_le_left (e₁ - e₂)
    (Format.binary64.targetExponent (totalExponent m₁ e₁ - totalExponent m₂ e₂))))
  rw [← htarget] at hk
  have hunit : (m₁ * 2 ^ e₁ / (m₂ * 2 ^ e₂) : ℚ) / 2 ^ target = (m₁ <<< k : ℕ) / m₂ := by
    have he : e₁ = e₂ + target + k := by omega
    rw [he, zpow_add₀ two_ne_zero, zpow_add₀ two_ne_zero, Nat.shiftLeft_eq, zpow_natCast]
    push_cast
    field_simp
  have hpos : (0 : ℚ) < m₁ * 2 ^ e₁ / (m₂ * 2 ^ e₂) := by positivity
  apply roundWithAccuracy_eq hpos
  · rw [hunit, hk]
    exact shows_div _ h₂
  · -- The quotient of two numbers has one bit less than the difference of their bits, at worst.
    have hself : (2 : ℚ) ^ m₁.log2 ≤ m₁ := by exact_mod_cast Nat.log2_self_le h₁.ne'
    have hsucc : (m₂ : ℚ) ≤ 2 ^ (m₂.log2 + 1) := by exact_mod_cast Nat.lt_log2_self.le
    have hscale : (m₁ * 2 ^ e₁ / (m₂ * 2 ^ e₂) : ℚ) / 2 ^ (e₁ - e₂ - (m₂.log2 + 1 : ℕ)) =
        m₁ * (2 ^ (m₂.log2 + 1) / m₂) := by
      rw [zpow_sub₀ two_ne_zero, zpow_sub₀ two_ne_zero, zpow_natCast]
      field_simp
    have hlog : m₁.log2 + (e₁ - e₂ - (m₂.log2 + 1 : ℕ)) ≤
        Int.log 2 (m₁ * 2 ^ e₁ / (m₂ * 2 ^ e₂) : ℚ) := by
      apply le_log_of_div hpos
      rw [hscale]
      refine hself.trans (le_mul_of_one_le_right (by positivity) ?_)
      exact (one_le_div (by positivity)).mpr hsucc
    rw [targetExponent_binary64] at htarget
    unfold unitExponent
    unfold totalExponent at htarget
    omega

theorem round_eq {n : ℕ} (hn : 0 < n) (s : Sign) (e : ℤ) :
    UnpackedFloat.round Format.binary64 s n e = rounded s (n * 2 ^ e) := by
  have hpos : (0 : ℚ) < n * 2 ^ e := by positivity
  rw [UnpackedFloat.round, decreaseExponent]
  dsimp only
  set target := Format.binary64.targetExponent (totalExponent n e) with htarget
  have hunit : target = unitExponent (n * 2 ^ e) := by
    have hself : (n : ℚ) * 2 ^ e / 2 ^ e = n := mul_div_cancel_right₀ _ (by positivity)
    have hlog : Int.log 2 ((n : ℚ) * 2 ^ e) = n.log2 + e :=
      log_eq hpos hn hself.ge (hself.trans_lt (lt_add_one _))
    rw [htarget, targetExponent_binary64, totalExponent, unitExponent, hlog]
    omega
  apply roundWithAccuracy_eq hpos
  · have hshift : (n : ℚ) * 2 ^ e / 2 ^ (e - ((e - target).toNat : ℤ)) =
        (n <<< (e - target).toNat : ℕ) := by
      rw [zpow_sub₀ two_ne_zero, Nat.shiftLeft_eq, zpow_natCast]
      push_cast
      field_simp
    rw [hshift]
    exact .exact _
  · omega

theorem normalize_natCast {n : ℕ} (hn : 0 < n) (e : ℤ) (s : Sign) :
    UnpackedFloat.normalize Format.binary64 n e s = rounded .positive (n * 2 ^ e) := by
  have hcompare : compare (n : ℤ) 0 = .gt := by
    rw [Int.compare_eq_gt]
    omega
  rw [UnpackedFloat.normalize, hcompare]
  dsimp only
  rw [Int.toNat_natCast, round_eq hn]

theorem ofNat_eq {n : ℕ} (hn : 0 < n) :
    UnpackedFloat.ofNat Format.binary64 n = rounded .positive n := by
  rw [UnpackedFloat.ofNat, UnpackedFloat.ofInt, normalize_natCast hn, zpow_zero, mul_one]

/-- Holds of a double that is a certain positive number, with all bits in its mantissa. -/
def IsExactly (x : Float) (v : ℚ) : Prop :=
  ∃ (m : ℕ) (e : ℤ) (hm : 0 < m), 2 ^ 52 ≤ m ∧ v = m * 2 ^ e ∧ parts x = .finite .positive m e hm

namespace IsExactly

variable {x y : Float} {v w : ℚ}

theorem mul (hx : IsExactly x v) (hy : IsExactly y w) :
    x * y = ofParts (rounded .positive (v * w)) := by
  obtain ⟨m₁, e₁, h₁, hfull, rfl, hx⟩ := hx
  obtain ⟨m₂, e₂, h₂, -, rfl, hy⟩ := hy
  change ofParts (UnpackedFloat.mul Format.binary64 (parts x) (parts y)) = _
  rw [hx, hy, mul_finite hfull]
  rfl

theorem div (hx : IsExactly x v) (hy : IsExactly y w) :
    x / y = ofParts (rounded .positive (v / w)) := by
  obtain ⟨m₁, e₁, h₁, -, rfl, hx⟩ := hx
  obtain ⟨m₂, e₂, h₂, -, rfl, hy⟩ := hy
  change ofParts (UnpackedFloat.div Format.binary64 (parts x) (parts y)) = _
  rw [hx, hy, div_finite]
  rfl

/-- An integer of few bits is exactly a double, zeros behind these bits apart. -/
theorem ofNat {n k : ℕ} (hn : 0 < n) (hlt : n < 2 ^ 53) (hk : k ≤ 971) :
    IsExactly (.ofModel (.ofNat (n * 2 ^ k))) (n * 2 ^ k : ℕ) := by
  -- The bits are moved up until the highest one is at its place.
  have hlow := Nat.log2_self_le hn.ne'
  have hhigh : n < 2 ^ (n.log2 + 1) := Nat.lt_log2_self
  have hlog : n.log2 ≤ 52 := Nat.le_of_lt_succ ((Nat.log2_lt hn.ne').mpr hlt)
  obtain ⟨j, hj⟩ := Nat.exists_eq_add_of_le hlog
  have hfull : 2 ^ 52 ≤ n * 2 ^ j := by
    rw [hj, pow_add]
    exact Nat.mul_le_mul_right _ hlow
  have hless : n * 2 ^ j < 2 ^ 53 :=
    calc n * 2 ^ j < 2 ^ (n.log2 + 1) * 2 ^ j := Nat.mul_lt_mul_of_pos_right hhigh (by positivity)
      _ = 2 ^ 53 := by
          rw [← pow_add]
          congr 1
          omega
  have hvalue : ((n * 2 ^ k : ℕ) : ℚ) = (n * 2 ^ j : ℕ) * 2 ^ ((k : ℤ) - j) := by
    rw [zpow_sub₀ two_ne_zero, zpow_natCast, zpow_natCast]
    push_cast
    field_simp
  have hcanonical : Canonical (n * 2 ^ j) (k - j) :=
    ⟨by positivity, hless, by omega, .inl hfull⟩
  refine ⟨n * 2 ^ j, k - j, hcanonical.pos, hfull, hvalue, ?_⟩
  rw [Float.Model.ofNat, ofNat_eq (by positivity), hvalue, rounded_mul_zpow _ hcanonical]
  exact parts_ofParts hcanonical (by omega)

theorem toUInt64 {n : ℕ} (hn : 0 < n) (hlt : n < 2 ^ 53) : IsExactly n.toUInt64.toFloat n := by
  have hword : n.toUInt64.toNat = n := by
    rw [Nat.toUInt64_eq, UInt64.toNat_ofNat']
    exact Nat.mod_eq_of_lt (by omega)
  have hexact := IsExactly.ofNat (k := 0) hn hlt (by decide)
  rw [pow_zero, mul_one] at hexact
  change IsExactly (ofParts (UnpackedFloat.ofNat Format.binary64 n.toUInt64.toNat)) n
  rwa [hword]

theorem powersOfTen_eq : ∀ i : Fin Float.exactlyRepresentablePowersOfTen.size,
    Float.exactlyRepresentablePowersOfTen[i] = .ofModel (.ofNat (5 ^ i.val * 2 ^ i.val)) ∧
      5 ^ i.val < 2 ^ 53 := by decide +kernel

theorem powerOfTen {e : ℕ} (he : e < Float.exactlyRepresentablePowersOfTen.size) :
    IsExactly (Float.exactlyRepresentablePowersOfTen[e]) (10 ^ e) := by
  obtain ⟨hentry, hlt⟩ := powersOfTen_eq ⟨e, he⟩
  have hsize : Float.exactlyRepresentablePowersOfTen.size = 23 := rfl
  have hvalue : ((5 ^ e * 2 ^ e : ℕ) : ℚ) = 10 ^ e := by
    rw [← mul_pow, Nat.cast_pow]
    rfl
  have hexact := IsExactly.ofNat (k := e) (by positivity) hlt (by omega)
  rw [hvalue] at hexact
  rw [Fin.getElem_fin] at hentry
  rwa [hentry]

end IsExactly

/-- A number with an exponent that is too great for a double is packed as infinity. -/
theorem ofParts_rounded_of_large {x : ℚ} (hx : 2 ^ (1024 : ℤ) ≤ x) :
    ofParts (rounded .positive x) = ofParts (.infinity .positive) := by
  have hpos : 0 < x := lt_of_lt_of_le (by positivity) hx
  have hlog : 1024 ≤ Int.log 2 x := le_log hpos hx
  have hexp : unitExponent x = Int.log 2 x - 52 := by
    unfold unitExponent
    omega
  have hnearest : nearest (x / 2 ^ unitExponent x) ≠ 0 := by
    have hfloor : 2 ^ 52 ≤ ⌊x / 2 ^ unitExponent x⌋₊ :=
      Nat.le_floor (by exact_mod_cast le_div_unit hpos hexp)
    have hle := floor_le_nearest (x / 2 ^ unitExponent x)
    omega
  rw [rounded, carried, dif_neg hnearest]
  split
  next => exact ofParts_of_large _ (by omega)
  next => exact ofParts_of_large _ (by omega)

/-- A number far below the least double is rounded to zero. -/
theorem rounded_of_small {s : Sign} {x : ℚ} (hpos : 0 < x) (hx : x < 2 ^ (-1075 : ℤ)) :
    rounded s x = .zero s := by
  have hlog := log_lt hpos hx
  have hexp : unitExponent x = -1074 := by
    unfold unitExponent
    omega
  have hhalf : x / 2 ^ (-1074 : ℤ) < 1 / 2 := by
    rw [div_lt_iff₀ (by positivity)]
    refine hx.trans_eq ?_
    rw [show (-1075 : ℤ) = -1074 - 1 by decide, zpow_sub_one₀ two_ne_zero]
    ring
  have hnearest : nearest (x / 2 ^ (-1074 : ℤ)) = 0 := by
    apply nearest_eq
    rw [Nat.cast_zero, sub_zero, abs_of_pos (by positivity)]
    exact hhalf
  rw [rounded, hexp, hnearest, carried, dif_pos rfl]

/-- The number that a coefficient and an exponent of ten name. -/
def decimal (m : ℕ) (e : ℤ) : ℚ := m * 10 ^ e

theorem decimal_pos {m : ℕ} (hm : 0 < m) (e : ℤ) : 0 < decimal m e := by
  unfold decimal
  positivity

theorem le_decimal_of_large {m : ℕ} {e : ℤ} (hm : 0 < m) (he : 1024 ≤ e) :
    2 ^ (1024 : ℤ) ≤ decimal m e := by
  have hone : (1 : ℚ) ≤ m := by exact_mod_cast hm
  calc (2 : ℚ) ^ (1024 : ℤ) ≤ 10 ^ (1024 : ℤ) :=
        zpow_le_zpow_left₀ (by decide) zero_le_two (by norm_num)
    _ ≤ 10 ^ e := zpow_le_zpow_right₀ (by norm_num) he
    _ ≤ decimal m e := le_mul_of_one_le_left (by positivity) hone

theorem decimal_lt_of_small {m : ℕ} {e : ℤ} (he : e ≤ -1076 - m.log2) :
    decimal m e < 2 ^ (-1075 : ℤ) := by
  have hlt : (m : ℚ) < 2 ^ (m.log2 + 1) := by exact_mod_cast Nat.lt_log2_self
  have hfive : (5 : ℚ) ^ (-1076 - m.log2 : ℤ) ≤ 1 :=
    zpow_le_one_of_nonpos₀ (by norm_num) (by omega)
  have hten : (10 : ℚ) ^ e ≤ 2 ^ (-1076 - m.log2 : ℤ) :=
    calc (10 : ℚ) ^ e ≤ 10 ^ (-1076 - m.log2 : ℤ) := zpow_le_zpow_right₀ (by norm_num) he
      _ = 2 ^ (-1076 - m.log2 : ℤ) * 5 ^ (-1076 - m.log2 : ℤ) := by
          rw [← mul_zpow]
          norm_num
      _ ≤ 2 ^ (-1076 - m.log2 : ℤ) := mul_le_of_le_one_right (by positivity) hfive
  calc decimal m e ≤ m * 2 ^ (-1076 - m.log2 : ℤ) := by
        unfold decimal
        gcongr
    _ < 2 ^ (m.log2 + 1) * 2 ^ (-1076 - m.log2 : ℤ) := by gcongr
    _ = 2 ^ (-1075 : ℤ) := by
        rw [← zpow_natCast, ← zpow_add₀ two_ne_zero]
        congr 1
        push_cast
        ring

theorem mul_powerOfTen {m : ℕ} (hm : 0 < m) (k : ℕ) (hshift : 0 < m <<< 53) :
    UnpackedFloat.mul Format.binary64 (.finite .positive (m <<< 53) (-53) hshift)
        (.finite .positive (10 ^ k) 0 (Nat.pow_pos (by decide))) =
      rounded .positive (decimal m k) := by
  have hfull : 2 ^ 52 ≤ m <<< 53 := by
    rw [Nat.shiftLeft_eq]
    exact (Nat.pow_le_pow_right (by decide) (by decide)).trans (Nat.le_mul_of_pos_left _ hm)
  have hvalue : ((m <<< 53 : ℕ) : ℚ) * 2 ^ (-53 : ℤ) * ((10 ^ k : ℕ) * 2 ^ (0 : ℤ)) =
      decimal m k := by
    rw [Nat.shiftLeft_eq, decimal]
    push_cast
    norm_num
    ring
  rw [mul_finite hfull, hvalue]
  rfl

theorem div_powerOfTen {m : ℕ} (hm : 0 < m) (k : ℕ) :
    UnpackedFloat.div Format.binary64 (.finite .positive m 0 hm)
        (.finite .positive (10 ^ k) 0 (Nat.pow_pos (by decide))) =
      rounded .positive (decimal m (-k)) := by
  have hvalue : (m : ℚ) * 2 ^ (0 : ℤ) / ((10 ^ k : ℕ) * 2 ^ (0 : ℤ)) = decimal m (-k) := by
    rw [zpow_zero, mul_one, mul_one, decimal, zpow_neg, zpow_natCast, Nat.cast_pow]
    rfl
  rw [div_finite, hvalue]
  rfl

theorem ofScientific_model {m : ℕ} (hm : 0 < m) (e : ℤ) :
    ofParts (UnpackedFloat.ofScientific Format.binary64 m e) =
      ofParts (rounded .positive (decimal m e)) := by
  rw [UnpackedFloat.ofScientific, dif_neg hm.ne']
  split
  next hlarge =>
    exact (ofParts_rounded_of_large (le_decimal_of_large hm (le_trans (by decide) hlarge.le))).symm
  next =>
    split
    next hsmall =>
      have he : e < -(2048 + m.log2) := hsmall
      rw [rounded_of_small (decimal_pos hm e) (decimal_lt_of_small (by omega))]
    next =>
      split
      next hpos =>
        obtain ⟨k, rfl⟩ := Int.eq_ofNat_of_zero_le hpos
        exact congrArg ofParts (mul_powerOfTen hm k _)
      next hneg =>
        obtain ⟨k, rfl⟩ := Int.exists_eq_neg_ofNat (not_le.mp hneg).le
        simp only [neg_neg, Int.toNat_natCast, div_powerOfTen hm k]

/-- A decimal is read as its value, rounded once. -/
theorem ofScientific_eq {m : ℕ} (hm : 0 < m) (negative : Bool) (e : ℕ) :
    Float.ofScientific m negative e =
      ofParts (rounded .positive (decimal m (if negative then -(e : ℤ) else e))) := by
  unfold Float.ofScientific
  split
  next hfast =>
    -- Coefficient and power of ten are both exactly doubles, so that one operation is enough.
    obtain ⟨hlt, he⟩ := hfast
    have hcoefficient := IsExactly.toUInt64 hm hlt
    have hpower := IsExactly.powerOfTen (Nat.lt_succ_of_le he)
    cases negative with
    | true =>
        rw [if_pos rfl, if_pos rfl, decimal, zpow_neg, zpow_natCast]
        exact hcoefficient.div hpower
    | false =>
        rw [if_neg (by decide), if_neg (by decide), decimal, zpow_natCast]
        exact hcoefficient.mul hpower
  next =>
    cases negative with
    | true =>
        have hexp : Int.negOfNat e = -(e : ℤ) := Int.negOfNat_eq
        dsimp only
        rw [if_pos rfl, if_pos rfl, hexp]
        exact ofScientific_model hm (-e)
    | false => exact ofScientific_model hm e

/-- What a decimal is read as depends on its value alone. -/
theorem ofDecimal_eq {m : ℕ} (hm : 0 < m) (negative : Bool) (e : ℤ) :
    ofDecimal negative m e =
      if negative then -ofParts (rounded .positive (decimal m e))
      else ofParts (rounded .positive (decimal m e)) := by
  have hexp : (if e < 0 then -(e.natAbs : ℤ) else e.natAbs) = e := by
    split <;> omega
  have hread := ofScientific_eq hm (decide (e < 0)) e.natAbs
  simp only [decide_eq_true_eq, hexp] at hread
  rw [ofDecimal, hread]

/-- The double nearest to a number that is not negative, a tie going to the even mantissa. -/
def nearestDouble (x : ℚ) : Float := if x = 0 then 0 else ofParts (rounded .positive x)

theorem ofNat_eq_rounded {n : ℕ} (hn : 0 < n) :
    Float.ofNat n = ofParts (rounded .positive n) := by
  have hscientific := ofScientific_eq hn false 0
  rwa [if_neg (by decide), decimal, Nat.cast_zero, zpow_zero, mul_one] at hscientific

theorem isExactly_ofNat {n : ℕ} (hn : 0 < n) (hlt : n < 2 ^ 53) : IsExactly (Float.ofNat n) n := by
  have hexact : IsExactly (ofParts (UnpackedFloat.ofNat Format.binary64 (n * 2 ^ 0))) _ :=
    IsExactly.ofNat hn hlt (Nat.zero_le _)
  rwa [pow_zero, mul_one, ofNat_eq hn, ← ofNat_eq_rounded hn] at hexact

/-- A quotient of integers of few bits is rounded once. -/
theorem ofNat_div_ofNat {m n : ℕ} (hm : m < 2 ^ 53) (hn : 0 < n) (hlt : n < 2 ^ 53) :
    Float.ofNat m / Float.ofNat n = nearestDouble (m / n) := by
  have hdivisor := isExactly_ofNat hn hlt
  rcases Nat.eq_zero_or_pos m with rfl | hpos
  · obtain ⟨k, e, hk, -, -, hparts⟩ := hdivisor
    have hzero : parts (Float.ofNat 0) = .zero .positive := by rfl
    change ofParts (UnpackedFloat.div Format.binary64 (parts _) (parts _)) = _
    rw [hzero, hparts, nearestDouble, Nat.cast_zero, zero_div, if_pos rfl]
    rfl
  · rw [(isExactly_ofNat hpos hm).div hdivisor, nearestDouble, if_neg (by positivity)]

end Polyglot.Binary64
