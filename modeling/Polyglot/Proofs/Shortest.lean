import Polyglot.Number.Shortest
import Polyglot.Proofs.Quotient
import Polyglot.Proofs.Scientific

/-! # The shortest decimal reads back

Seventeen digits are enough to tell a double from any other, so that the search for the shortest
decimal finds one that is read as the double. What has the value of this decimal is read as the
double too, however it spells the value.
-/

namespace Polyglot.Shortest

open Binary64

/-- The number that a decimal is. -/
def Decimal.value (d : Decimal) : ℚ := Binary64.decimal d.coefficient d.exponent

theorem Decimal.read_eq {d : Decimal} (hd : 0 < d.coefficient) :
    d.read = ofParts (Binary64.rounded .positive d.value) :=
  (ofDecimal_eq hd false d.exponent).trans (if_neg (by decide))

section Neighbours

variable {r : Quotient} {e : ℤ} {d : Decimal}

theorem mem_neighbours : d ∈ neighbours r e ↔
    d = ⟨(r.scale (-e)).num / (r.scale (-e)).den, e⟩ ∨
      d = ⟨(r.scale (-e)).num / (r.scale (-e)).den + 1, e⟩ := by
  unfold neighbours
  dsimp only
  split
  next => simp
  next => simp [or_comm]

theorem round_mem_neighbours (r : Quotient) (e : ℤ) :
    ⟨(r.scale (-e)).round, e⟩ ∈ neighbours r e := by
  rw [mem_neighbours]
  rcases (r.scale (-e)).round_eq_floor_or with hround | hround
  · exact .inl (by rw [hround])
  · exact .inr (by rw [hround])

theorem floor_pos (hden : 0 < r.den) (he : 10 ^ e ≤ r.value) :
    0 < (r.scale (-e)).num / (r.scale (-e)).den := by
  have hscaled := Quotient.den_scale_pos (p := -e) hden
  have hvalue := r.value_scale (-e)
  rw [Quotient.value, zpow_neg, ← div_eq_mul_inv] at hvalue
  apply Nat.div_pos _ hscaled
  rw [← Nat.cast_le (α := ℚ), ← one_le_div (by exact_mod_cast hscaled), hvalue,
    one_le_div (by positivity)]
  exact he

theorem coefficient_pos_of_mem_neighbours (hden : 0 < r.den) (he : 10 ^ e ≤ r.value)
    (hd : d ∈ neighbours r e) : 0 < d.coefficient := by
  have hpos := floor_pos hden he
  rcases mem_neighbours.mp hd with rfl | rfl
  · exact hpos
  · exact Nat.succ_pos _

end Neighbours

section OfFloat

variable {x : Float}

/-- Seventeen digits are enough to tell a double from any other. -/
theorem read_of_seventeen_digits (hx : x.isFinite) (hm : mantissa x ≠ 0)
    (hsign : isNegative x = false) :
    let e := (magnitude x).digitsBefore - 17
    Decimal.read ⟨((magnitude x).scale (-e)).round, e⟩ = x := by
  intro e
  obtain ⟨hcanonical, he⟩ := canonical_of_isFinite hx hm
  have hden := magnitude_den_pos x
  obtain ⟨hlow, -⟩ := Quotient.digitsBefore_bounds (magnitude_num_pos hm) hden
  have hunit : (10 : ℚ) ^ e * 10 ^ 16 ≤ (magnitude x).value := by
    rw [← zpow_natCast, ← zpow_add₀ (by norm_num)]
    convert hlow using 2
    omega
  have hround := Quotient.abs_round_sub_le (Quotient.den_scale_pos (p := -e) hden)
  rw [Quotient.value_scale] at hround
  have hclose : |decimal ((magnitude x).scale (-e)).round e - mantissa x * 2 ^ exponent x| ≤
      mantissa x * 2 ^ exponent x / (2 * 10 ^ 16) := by
    rw [← value_magnitude]
    have hfactor : decimal ((magnitude x).scale (-e)).round e - (magnitude x).value =
        10 ^ e * (((magnitude x).scale (-e)).round - (magnitude x).value * 10 ^ (-e)) := by
      rw [decimal, zpow_neg]
      field_simp
    rw [hfactor, abs_mul, abs_of_pos (by positivity), le_div_iff₀ (by norm_num)]
    calc (10 : ℚ) ^ e * |_| * (2 * 10 ^ 16) ≤ 10 ^ e * (1 / 2) * (2 * 10 ^ 16) := by gcongr
      _ = 10 ^ e * 10 ^ 16 := by ring
      _ ≤ (magnitude x).value := hunit
  have hpos : 0 < ((magnitude x).scale (-e)).round := by
    refine (floor_pos hden ?_).trans_le (Quotient.floor_le_round _)
    exact (le_mul_of_one_le_right (by positivity) (by norm_num)).trans hunit
  have hparts := parts_of_isFinite hx
  rw [dif_neg hm, signOf, hsign, if_neg (by decide)] at hparts
  rw [Decimal.read_eq hpos, Decimal.value, rounded_eq_of_close hcanonical hclose, ← hparts,
    ofParts_parts]

theorem dropZeros_value (fuel : ℕ) (d : Decimal) : (dropZeros fuel d).value = d.value := by
  induction fuel generalizing d with
  | zero => rfl
  | succ fuel ih =>
      rw [dropZeros]
      split
      next hzero =>
        rw [ih, Decimal.value, Decimal.value, decimal, decimal, zpow_add_one₀ (by norm_num)]
        have hten : (d.coefficient : ℚ) = (d.coefficient / 10 : ℕ) * 10 := by
          exact_mod_cast (Nat.div_mul_cancel (Nat.dvd_of_mod_eq_zero hzero)).symm
        rw [hten]
        ring
      next => rfl

theorem dropZeros_coefficient_pos {d : Decimal} (hd : 0 < d.coefficient) (fuel : ℕ) :
    0 < (dropZeros fuel d).coefficient := by
  induction fuel generalizing d with
  | zero => exact hd
  | succ fuel ih =>
      rw [dropZeros]
      split
      next hzero =>
        apply ih
        dsimp only
        omega
      next => exact hd

/-- The shortest decimal of a positive double is read as this double. -/
theorem read_ofFloat (hx : x.isFinite) (hm : mantissa x ≠ 0) (hsign : isNegative x = false) :
    0 < (ofFloat x).coefficient ∧ (ofFloat x).read = x := by
  have hden := magnitude_den_pos x
  obtain ⟨hlow, -⟩ := Quotient.digitsBefore_bounds (magnitude_num_pos hm) hden
  unfold ofFloat
  dsimp only
  set before := (magnitude x).digitsBefore
  set candidates := (List.range 17).flatMap fun n =>
    neighbours (magnitude x) (before - (n + 1 : ℕ)) with hcandidates
  -- The search finds some decimal, since seventeen digits would do.
  obtain ⟨d, hfind⟩ : ∃ d, candidates.find? (fun d => d.read.toBits == x.toBits) = some d := by
    rw [← Option.isSome_iff_exists, List.find?_isSome]
    refine ⟨_, List.mem_flatMap.mpr ⟨16, by decide, round_mem_neighbours _ _⟩, ?_⟩
    exact beq_iff_eq.mpr (congrArg Float.toBits (read_of_seventeen_digits hx hm hsign))
  obtain ⟨n, -, hd⟩ := List.mem_flatMap.mp (List.mem_of_find?_eq_some hfind)
  have hpos : 0 < d.coefficient := by
    refine coefficient_pos_of_mem_neighbours hden (le_trans ?_ hlow) hd
    exact zpow_le_zpow_right₀ (by norm_num) (by push_cast; omega)
  have hread : d.read = x := by
    have hbits := List.find?_some hfind
    exact Float.toBits_inj.mp (beq_iff_eq.mp hbits)
  rw [hfind, Option.getD_some]
  have hdropped := dropZeros_coefficient_pos hpos 17
  refine ⟨hdropped, ?_⟩
  rw [Decimal.read_eq hdropped, dropZeros_value, ← Decimal.read_eq hpos, hread]

/-- Whatever spells the value of the shortest decimal is read, with its sign, as the double. -/
theorem ofDecimal_of_value {c : ℕ} {e : ℤ} (hx : x.isFinite) (hm : mantissa x ≠ 0) (hc : 0 < c)
    (hvalue : decimal c e = (ofFloat x.abs).value) : ofDecimal (isNegative x) c e = x := by
  obtain ⟨hfinite, hne, hpositive⟩ := abs_positive hx hm
  obtain ⟨hpos, hread⟩ := read_ofFloat hfinite hne hpositive
  rw [Decimal.read_eq hpos] at hread
  rw [ofDecimal_eq hc, hvalue, hread]
  by_cases hsign : isNegative x
  · rw [if_pos hsign, neg_abs hx hm hsign]
  · rw [if_neg hsign, abs_eq_self hx hm (Bool.not_eq_true _ ▸ hsign)]

theorem ofDecimal_zero (negative : Bool) :
    ofDecimal negative 0 (-1) = ofParts (.zero (if negative then .negative else .positive)) := by
  cases negative <;> rfl

theorem eq_ofDecimal_zero (hx : x.isFinite) (hm : mantissa x = 0) :
    ofDecimal (isNegative x) 0 (-1) = x := by
  have hparts := parts_of_isFinite hx
  rw [dif_pos hm] at hparts
  rw [ofDecimal_zero]
  exact (congrArg ofParts hparts.symm).trans (ofParts_parts x)

end OfFloat

end Polyglot.Shortest
