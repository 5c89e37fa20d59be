import Mathlib.Algebra.Group.Nat.Defs
import Mathlib.Data.List.Basic
import Mathlib.Tactic.Ring
import Polyglot.Text.Numeral

/-! # Numerals name their numbers

The digits of a natural number name it in every base, and zeros in front of them change nothing. A
decimal numeral has no zero in front unless it is zero itself.
-/

namespace Polyglot

section Digits

variable {b : ℕ}

theorem foldl_digits (v : ℕ) (ds : List ℕ) :
    ds.foldl (fun value digit => value * b + digit) v = v * b ^ ds.length + ofDigits b ds := by
  induction ds generalizing v with
  | nil => simp [ofDigits]
  | cons d ds ih =>
      rw [ofDigits, List.foldl_cons, List.foldl_cons, ih, ih (0 * b + d), List.length_cons,
        pow_succ]
      ring

theorem ofDigits_append (ds es : List ℕ) :
    ofDigits b (ds ++ es) = ofDigits b ds * b ^ es.length + ofDigits b es := by
  rw [ofDigits, List.foldl_append, foldl_digits]
  rfl

theorem ofDigits_replicate_zero (k : ℕ) : ofDigits b (List.replicate k 0) = 0 := by
  induction k with
  | zero => rfl
  | succ k ih =>
      rw [List.replicate_succ', ofDigits_append, ih]
      simp [ofDigits]

/-- The digits of a number in a base, which name it. The first one is zero for zero alone. -/
theorem exists_toDigits (hb : 1 < b) (n : ℕ) : ∃ ds : List ℕ,
    Nat.toDigits b n = ds.map Nat.digitChar ∧ (∀ d ∈ ds, d < b) ∧ ofDigits b ds = n ∧
      (0 < n → ∃ d rest, ds = d :: rest ∧ 0 < d) := by
  induction n using Nat.strongRecOn with
  | ind n ih =>
      rcases Nat.lt_or_ge n b with hlt | hge
      · refine ⟨[n], Nat.toDigits_of_lt_base hlt, by simpa using hlt, by simp [ofDigits], ?_⟩
        exact fun hn => ⟨n, [], rfl, hn⟩
      · obtain ⟨ds, hdigits, hless, hvalue, hfirst⟩ := ih (n / b) (Nat.div_lt_self (by omega) hb)
        refine ⟨ds ++ [n % b], ?_, ?_, ?_, ?_⟩
        · rw [Nat.toDigits_of_base_le hb hge, hdigits]
          simp
        · intro d hd
          rcases List.mem_append.mp hd with hd | hd
          · exact hless d hd
          · rw [List.mem_singleton.mp hd]
            exact Nat.mod_lt n (by omega)
        · rw [ofDigits_append, hvalue, List.length_singleton, pow_one]
          simpa [ofDigits] using Nat.div_add_mod' n b
        · intro _
          obtain ⟨d, rest, rfl, hd⟩ := hfirst (Nat.div_pos hge (by omega))
          exact ⟨d, rest ++ [n % b], rfl, hd⟩

end Digits

namespace CodePoint

/-- The code point of a digit. -/
def ofDigit (d : ℕ) : CodePoint := ofChar (Nat.digitChar d)

theorem decimal_ofDigit : ∀ d < 10,
    isAsciiDigit (ofDigit d) ∧ (ofDigit d).val - 0x30 = d ∧ (ofDigit d = '0' → d = 0) := by
  decide

theorem hexValue?_ofDigit : ∀ d < 16, hexValue? (ofDigit d) = some d := by
  decide

end CodePoint

namespace Text

/-- Decimal digits as a text. -/
theorem exists_ofNat (n : ℕ) : ∃ ds : List ℕ, ofNat n = ds.map CodePoint.ofDigit ∧
    (∀ d ∈ ds, d < 10) ∧ ofDigits 10 ds = n ∧ (0 < n → ∃ d rest, ds = d :: rest ∧ 0 < d) := by
  obtain ⟨ds, hdigits, hrest⟩ := exists_toDigits (b := 10) (by decide) n
  refine ⟨ds, ?_, hrest⟩
  rw [ofNat, ofChars, hdigits, List.map_map]
  rfl

theorem isAsciiDigit_of_mem_ofNat {n : ℕ} {c : CodePoint} (hc : c ∈ ofNat n) :
    CodePoint.isAsciiDigit c := by
  obtain ⟨ds, hdigits, hless, -⟩ := exists_ofNat n
  rw [hdigits] at hc
  obtain ⟨d, hd, rfl⟩ := List.mem_map.mp hc
  exact (CodePoint.decimal_ofDigit d (hless d hd)).1

theorem ofNat_ne_nil (n : ℕ) : ofNat n ≠ [] := by
  simp [ofNat, ofChars, Nat.toDigits_ne_nil]

theorem length_ofNat_le_iff {n k : ℕ} (hk : 0 < k) : (ofNat n).length ≤ k ↔ n < 10 ^ k := by
  rw [ofNat, ofChars, List.length_map, Nat.length_toDigits_le_iff (by decide) hk]

theorem ofNat_zero : ofNat 0 = [('0' : CodePoint)] := by decide

/-- The numeral of a positive number begins with another digit than zero. -/
theorem exists_ofNat_of_pos {n : ℕ} (hn : 0 < n) : ∃ c rest,
    ofNat n = c :: rest ∧ CodePoint.isAsciiDigit c ∧ c ≠ '0' := by
  obtain ⟨ds, hdigits, hless, -, hfirst⟩ := exists_ofNat n
  obtain ⟨d, rest, rfl, hd⟩ := hfirst hn
  obtain ⟨hdigit, -, hzero⟩ := CodePoint.decimal_ofDigit d (hless d List.mem_cons_self)
  exact ⟨_, _, hdigits, hdigit, fun h => hd.ne' (hzero h)⟩

theorem digitsValue_append (s t : Text) :
    digitsValue (s ++ t) = digitsValue s * 10 ^ t.length + digitsValue t := by
  rw [digitsValue, List.map_append, ofDigits_append, List.length_map]
  rfl

theorem digitsValue_zeros (k : ℕ) : digitsValue (List.replicate k '0') = 0 := by
  rw [digitsValue, List.map_replicate]
  exact ofDigits_replicate_zero k

/-- A decimal numeral names its number. -/
@[simp] theorem digitsValue_ofNat (n : ℕ) : digitsValue (ofNat n) = n := by
  obtain ⟨ds, hdigits, hless, hvalue, -⟩ := exists_ofNat n
  have hmap : (ofNat n).map (fun c => c.val - 0x30) = ds := by
    rw [hdigits, List.map_map]
    conv_rhs => rw [← List.map_id ds]
    exact List.map_congr_left fun d hd => (CodePoint.decimal_ofDigit d (hless d hd)).2.1
  rw [digitsValue, hmap, hvalue]

theorem digitsValue_padded (width n : ℕ) : digitsValue (padded width n) = n := by
  rw [padded, padLeft, digitsValue_append, digitsValue_zeros, digitsValue_ofNat, zero_mul, zero_add]

theorem isAsciiDigit_of_mem_padded {width n : ℕ} {c : CodePoint} (hc : c ∈ padded width n) :
    CodePoint.isAsciiDigit c := by
  rcases List.mem_append.mp hc with hc | hc
  · rw [List.eq_of_mem_replicate hc]
    decide
  · exact isAsciiDigit_of_mem_ofNat hc

/-- Four hexadecimal digits name a number of sixteen bits. -/
theorem exists_hex {n : ℕ} (hn : n < 0x10000) : ∃ a b c d : ℕ,
    hex 4 n = [a, b, c, d].map CodePoint.ofDigit ∧ (a < 16 ∧ b < 16 ∧ c < 16 ∧ d < 16) ∧
      ofDigits 16 [a, b, c, d] = n := by
  obtain ⟨ds, hdigits, hless, hvalue, -⟩ := exists_toDigits (b := 16) (by decide) n
  have hlength : ds.length ≤ 4 := by
    have h := (Nat.length_toDigits_le_iff (b := 16) (k := 4) (by decide) (by decide)).mpr hn
    rwa [hdigits, List.length_map] at h
  have htext : hex 4 n = (List.replicate (4 - ds.length) 0 ++ ds).map CodePoint.ofDigit := by
    rw [hex, padLeft, ofChars, hdigits, List.map_map, List.length_map, List.map_append,
      List.map_replicate]
    rfl
  have hall : ∀ d ∈ List.replicate (4 - ds.length) 0 ++ ds, d < 16 := by
    intro d hd
    rcases List.mem_append.mp hd with hd | hd
    · rw [List.eq_of_mem_replicate hd]
      decide
    · exact hless d hd
  have hnumber : ofDigits 16 (List.replicate (4 - ds.length) 0 ++ ds) = n := by
    rw [ofDigits_append, ofDigits_replicate_zero, hvalue, zero_mul, zero_add]
  have hfour : (List.replicate (4 - ds.length) 0 ++ ds).length = 4 := by
    rw [List.length_append, List.length_replicate]
    omega
  obtain ⟨a, b, c, d, heq⟩ := List.length_eq_four.mp hfour
  rw [heq] at htext hall hnumber
  exact ⟨a, b, c, d, htext, by simpa using hall, hnumber⟩

end Text

end Polyglot
