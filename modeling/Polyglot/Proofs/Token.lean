import Mathlib.Data.List.SplitBy
import Polyglot.Token

/-! # How many tokens a text has

The blocks of a text make up the text, so that a text without singles is a text of blanks. A text
with `k` singles has one pair fewer, hence `2 * k - 1` tokens.
-/

namespace Polyglot.Token

theorem flatten_blocks (t : Text) : (blocks t).flatten = t := List.flatten_splitBy _ t

/-- A text has no singles exactly when nothing but blanks stands in it. -/
theorem singles_eq_nil_iff {t : Text} : singles t = [] ↔ Text.isBlank t := by
  have hblank : Text.isBlank t ↔ ∀ block ∈ blocks t, Text.isBlank block := by
    conv_lhs => rw [← flatten_blocks t]
    simp only [Text.isBlank, List.all_flatten, List.all_eq_true]
  rw [hblank, singles, List.filter_eq_nil_iff]
  simp

theorem length_pairs (singles : List Text) : (pairs singles).length = singles.length - 1 := by
  rw [pairs, List.length_zipWith, List.length_tail]
  omega

theorem length_tokens (t : Text) :
    (tokens t).length = (singles t).length + ((singles t).length - 1) := by
  rw [tokens, List.length_append, length_pairs]

theorem tokens_eq_nil_iff {t : Text} : tokens t = [] ↔ Text.isBlank t := by
  rw [← singles_eq_nil_iff, ← List.length_eq_zero_iff, ← List.length_eq_zero_iff, length_tokens]
  omega

end Polyglot.Token
