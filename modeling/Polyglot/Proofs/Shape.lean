import Mathlib.Data.Nat.Count
import Polyglot.Proofs.Occurrences
import Polyglot.Proofs.Spacing

/-! # The shapes of tokens

A token is a single or a pair of singles, and never both: cutting it up again tells which one it is
and what the pair is made of. Hence a single occurs among the tokens of a text as often as among its
singles, and a pair as often as its two parts are neighbours. An entry of a vocabulary that has
neither shape is never counted.
-/

namespace Polyglot

namespace Token

variable {a b w t : Text} {xs : List Text}

/-- Holds of two singles with one blank between them. -/
def IsPair (w : Text) : Prop := ∃ a b, IsSingle a ∧ IsSingle b ∧ w = pair a b

theorem singles_pair (ha : IsSingle a) (hb : IsSingle b) : singles (pair a b) = [a, b] := by
  have hspace : Text.isBlank " " := by decide
  have h := singles_append_blanks hspace (by decide) a b
  rw [List.append_assoc, singles_of_isSingle ha, singles_of_isSingle hb] at h
  exact h

/-- A pair is made of its two parts alone. -/
theorem pair_injective {a' b' : Text} (ha : IsSingle a) (hb : IsSingle b) (ha' : IsSingle a')
    (hb' : IsSingle b') (h : pair a b = pair a' b') : a = a' ∧ b = b' := by
  have hsingles := congrArg singles h
  rw [singles_pair ha hb, singles_pair ha' hb'] at hsingles
  simpa using hsingles

theorem not_isPair_of_isSingle (hw : IsSingle w) : ¬IsPair w := by
  rintro ⟨a, b, ha, hb, rfl⟩
  have h := singles_of_isSingle hw
  rw [singles_pair ha hb] at h
  simp at h

/-! ## Pairs of neighbours -/

theorem getElem?_pairs {i : Nat} : (pairs xs)[i]? = some w ↔
    ∃ a b, xs[i]? = some a ∧ xs[i + 1]? = some b ∧ w = pair a b := by
  rw [pairs, List.getElem?_zipWith_eq_some]
  simp only [List.getElem?_tail, eq_comm]

theorem isPair_of_mem_pairs (hw : w ∈ pairs (singles t)) : IsPair w := by
  obtain ⟨i, hi⟩ := List.mem_iff_getElem?.mp hw
  obtain ⟨a, b, ha, hb, rfl⟩ := getElem?_pairs.mp hi
  exact ⟨a, b, isSingle_of_mem_singles (List.mem_of_getElem? ha),
    isSingle_of_mem_singles (List.mem_of_getElem? hb), rfl⟩

theorem exists_mem_tokens_iff : (∃ t, w ∈ tokens t) ↔ IsSingle w ∨ IsPair w := by
  constructor
  · rintro ⟨t, hw⟩
    exact (List.mem_append.mp hw).imp isSingle_of_mem_singles isPair_of_mem_pairs
  · rintro (hw | ⟨a, b, ha, hb, rfl⟩)
    · refine ⟨w, List.mem_append_left _ ?_⟩
      rw [singles_of_isSingle hw]
      exact List.mem_singleton_self w
    · refine ⟨pair a b, List.mem_append_right _ ?_⟩
      rw [singles_pair ha hb]
      exact List.mem_singleton_self _

/-! ## Multiplicities -/

/-- A text occurs as often as there are places where it stands. -/
theorem count_eq_count_places (x : Text) {xs : List Text} {n : Nat} (hn : xs.length ≤ n) :
    xs.count x = Nat.count (fun i => xs[i]? = some x) n := by
  induction xs generalizing n with
  | nil => simp
  | cons y xs ih =>
      obtain ⟨n, rfl⟩ := Nat.exists_eq_add_of_le' (Nat.le_trans (Nat.le_add_left 1 _) hn)
      rw [Nat.count_succ', List.count_cons, ih (Nat.le_of_succ_le_succ hn)]
      simp

theorem count_tokens_of_isSingle (ha : IsSingle a) (t : Text) :
    (tokens t).count a = Nat.count (fun i => (singles t)[i]? = some a) (singles t).length := by
  have hnone : (pairs (singles t)).count a = 0 :=
    List.count_eq_zero.mpr fun hmem => not_isPair_of_isSingle ha (isPair_of_mem_pairs hmem)
  rw [tokens, List.count_append, hnone, Nat.add_zero]
  exact count_eq_count_places a (Nat.le_refl _)

theorem count_tokens_of_isPair (ha : IsSingle a) (hb : IsSingle b) (t : Text) :
    (tokens t).count (pair a b) =
      Nat.count (fun i => (singles t)[i]? = some a ∧ (singles t)[i + 1]? = some b)
        (singles t).length := by
  have hnone : (singles t).count (pair a b) = 0 :=
    List.count_eq_zero.mpr fun hmem =>
      not_isPair_of_isSingle (isSingle_of_mem_singles hmem) ⟨a, b, ha, hb, rfl⟩
  have hplace (i : Nat) : (pairs (singles t))[i]? = some (pair a b) ↔
      (singles t)[i]? = some a ∧ (singles t)[i + 1]? = some b := by
    rw [getElem?_pairs]
    constructor
    · rintro ⟨a', b', ha', hb', h⟩
      obtain ⟨rfl, rfl⟩ := pair_injective ha hb (isSingle_of_mem_singles (List.mem_of_getElem? ha'))
        (isSingle_of_mem_singles (List.mem_of_getElem? hb')) h
      exact ⟨ha', hb'⟩
    · rintro ⟨hleft, hright⟩
      exact ⟨a, b, hleft, hright, rfl⟩
  have hlength : (pairs (singles t)).length ≤ (singles t).length := by
    rw [length_pairs]
    exact Nat.sub_le _ _
  rw [tokens, List.count_append, hnone, Nat.zero_add, count_eq_count_places _ hlength]
  simp only [hplace]

/-- A text of another shape is no token, so that nothing is added to its entry. -/
theorem values_of_shapeless {v : Vocabulary} {id : Nat} (hid : v.lookup w = some id)
    (hsingle : ¬IsSingle w) (hpair : ¬IsPair w) (ht : tokens t ≠ []) :
    ∃ f, Frequency.ofTokens v (tokens t) = .ok f ∧ f.values[id]? = some 0 := by
  obtain ⟨f, hf, -⟩ := Frequency.exists_ofTokens (v := v) ht
  have hcounts := Frequency.counts_of_ofTokens hf
  have hnone : (tokens t).count w = 0 := by
    rw [List.count_eq_zero]
    intro hmem
    exact (exists_mem_tokens_iff.mp ⟨t, hmem⟩).elim hsingle hpair
  refine ⟨f, hf, ?_⟩
  rw [hcounts.values id (Vocabulary.lookup_lt hid), Frequency.occurrences_eq_count hid, hnone,
    Frequency.level_zero]

/-- The tokens of texts are the singles and the pairs of singles, which are never both. A single
occurs once for every place among the singles of a text where it stands, a pair once for every place
where its parts follow one another, and a vocabulary counts nothing else. -/
theorem tokens_have_shapes :
    (∀ w, (∃ t, w ∈ tokens t) ↔ IsSingle w ∨ IsPair w) ∧
      (∀ w, ¬(IsSingle w ∧ IsPair w)) ∧
      (∀ t a, IsSingle a → (tokens t).count a =
        Nat.count (fun i => (singles t)[i]? = some a) (singles t).length) ∧
      (∀ t a b, IsSingle a → IsSingle b → (tokens t).count (pair a b) =
        Nat.count (fun i => (singles t)[i]? = some a ∧ (singles t)[i + 1]? = some b)
          (singles t).length) ∧
      ∀ (v : Vocabulary) w id, v.lookup w = some id → ¬IsSingle w → ¬IsPair w →
        ∀ t, tokens t ≠ [] →
          ∃ f, Frequency.ofTokens v (tokens t) = .ok f ∧ f.values[id]? = some 0 :=
  ⟨fun _ => exists_mem_tokens_iff, fun _ h => not_isPair_of_isSingle h.1 h.2,
    fun t _ ha => count_tokens_of_isSingle ha t, fun t _ _ ha hb => count_tokens_of_isPair ha hb t,
    fun _ _ _ hid hsingle hpair _ => values_of_shapeless hid hsingle hpair⟩

theorem wideGap_has_no_shape :
    (tokens "x x").count (Text.ofString "x") =
        Nat.count (fun i => (singles "x x")[i]? = some (Text.ofString "x")) (singles "x x").length ∧
      (tokens "x x").count (pair "x" "x") =
        Nat.count (fun i => (singles "x x")[i]? = some (Text.ofString "x") ∧
          (singles "x x")[i + 1]? = some (Text.ofString "x")) (singles "x x").length ∧
      ∃ v : Vocabulary, v.lookup "x  x" = some 0 ∧
        ∃ f, Frequency.ofTokens v (tokens "x  x") = .ok f ∧ f.values[0]? = some 0 := by
  obtain ⟨-, -, hsingle, hpair, hother⟩ := tokens_have_shapes
  have hx : IsSingle "x" := by decide
  have hgap : ¬IsPair "x  x" := by
    rintro ⟨a, b, ha, hb, h⟩
    have hparts : [Text.ofString "x", Text.ofString "x"] = [a, b] := by
      rw [← singles_pair ha hb, ← h]
      decide
    cases hparts
    revert h
    decide
  refine ⟨hsingle _ _ hx, hpair _ _ _ hx hx, ⟨[("x  x", 0)], by simp, by simp, by simp⟩, rfl, ?_⟩
  exact hother _ _ _ rfl (by decide) hgap _ (by decide)

end Token

end Polyglot
