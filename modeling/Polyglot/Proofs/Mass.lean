import Mathlib.Algebra.BigOperators.Ring.Finset
import Mathlib.Data.List.Forall2
import Polyglot.Proofs.Occurrences
import Polyglot.Proofs.Positive

/-! # The mass of a text

Counting separates by id: a frequency vector is made of the numbers of occurrences alone. What is
known of a text, which features it has and the mass of the whole vector follow from these numbers,
and two lists of tokens with the same numbers have the same vector.
-/

namespace Polyglot.Frequency

variable {v : Vocabulary} {ts us : List Text} {f : Frequency}

/-! ## Known tokens -/

@[simp] theorem occurrences_nil (v : Vocabulary) (id : Nat) : occurrences v [] id = 0 := rfl

theorem occurrences_cons (v : Vocabulary) (token : Text) (ts : List Text) (id : Nat) :
    occurrences v (token :: ts) id =
      occurrences v ts id + if v.lookup token = some id then 1 else 0 := by
  simp [occurrences, List.countP_cons]

/-- A known token occurs at exactly one id, and any other token at none. -/
theorem sum_occurrences (v : Vocabulary) (ts : List Text) :
    ∑ id ∈ Finset.range v.size, occurrences v ts id =
      ts.countP fun token => (v.lookup token).isSome := by
  induction ts with
  | nil => simp
  | cons token ts ih =>
      simp only [occurrences_cons, Finset.sum_add_distrib, ih, List.countP_cons]
      cases hlookup : v.lookup token with
      | none => simp
      | some found => simp [Vocabulary.lookup_lt hlookup]

/-! ## The vector of given occurrences -/

theorem ofTokens_eq_ok (v : Vocabulary) (hts : ts ≠ []) : ofTokens v ts = .ok
    { values := (List.range v.size).map fun id => level ts.length (occurrences v ts id)
      tokenCount := ts.length
      knownCount := ∑ id ∈ Finset.range v.size, occurrences v ts id } := by
  obtain ⟨⟨values, tokenCount, knownCount⟩, hf, hmeasures⟩ := exists_ofTokens (v := v) hts
  have hcounts := counts_of_ofTokens hf
  have hvalues :
      values = (List.range v.size).map fun id => level ts.length (occurrences v ts id) := by
    apply List.ext_getElem?
    intro id
    by_cases hid : id < v.size
    · simpa [hid] using hcounts.values id hid
    · have hlength : values.length = v.size := hmeasures.length_values
      simp [hid, hlength]
  rw [hf, sum_occurrences, ← hcounts.knownCount, ← hvalues, ← hcounts.tokenCount]

/-- Lists of tokens with the same occurrences have the same frequencies. -/
theorem ofTokens_congr (hlength : us.length = ts.length)
    (hoccurrences : ∀ id, occurrences v us id = occurrences v ts id) :
    ofTokens v us = ofTokens v ts := by
  by_cases hts : ts = []
  · rw [hts, List.length_eq_zero_iff.mp (hlength.trans (by rw [hts]; rfl))]
  · have hus : us ≠ [] := by
      rintro rfl
      exact hts (List.length_eq_zero_iff.mp hlength.symm)
    rw [ofTokens_eq_ok v hus, ofTokens_eq_ok v hts]
    simp only [hlength, hoccurrences]

theorem ofTokens_perm (v : Vocabulary) (h : us.Perm ts) : ofTokens v us = ofTokens v ts :=
  ofTokens_congr h.length_eq fun _ => h.countP_eq _

/-- Holds of two tokens that are the same one, or of which neither is known. -/
def Exchangeable (v : Vocabulary) (token other : Text) : Prop :=
  token = other ∨ v.lookup token = none ∧ v.lookup other = none

theorem Exchangeable.lookup_eq {token other : Text} (h : Exchangeable v token other) :
    v.lookup token = v.lookup other := by
  rcases h with rfl | ⟨htoken, hother⟩
  · rfl
  · rw [htoken, hother]

theorem occurrences_exchange (h : List.Forall₂ (Exchangeable v) us ts) (id : Nat) :
    occurrences v us id = occurrences v ts id := by
  induction h with
  | nil => rfl
  | cons htoken _ ih => rw [occurrences_cons, occurrences_cons, htoken.lookup_eq, ih]

theorem ofTokens_exchange (h : List.Forall₂ (Exchangeable v) us ts) :
    ofTokens v us = ofTokens v ts :=
  ofTokens_congr h.length_eq (occurrences_exchange h)

/-! ## Entries that are not zero -/

/-- The share of a token is positive for any number of tokens within the doubles. -/
theorem share_pos {n k : Nat} (hn : 0 < n) (hlt : n < 2 ^ k) (hk : k ≤ 1023) : 0 < share n :=
  Binary64.div_ofNat_pos (l := 1000) (by decide) (by decide) hn hlt hk

theorem level_pos {n k : Nat} (hshare : 0 < share n) (hk : 0 < k) : 0 < level n k := by
  induction k with
  | zero => exact absurd hk (Nat.lt_irrefl 0)
  | succ k ih =>
      -- Only the first share is added to zero; any other one is added to what is positive already.
      have hnonneg : 0 ≤ level n k := by
        rcases Nat.eq_zero_or_pos k with rfl | hpos
        · rw [level_zero]
          decide
        · exact Binary64.nonneg_iff.mpr (.inr (ih hpos))
      rw [level, Function.iterate_succ_apply']
      exact Binary64.add_pos hnonneg hshare

theorem level_bne_zero_iff {n k : Nat} (hshare : 0 < share n) :
    (level n k != 0) = true ↔ 0 < k := by
  rcases Nat.eq_zero_or_pos k with rfl | hpos
  · simp only [level_zero, Nat.lt_irrefl, iff_false]
    decide
  · exact iff_of_true (Binary64.bne_zero_of_pos (level_pos hshare hpos)) hpos

/-- Entries that are not zero are found by their ids. -/
theorem nonzero_map_range (g : Nat → Float) (size tokenCount knownCount : Nat) :
    nonzero ⟨(List.range size).map g, tokenCount, knownCount⟩ =
      ((List.range size).filter fun id => g id != 0).map fun id => (id, g id) := by
  have hentries : ((List.range size).map g).zipIdx.map (fun e => (e.2, e.1)) =
      (List.range size).map fun id => (id, g id) := by
    apply List.ext_getElem?
    intro id
    by_cases hid : id < size <;> simp [hid]
  calc nonzero ⟨(List.range size).map g, tokenCount, knownCount⟩
      = (((List.range size).map g).zipIdx.map fun e => (e.2, e.1)).filter fun e => e.2 != 0 := rfl
    _ = ((List.range size).map fun id => (id, g id)).filter fun e => e.2 != 0 := by rw [hentries]
    _ = ((List.range size).filter fun id => g id != 0).map fun id => (id, g id) := List.filter_map

/-! ## Mass in exact arithmetic -/

/-- The entry that exact arithmetic gives a feature with `k` occurrences among `n` tokens. -/
def exactLevel (n k : Nat) : ℚ := (· + (1000 : ℚ) / n)^[k] 0

theorem exactLevel_eq (n k : Nat) : exactLevel n k = 1000 * k / n := by
  rw [exactLevel, add_right_iterate_apply_zero, nsmul_eq_mul]
  ring

theorem sum_exactLevel {ι : Type} (ids : Finset ι) (n : Nat) (k : ι → Nat) :
    ∑ id ∈ ids, exactLevel n (k id) = 1000 * ((∑ id ∈ ids, k id : Nat) : ℚ) / n := by
  simp only [exactLevel_eq, Nat.cast_sum, Finset.mul_sum, Finset.sum_div]

/-! ## Frequencies by occurrences -/

/-- What the occurrences of its tokens say about the frequencies of a text. -/
structure Weighs (v : Vocabulary) (ts : List Text) (f : Frequency) : Prop where
  length_values : f.values.length = v.size
  /-- The share of a token is added to zero once for each occurrence. -/
  values : ∀ id < v.size,
    f.values[id]? = some ((· + scale / Float.ofNat ts.length)^[occurrences v ts id] 0)
  tokenCount : f.tokenCount = ts.length
  knownCount : f.knownCount = ∑ id ∈ Finset.range v.size, occurrences v ts id
  knownCount_le : f.knownCount ≤ ts.length
  knownCount_eq_iff : f.knownCount = ts.length ↔ ∀ token ∈ ts, (v.lookup token).isSome
  share_pos : ∀ k ≤ 1023, ts.length < 2 ^ k → 0 < share ts.length
  /-- The features of a text are the ids that occur, in increasing order. -/
  nonzero : 0 < share ts.length →
    f.nonzero = ((List.range v.size).filter fun id => 0 < occurrences v ts id).map fun id =>
      (id, level ts.length (occurrences v ts id))
  mass : ∑ id ∈ Finset.range v.size, exactLevel ts.length (occurrences v ts id) =
    1000 * f.knownCount / ts.length

theorem weighs_of_ofTokens (h : ofTokens v ts = .ok f) : Weighs v ts f := by
  have hts : ts ≠ [] := (counts_of_ofTokens h).ne_nil
  rw [ofTokens_eq_ok v hts] at h
  cases h
  constructor
  case length_values => simp
  case values =>
    intro id hid
    simp [hid, level, share]
  case tokenCount => rfl
  case knownCount => rfl
  case knownCount_le =>
    rw [sum_occurrences]
    exact List.countP_le_length
  case knownCount_eq_iff =>
    rw [sum_occurrences]
    exact List.countP_eq_length
  case share_pos => exact fun k hk hlt => Frequency.share_pos (List.length_pos_iff.mpr hts) hlt hk
  case nonzero =>
    intro hshare
    rw [nonzero_map_range]
    congr 1
    apply List.filter_congr
    intro id _
    rw [Bool.eq_iff_iff, level_bne_zero_iff hshare, decide_eq_true_iff]
  case mass => exact sum_exactLevel _ _ _

/-- The frequencies of tokens are fixed by how often each token of the vocabulary occurs: neither
the order of the tokens nor what the unknown ones are makes a difference. -/
theorem ofTokens_weighs (v : Vocabulary) (ts : List Text) :
    (ofTokens v ts = .error .emptyInput ↔ ts = []) ∧
      (ts ≠ [] → ∃ f, ofTokens v ts = .ok f ∧ Weighs v ts f) ∧
      (∀ us : List Text, us.Perm ts → ofTokens v us = ofTokens v ts) ∧
      ∀ us : List Text, List.Forall₂ (Exchangeable v) us ts → ofTokens v us = ofTokens v ts := by
  refine ⟨⟨fun h => ?_, ?_⟩, fun hts => ?_, fun us => ofTokens_perm v, fun us => ofTokens_exchange⟩
  · by_contra hts
    rw [ofTokens_eq_ok v hts] at h
    cases h
  · rintro rfl
    exact ofTokens_nil
  · exact ⟨_, ofTokens_eq_ok v hts, weighs_of_ofTokens (ofTokens_eq_ok v hts)⟩

theorem endLoopEnd_weighs : ∃ (v : Vocabulary) (f : Frequency),
    ofTokens v ["end", "loop", "end"] = .ok f ∧
      f.knownCount = 2 ∧ f.nonzero = [(0, level 3 2)] ∧
      ofTokens v ["loop", "end", "end"] = .ok f ∧ ofTokens v ["end", "while", "end"] = .ok f := by
  let v : Vocabulary := ⟨[("end", 0), ("if", 1)], by decide, by decide, by decide⟩
  obtain ⟨-, hok, hperm, hexchange⟩ := ofTokens_weighs v ["end", "loop", "end"]
  obtain ⟨f, hf, hweighs⟩ := hok (by decide)
  refine ⟨v, f, hf, hweighs.knownCount.trans (by decide), ?_, ?_, ?_⟩
  · rw [hweighs.nonzero (hweighs.share_pos 2 (by decide) (by decide))]
    rfl
  · rw [hperm _ (by decide), hf]
  · rw [hexchange _ (.cons (.inl rfl) (.cons (.inr ⟨rfl, rfl⟩) (.cons (.inl rfl) .nil))), hf]

end Polyglot.Frequency
