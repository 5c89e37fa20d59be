import Polyglot.Frequency
import Polyglot.Proofs.Tables

/-! # The size of a frequency vector

Counting a token keeps the length of the vector and the number of tokens. It adds at most one to the
number of known tokens, and the entry that it changes is one that the vector has.
-/

namespace Polyglot.Frequency

variable {v : Vocabulary}

@[simp] theorem length_values_count (amount : Float) (f : Frequency) (token : Text) :
    (count v amount f token).values.length = f.values.length := by
  rw [count]
  split <;> simp

@[simp] theorem tokenCount_count (amount : Float) (f : Frequency) (token : Text) :
    (count v amount f token).tokenCount = f.tokenCount := by
  rw [count]
  split <;> rfl

theorem knownCount_count_le (amount : Float) (f : Frequency) (token : Text) :
    (count v amount f token).knownCount ≤ f.knownCount + 1 := by
  rw [count]
  split <;> simp

/-- What counting any number of tokens keeps, and how much it can add. -/
theorem foldl_count (amount : Float) (ts : List Text) (f : Frequency) :
    (ts.foldl (count v amount) f).values.length = f.values.length ∧
      (ts.foldl (count v amount) f).tokenCount = f.tokenCount ∧
      (ts.foldl (count v amount) f).knownCount ≤ f.knownCount + ts.length := by
  induction ts generalizing f with
  | nil => simp
  | cons token ts ih =>
      obtain ⟨hlength, htokens, hknown⟩ := ih (count v amount f token)
      have hstep := knownCount_count_le (v := v) amount f token
      rw [List.foldl_cons, List.length_cons]
      refine ⟨by simpa using hlength, by simpa using htokens, ?_⟩
      omega

/-- A vector over a vocabulary for a number of tokens. -/
structure Measures (v : Vocabulary) (ts : List Text) (f : Frequency) : Prop where
  length_values : f.values.length = v.size
  tokenCount_eq : f.tokenCount = ts.length
  knownCount_le : f.knownCount ≤ ts.length
  /-- The entry of every known token is there. -/
  lookup_lt : ∀ token ∈ ts, ∀ id ∈ v.lookup token, id < f.values.length

theorem ofTokens_nil : ofTokens v [] = .error .emptyInput := rfl

/-- At least one token gives a frequency vector. -/
theorem exists_ofTokens {ts : List Text} (hts : ts ≠ []) :
    ∃ f, ofTokens v ts = .ok f ∧ Measures v ts f := by
  refine ⟨_, if_neg (by simpa using hts), ?_⟩
  obtain ⟨hlength, htokens, hknown⟩ :=
    foldl_count (v := v) (share ts.length) ts ⟨List.replicate v.size 0, ts.length, 0⟩
  rw [List.length_replicate] at hlength
  refine ⟨hlength, htokens, by simpa using hknown, ?_⟩
  intro token _ id hid
  rw [hlength]
  exact Vocabulary.lookup_lt hid

end Polyglot.Frequency
