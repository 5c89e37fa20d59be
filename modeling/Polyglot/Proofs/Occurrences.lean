import Polyglot.Proofs.Frequency

/-! # What a frequency vector holds

The entry of a feature is made by one addition for each occurrence of its token. It depends on how
often the token occurs and on how many tokens there are, and neither on the order of the tokens nor
on any other token.
-/

namespace Polyglot.Frequency

/-- How often the token with an id occurs. -/
def occurrences (v : Vocabulary) (ts : List Text) (id : Nat) : Nat :=
  ts.countP fun token => v.lookup token = some id

/-- The entry of a feature that occurs `k` times among `n` tokens. -/
def level (n k : Nat) : Float := (· + share n)^[k] 0

/-- Without an occurrence nothing is added, however large a share would be. -/
@[simp] theorem level_zero (n : Nat) : level n 0 = 0 := rfl

variable {v : Vocabulary} {ts : List Text} {f : Frequency}

theorem getElem?_count (amount : Float) (f : Frequency) (token : Text) (id : Nat) :
    (count v amount f token).values[id]? =
      if v.lookup token = some id then f.values[id]?.map (· + amount) else f.values[id]? := by
  rw [count]
  cases hlookup : v.lookup token with
  | none => simp
  | some found =>
      rw [List.getElem?_modify]
      by_cases hid : found = id <;> simp [hid]

theorem getElem?_foldl_count (amount : Float) (ts : List Text) (f : Frequency) (id : Nat) :
    (ts.foldl (count v amount) f).values[id]? =
      f.values[id]?.map (· + amount)^[occurrences v ts id] := by
  induction ts generalizing f with
  | nil => simp [occurrences]
  | cons token ts ih =>
      rw [List.foldl_cons, ih, getElem?_count]
      by_cases htoken : v.lookup token = some id
      · simp [htoken, occurrences, Function.iterate_succ]
      · simp [htoken, occurrences]

theorem knownCount_foldl_count (amount : Float) (ts : List Text) (f : Frequency) :
    (ts.foldl (count v amount) f).knownCount =
      f.knownCount + ts.countP fun token => (v.lookup token).isSome := by
  induction ts generalizing f with
  | nil => simp
  | cons token ts ih =>
      rw [List.foldl_cons, ih, List.countP_cons, count]
      cases hlookup : v.lookup token with
      | none => simp
      | some id => simp; omega

/-- What is counted of a text with tokens. -/
structure Counts (v : Vocabulary) (ts : List Text) (f : Frequency) : Prop where
  ne_nil : ts ≠ []
  values : ∀ id < v.size, f.values[id]? = some (level ts.length (occurrences v ts id))
  tokenCount : f.tokenCount = ts.length
  knownCount : f.knownCount = ts.countP fun token => (v.lookup token).isSome

theorem counts_of_ofTokens (h : ofTokens v ts = .ok f) : Counts v ts f := by
  unfold ofTokens at h
  split at h
  next => cases h
  next hts =>
    cases h
    refine ⟨by simpa using hts, ?_, ?_, ?_⟩
    · intro id hid
      simp [getElem?_foldl_count, hid, level]
    · exact (foldl_count _ ts _).2.1
    · simp [knownCount_foldl_count]

/-- Features of the vocabulary are read at the entry that their occurrences make. -/
theorem Counts.get (h : Counts v ts f) {id : Nat} (hid : id < v.size) :
    f.get id 0 = level ts.length (occurrences v ts id) := by
  have hvalue : value? f.values (id : Int) = f.values[id]? := rfl
  rw [Frequency.get, hvalue, h.values id hid, Option.getD_some]

/-- The occurrences of an id are those of the token that has it. -/
theorem occurrences_eq_count {token : Text} {id : Nat} (hid : v.lookup token = some id)
    (ts : List Text) : occurrences v ts id = ts.count token := by
  apply List.countP_congr
  intro other _
  simp only [decide_eq_true_eq, beq_iff_eq]
  constructor
  · exact fun hother => Vocabulary.lookup_injective hother hid
  · rintro rfl
    exact hid

end Polyglot.Frequency
