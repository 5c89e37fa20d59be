import Polyglot.Vocabulary

/-! # Frequencies

The tokens of a text share a mass of one thousand evenly. A token of the vocabulary adds its share
to the entry with its id, by one addition of doubles for each occurrence; the share of any other
token is lost.
-/

namespace Polyglot

/-- The entries of a text, by id, with the number of its tokens and how many of them are known. -/
structure Frequency where
  values : List Float
  tokenCount : Nat
  knownCount : Nat

namespace Frequency

/-- The mass of a text whose tokens are all known. -/
def scale : Float := 1000

/-- The share of one of `n` tokens. -/
def share (n : Nat) : Float := scale / Float.ofNat n

/-- Adds the share of a token to the entry with its id. -/
def count (vocabulary : Vocabulary) (amount : Float) (f : Frequency) (token : Text) : Frequency :=
  match vocabulary.lookup token with
  | none => f
  | some id => { f with values := f.values.modify id (· + amount), knownCount := f.knownCount + 1 }

/-- The frequencies of a list of tokens; a list without tokens has none. -/
def ofTokens (vocabulary : Vocabulary) (ts : List Text) : Except Fault Frequency :=
  if ts.isEmpty then .error .emptyInput
  else
    let zero : Frequency := ⟨List.replicate vocabulary.size 0, ts.length, 0⟩
    .ok (ts.foldl (count vocabulary (share ts.length)) zero)

/-- The entry with an id; a negative id has none. -/
def value? {α : Type} (entries : List α) : Int → Option α
  | .ofNat id => entries[id]?
  | .negSucc _ => none

/-- The entry of a feature, and a default for an id that has no entry. -/
def get (f : Frequency) (feature : Int) (default : Float) : Float :=
  (value? f.values feature).getD default

/-- The sum of all entries, from the first to the last. -/
def total (f : Frequency) : Float := f.values.foldl (· + ·) 0

/-- The ids with an entry that is not zero, with their entries. -/
def nonzero (f : Frequency) : List (Nat × Float) :=
  (f.values.zipIdx.map fun (x, id) => (id, x)).filter fun e => e.2 != 0

end Frequency

end Polyglot
