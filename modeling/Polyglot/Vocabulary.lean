import Polyglot.Fault

/-! # Vocabulary

A vocabulary numbers its tokens: the tokens are distinct, and their ids are exactly the numbers
below its size. It is read from a list of pairs whose order does not matter for look-up; the first
pair in the list that is at fault decides how a list is refused, and gaps between the ids are
noticed last.
-/

namespace Polyglot

/-- A numbering of tokens without gaps. -/
structure Vocabulary where
  entries : List (Text × Nat)
  tokens_nodup : (entries.map Prod.fst).Nodup
  ids_nodup : (entries.map Prod.snd).Nodup
  ids_lt : ∀ e ∈ entries, e.2 < entries.length

namespace Vocabulary

/-- The number of tokens. -/
def size (v : Vocabulary) : Nat := v.entries.length

/-- The id of a token. -/
def lookup (v : Vocabulary) (token : Text) : Option Nat := Entries.get? token v.entries

/-- The id of a key, which may be any value that can be a key; only texts are tokens. -/
def lookupKey (v : Vocabulary) : Json → Except Fault (Option Nat)
  | .text token => .ok (v.lookup token)
  | key@(.list _) => .error (.unhashable key.kindName)
  | key@(.object _) => .error (.unhashable key.kindName)
  | _ => .ok none

/-- Pairs that have been read: no token and no id occurs twice. -/
structure Draft where
  entries : List (Text × Int)
  tokens_nodup : (entries.map Prod.fst).Nodup
  ids_nodup : (entries.map Prod.snd).Nodup

/-- No pairs. -/
def Draft.empty : Draft := ⟨[], by simp, by simp⟩

/-- Reads one more pair, the one with a given index. -/
def Draft.add (d : Draft) (index : Nat) : Json → Except VocabularyFlaw Draft
  | .list [.text token, id] =>
    if token.isEmpty then .error (.badToken index)
    else
      match id with
      | .int i =>
        if newToken : token ∈ d.entries.map Prod.fst then .error (.duplicateToken token)
        else if newId : i ∈ d.entries.map Prod.snd then .error (.duplicateId i)
        else
          .ok
            { entries := d.entries ++ [(token, i)]
              tokens_nodup := by
                simp only [List.map_append, List.map_cons, List.map_nil, List.nodup_append]
                exact ⟨d.tokens_nodup, by simp, by grind⟩
              ids_nodup := by
                simp only [List.map_append, List.map_cons, List.map_nil, List.nodup_append]
                exact ⟨d.ids_nodup, by simp, by grind⟩ }
      | _ => .error (.badId index)
  | .list [_, _] => .error (.badToken index)
  | _ => .error (.noPair index)

/-- Makes a vocabulary of the pairs that have been read, if their ids have no gaps. -/
def Draft.seal (d : Draft) : Except VocabularyFlaw Vocabulary :=
  if dense : ∀ e ∈ d.entries, 0 ≤ e.2 ∧ e.2 < d.entries.length then
    .ok
      { entries := d.entries.map fun e => (e.1, e.2.toNat)
        tokens_nodup := by simpa [List.map_map, Function.comp_def] using d.tokens_nodup
        ids_nodup := by
          have distinct := d.ids_nodup
          simp only [List.Nodup, List.map_map, List.pairwise_map, Function.comp_def] at distinct ⊢
          refine distinct.imp_of_mem fun {a b} ha hb different => ?_
          have := dense a ha
          have := dense b hb
          omega
        ids_lt := by
          intro e he
          obtain ⟨f, hf, rfl⟩ := List.mem_map.1 he
          have := dense f hf
          simp only [List.length_map]
          omega }
  else .error .sparse

/-- Reads a list of pairs. -/
def ofList (pairs : List Json) : Except VocabularyFlaw Vocabulary := do
  let draft ← pairs.zipIdx.foldlM (fun d (item, index) => d.add index item) Draft.empty
  draft.seal

end Vocabulary

/-- The values that a table can be read from: the items of a list, the keys of an object, or the
code points of a text. -/
def Json.elements : Json → Except Fault (List Json)
  | .list items => .ok items
  | .object members => .ok (members.map fun m => .text m.1)
  | .text t => .ok (t.map fun c => .text [c])
  | other => .error (.notIterable other.kindName)

/-- Reads a vocabulary from any value. -/
def Vocabulary.ofJson [Limits] (value : Json) : Except Fault Vocabulary := do
  let pairs ← value.elements
  (ofList pairs).mapError fun flaw => (ModelFlaw.vocabulary flaw).fault

end Polyglot
