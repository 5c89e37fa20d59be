import Polyglot.Text.Blank
import Polyglot.Vocabulary

/-! # Labels

A label table names the languages: its ids are exactly the numbers below its size, of which there
is at least one, and its symbols are distinct and not blank. It is read like a vocabulary, with the
first pair at fault deciding, and with emptiness and gaps noticed last.
-/

namespace Polyglot

/-- A numbering of language symbols without gaps. -/
structure LabelTable where
  entries : List (Nat × Text)
  ids_nodup : (entries.map Prod.fst).Nodup
  symbols_nodup : (entries.map Prod.snd).Nodup
  ids_lt : ∀ e ∈ entries, e.1 < entries.length
  ne_nil : entries ≠ []

namespace LabelTable

/-- The number of labels. -/
def size (table : LabelTable) : Nat := table.entries.length

/-- The symbol of an id. -/
def symbol? (table : LabelTable) (id : Int) : Option Text :=
  match id with
  | .ofNat n => Entries.get? n table.entries
  | .negSucc _ => none

/-- The fault of a key that names no label. A key holds no lists and no objects, but as an integer
it may have too many digits to be shown, and then the fault is another one. -/
def unknownKey (key : Json) : Fault :=
  match Json.obstacle? 0 key with
  | none => .unknownLabel (Json.display key)
  | some obstacle => .ofObstacle obstacle

/-- The symbol of an id; an id without a symbol is a fault. -/
def resolve (table : LabelTable) (id : Int) : Except Fault Text :=
  match table.symbol? id with
  | some symbol => .ok symbol
  | none => .error (unknownKey (.int id))

/-- The integer that a key equals: true counts as one, false as zero, and a double as the integer
it equals. -/
def keyId? : Json → Option Int
  | .int i => some i
  | .bool b => some (if b then 1 else 0)
  | .double x => Binary64.toInt? x
  | _ => none

/-- The symbol of a key, which may be any value that can be a key. -/
def resolveKey (table : LabelTable) (key : Json) : Except Fault Text :=
  match key with
  | .list _ | .object _ => .error (.unhashable key.kindName)
  | key =>
    match (keyId? key).bind table.symbol? with
    | some symbol => .ok symbol
    | none => .error (unknownKey key)

/-- Holds when a key names a label. -/
def hasKey (table : LabelTable) (key : Json) : Except Fault Bool :=
  match key with
  | .list _ | .object _ => .error (.unhashable key.kindName)
  | key => .ok ((keyId? key).bind table.symbol?).isSome

/-- The symbols in the order of their ids. -/
def languages (table : LabelTable) : List Text :=
  (List.range table.size).filterMap fun id => Entries.get? id table.entries

/-- Pairs that have been read: no id and no symbol occurs twice. -/
structure Draft where
  entries : List (Nat × Text)
  ids_nodup : (entries.map Prod.fst).Nodup
  symbols_nodup : (entries.map Prod.snd).Nodup

/-- No pairs. -/
def Draft.empty : Draft := ⟨[], by simp, by simp⟩

/-- Reads one more pair, the one with a given index. -/
def Draft.add (d : Draft) (index : Nat) : Json → Except LabelFlaw Draft
  | .list [.int (.ofNat id), second] =>
    match second with
    | .text symbol =>
      if Text.isBlank symbol then .error (.badSymbol index)
      else if newId : id ∈ d.entries.map Prod.fst then .error (.duplicateId id)
      else if newSymbol : symbol ∈ d.entries.map Prod.snd then .error (.duplicateSymbol symbol)
      else
        .ok
          { entries := d.entries ++ [(id, symbol)]
            ids_nodup := by
              simp only [List.map_append, List.map_cons, List.map_nil, List.nodup_append]
              exact ⟨d.ids_nodup, by simp, by grind⟩
            symbols_nodup := by
              simp only [List.map_append, List.map_cons, List.map_nil, List.nodup_append]
              exact ⟨d.symbols_nodup, by simp, by grind⟩ }
    | _ => .error (.badSymbol index)
  | .list [_, _] => .error (.badId index)
  | _ => .error (.noPair index)

/-- Makes a table of the pairs that have been read, if there are any and their ids have no gaps. -/
def Draft.seal (d : Draft) : Except LabelFlaw LabelTable :=
  if noEntries : d.entries = [] then .error .empty
  else if dense : ∀ e ∈ d.entries, e.1 < d.entries.length then
    .ok ⟨d.entries, d.ids_nodup, d.symbols_nodup, dense, noEntries⟩
  else .error .sparse

/-- Reads a list of pairs. -/
def ofList (pairs : List Json) : Except LabelFlaw LabelTable := do
  let draft ← pairs.zipIdx.foldlM (fun d (item, index) => d.add index item) Draft.empty
  draft.seal

/-- Reads a label table from any value. -/
def ofJson [Limits] (value : Json) : Except Fault LabelTable := do
  let pairs ← value.elements
  (ofList pairs).mapError fun flaw => (ModelFlaw.labels flaw).fault

end LabelTable

end Polyglot
