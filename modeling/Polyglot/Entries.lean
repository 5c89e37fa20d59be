/-! # Entries in order of arrival

A finite table that remembers in which order its keys arrived. Writing to a key that is present
keeps its place; a new key comes last. Objects of a JSON text, caches and confusion tables are such
tables.
-/

namespace Polyglot.Entries

variable {κ α : Type} [DecidableEq κ]

/-- The value at a key. -/
def get? (key : κ) : List (κ × α) → Option α
  | [] => none
  | (k, a) :: rest => if k = key then some a else get? key rest

/-- Changes the value at a key, or puts a value there as the last entry. -/
def alter (key : κ) (change : Option α → α) : List (κ × α) → List (κ × α)
  | [] => [(key, change none)]
  | (k, a) :: rest =>
    if k = key then (k, change (some a)) :: rest else (k, a) :: alter key change rest

/-- Writes a value at a key. -/
def put (key : κ) (a : α) (entries : List (κ × α)) : List (κ × α) := alter key (fun _ => a) entries

/-- Removes a key. -/
def erase (key : κ) (entries : List (κ × α)) : List (κ × α) := entries.filter fun e => e.1 ≠ key

/-- Holds when a key is present. -/
def has (key : κ) (entries : List (κ × α)) : Bool := (get? key entries).isSome

/-- The table that arises when entries are written one after another. -/
def ofList (entries : List (κ × α)) : List (κ × α) :=
  entries.foldl (fun table e => put e.1 e.2 table) []

/-- The keys in order of arrival. -/
def keys (entries : List (κ × α)) : List κ := entries.map Prod.fst

end Polyglot.Entries
