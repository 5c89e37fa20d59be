import Mathlib.Data.List.Perm.Subperm
import Mathlib.Data.List.Range
import Polyglot.LabelTable
import Polyglot.Proofs.Entries
import Polyglot.Proofs.Outcome

/-! # Numberings without gaps

Distinct numbers below their count are all the numbers below it. Therefore every id below the size
of a label table has a symbol, distinct ids have distinct symbols, and every token of a vocabulary
has an id below its size.
-/

namespace Polyglot

theorem perm_range_of_nodup {ids : List Nat} (hnodup : ids.Nodup)
    (hlt : ∀ id ∈ ids, id < ids.length) : ids.Perm (List.range ids.length) :=
  (List.subperm_of_subset hnodup fun id hid => List.mem_range.mpr (hlt id hid)).perm_of_length_le
    (by simp)

/-- If all numbers below the length of a list are in it, then there is nothing else in it. -/
theorem lt_of_forall_mem {ids : List Int}
    (hall : ∀ id : Nat, id < ids.length → (id : Int) ∈ ids) :
    ∀ id ∈ ids, 0 ≤ id ∧ id < ids.length := by
  have hsubset : (List.range ids.length).map (fun id : Nat => (id : Int)) ⊆ ids := by
    intro id hid
    obtain ⟨n, hn, rfl⟩ := List.mem_map.mp hid
    exact hall n (List.mem_range.mp hn)
  have hrange : ((List.range ids.length).map fun id : Nat => (id : Int)).Nodup :=
    List.nodup_range.map fun _ _ => Int.ofNat_inj.mp
  -- These numbers are as many distinct members as the list has places.
  have hperm := (List.subperm_of_subset hrange hsubset).perm_of_length_le (by simp)
  intro id hid
  obtain ⟨n, hn, rfl⟩ := List.mem_map.mp (hperm.mem_iff.mpr hid)
  have := List.mem_range.mp hn
  omega

theorem Vocabulary.lookup_lt {v : Vocabulary} {token : Text} {id : Nat}
    (hid : v.lookup token = some id) : id < v.size :=
  v.ids_lt _ (Entries.mem_of_get? hid)

theorem Vocabulary.lookup_eq_some {v : Vocabulary} {token : Text} {id : Nat} :
    v.lookup token = some id ↔ (token, id) ∈ v.entries :=
  Entries.get?_eq_some_iff v.tokens_nodup

theorem Vocabulary.perm_ids (v : Vocabulary) :
    (v.entries.map Prod.snd).Perm (List.range v.size) := by
  have hlength : (v.entries.map Prod.snd).length = v.size := List.length_map _
  rw [← hlength]
  apply perm_range_of_nodup v.ids_nodup
  intro id hid
  obtain ⟨e, he, rfl⟩ := List.mem_map.mp hid
  rw [List.length_map]
  exact v.ids_lt e he

theorem Vocabulary.exists_lookup {v : Vocabulary} {id : Nat} (hid : id < v.size) :
    ∃ token, v.lookup token = some id := by
  have hmem : id ∈ v.entries.map Prod.snd := v.perm_ids.mem_iff.mpr (List.mem_range.mpr hid)
  obtain ⟨e, he, rfl⟩ := List.mem_map.mp hmem
  exact ⟨e.1, lookup_eq_some.mpr he⟩

/-- Two tokens with the same id are the same token. -/
theorem Vocabulary.lookup_injective {v : Vocabulary} {t u : Text} {id : Nat}
    (ht : v.lookup t = some id) (hu : v.lookup u = some id) : t = u := by
  have heq := List.inj_on_of_nodup_map v.ids_nodup (lookup_eq_some.mp ht) (lookup_eq_some.mp hu) rfl
  exact (Prod.mk.inj heq).1

namespace LabelTable

variable {table : LabelTable}

theorem perm_ids (table : LabelTable) :
    (table.entries.map Prod.fst).Perm (List.range table.size) := by
  have hlength : (table.entries.map Prod.fst).length = table.size := List.length_map _
  rw [← hlength]
  apply perm_range_of_nodup table.ids_nodup
  intro id hid
  obtain ⟨e, he, rfl⟩ := List.mem_map.mp hid
  rw [List.length_map]
  exact table.ids_lt e he

theorem mem_keys {id : Nat} : id ∈ Entries.keys table.entries ↔ id < table.size :=
  table.perm_ids.mem_iff.trans List.mem_range

theorem symbol?_ofNat_eq_some {id : Nat} {symbol : Text} :
    table.symbol? id = some symbol ↔ (id, symbol) ∈ table.entries :=
  Entries.get?_eq_some_iff table.ids_nodup

/-- The ids of a table are the numbers below its size. -/
theorem symbol?_isSome {id : Int} :
    (table.symbol? id).isSome ↔ 0 ≤ id ∧ id < table.size := by
  cases id with
  | ofNat n =>
      have hiff : (Entries.get? n table.entries).isSome ↔ n < table.size :=
        Entries.get?_isSome.trans mem_keys
      simpa [symbol?] using hiff
  | negSucc n => simp [symbol?]

theorem resolve_eq_ok {id : Int} {symbol : Text} :
    table.resolve id = .ok symbol ↔ table.symbol? id = some symbol := by
  rw [resolve]
  cases table.symbol? id <;> simp

theorem exists_resolve {id : Int} (hnonneg : 0 ≤ id) (hlt : id < table.size) :
    ∃ symbol, table.resolve id = .ok symbol := by
  obtain ⟨symbol, hsymbol⟩ := Option.isSome_iff_exists.mp (symbol?_isSome.mpr ⟨hnonneg, hlt⟩)
  exact ⟨symbol, resolve_eq_ok.mpr hsymbol⟩

theorem mem_entries_of_resolve {id : Int} {symbol : Text}
    (h : table.resolve id = .ok symbol) : (id.toNat, symbol) ∈ table.entries ∧ 0 ≤ id := by
  rw [resolve_eq_ok] at h
  cases id with
  | ofNat n => exact ⟨symbol?_ofNat_eq_some.mp h, Int.natCast_nonneg n⟩
  | negSucc n => cases h

/-- Two ids with the same symbol are the same id. -/
theorem resolve_injective {i j : Int} {symbol : Text} (hi : table.resolve i = .ok symbol)
    (hj : table.resolve j = .ok symbol) : i = j := by
  obtain ⟨hmemi, hi⟩ := mem_entries_of_resolve hi
  obtain ⟨hmemj, hj⟩ := mem_entries_of_resolve hj
  have heq := List.inj_on_of_nodup_map table.symbols_nodup hmemi hmemj rfl
  have := (Prod.mk.inj heq).1
  omega

/-- The languages are the symbols of the ids. -/
theorem mem_languages_of_resolve {id : Int} {symbol : Text}
    (h : table.resolve id = .ok symbol) : symbol ∈ table.languages := by
  obtain ⟨hmem, _⟩ := mem_entries_of_resolve h
  have hlt : id.toNat < table.size := table.ids_lt _ hmem
  exact List.mem_filterMap.mpr
    ⟨id.toNat, List.mem_range.mpr hlt, symbol?_ofNat_eq_some.mpr hmem⟩

/-- An id without a symbol is a fault that shows the id, if it can be shown. -/
theorem resolve_eq_error {id : Int} {fault : Fault} :
    table.resolve id = .error fault ↔
      fault = unknownKey (.int id) ∧ ¬(0 ≤ id ∧ id < table.size) := by
  rw [← symbol?_isSome, resolve]
  cases table.symbol? id with
  | none => simp [eq_comm]
  | some symbol => simp

theorem symbol?_of_lt {id : Nat} (hlt : id < table.size) :
    table.symbol? id = some ((table.symbol? id).getD []) := by
  have hbounds : 0 ≤ (id : Int) ∧ (id : Int) < table.size := by omega
  obtain ⟨symbol, hsymbol⟩ := Option.isSome_iff_exists.mp (symbol?_isSome.mpr hbounds)
  rw [hsymbol, Option.getD_some]

/-- No id is passed over in the list of the languages. -/
theorem languages_eq_map (table : LabelTable) :
    table.languages = (List.range table.size).map fun id : Nat => (table.symbol? id).getD [] := by
  rw [languages, ← List.filterMap_eq_map]
  apply List.filterMap_congr
  intro id hid
  exact symbol?_of_lt (List.mem_range.mp hid)

theorem length_languages (table : LabelTable) : table.languages.length = table.size := by
  rw [languages_eq_map, List.length_map, List.length_range]

/-- The languages stand at the places that their ids say. -/
theorem getElem?_languages (table : LabelTable) (id : Nat) :
    table.languages[id]? = table.symbol? id := by
  rcases Nat.lt_or_ge id table.size with hlt | hge
  · rw [languages_eq_map, List.getElem?_map, List.getElem?_range hlt, Option.map_some,
      ← symbol?_of_lt hlt]
  · have hnone : ¬(table.symbol? id).isSome := by
      rw [symbol?_isSome]
      omega
    rw [List.getElem?_eq_none (table.length_languages.trans_le hge)]
    exact (Option.not_isSome_iff_eq_none.mp hnone).symm

end LabelTable

end Polyglot
