import Mathlib.Data.Set.Function
import Mathlib.Order.Interval.Set.Defs
import Polyglot.Proofs.Refusal
import Polyglot.Proofs.Settled

/-! # Lists that name numbers

The lists that are read as label tables are those that pair the numbers below their count, of which
there is at least one, with distinct symbols, in any order. Every other list is refused for the
first item that is at fault or, where there is none, because it is empty or a number has no symbol.
In a table the numbers and the symbols belong together one to one.
-/

namespace Polyglot.LabelTable

/-- Holds of a list that pairs the numbers below its count with distinct symbols, none of them
blank. -/
structure IsNaming (pairs : List Json) (es : List (Nat × Text)) : Prop where
  listed : pairs = es.map pair
  nonempty : es ≠ []
  symbols_visible : ∀ e ∈ es, ¬Text.isBlank e.2
  symbols_nodup : (es.map Prod.snd).Nodup
  ids_perm : (es.map Prod.fst).Perm (List.range es.length)

theorem ofList_eq_ok_iff_isNaming {pairs : List Json} {table : LabelTable} :
    ofList pairs = .ok table ↔ IsNaming pairs table.entries := by
  rw [ofList_eq_ok]
  constructor
  · rintro ⟨hlisted, hvisible⟩
    exact ⟨hlisted, table.ne_nil, hvisible, table.symbols_nodup, table.perm_ids⟩
  · intro h
    exact ⟨h.listed, h.symbols_visible⟩

theorem exists_ofList_iff {pairs : List Json} :
    (∃ table, ofList pairs = .ok table) ↔ ∃ es, IsNaming pairs es := by
  constructor
  · rintro ⟨table, htable⟩
    exact ⟨table.entries, ofList_eq_ok_iff_isNaming.mp htable⟩
  · rintro ⟨es, h⟩
    obtain ⟨table, htable, -⟩ := exists_ofList (List.Perm.of_eq h.listed) h.symbols_visible
      h.nonempty h.ids_perm h.symbols_nodup
    exact ⟨table, htable⟩

/-! ## Flaws -/

/-- Relates an item to its flaw, in view of the items before it. -/
inductive Flawed (before : List Json) : Json → LabelFlaw → Prop where
  | noPair {item : Json} (other : ∀ first second, item ≠ .list [first, second]) :
      Flawed before item (.noPair before.length)
  | badId {first second : Json} (other : ∀ id : Nat, first ≠ .int id) :
      Flawed before (.list [first, second]) (.badId before.length)
  | badSymbol {id : Nat} {second : Json}
      (other : ∀ symbol, ¬Text.isBlank symbol → second ≠ .text symbol) :
      Flawed before (.list [.int id, second]) (.badSymbol before.length)
  | duplicateId {id : Nat} {symbol : Text} (visible : ¬Text.isBlank symbol)
      (old : ∃ other, .list [.int id, .text other] ∈ before) :
      Flawed before (.list [.int id, .text symbol]) (.duplicateId id)
  | duplicateSymbol {id : Nat} {symbol : Text} (visible : ¬Text.isBlank symbol)
      (new : ∀ other, .list [.int id, .text other] ∉ before)
      (old : ∃ other : Nat, .list [.int other, .text symbol] ∈ before) :
      Flawed before (.list [.int id, .text symbol]) (.duplicateSymbol symbol)

section Draft

variable {d : Draft}

/-- The items that a draft was read from. -/
def Draft.items (d : Draft) : List Json := d.entries.map pair

theorem Draft.length_items : d.items.length = d.entries.length := List.length_map _

theorem Draft.mem_items {id : Nat} {symbol : Text} :
    .list [.int id, .text symbol] ∈ d.items ↔ (id, symbol) ∈ d.entries := by
  simp [items, pair]

theorem Draft.mem_ids {id : Nat} :
    id ∈ d.entries.map Prod.fst ↔ ∃ symbol, .list [.int id, .text symbol] ∈ d.items := by
  simp [mem_items]

theorem Draft.mem_symbols {symbol : Text} :
    symbol ∈ d.entries.map Prod.snd ↔ ∃ id : Nat, .list [.int id, .text symbol] ∈ d.items := by
  simp [mem_items]

theorem Draft.flawed_of_add {item : Json} {flaw : LabelFlaw}
    (h : d.add d.items.length item = .error flaw) : Flawed d.items item flaw := by
  -- In the order of the tests: the form of the id, that of the symbol, and what is old.
  unfold Draft.add at h
  split at h
  next id second =>
    split at h
    next symbol =>
      split at h
      next hblank =>
        cases h
        refine @Flawed.badSymbol _ id _ ?_
        rintro _ hvisible ⟨⟩
        exact hvisible hblank
      next hvisible =>
        split at h
        next hold =>
          cases h
          exact .duplicateId hvisible (mem_ids.mp hold)
        next hnew =>
          split at h
          next hold =>
            cases h
            exact .duplicateSymbol hvisible (not_exists.mp (mem_ids.not.mp hnew))
              (mem_symbols.mp hold)
          next => cases h
    next hother =>
      cases h
      refine @Flawed.badSymbol _ id _ ?_
      rintro symbol - rfl
      exact hother symbol rfl
  next first second hother =>
    cases h
    refine .badId ?_
    rintro id rfl
    exact hother id rfl
  next hother =>
    cases h
    exact .noPair hother

theorem Flawed.add_eq_error {item : Json} {flaw : LabelFlaw} (h : Flawed d.items item flaw) :
    d.add d.items.length item = .error flaw := by
  cases h with
  | noPair other =>
      unfold Draft.add
      split
      next => exact absurd rfl (other _ _)
      next => exact absurd rfl (other _ _)
      next => rfl
  | badId other =>
      unfold Draft.add
      split
      next id _ heq =>
        cases heq
        exact absurd rfl (other id)
      next => rfl
      next hother => exact absurd rfl (hother _ _)
  | badSymbol other =>
      rw [Draft.add.eq_def]
      dsimp only
      split
      next symbol =>
        have hblank : Text.isBlank symbol := not_not.mp fun hvisible => other symbol hvisible rfl
        rw [if_pos hblank]
      next => rfl
  | duplicateId visible old =>
      rw [Draft.add.eq_def]
      simp only [if_neg visible, dif_pos (Draft.mem_ids.mpr old)]
  | duplicateSymbol visible new old =>
      have hnew := Draft.mem_ids.not.mpr (not_exists.mpr new)
      rw [Draft.add.eq_def]
      simp only [if_neg visible, dif_neg hnew, dif_pos (Draft.mem_symbols.mpr old)]

/-- An item is refused after those of a draft for its flaw, and taken where it has none. -/
theorem Draft.add_eq_error {item : Json} {flaw : LabelFlaw} :
    d.add d.entries.length item = .error flaw ↔ Flawed d.items item flaw := by
  rw [← length_items]
  exact ⟨flawed_of_add, Flawed.add_eq_error⟩

end Draft

section List

variable {pairs : List Json}

/-- If all numbers below their count are ids, then the ids of a draft have no gaps. -/
theorem Draft.lt_of_forall_mem_ids {d : Draft}
    (hall : ∀ id < d.entries.length, id ∈ d.entries.map Prod.fst) :
    ∀ e ∈ d.entries, e.1 < d.entries.length := by
  let ids := (d.entries.map Prod.fst).map fun id : Nat => (id : Int)
  have hlength : ids.length = d.entries.length := by simp [ids]
  have hids : ∀ id : Nat, id < ids.length → (id : Int) ∈ ids :=
    fun id hid => List.mem_map_of_mem (hall id (hlength ▸ hid))
  intro e he
  have hbounds := lt_of_forall_mem hids e.1 (List.mem_map_of_mem (List.mem_map_of_mem he))
  omega

/-- The pairs that have been read make no table exactly if there are none, or if a number below
their count is missing. -/
theorem Draft.seal_eq_error {d : Draft} {flaw : LabelFlaw} :
    d.seal = .error flaw ↔ (flaw = .empty ∧ d.entries = []) ∨
      (flaw = .sparse ∧ ∃ id < d.entries.length, id ∉ d.entries.map Prod.fst) := by
  cases hseal : d.seal with
  | ok table =>
      have hentries := Draft.seal_eq_ok.mp hseal
      refine iff_of_false nofun ?_
      rintro (⟨-, hnone⟩ | ⟨-, id, hlt, hmissing⟩)
      · exact table.ne_nil (hentries ▸ hnone)
      · rw [hentries] at hlt hmissing
        exact hmissing (mem_keys.mpr hlt)
  | error found =>
      rw [Except.error.injEq]
      unfold Draft.seal at hseal
      split at hseal
      next hnone =>
        cases hseal
        simp [hnone, eq_comm]
      next hsome =>
        split at hseal
        next => cases hseal
        next hgaps =>
          cases hseal
          simp only [hsome, and_false, false_or, eq_comm (a := LabelFlaw.sparse), iff_self_and]
          rintro -
          by_contra hall
          push Not at hall
          exact hgaps (lt_of_forall_mem_ids hall)

/-- Relates a list to the flaw that it is refused for: the flaw of the first item at fault or, where
no item is at fault, that there is none, or that a number below the length has no symbol. -/
inductive IsRefusedFor (pairs : List Json) : LabelFlaw → Prop where
  | item {flaw : LabelFlaw} (first : FirstFlaw Flawed pairs flaw) : IsRefusedFor pairs flaw
  | empty (nothing : pairs = []) : IsRefusedFor pairs .empty
  | gap {id : Nat} (flawless : IsFlawless Flawed pairs) (lt : id < pairs.length)
      (missing : ∀ symbol, .list [.int id, .text symbol] ∉ pairs) : IsRefusedFor pairs .sparse

theorem exists_draft_iff :
    (∃ d, pairs.zipIdx.foldlM (fun d (item, index) => Draft.add d index item) Draft.empty = .ok d) ↔
      IsFlawless Flawed pairs :=
  Draft.collects.exists_foldlM_eq_ok Draft.add_eq_error rfl

/-- A draft of a list can be sealed unless the list is empty or leaves a number out. -/
theorem seal_eq_error_of_draft {d : Draft} {flaw : LabelFlaw}
    (hread : pairs.zipIdx.foldlM (fun d (item, index) => Draft.add d index item) Draft.empty =
      .ok d) :
    d.seal = .error flaw ↔ (flaw = .empty ∧ pairs = []) ∨
      (flaw = .sparse ∧ ∃ id < pairs.length, ∀ symbol, .list [.int id, .text symbol] ∉ pairs) := by
  obtain rfl : d.items = pairs := Draft.collects.map_form_of_foldlM rfl hread
  have hnil : d.items = [] ↔ d.entries = [] := List.map_eq_nil_iff
  rw [Draft.seal_eq_error, Draft.length_items, hnil]
  simp only [Draft.mem_ids, not_exists]

theorem ofList_eq_error {flaw : LabelFlaw} :
    ofList pairs = .error flaw ↔ IsRefusedFor pairs flaw := by
  rw [ofList, Outcome.bind_eq_error, Draft.collects.foldlM_eq_error Draft.add_eq_error rfl]
  constructor
  · rintro (hfirst | ⟨d, hread, hseal⟩)
    · exact .item hfirst
    · rcases (seal_eq_error_of_draft hread).mp hseal with
        ⟨rfl, hnothing⟩ | ⟨rfl, id, hlt, hmissing⟩
      · exact .empty hnothing
      · exact .gap (exists_draft_iff.mp ⟨d, hread⟩) hlt hmissing
  · rintro (hfirst | hnothing | ⟨hflawless, hlt, hmissing⟩)
    · exact .inl hfirst
    · subst hnothing
      exact .inr ⟨Draft.empty, rfl, rfl⟩
    · obtain ⟨d, hread⟩ := exists_draft_iff.mpr hflawless
      exact .inr ⟨d, hread, (seal_eq_error_of_draft hread).mpr (.inr ⟨rfl, _, hlt, hmissing⟩)⟩

/-! ## Outcomes -/

/-- Holds of a flaw that cannot be told, since its message would show an id with too many digits. -/
def isUnshown : LabelFlaw → Bool
  | .duplicateId id => Json.isLong id
  | _ => false

/-- What a list is refused with for a flaw: the id that cannot be shown is a fault of its own. -/
def refusal (flaw : LabelFlaw) : Fault :=
  if isUnshown flaw then .integer .longInteger else .malformedModel (.labels flaw)

/-- No list that was read from a text is refused so: the reader refuses such integers itself. -/
theorem isUnshown_of_decode {depth : ℕ} {source : Text} {flaw : LabelFlaw}
    (hsource : Json.IsScalar source) (h : Json.decode depth source = .ok (.list pairs))
    (hrefused : IsRefusedFor pairs flaw) : isUnshown flaw = false := by
  cases flaw with
  | duplicateId id =>
      obtain ⟨before, item, after, rfl, -, hflaw⟩ | _ | _ := hrefused
      cases hflaw with
      | duplicateId =>
          exact Json.isLong_of_decode hsource h (List.mem_append_right _ List.mem_cons_self)
            List.mem_cons_self
  | _ => rfl

/-- The fault of asking for an id without a symbol: that the id is not known, or that it has too
many digits to be shown. -/
def unlisted (id : Int) : Fault :=
  if Json.isLong id then .integer .longInteger else .unknownLabel (Text.ofInt id)

theorem unknownKey_int (id : Int) : unknownKey (.int id) = unlisted id := by
  rw [unknownKey, Json.obstacle?_int, unlisted]
  by_cases hlong : Json.isLong id
  · rw [if_pos hlong, if_pos hlong]
    rfl
  · rw [if_neg hlong, if_neg hlong]
    rfl

theorem resolve_iff_listed {table : LabelTable} (hlisted : pairs = table.entries.map pair)
    (id : Int) (symbol : Text) :
    table.resolve id = .ok symbol ↔ .list [.int id, .text symbol] ∈ pairs := by
  rw [hlisted, List.mem_map]
  constructor
  · intro hresolve
    obtain ⟨hmem, hnonneg⟩ := mem_entries_of_resolve hresolve
    refine ⟨_, hmem, ?_⟩
    rw [pair, Int.toNat_of_nonneg hnonneg]
  · rintro ⟨⟨n, _⟩, he, heq⟩
    cases heq
    exact resolve_eq_ok.mpr (symbol?_ofNat_eq_some.mpr he)

theorem bijOn_resolve (table : LabelTable) :
    Set.BijOn table.resolve (Set.Ico 0 table.size)
      (Except.ok '' {symbol | ∃ id, table.resolve id = .ok symbol}) := by
  refine ⟨?_, ?_, ?_⟩
  · rintro id ⟨hnonneg, hlt⟩
    obtain ⟨symbol, hsymbol⟩ := exists_resolve hnonneg hlt
    exact ⟨symbol, ⟨id, hsymbol⟩, hsymbol.symm⟩
  · rintro id ⟨hnonneg, hlt⟩ other - heq
    obtain ⟨symbol, hsymbol⟩ := exists_resolve hnonneg hlt
    exact resolve_injective hsymbol (heq.symm.trans hsymbol)
  · rintro _ ⟨symbol, ⟨id, hsymbol⟩, rfl⟩
    obtain ⟨hmem, hnonneg⟩ := mem_entries_of_resolve hsymbol
    have hlt : id.toNat < table.size := table.ids_lt _ hmem
    exact ⟨id, ⟨hnonneg, by omega⟩, hsymbol⟩

/-- Tables with the same entries in another order have the same symbols in the same order. -/
theorem symbol?_eq_of_perm {table table' : LabelTable} (hperm : table'.entries.Perm table.entries)
    (id : Int) : table'.symbol? id = table.symbol? id := by
  cases id with
  | ofNat n => exact Entries.get?_eq_of_perm table'.ids_nodup hperm n
  | negSucc n => rfl

variable [Limits]

/-- Holds of a table that names the numbers below its size as a list does, one to one, in whatever
order the pairs of the list stand. -/
structure Represents (table : LabelTable) (pairs : List Json) : Prop where
  size : table.size = pairs.length
  resolve : ∀ (id : Int) symbol,
    table.resolve id = .ok symbol ↔ .list [.int id, .text symbol] ∈ pairs
  bijective : Set.BijOn table.resolve (Set.Ico 0 pairs.length)
    (Except.ok '' {symbol | ∃ id, .list [.int id, .text symbol] ∈ pairs})
  unlisted : ∀ id : Int, table.resolve id = .error (unlisted id) ↔
    id ∉ Set.Ico 0 (pairs.length : Int)
  length_languages : table.languages.length = pairs.length
  languages : ∀ (id : Nat) symbol,
    table.languages[id]? = some symbol ↔ table.resolve id = .ok symbol
  reordered : ∀ other : List Json, other.Perm pairs → ∃ table', ofJson (.list other) = .ok table' ∧
    table'.size = table.size ∧ (∀ id, table'.resolve id = table.resolve id) ∧
    table'.languages = table.languages

theorem ofJson_list_eq_ok {table : LabelTable} :
    ofJson (.list pairs) = .ok table ↔ ofList pairs = .ok table := Outcome.mapError_eq_ok

theorem represents_of_ofList {table : LabelTable} (htable : ofList pairs = .ok table) :
    Represents table pairs := by
  have hnaming := ofList_eq_ok_iff_isNaming.mp htable
  have hsize : table.size = pairs.length := by rw [hnaming.listed, List.length_map, size]
  have hresolve := resolve_iff_listed hnaming.listed
  have hbijective := bijOn_resolve table
  simp only [hresolve, hsize] at hbijective
  refine ⟨hsize, hresolve, hbijective, ?_, table.length_languages.trans hsize, ?_, ?_⟩
  · intro id
    rw [resolve_eq_error, unknownKey_int, hsize, Set.mem_Ico]
    exact and_iff_right rfl
  · intro id symbol
    rw [getElem?_languages, resolve_eq_ok]
  · intro other hother
    rw [hnaming.listed] at hother
    obtain ⟨table', htable', hperm⟩ := exists_ofList hother hnaming.symbols_visible
      hnaming.nonempty hnaming.ids_perm hnaming.symbols_nodup
    have hsymbol := symbol?_eq_of_perm hperm
    refine ⟨table', ofJson_list_eq_ok.mpr htable', hperm.length_eq, ?_, ?_⟩
    · intro id
      rw [LabelTable.resolve, hsymbol, LabelTable.resolve]
    · rw [languages_eq_map, languages_eq_map, size, hperm.length_eq, size]
      simp only [hsymbol]

theorem fault_eq_refusal (flaw : LabelFlaw) : (ModelFlaw.labels flaw).fault = refusal flaw := by
  cases flaw with
  | duplicateId id =>
      rw [ModelFlaw.fault, ModelFlaw.obstacle?, Json.obstacle?_int, refusal, isUnshown]
      by_cases hlong : Json.isLong id
      · rw [if_pos hlong, if_pos hlong]
        rfl
      · rw [if_neg hlong, if_neg hlong]
  | _ => rfl

theorem ofJson_eq_refusal {flaw : LabelFlaw} (hrefused : IsRefusedFor pairs flaw) :
    ofJson (.list pairs) = .error (refusal flaw) :=
  Outcome.mapError_eq_error.mpr ⟨flaw, ofList_eq_error.mpr hrefused, fault_eq_refusal flaw⟩

/-- A list is read as a label table if and only if it names the numbers below its length, and the
table names them as the list does. Any other list is refused for its flaw, which can be told unless
an id with too many digits is repeated. In a list that was read from a text there is no such id. -/
theorem ofJson_reads_namings (pairs : List Json) :
    ((∃ table, ofJson (.list pairs) = .ok table) ↔ ∃ es, IsNaming pairs es) ∧
      (∀ table, ofJson (.list pairs) = .ok table → Represents table pairs) ∧
      ((¬∃ es, IsNaming pairs es) ↔ ∃ flaw, IsRefusedFor pairs flaw) ∧
      (∀ flaw, IsRefusedFor pairs flaw → ofJson (.list pairs) = .error (refusal flaw)) ∧
      ∀ depth source, Json.IsScalar source → Json.decode depth source = .ok (.list pairs) →
        ∀ flaw, IsRefusedFor pairs flaw → isUnshown flaw = false := by
  simp only [ofJson_list_eq_ok]
  refine ⟨exists_ofList_iff, fun table => represents_of_ofList, ?_, fun _ => ofJson_eq_refusal,
    fun _ _ hsource h _ => isUnshown_of_decode hsource h⟩
  rw [← exists_ofList_iff]
  simp only [← ofList_eq_error]
  cases ofList pairs <;> simp

end List

/-- A number with more digits than a message can show. -/
def longId : Nat := Nat.pow 10 Json.digitLimit

/-- A table with one label. -/
def single : LabelTable := ⟨[(0, "ruby")], by decide, by decide, by decide, by decide⟩

/-- A list that gives two symbols to one number. -/
def repeating (id : Nat) : List Json := [.list [.int id, .text "ruby"], .list [.int id, .text "go"]]

theorem isRefusedFor_repeating (id : Nat) : IsRefusedFor (repeating id) (.duplicateId id) :=
  .item ⟨[_], _, [], rfl, exists_draft_iff.mp ⟨_, rfl⟩,
    .duplicateId (by decide) ⟨"ruby", List.mem_cons_self⟩⟩

open scoped Limits.Usual in
/-- A number without a symbol is not refused as unknown if it cannot be shown, and that it is
repeated is no flaw of a list. -/
theorem longId_escapes :
    ofJson (.list [.list [.int 0, .text "ruby"]]) = .ok single ∧ single.size ≤ longId ∧
      single.resolve longId = .error (.integer .longInteger) ∧
      ofJson (.list (repeating longId)) = .error (.integer .longInteger) := by
  have hlong : Json.isLong longId = true := by decide +kernel
  have hsize : single.size ≤ longId := by decide +kernel
  refine ⟨rfl, hsize, ?_, ?_⟩
  · refine resolve_eq_error.mpr ⟨?_, fun h => Nat.not_lt.mpr hsize (Int.ofNat_lt.mp h.2)⟩
    rw [unknownKey_int, unlisted, if_pos hlong]
  · rw [ofJson_eq_refusal (isRefusedFor_repeating longId), refusal, isUnshown, if_pos hlong]

example : ofList [.list [.int 0, .text "ruby"], .list [.bool true, .text "go"],
    .list [.int 0, .text "c"]] = .error (.badId 1) := rfl

end Polyglot.LabelTable
