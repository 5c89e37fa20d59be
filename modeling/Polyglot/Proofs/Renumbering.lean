import Mathlib.Data.Set.Function
import Polyglot.Proofs.Parts

/-! # Renumbering an asset

The ids of an asset are names without a meaning of their own. Other ids for the features and for the
labels, the same ones in the tables and in the trees, and another order of the pairs give an asset
that is read too, and whose model analyses every text like the old one.
-/

namespace Polyglot

namespace Model

/-- Holds of the maps that permute the numbers below a bound. -/
def Permutes (p : Int → Int) (n : Nat) : Prop :=
  Set.BijOn p (Set.Ico 0 (n : Int)) (Set.Ico 0 (n : Int))

/-- A pair of a vocabulary with another id. -/
def renumberToken (p : Int → Int) : Json → Json
  | .list [token, .int id] => .list [token, .int (p id)]
  | other => other

/-- A pair of a label table with another id. -/
def renumberLabel (s : Int → Int) : Json → Json
  | .list [.int id, symbol] => .list [.int (s id), symbol]
  | other => other

section Permutes

variable {p : Int → Int} {n : Nat}

theorem Permutes.bounds (h : Permutes p n) {id : Int} (hid : 0 ≤ id ∧ id < n) :
    0 ≤ p id ∧ p id < n := h.mapsTo hid

/-- The numbers below the bound come out as themselves in another order. -/
theorem Permutes.perm_range (h : Permutes p n) :
    ((List.range n).map fun id : Nat => (p id).toNat).Perm (List.range n) := by
  have hrange : ∀ id ∈ List.range n, 0 ≤ p id ∧ p id < n := by
    intro id hid
    have := List.mem_range.mp hid
    exact h.bounds ⟨by omega, by omega⟩
  have hnodup : ((List.range n).map fun id : Nat => (p id).toNat).Nodup := by
    apply List.nodup_range.map_on
    intro i hi j hj heq
    have hsame : p i = p j := by
      have := hrange i hi
      have := hrange j hj
      omega
    rw [List.mem_range] at hi hj
    exact Int.ofNat_inj.mp (h.injOn ⟨by omega, by omega⟩ ⟨by omega, by omega⟩ hsame)
  have hperm := perm_range_of_nodup hnodup
  rw [List.length_map, List.length_range] at hperm
  apply hperm
  intro id hid
  obtain ⟨i, hi, rfl⟩ := List.mem_map.mp hid
  have := hrange i hi
  omega

end Permutes

/-! ## Tables -/

theorem exists_renumbered_vocabulary {p : Int → Int} {v : Vocabulary} {items items' : List Json}
    (hread : Vocabulary.ofList items = .ok v) (hp : Permutes p v.size)
    (hitems : items'.Perm (items.map (renumberToken p))) :
    ∃ v', Vocabulary.ofList items' = .ok v' ∧
      ∀ (token : Text) (id : Nat), v'.lookup token = some id ↔
        ∃ old, v.lookup token = some old ∧ p old = id := by
  obtain ⟨rfl, hne⟩ := Vocabulary.ofList_eq_ok.mp hread
  have hbounds : ∀ e ∈ v.entries, 0 ≤ p e.2 ∧ p e.2 < v.size := by
    intro e he
    have := v.ids_lt e he
    exact hp.bounds ⟨by omega, by rw [Vocabulary.size]; omega⟩
  -- What is renumbered is a listing, and it is the listing of renumbered entries.
  have hlisted : (v.entries.map Vocabulary.pair).map (renumberToken p) =
      (v.entries.map fun e => (e.1, (p e.2).toNat)).map Vocabulary.pair := by
    rw [List.map_map, List.map_map]
    apply List.map_congr_left
    intro e he
    simp [Vocabulary.pair, renumberToken, (hbounds e he).1]
  rw [hlisted] at hitems
  have hids := (v.perm_ids.map fun id : Nat => (p id).toNat).trans hp.perm_range
  obtain ⟨v', hv', hperm⟩ := Vocabulary.exists_ofList hitems
    (List.forall_mem_map.mpr hne) (by simpa [Function.comp_def] using v.tokens_nodup)
    (by simpa [Function.comp_def, Vocabulary.size] using hids)
  refine ⟨v', hv', ?_⟩
  intro token id
  rw [Vocabulary.lookup_eq_some, hperm.mem_iff, List.mem_map]
  constructor
  · rintro ⟨e, he, heq⟩
    cases heq
    exact ⟨e.2, Vocabulary.lookup_eq_some.mpr he, (Int.toNat_of_nonneg (hbounds e he).1).symm⟩
  · rintro ⟨old, hold, heq⟩
    exact ⟨(token, old), Vocabulary.lookup_eq_some.mp hold, by simp [heq]⟩

theorem exists_renumbered_labels {s : Int → Int} {table : LabelTable} {items items' : List Json}
    (hread : LabelTable.ofList items = .ok table) (hs : Permutes s table.size)
    (hitems : items'.Perm (items.map (renumberLabel s))) :
    ∃ table', LabelTable.ofList items' = .ok table' ∧
      ∀ id symbol, table.resolve id = .ok symbol → table'.resolve (s id) = .ok symbol := by
  obtain ⟨rfl, hvisible⟩ := LabelTable.ofList_eq_ok.mp hread
  have hbounds : ∀ e ∈ table.entries, 0 ≤ s e.1 ∧ s e.1 < table.size := by
    intro e he
    have := table.ids_lt e he
    exact hs.bounds ⟨by omega, by rw [LabelTable.size]; omega⟩
  have hlisted : (table.entries.map LabelTable.pair).map (renumberLabel s) =
      (table.entries.map fun e => ((s e.1).toNat, e.2)).map LabelTable.pair := by
    rw [List.map_map, List.map_map]
    apply List.map_congr_left
    intro e he
    simp [LabelTable.pair, renumberLabel, (hbounds e he).1]
  rw [hlisted] at hitems
  have hids := (table.perm_ids.map fun id : Nat => (s id).toNat).trans hs.perm_range
  obtain ⟨table', htable', hperm⟩ := LabelTable.exists_ofList hitems
    (List.forall_mem_map.mpr hvisible) (by simpa using table.ne_nil)
    (by simpa [Function.comp_def, LabelTable.size] using hids)
    (by simpa [Function.comp_def] using table.symbols_nodup)
  refine ⟨table', htable', ?_⟩
  intro id symbol hsymbol
  obtain ⟨hmem, hnonneg⟩ := LabelTable.mem_entries_of_resolve hsymbol
  obtain ⟨id, rfl⟩ := Int.eq_ofNat_of_zero_le hnonneg
  rw [Int.toNat_natCast] at hmem
  obtain ⟨id', hid'⟩ := Int.eq_ofNat_of_zero_le (hbounds _ hmem).1
  have hnew : (id', symbol) ∈ table'.entries := by
    rw [hperm.mem_iff, List.mem_map]
    exact ⟨_, hmem, by simp [hid']⟩
  rw [LabelTable.resolve_eq_ok]
  exact hid' ▸ LabelTable.symbol?_ofNat_eq_some.mpr hnew

/-! ## Analyses -/

/-- A renumbered asset is read as a model that the old one carries over to, and that knows no other
tokens. -/
theorem exists_renumbered [Limits] {source : Text} {payload : Json} {m : Model} {p s : Int → Int}
    {rawVocabulary rawForest rawLabels rawVocabulary' rawLabels' : List Json}
    (hread : ofJson source payload = .ok m)
    (hparts : HasParts payload rawVocabulary rawForest rawLabels)
    (hp : Permutes p m.vocabulary.size) (hs : Permutes s m.labels.size)
    (hvocabulary : rawVocabulary'.Perm (rawVocabulary.map (renumberToken p)))
    (hlabels : rawLabels'.Perm (rawLabels.map (renumberLabel s))) :
    ∃ m', ofJson source (withParts rawVocabulary' (rawForest.map (renumberNode p s)) rawLabels'
        payload) = .ok m' ∧ Carries p s m m' ∧ ∀ ts, newlyKnown m m' ts = 0 := by
  obtain ⟨hv, hl, -, -⟩ := mirrors_of_ofJson hread hparts
  obtain ⟨v', hv', hlookup⟩ := exists_renumbered_vocabulary hv hp hvocabulary
  obtain ⟨table', hl', hresolve⟩ := exists_renumbered_labels hl hs hlabels
  have hcarried : ∀ (token : Text) (id : Nat), m.vocabulary.lookup token = some id →
      ∃ id' : Nat, v'.lookup token = some id' ∧ p id = id' := by
    intro token id hid
    have hlt := Vocabulary.lookup_lt hid
    have hrange : 0 ≤ (id : Int) ∧ (id : Int) < m.vocabulary.size := by omega
    obtain ⟨hnonneg, -⟩ := hp.bounds hrange
    obtain ⟨id', hid'⟩ := Int.eq_ofNat_of_zero_le hnonneg
    exact ⟨id', (hlookup token id').mpr ⟨id, hid, hid'⟩, hid'⟩
  obtain ⟨m', hread', rfl, hcarries⟩ := exists_carried hread hparts hv' hl' hcarried hresolve
  refine ⟨m', hread', hcarries, ?_⟩
  intro ts
  rw [newlyKnown, List.countP_eq_zero]
  intro token _
  cases hnew : m'.vocabulary.lookup token with
  | none => simp
  | some id =>
      obtain ⟨old, hold, -⟩ := (hlookup token id).mp hnew
      simp [hold]

end Model

namespace Classifier

/-- A renumbered asset is read as a model with which every text is analysed as before, but for the
id of the label. -/
theorem analyze_renumbered [Limits] {source : Text} {payload : Json} {m : Model} {p s : Int → Int}
    {rawVocabulary rawForest rawLabels rawVocabulary' rawLabels' : List Json}
    (hread : Model.ofJson source payload = .ok m)
    (hparts : Model.HasParts payload rawVocabulary rawForest rawLabels)
    (hp : Model.Permutes p m.vocabulary.size) (hs : Model.Permutes s m.labels.size)
    (hvocabulary : rawVocabulary'.Perm (rawVocabulary.map (Model.renumberToken p)))
    (hlabels : rawLabels'.Perm (rawLabels.map (Model.renumberLabel s))) :
    ∃ m', Model.ofJson source (Model.withParts rawVocabulary'
        (rawForest.map (Model.renumberNode p s)) rawLabels' payload) = .ok m' ∧
      ∀ (settings : Settings) (serial serial' : Nat) (t : Text),
        (Classifier.mk settings ⟨m', serial'⟩).analyze t =
          ((Classifier.mk settings ⟨m, serial⟩).analyze t).map fun a =>
            { a with label := s a.label } := by
  obtain ⟨m', hread', hcarries, hnone⟩ :=
    Model.exists_renumbered hread hparts hp hs hvocabulary hlabels
  refine ⟨m', hread', ?_⟩
  intro settings serial serial' t
  have hcarries : Model.Carries p s (Classifier.mk settings ⟨m, serial⟩).model
    (Classifier.mk settings ⟨m', serial'⟩).model := hcarries
  rw [hcarries.analyze rfl]
  simp only [model, hnone, Nat.add_zero]

/-- The ids zero and one, exchanged. -/
def exchange (id : Int) : Int := 1 - id

theorem permutes_exchange : Model.Permutes exchange 2 := by
  refine ⟨?_, ?_, ?_⟩
  · rintro id ⟨hnonneg, hlt⟩
    simp only [exchange, Set.mem_Ico] at *
    omega
  · intro i _ j _ heq
    simp only [exchange] at heq
    omega
  · rintro id ⟨hnonneg, hlt⟩
    refine ⟨exchange id, ?_, ?_⟩
    · simp only [exchange, Set.mem_Ico] at *
      omega
    · simp only [exchange]
      omega

/-- Two tokens, two languages, and trees that ask for both tokens. -/
def pairAsset : Json :=
  Model.asset ["end", "fn"] ["go", "ruby"]
    [.branch 0 5 (.leaf ⟨0, 1⟩) (.leaf ⟨1, 2⟩), .branch 1 5 (.leaf ⟨1, 1⟩) (.leaf ⟨0, 2⟩)]

/-- The same asset with all ids exchanged, and with the pairs in the order of the new ids. -/
def exchangedAsset : Json :=
  Model.asset ["fn", "end"] ["ruby", "go"]
    [.branch 1 5 (.leaf ⟨1, 1⟩) (.leaf ⟨0, 2⟩), .branch 0 5 (.leaf ⟨0, 1⟩) (.leaf ⟨1, 2⟩)]

open scoped Limits.Usual in
theorem pairAsset_renumbered :
    ∃ m m', Model.ofJson Model.inMemory pairAsset = .ok m ∧
      Model.ofJson Model.inMemory exchangedAsset = .ok m' ∧
      ∀ (settings : Settings) (serial serial' : Nat) (t : Text),
        (Classifier.mk settings ⟨m', serial'⟩).analyze t =
          ((Classifier.mk settings ⟨m, serial⟩).analyze t).map fun a =>
            { a with label := exchange a.label } := by
  obtain ⟨m, hread, htokens, hlabels⟩ : ∃ m, Model.ofJson Model.inMemory pairAsset = .ok m ∧
      m.vocabulary.size = 2 ∧ m.labels.size = 2 := ⟨_, rfl, rfl, rfl⟩
  obtain ⟨m', hread', hanalyze⟩ := analyze_renumbered (p := exchange) (s := exchange) hread
    (Model.hasParts_asset _ _ _) (htokens ▸ permutes_exchange) (hlabels ▸ permutes_exchange)
    (List.Perm.swap _ _ _) (List.Perm.swap _ _ _)
  exact ⟨m, m', hread, hread', hanalyze⟩

end Classifier

end Polyglot
