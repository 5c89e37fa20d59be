import Polyglot.Proofs.Parts

/-! # Extending an asset

New tokens and new languages with the next ids do not change what a model decides. No tree asks for
the new features or votes for the new labels, and an old id keeps its token or its language. Only
the number of known tokens may grow.
-/

namespace Polyglot

theorem range_append_range' (n k : Nat) : List.range n ++ List.range' n k = List.range (n + k) := by
  simpa [List.range_eq_range'] using List.range'_append_1 (s := 0) (m := n) (n := k)

/-- Holds of entries whose tokens are new to a vocabulary and whose ids are the next ones. -/
structure Vocabulary.Extends (v : Vocabulary) (new : List (Text × Nat)) : Prop where
  ne_nil : ∀ e ∈ new, e.1 ≠ []
  tokens_nodup : (new.map Prod.fst).Nodup
  unknown : ∀ e ∈ new, v.lookup e.1 = none
  ids : (new.map Prod.snd).Perm (List.range' v.size new.length)

/-- Holds of entries whose symbols are new to a label table and whose ids are the next ones. -/
structure LabelTable.Extends (table : LabelTable) (new : List (Nat × Text)) : Prop where
  visible : ∀ e ∈ new, ¬Text.isBlank e.2
  symbols_nodup : (new.map Prod.snd).Nodup
  unknown : ∀ e ∈ new, e.2 ∉ table.languages
  ids : (new.map Prod.fst).Perm (List.range' table.size new.length)

theorem Vocabulary.Extends.exists_ofList {v : Vocabulary} {new : List (Text × Nat)}
    {items items' : List Json} (hnew : v.Extends new) (hread : Vocabulary.ofList items = .ok v)
    (hitems : items'.Perm (items ++ new.map Vocabulary.pair)) :
    ∃ v', Vocabulary.ofList items' = .ok v' ∧
      ∀ (token : Text) (id : Nat), v.lookup token = some id → v'.lookup token = some id := by
  obtain ⟨rfl, hne⟩ := Vocabulary.ofList_eq_ok.mp hread
  rw [← List.map_append] at hitems
  have htokens : ((v.entries ++ new).map Prod.fst).Nodup := by
    rw [List.map_append, List.nodup_append]
    refine ⟨v.tokens_nodup, hnew.tokens_nodup, ?_⟩
    rintro _ hold _ hfresh rfl
    obtain ⟨e, he, heq⟩ := List.mem_map.mp hfresh
    have hknown : (v.lookup e.1).isSome := heq ▸ Entries.get?_isSome.mpr hold
    rw [hnew.unknown e he] at hknown
    cases hknown
  have hids : ((v.entries ++ new).map Prod.snd).Perm (List.range (v.entries ++ new).length) := by
    rw [List.map_append, List.length_append, ← range_append_range']
    exact v.perm_ids.append hnew.ids
  obtain ⟨v', hv', hperm⟩ := Vocabulary.exists_ofList hitems
    (List.forall_mem_append.mpr ⟨hne, hnew.ne_nil⟩) htokens hids
  refine ⟨v', hv', ?_⟩
  intro token id hid
  rw [Vocabulary.lookup_eq_some] at hid ⊢
  exact hperm.mem_iff.mpr (List.mem_append_left _ hid)

theorem LabelTable.Extends.exists_ofList {table : LabelTable} {new : List (Nat × Text)}
    {items items' : List Json} (hnew : table.Extends new)
    (hread : LabelTable.ofList items = .ok table)
    (hitems : items'.Perm (items ++ new.map LabelTable.pair)) :
    ∃ table', LabelTable.ofList items' = .ok table' ∧
      ∀ id symbol, table.resolve id = .ok symbol → table'.resolve id = .ok symbol := by
  obtain ⟨rfl, hvisible⟩ := LabelTable.ofList_eq_ok.mp hread
  rw [← List.map_append] at hitems
  have hsymbols : ((table.entries ++ new).map Prod.snd).Nodup := by
    rw [List.map_append, List.nodup_append]
    refine ⟨table.symbols_nodup, hnew.symbols_nodup, ?_⟩
    rintro _ hold _ hfresh rfl
    obtain ⟨d, hd, rfl⟩ := List.mem_map.mp hold
    obtain ⟨e, he, heq⟩ := List.mem_map.mp hfresh
    have hresolve : table.resolve d.1 = .ok d.2 :=
      LabelTable.resolve_eq_ok.mpr (LabelTable.symbol?_ofNat_eq_some.mpr hd)
    exact hnew.unknown e he (heq ▸ LabelTable.mem_languages_of_resolve hresolve)
  have hids : ((table.entries ++ new).map Prod.fst).Perm
      (List.range (table.entries ++ new).length) := by
    rw [List.map_append, List.length_append, ← range_append_range']
    exact table.perm_ids.append hnew.ids
  obtain ⟨table', htable', hperm⟩ := LabelTable.exists_ofList hitems
    (List.forall_mem_append.mpr ⟨hvisible, hnew.visible⟩) (by simp [table.ne_nil]) hids hsymbols
  refine ⟨table', htable', ?_⟩
  intro id symbol hsymbol
  obtain ⟨hmem, hnonneg⟩ := LabelTable.mem_entries_of_resolve hsymbol
  obtain ⟨id, rfl⟩ := Int.eq_ofNat_of_zero_le hnonneg
  rw [LabelTable.resolve_eq_ok]
  apply LabelTable.symbol?_ofNat_eq_some.mpr
  exact hperm.mem_iff.mpr (List.mem_append_left _ hmem)

namespace Classifier

/-- An extended asset is read as a model with which every text is analysed as before, but for the
number of known tokens, which may be greater. -/
theorem analyze_extended [Limits] {source : Text} {payload : Json} {m : Model}
    {rawVocabulary rawForest rawLabels rawVocabulary' rawLabels' : List Json}
    {newTokens : List (Text × Nat)} {newLabels : List (Nat × Text)}
    (hread : Model.ofJson source payload = .ok m)
    (hparts : Model.HasParts payload rawVocabulary rawForest rawLabels)
    (htokens : m.vocabulary.Extends newTokens) (hlabels : m.labels.Extends newLabels)
    (hrawVocabulary : rawVocabulary'.Perm (rawVocabulary ++ newTokens.map Vocabulary.pair))
    (hrawLabels : rawLabels'.Perm (rawLabels ++ newLabels.map LabelTable.pair)) :
    ∃ m', Model.ofJson source (Model.withParts rawVocabulary' rawForest rawLabels' payload) = .ok m' ∧
      ∀ (settings : Settings) (serial serial' : Nat) (t : Text), ∃ more,
        (Classifier.mk settings ⟨m', serial'⟩).analyze t =
          ((Classifier.mk settings ⟨m, serial⟩).analyze t).map fun a =>
            { a with knownCount := a.knownCount + more } := by
  obtain ⟨hv, hl, -, hmirrors⟩ := Model.mirrors_of_ofJson hread hparts
  obtain ⟨v', hv', hlookup⟩ := htokens.exists_ofList hv hrawVocabulary
  obtain ⟨table', hl', hresolve⟩ := hlabels.exists_ofList hl hrawLabels
  have hforest : rawForest.map (Model.renumberNode id id) = rawForest := by
    conv_rhs => rw [← List.map_id rawForest]
    apply List.map_congr_left
    intro raw hraw
    obtain ⟨t, -, hmirror⟩ := exists_of_mem_left hmirrors raw hraw
    exact Model.renumberNode_id hmirror
  obtain ⟨m', hread', -, hcarries⟩ := Model.exists_carried (p := id) (s := id) hread hparts hv' hl'
    (fun token i hi => ⟨i, hlookup token i hi, rfl⟩) hresolve
  rw [hforest] at hread'
  refine ⟨m', hread', ?_⟩
  intro settings serial serial' t
  have hcarries : Model.Carries id id (Classifier.mk settings ⟨m, serial⟩).model
    (Classifier.mk settings ⟨m', serial'⟩).model := hcarries
  exact ⟨_, hcarries.analyze rfl t⟩

/-- The small asset with a token and a language more. -/
def extendedAsset : Json :=
  Model.asset ["end", "fn"] ["go", "ruby", "rust"] [.branch 0 5 (.leaf ⟨0, 0⟩) (.leaf ⟨1, 1⟩)]

open scoped Limits.Usual in
theorem smallAsset_extended :
    ∃ m m', Model.ofJson Model.inMemory Model.smallAsset = .ok m ∧
      Model.ofJson Model.inMemory extendedAsset = .ok m' ∧
      ∀ (settings : Settings) (serial serial' : Nat) (t : Text), ∃ more,
        (Classifier.mk settings ⟨m', serial'⟩).analyze t =
          ((Classifier.mk settings ⟨m, serial⟩).analyze t).map fun a =>
            { a with knownCount := a.knownCount + more } := by
  obtain ⟨m, hread, hentries, hlanguages⟩ :
      ∃ m, Model.ofJson Model.inMemory Model.smallAsset = .ok m ∧
        m.vocabulary.entries = [(Text.ofString "end", 0)] ∧
        m.labels.entries = [(0, Text.ofString "go"), (1, Text.ofString "ruby")] :=
    ⟨_, rfl, rfl, rfl⟩
  have htokens : m.vocabulary.Extends [(Text.ofString "fn", 1)] := by
    refine ⟨by decide, by decide, ?_, ?_⟩
    · simp only [Vocabulary.lookup, hentries]
      decide
    · simp only [Vocabulary.size, hentries]
      decide
  have hlabels : m.labels.Extends [(2, Text.ofString "rust")] := by
    refine ⟨by decide, by decide, ?_, ?_⟩
    · simp only [LabelTable.languages, LabelTable.size, hlanguages]
      decide
    · simp only [LabelTable.size, hlanguages]
      decide
  obtain ⟨m', hread', hanalyze⟩ := analyze_extended hread (Model.hasParts_asset _ _ _) htokens
    hlabels (List.Perm.refl _) (List.Perm.refl _)
  exact ⟨m, m', hread, hread', hanalyze⟩

end Classifier

end Polyglot
