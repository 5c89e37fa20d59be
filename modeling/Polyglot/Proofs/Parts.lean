import Polyglot.Proofs.Asset
import Polyglot.Proofs.Carrying
import Polyglot.Proofs.Listing

/-! # The parts of an asset

An asset is read as the model whose tables its lists are the listings of and whose trees its trees
are the forms of. Other lists in place of the three leave the rest of an asset alone, so that it is
read again whenever the new tables know what the trees name.
-/

namespace Polyglot.Model

variable {source : Text} {payload : Json} {rawVocabulary rawForest rawLabels : List Json}

/-- A value is the form of one tree at most. -/
theorem rightUnique_mirrors : Relator.RightUnique Mirrors := by
  intro raw t u ht hu
  induction ht generalizing u with
  | leaf hweight =>
      cases hu with
      | leaf hweight' =>
          cases hweight.symm.trans hweight'
          rfl
  | branch hthreshold _ _ ihleft ihright =>
      cases hu with
      | branch hthreshold' hleft hright =>
          cases hthreshold.symm.trans hthreshold'
          rw [ihleft hleft, ihright hright]

/-- What the lists of an asset are that was read. -/
theorem mirrors_of_ofJson [Limits] {m : Model} (hread : ofJson source payload = .ok m)
    (hparts : HasParts payload rawVocabulary rawForest rawLabels) :
    Vocabulary.ofList rawVocabulary = .ok m.vocabulary ∧
      LabelTable.ofList rawLabels = .ok m.labels ∧
      (∀ raw ∈ rawForest, WellFormed m.vocabulary m.labels raw ∧ raw.nesting ≤ Limits.levels) ∧
      List.Forall₂ Mirrors rawForest m.forest := by
  rw [ofJson_of_hasParts hparts] at hread
  obtain ⟨hvocabulary, hlabels, trees, htrees, -, hforest, -⟩ := ofParts_eq_ok.mp hread
  obtain ⟨hforms, hmirrors⟩ := mirrors_of_readForest htrees
  exact ⟨hvocabulary, hlabels, hforms, hforest ▸ hmirrors⟩

/-- An asset is read as the model that its lists describe. -/
theorem exists_ofJson_of_mirrors [Limits] (source : Text) {vocabulary : Vocabulary}
    {labels : LabelTable}
    {forest : List FloatTree} (hparts : HasParts payload rawVocabulary rawForest rawLabels)
    (hvocabulary : Vocabulary.ofList rawVocabulary = .ok vocabulary)
    (hlabels : LabelTable.ofList rawLabels = .ok labels)
    (hforms : ∀ raw ∈ rawForest, WellFormed vocabulary labels raw ∧ raw.nesting ≤ Limits.levels)
    (hmirrors : List.Forall₂ Mirrors rawForest forest) (hne : forest ≠ []) :
    ∃ m, ofJson source payload = .ok m ∧ m.vocabulary = vocabulary ∧ m.labels = labels ∧
      m.forest = forest := by
  obtain ⟨trees, htrees⟩ := exists_readForest hforms
  obtain rfl : trees.map Subtype.val = forest :=
    List.right_unique_forall₂' rightUnique_mirrors (mirrors_of_readForest htrees).2 hmirrors
  rw [ofJson_of_hasParts hparts]
  have hfits : ∀ t ∈ trees.map Subtype.val, t.Fits vocabulary.size labels.size := by
    intro t ht
    obtain ⟨fitting, -, rfl⟩ := List.mem_map.mp ht
    exact fitting.2
  refine ⟨⟨vocabulary, labels, _, hne, hfits, source⟩, ?_, rfl, rfl, rfl⟩
  rw [Ne, List.map_eq_nil_iff] at hne
  exact ofParts_eq_ok.mpr ⟨hvocabulary, hlabels, trees, htrees, hne, rfl, rfl⟩

/-- The asset with other lists as its parts. -/
def withParts (rawVocabulary rawForest rawLabels : List Json) : Json → Json
  | .object members => .object (Entries.put "labels" (.list rawLabels)
      (Entries.put "forest" (.list rawForest)
        (Entries.put "vocabulary" (.list rawVocabulary) members)))
  | other => other

theorem hasParts_withParts {rawVocabulary' rawForest' rawLabels' : List Json}
    (hparts : HasParts payload rawVocabulary rawForest rawLabels) :
    HasParts (withParts rawVocabulary' rawForest' rawLabels' payload)
      rawVocabulary' rawForest' rawLabels' := by
  obtain ⟨⟨members, rfl⟩, hversion, -, -, -⟩ := hparts
  refine ⟨⟨_, rfl⟩, ?_, ?_, ?_, ?_⟩
  · intro found hfound
    apply hversion
    rw [← hfound, withParts, Json.member?, Json.member?, Entries.get?_put_of_ne (by decide),
      Entries.get?_put_of_ne (by decide), Entries.get?_put_of_ne (by decide)]
  · rw [withParts, Json.member?, Entries.get?_put_of_ne (by decide),
      Entries.get?_put_of_ne (by decide), Entries.get?_put_self]
  · rw [withParts, Json.member?, Entries.get?_put_of_ne (by decide), Entries.get?_put_self]
  · rw [withParts, Json.member?, Entries.get?_put_self]

theorem hasParts_asset (tokens languages : List Text) (forest : List FloatTree) :
    HasParts (asset tokens languages forest)
      (tokens.zipIdx.map fun (token, id) => .list [.text token, .int id])
      (forest.map treeToJson)
      (languages.zipIdx.map fun (symbol, id) => .list [.int id, .text symbol]) := by
  refine ⟨⟨_, rfl⟩, ?_, rfl, rfl, rfl⟩
  intro found hfound
  cases hfound
  rfl

/-! ## Nodes with other ids -/

/-- A node with other ids, and all nodes below it. -/
def renumberNode (p s : Int → Int) : Json → Json
  | .list [.int label, weight] => .list [.int (s label), weight]
  | .list [.int feature, threshold, left, right] =>
    .list [.int (p feature), threshold, renumberNode p s left, renumberNode p s right]
  | other => other

section Nodes

variable {p s : Int → Int} {vocabulary vocabulary' : Vocabulary} {labels labels' : LabelTable}
  {raw : Json} {t : FloatTree}

theorem WellFormed.renumber (h : WellFormed vocabulary labels raw)
    (hfeature : ∀ id : Int, 0 ≤ id ∧ id < vocabulary.size → 0 ≤ p id ∧ p id < vocabulary'.size)
    (hlabel : ∀ id : Int, (labels.symbol? id).isSome → (labels'.symbol? (s id)).isSome) :
    WellFormed vocabulary' labels' (renumberNode p s raw) := by
  induction h with
  | leaf known number => exact .leaf (hlabel _ known) number
  | branch inRange number _ _ ihleft ihright =>
      exact .branch (hfeature _ inRange) number ihleft ihright

theorem Mirrors.renumber (h : Mirrors raw t) :
    Mirrors (renumberNode p s raw) (t.renumber p s) := by
  induction h with
  | leaf hweight => exact .leaf hweight
  | branch hthreshold _ _ ihleft ihright => exact .branch hthreshold ihleft ihright

theorem nesting_renumberNode (h : Mirrors raw t) :
    (renumberNode p s raw).nesting = raw.nesting := by
  induction h with
  | leaf hweight => rw [renumberNode, nesting_leaf hweight, nesting_leaf hweight]
  | branch hthreshold _ _ ihleft ihright =>
      rw [renumberNode, nesting_branch hthreshold, nesting_branch hthreshold, ihleft, ihright]

theorem renumberNode_id (h : Mirrors raw t) : renumberNode id id raw = raw := by
  induction h with
  | leaf => rfl
  | branch _ _ _ ihleft ihright => rw [renumberNode, ihleft, ihright, id]

end Nodes

/-- With the listings of tables that know everything that the old ones know, by other ids, and with
these ids in the trees, an asset is read again, and the old model carries over to the new one. -/
theorem exists_carried [Limits] {m : Model} {p s : Int → Int}
    {rawVocabulary' rawLabels' : List Json}
    {vocabulary' : Vocabulary} {labels' : LabelTable} (hread : ofJson source payload = .ok m)
    (hparts : HasParts payload rawVocabulary rawForest rawLabels)
    (hvocabulary : Vocabulary.ofList rawVocabulary' = .ok vocabulary')
    (hlabels : LabelTable.ofList rawLabels' = .ok labels')
    (hlookup : ∀ (token : Text) (id : Nat), m.vocabulary.lookup token = some id →
      ∃ id' : Nat, vocabulary'.lookup token = some id' ∧ p id = id')
    (hresolve : ∀ id symbol, m.labels.resolve id = .ok symbol →
      labels'.resolve (s id) = .ok symbol) :
    ∃ m', ofJson source (withParts rawVocabulary' (rawForest.map (renumberNode p s)) rawLabels'
        payload) = .ok m' ∧ m'.vocabulary = vocabulary' ∧ Carries p s m m' := by
  obtain ⟨-, -, hforms, hmirrors⟩ := mirrors_of_ofJson hread hparts
  have hforms' : ∀ raw ∈ rawForest.map (renumberNode p s),
      WellFormed vocabulary' labels' raw ∧ raw.nesting ≤ Limits.levels := by
    intro raw' hraw'
    obtain ⟨raw, hraw, rfl⟩ := List.mem_map.mp hraw'
    obtain ⟨t, -, hmirror⟩ := exists_of_mem_left hmirrors raw hraw
    obtain ⟨hform, hnesting⟩ := hforms raw hraw
    refine ⟨hform.renumber ?_ ?_, (nesting_renumberNode hmirror).trans_le hnesting⟩
    · rintro id ⟨hnonneg, hlt⟩
      obtain ⟨id, rfl⟩ := Int.eq_ofNat_of_zero_le hnonneg
      obtain ⟨token, hid⟩ := Vocabulary.exists_lookup (Int.ofNat_lt.mp hlt)
      obtain ⟨id', hid', heq⟩ := hlookup token id hid
      have := Vocabulary.lookup_lt hid'
      omega
    · intro id hid
      obtain ⟨symbol, hsymbol⟩ := Option.isSome_iff_exists.mp hid
      have hnew := hresolve id symbol (LabelTable.resolve_eq_ok.mpr hsymbol)
      exact Option.isSome_iff_exists.mpr ⟨symbol, LabelTable.resolve_eq_ok.mp hnew⟩
  have hmirrors' : List.Forall₂ Mirrors (rawForest.map (renumberNode p s))
      (m.forest.map (Tree.renumber p s)) := by
    rw [List.forall₂_map_left_iff, List.forall₂_map_right_iff]
    exact hmirrors.imp fun _ _ hmirror => hmirror.renumber
  obtain ⟨m', hread', rfl, rfl, hforest⟩ := exists_ofJson_of_mirrors source
    (hasParts_withParts hparts) hvocabulary hlabels hforms' hmirrors'
    (by simpa using m.forest_ne_nil)
  exact ⟨m', hread', rfl, hlookup, hresolve, hforest⟩

end Polyglot.Model
