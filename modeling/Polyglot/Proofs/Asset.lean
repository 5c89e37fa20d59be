import Polyglot.Model.Basic
import Polyglot.Proofs.Binary64
import Polyglot.Proofs.Tables

/-! # Which assets are models

The form of an asset is said without the reader: a value is the form of a tree over two tables, and
a tree is the one that a value is the form of. The reader accepts exactly the assets of this form,
as long as their trees are not nested too deep, and it builds the trees node for node.
-/

namespace Polyglot.Model

/-- The double that a number stands for. -/
def toDouble? : Json → Option Float
  | .int i => Binary64.ofInt? i
  | .double x => some x
  | _ => none

/-- Holds of a number that stands for a finite double. -/
def IsNumber (raw : Json) : Prop := ∃ x, toDouble? raw = some x ∧ x.isFinite

/-- Holds of a value that is the form of a tree over a vocabulary and a label table. -/
inductive WellFormed (vocabulary : Vocabulary) (labels : LabelTable) : Json → Prop where
  | leaf {label : Int} {weight : Json} (known : (labels.symbol? label).isSome)
      (number : IsNumber weight) : WellFormed vocabulary labels (.list [.int label, weight])
  | branch {feature : Int} {threshold left right : Json}
      (inRange : 0 ≤ feature ∧ feature < vocabulary.size) (number : IsNumber threshold)
      (hleft : WellFormed vocabulary labels left) (hright : WellFormed vocabulary labels right) :
      WellFormed vocabulary labels (.list [.int feature, threshold, left, right])

/-- Relates a value to the tree that it is the form of: the same shape, the same ids, and the
numbers as doubles. -/
inductive Mirrors : Json → FloatTree → Prop where
  | leaf {label : Int} {weight : Json} {x : Float} (number : toDouble? weight = some x) :
      Mirrors (.list [.int label, weight]) (.leaf ⟨label, x⟩)
  | branch {feature : Int} {threshold left right : Json} {x : Float} {l r : FloatTree}
      (number : toDouble? threshold = some x) (hleft : Mirrors left l) (hright : Mirrors right r) :
      Mirrors (.list [.int feature, threshold, left, right]) (.branch feature x l r)

theorem nesting_of_toDouble? {raw : Json} {x : Float} (h : toDouble? raw = some x) :
    raw.nesting = 0 := by
  cases raw <;> first | rfl | cases h

theorem nesting_leaf {label : Int} {weight : Json} {x : Float}
    (hnumber : toDouble? weight = some x) : (Json.list [.int label, weight]).nesting = 1 := by
  simp [Json.nesting, Json.itemsNesting, nesting_of_toDouble? hnumber]

theorem nesting_branch {feature : Int} {threshold left right : Json} {x : Float}
    (hnumber : toDouble? threshold = some x) :
    (Json.list [.int feature, threshold, left, right]).nesting =
      max left.nesting right.nesting + 1 := by
  simp [Json.nesting, Json.itemsNesting, nesting_of_toDouble? hnumber]

section Reading

variable [Limits] {place : NodePlace} {part : NodePart}

theorem readNumber_eq_ok {raw : Json} {x : Float} :
    readNumber place part raw = .ok x ↔ toDouble? raw = some x ∧ x.isFinite := by
  cases raw with
  | int i =>
      cases hi : Binary64.ofInt? i with
      | none => simp [readNumber, toDouble?, hi]
      | some y =>
          simp only [readNumber, toDouble?, hi, Except.ok.injEq, Option.some.injEq,
            iff_self_and]
          rintro rfl
          exact Binary64.isFinite_of_ofInt? hi
  | double y =>
      simp only [readNumber, toDouble?, Option.some.injEq]
      split
      next hfinite => simp only [Except.ok.injEq, iff_self_and]; rintro rfl; exact hfinite
      next hinfinite => simp only [reduceCtorEq, false_iff, not_and]; rintro rfl; exact hinfinite
  | _ => simp [readNumber, toDouble?]

theorem readInteger_eq_ok {raw : Json} {i : Int} :
    readInteger place part raw = .ok i ↔ raw = .int i := by
  cases raw <;> simp [readInteger]

variable {features labels depth : Nat}

/-- What reading a leaf takes. -/
theorem readTree_leaf_eq_ok {rawLabel rawWeight : Json} {t : FittingTree features labels} :
    readTree features labels (depth + 1) place (.list [rawLabel, rawWeight]) = .ok t ↔
      ∃ label x, rawLabel = .int label ∧ (0 ≤ label ∧ label < labels) ∧
        toDouble? rawWeight = some x ∧ x.isFinite ∧ t.1 = .leaf ⟨label, x⟩ := by
  rw [readTree, Outcome.bind_eq_ok]
  constructor
  · rintro ⟨label, hlabel, hrest⟩
    split at hrest
    next hbounds =>
      obtain ⟨x, hx, hpure⟩ := Outcome.bind_eq_ok.mp hrest
      obtain ⟨hnumber, hfinite⟩ := readNumber_eq_ok.mp hx
      cases hpure
      exact ⟨label, x, readInteger_eq_ok.mp hlabel, hbounds, hnumber, hfinite, rfl⟩
    next => cases hrest
  · rintro ⟨label, x, hlabel, hbounds, hnumber, hfinite, ht⟩
    refine ⟨label, readInteger_eq_ok.mpr hlabel, ?_⟩
    rw [dif_pos hbounds, readNumber_eq_ok.mpr ⟨hnumber, hfinite⟩]
    exact congrArg Except.ok (Subtype.ext ht.symm)

/-- What reading an inner node takes. -/
theorem readTree_branch_eq_ok {rawFeature rawThreshold rawLeft rawRight : Json}
    {t : FittingTree features labels} :
    readTree features labels (depth + 1) place
        (.list [rawFeature, rawThreshold, rawLeft, rawRight]) = .ok t ↔
      ∃ feature x l r, rawFeature = .int feature ∧ (0 ≤ feature ∧ feature < features) ∧
        toDouble? rawThreshold = some x ∧ x.isFinite ∧
        readTree features labels depth ⟨place.tree, place.path ++ [.left]⟩ rawLeft = .ok l ∧
        readTree features labels depth ⟨place.tree, place.path ++ [.right]⟩ rawRight = .ok r ∧
        t.1 = .branch feature x l.1 r.1 := by
  rw [readTree, Outcome.bind_eq_ok]
  constructor
  · rintro ⟨feature, hfeature, hrest⟩
    split at hrest
    next hbounds =>
      obtain ⟨x, hx, hrest⟩ := Outcome.bind_eq_ok.mp hrest
      obtain ⟨l, hl, hrest⟩ := Outcome.bind_eq_ok.mp hrest
      obtain ⟨r, hr, hpure⟩ := Outcome.bind_eq_ok.mp hrest
      obtain ⟨hnumber, hfinite⟩ := readNumber_eq_ok.mp hx
      cases hpure
      exact ⟨feature, x, l, r, readInteger_eq_ok.mp hfeature, hbounds, hnumber, hfinite, hl, hr,
        rfl⟩
    next => cases hrest
  · rintro ⟨feature, x, l, r, hfeature, hbounds, hnumber, hfinite, hl, hr, ht⟩
    refine ⟨feature, readInteger_eq_ok.mpr hfeature, ?_⟩
    rw [dif_pos hbounds, readNumber_eq_ok.mpr ⟨hnumber, hfinite⟩, Outcome.bind_ok, hl,
      Outcome.bind_ok, hr]
    exact congrArg Except.ok (Subtype.ext ht.symm)

/-- A value that is no list of two or of four items is refused for that. -/
theorem readTree_shape (depth : Nat) (place : NodePlace) (raw : Json) :
    (∃ rawLabel rawWeight, raw = .list [rawLabel, rawWeight]) ∨
      (∃ rawFeature rawThreshold rawLeft rawRight,
        raw = .list [rawFeature, rawThreshold, rawLeft, rawRight]) ∨
      ∃ flaw, readTree features labels (depth + 1) place raw = .error (nodeFault place flaw) ∧
        (ModelFlaw.node place flaw).obstacle? = none := by
  unfold readTree
  split
  · exact .inl ⟨_, _, rfl⟩
  · exact .inr (.inl ⟨_, _, _, _, rfl⟩)
  · exact .inr (.inr ⟨_, rfl, rfl⟩)
  · exact .inr (.inr ⟨_, rfl, rfl⟩)

end Reading

section Assets

variable [Limits] {vocabulary : Vocabulary} {labels : LabelTable}

/-- What is read as a tree is the form of one, and of the tree that was read. -/
theorem wellFormed_of_readTree {depth : Nat} {place : NodePlace} {raw : Json}
    {t : FittingTree vocabulary.size labels.size}
    (h : readTree vocabulary.size labels.size depth place raw = .ok t) :
    WellFormed vocabulary labels raw ∧ Mirrors raw t.1 ∧ raw.nesting ≤ depth := by
  -- On the levels that are left, since the value alone does not say that the reader stops in time.
  induction depth generalizing place raw t with
  | zero => cases h
  | succ depth ih =>
      rcases readTree_shape depth place raw with
        ⟨_, _, rfl⟩ | ⟨_, _, _, _, rfl⟩ | ⟨flaw, hrefused, -⟩
      · obtain ⟨label, x, rfl, hbounds, hnumber, hfinite, ht⟩ := readTree_leaf_eq_ok.mp h
        refine ⟨.leaf (LabelTable.symbol?_isSome.mpr hbounds) ⟨x, hnumber, hfinite⟩,
          ht ▸ .leaf hnumber, ?_⟩
        rw [nesting_leaf hnumber]
        omega
      · obtain ⟨feature, x, l, r, rfl, hbounds, hnumber, hfinite, hl, hr, ht⟩ :=
          readTree_branch_eq_ok.mp h
        obtain ⟨hleft, hmirrorl, hdepthl⟩ := ih hl
        obtain ⟨hright, hmirrorr, hdepthr⟩ := ih hr
        refine ⟨.branch hbounds ⟨x, hnumber, hfinite⟩ hleft hright,
          ht ▸ .branch hnumber hmirrorl hmirrorr, ?_⟩
        rw [nesting_branch hnumber]
        omega
      · cases hrefused.symm.trans h

/-- The form of a tree is read as one, if it is not nested deeper than the reader goes. -/
theorem exists_readTree {raw : Json} (hraw : WellFormed vocabulary labels raw) {depth : Nat}
    (hdepth : raw.nesting ≤ depth) (place : NodePlace) :
    ∃ t, readTree vocabulary.size labels.size depth place raw = .ok t := by
  -- On the form of the value; the levels only have to last.
  induction hraw generalizing depth place with
  | leaf known number =>
      obtain ⟨x, hnumber, hfinite⟩ := number
      have hbounds := LabelTable.symbol?_isSome.mp known
      rw [nesting_leaf hnumber] at hdepth
      obtain ⟨depth, rfl⟩ := Nat.exists_eq_succ_of_ne_zero (show depth ≠ 0 by omega)
      exact ⟨⟨.leaf ⟨_, x⟩, hbounds⟩,
        readTree_leaf_eq_ok.mpr ⟨_, x, rfl, hbounds, hnumber, hfinite, rfl⟩⟩
  | branch inRange number _ _ ihleft ihright =>
      obtain ⟨x, hnumber, hfinite⟩ := number
      rw [nesting_branch hnumber] at hdepth
      obtain ⟨depth, rfl⟩ := Nat.exists_eq_succ_of_ne_zero (show depth ≠ 0 by omega)
      obtain ⟨l, hl⟩ := ihleft (show _ ≤ depth by omega) ⟨place.tree, place.path ++ [.left]⟩
      obtain ⟨r, hr⟩ := ihright (show _ ≤ depth by omega) ⟨place.tree, place.path ++ [.right]⟩
      exact ⟨⟨.branch _ x l.1 r.1, inRange, l.2, r.2⟩, readTree_branch_eq_ok.mpr
        ⟨_, x, l, r, rfl, inRange, hnumber, hfinite, hl, hr, rfl⟩⟩

theorem exists_readTree_iff {depth : Nat} {place : NodePlace} {raw : Json} :
    (∃ t, readTree vocabulary.size labels.size depth place raw = .ok t) ↔
      WellFormed vocabulary labels raw ∧ raw.nesting ≤ depth := by
  constructor
  · rintro ⟨t, ht⟩
    obtain ⟨hform, -, hdepth⟩ := wellFormed_of_readTree ht
    exact ⟨hform, hdepth⟩
  · rintro ⟨hform, hdepth⟩
    exact exists_readTree hform hdepth place

/-- A forest is read tree by tree, in order. -/
theorem readForest_eq_ok {features labels : Nat} {raw : List Json}
    {trees : List (FittingTree features labels)} :
    readForest features labels raw = .ok trees ↔
      List.Forall₂ (fun item t =>
        readTree features labels Limits.levels ⟨item.2, []⟩ item.1 = .ok t) raw.zipIdx trees :=
  Outcome.mapM_eq_ok

theorem mirrors_of_readForest {raw : List Json}
    {trees : List (FittingTree vocabulary.size labels.size)}
    (h : readForest vocabulary.size labels.size raw = .ok trees) :
    (∀ item ∈ raw, WellFormed vocabulary labels item ∧ item.nesting ≤ Limits.levels) ∧
      List.Forall₂ Mirrors raw (trees.map Subtype.val) := by
  have hread : List.Forall₂ (fun item t =>
      (WellFormed vocabulary labels item ∧ item.nesting ≤ Limits.levels) ∧ Mirrors item t.1)
      (raw.zipIdx.map Prod.fst) trees := by
    rw [List.forall₂_map_left_iff]
    refine (readForest_eq_ok.mp h).imp ?_
    intro item t ht
    obtain ⟨hform, hmirrors, hdepth⟩ := wellFormed_of_readTree ht
    exact ⟨⟨hform, hdepth⟩, hmirrors⟩
  -- The places tell nothing but where a flaw is.
  rw [List.zipIdx_map_fst, List.forall₂_and_left] at hread
  exact ⟨hread.1, List.forall₂_map_right_iff.mpr hread.2⟩

theorem exists_readForest {raw : List Json}
    (hraw : ∀ item ∈ raw, WellFormed vocabulary labels item ∧ item.nesting ≤ Limits.levels) :
    ∃ trees, readForest vocabulary.size labels.size raw = .ok trees := by
  apply Outcome.exists_mapM
  intro item hitem
  exact exists_readTree_iff.mpr (hraw item.1 (List.fst_mem_of_mem_zipIdx hitem))

/-- Holds of an object of the known version that has the three parts of an asset as lists. -/
structure HasParts (payload : Json) (rawVocabulary rawForest rawLabels : List Json) : Prop where
  isObject : ∃ members, payload = .object members
  version : ∀ found, payload.member? "format_version" = some found → isFormatVersion found
  vocabulary : payload.member? "vocabulary" = some (.list rawVocabulary)
  forest : payload.member? "forest" = some (.list rawForest)
  labels : payload.member? "labels" = some (.list rawLabels)

/-- Holds of an asset whose tables are a vocabulary and a label table. -/
def HasTables (payload : Json) (rawForest : List Json) (vocabulary : Vocabulary)
    (labels : LabelTable) : Prop :=
  ∃ rawVocabulary rawLabels, HasParts payload rawVocabulary rawForest rawLabels ∧
    Vocabulary.ofList rawVocabulary = .ok vocabulary ∧ LabelTable.ofList rawLabels = .ok labels

/-- Holds of the assets that are models: the tables are in order, and there is at least one tree,
all of them over the two tables. -/
def Acceptable (payload : Json) : Prop :=
  ∃ rawForest vocabulary labels, HasTables payload rawForest vocabulary labels ∧
    rawForest ≠ [] ∧ ∀ raw ∈ rawForest, WellFormed vocabulary labels raw

theorem listAt_eq_ok {payload : Json} {key : Text} {items : List Json} :
    listAt payload key = .ok items ↔ payload.member? key = some (.list items) := by
  unfold listAt
  split
  next found hfound => simp [hfound]
  next hother =>
    simp only [reduceCtorEq, false_iff]
    exact hother items

theorem checkVersion_eq_ok {payload : Json} :
    checkVersion payload = .ok () ↔
      ∀ found, payload.member? "format_version" = some found → isFormatVersion found := by
  unfold checkVersion
  split
  next hnone => simp [hnone]
  next found hfound =>
    split
    next hversion => simp [hfound, hversion]
    next hversion => simp [hfound, hversion]

theorem ofJson_of_hasParts {source : Text} {payload : Json}
    {rawVocabulary rawForest rawLabels : List Json}
    (hparts : HasParts payload rawVocabulary rawForest rawLabels) :
    ofJson source payload = ofParts source rawVocabulary rawForest rawLabels := by
  obtain ⟨⟨members, rfl⟩, hversion, hvocabulary, hforest, hlabels⟩ := hparts
  simp only [ofJson, checkVersion_eq_ok.mpr hversion, listAt_eq_ok.mpr hvocabulary,
    listAt_eq_ok.mpr hforest, listAt_eq_ok.mpr hlabels, Outcome.bind_ok]

theorem ofJson_of_badVersion {source : Text} {payload found : Json}
    (hobject : ∃ members, payload = .object members)
    (hfound : payload.member? "format_version" = some found) (hunknown : ¬isFormatVersion found) :
    ofJson source payload = .error (ModelFlaw.badVersion found).fault := by
  obtain ⟨members, rfl⟩ := hobject
  simp only [ofJson, checkVersion, hfound, if_neg hunknown, Outcome.bind_error]

theorem listAt_cases (payload : Json) (key : Text) :
    (∃ items, listAt payload key = .ok items) ∨
      listAt payload key = .error (ModelFlaw.noListAt key).fault := by
  unfold listAt
  split
  next items _ => exact .inl ⟨items, rfl⟩
  next => exact .inr rfl

/-- An asset has its three parts, or it is refused for its version, or for another flaw, which can
always be shown. -/
theorem ofJson_cases (source : Text) (payload : Json) :
    (∃ rawVocabulary rawForest rawLabels, HasParts payload rawVocabulary rawForest rawLabels) ∨
      (∃ members found, payload = .object members ∧
        payload.member? "format_version" = some found ∧ ¬isFormatVersion found) ∨
      ∃ flaw, ofJson source payload = .error (ModelFlaw.fault flaw) ∧ flaw.obstacle? = none := by
  cases payload with
  | object members =>
      by_cases hversion : ∀ found, (Json.object members).member? "format_version" = some found →
        isFormatVersion found
      · have hchecked := checkVersion_eq_ok.mpr hversion
        rcases listAt_cases (.object members) "vocabulary" with ⟨_, hvocabulary⟩ | hrefused
        · rcases listAt_cases (.object members) "forest" with ⟨_, hforest⟩ | hrefused
          · rcases listAt_cases (.object members) "labels" with ⟨_, hlabels⟩ | hrefused
            · exact .inl ⟨_, _, _, ⟨members, rfl⟩, hversion, listAt_eq_ok.mp hvocabulary,
                listAt_eq_ok.mp hforest, listAt_eq_ok.mp hlabels⟩
            · exact .inr (.inr ⟨.noListAt "labels",
                by simp [ofJson, hchecked, hvocabulary, hforest, hrefused], rfl⟩)
          · exact .inr (.inr ⟨.noListAt "forest",
              by simp [ofJson, hchecked, hvocabulary, hrefused], rfl⟩)
        · exact .inr (.inr ⟨.noListAt "vocabulary", by simp [ofJson, hchecked, hrefused], rfl⟩)
      · push Not at hversion
        obtain ⟨found, hfound, hunknown⟩ := hversion
        exact .inr (.inl ⟨members, found, rfl, hfound, by simp [hunknown]⟩)
  | _ => exact .inr (.inr ⟨.noObject, rfl, rfl⟩)

/-- What reading a model from the three lists takes. -/
theorem ofParts_eq_ok {source : Text} {rawVocabulary rawForest rawLabels : List Json} {m : Model} :
    ofParts source rawVocabulary rawForest rawLabels = .ok m ↔
      Vocabulary.ofList rawVocabulary = .ok m.vocabulary ∧
        LabelTable.ofList rawLabels = .ok m.labels ∧
        ∃ trees, readForest m.vocabulary.size m.labels.size rawForest = .ok trees ∧ trees ≠ [] ∧
          m.forest = trees.map Subtype.val ∧ m.source = source := by
  constructor
  · intro h
    obtain ⟨vocabulary, hvocabulary, h⟩ := Outcome.bind_eq_ok.mp h
    obtain ⟨labels, hlabels, h⟩ := Outcome.bind_eq_ok.mp h
    obtain ⟨trees, htrees, h⟩ := Outcome.bind_eq_ok.mp h
    rw [Outcome.mapError_eq_ok] at hvocabulary hlabels
    split at h
    next => cases h
    next hne =>
      cases h
      exact ⟨hvocabulary, hlabels, trees, htrees, hne, rfl, rfl⟩
  · rintro ⟨hvocabulary, hlabels, trees, htrees, hne, hforest, hsource⟩
    rw [ofParts, hvocabulary, hlabels]
    simp only [Except.mapError, Outcome.bind_ok, htrees]
    rw [dif_neg hne, Outcome.pure_eq_ok, Except.ok.injEq]
    cases m
    exact (Model.mk.injEq ..).mpr ⟨rfl, rfl, hforest.symm, hsource.symm⟩

/-- What reading a model takes. -/
theorem ofJson_eq_ok {source : Text} {payload : Json} {m : Model} :
    ofJson source payload = .ok m ↔
      ∃ rawForest trees, HasTables payload rawForest m.vocabulary m.labels ∧
        readForest m.vocabulary.size m.labels.size rawForest = .ok trees ∧ trees ≠ [] ∧
        m.forest = trees.map Subtype.val ∧ m.source = source := by
  constructor
  · intro h
    rcases ofJson_cases source payload with
      ⟨rawVocabulary, rawForest, rawLabels, hparts⟩ |
        ⟨members, found, hobject, hfound, hunknown⟩ | ⟨_, hrefused, _⟩
    · rw [ofJson_of_hasParts hparts] at h
      obtain ⟨hvocabulary, hlabels, trees, hread⟩ := ofParts_eq_ok.mp h
      exact ⟨rawForest, trees, ⟨rawVocabulary, rawLabels, hparts, hvocabulary, hlabels⟩, hread⟩
    · cases (ofJson_of_badVersion ⟨members, hobject⟩ hfound hunknown).symm.trans h
    · cases hrefused.symm.trans h
  · rintro ⟨rawForest, trees, ⟨rawVocabulary, rawLabels, hparts, hvocabulary, hlabels⟩, hread⟩
    rw [ofJson_of_hasParts hparts]
    exact ofParts_eq_ok.mpr ⟨hvocabulary, hlabels, trees, hread⟩

/-- An asset that is read as a model is acceptable, and the forest of the model mirrors its own. -/
theorem acceptable_of_ofJson {source : Text} {payload : Json} {m : Model}
    (h : ofJson source payload = .ok m) :
    Acceptable payload ∧ ∃ rawForest, HasTables payload rawForest m.vocabulary m.labels ∧
      List.Forall₂ Mirrors rawForest m.forest := by
  obtain ⟨rawForest, trees, htables, htrees, hne, hforest, -⟩ := ofJson_eq_ok.mp h
  obtain ⟨hforms, hmirrors⟩ := mirrors_of_readForest htrees
  refine ⟨⟨rawForest, _, _, htables, ?_, fun raw hraw => (hforms raw hraw).1⟩,
    rawForest, htables, hforest ▸ hmirrors⟩
  rintro rfl
  have hlength := hmirrors.length_eq
  rw [List.length_nil, List.length_map, eq_comm, List.length_eq_zero_iff] at hlength
  exact hne hlength

/-- An acceptable asset is read, if its trees are not nested deeper than the reader goes. -/
theorem exists_ofJson {payload : Json} {rawForest : List Json} {vocabulary : Vocabulary}
    {labels : LabelTable} (source : Text)
    (htables : HasTables payload rawForest vocabulary labels) (hne : rawForest ≠ [])
    (hforms : ∀ raw ∈ rawForest, WellFormed vocabulary labels raw ∧ raw.nesting ≤ Limits.levels) :
    ∃ m, ofJson source payload = .ok m := by
  obtain ⟨trees, htrees⟩ := exists_readForest hforms
  have htreesne : trees ≠ [] := by
    rintro rfl
    have hlength := (mirrors_of_readForest htrees).2.length_eq
    exact hne (List.length_eq_zero_iff.mp hlength)
  refine ⟨⟨vocabulary, labels, trees.map Subtype.val,
    fun h => htreesne (List.map_eq_nil_iff.mp h), ?_, source⟩, ?_⟩
  · intro t ht
    obtain ⟨fitting, -, rfl⟩ := List.mem_map.mp ht
    exact fitting.2
  · exact ofJson_eq_ok.mpr ⟨rawForest, trees, htables, htrees, htreesne, rfl, rfl⟩

/-- Among the assets whose trees are nested at most three hundred deep exactly the acceptable ones
are models, and the forest of a model mirrors the forest it was read from, tree by tree. -/
theorem ofJson_accepts_iff (source : Text) (payload : Json)
    (hshallow : ∀ rawForest, payload.member? "forest" = some (.list rawForest) →
      ∀ raw ∈ rawForest, raw.nesting ≤ 300) :
    ((∃ m, ofJson source payload = .ok m) ↔ Acceptable payload) ∧
      ∀ m, ofJson source payload = .ok m →
        ∃ rawForest, HasTables payload rawForest m.vocabulary m.labels ∧
          List.Forall₂ Mirrors rawForest m.forest := by
  refine ⟨⟨?_, ?_⟩, fun m h => (acceptable_of_ofJson h).2⟩
  · rintro ⟨m, h⟩
    exact (acceptable_of_ofJson h).1
  · rintro ⟨rawForest, vocabulary, labels, htables, hne, hforms⟩
    have ⟨_, _, hparts, _, _⟩ := htables
    refine exists_ofJson source htables hne fun raw hraw => ⟨hforms raw hraw, ?_⟩
    exact (hshallow rawForest hparts.forest raw hraw).trans Limits.levels_large

end Assets

/-- An asset of one token, two languages and one tree. -/
def smallAsset : Json :=
  asset ["end"] ["go", "ruby"] [.branch 0 5 (.leaf ⟨0, 0⟩) (.leaf ⟨1, 1⟩)]

open scoped Limits.Usual in
theorem ofJson_accepts_smallAsset : Acceptable smallAsset := by
  have hshallow : ∀ rawForest, smallAsset.member? "forest" = some (.list rawForest) →
      ∀ raw ∈ rawForest, raw.nesting ≤ 300 := by
    intro rawForest hforest
    cases hforest
    decide
  apply (ofJson_accepts_iff inMemory smallAsset hshallow).1.mp
  exact ⟨_, rfl⟩

end Polyglot.Model
