import Polyglot.Proofs.Asset

/-! # Assets with values that are too large

A refused asset has a flaw, and the refusal shows it. There are two ways to be refused without a
flaw: the value at fault cannot be shown, or a number is an integer beyond the doubles. The form of
the assets that are refused so is said without the reader, as the form of the acceptable ones is.
-/

namespace Polyglot.Model

variable {α β : Type}

/-- Holds of an outcome that is a fault other than a flaw. -/
def Escapes (outcome : Except Fault α) : Prop :=
  ∃ fault, outcome = .error fault ∧ ∀ flaw, fault ≠ .malformedModel flaw

theorem not_escapes_iff {outcome : Except Fault α} :
    ¬Escapes outcome ↔
      (∃ a, outcome = .ok a) ∨ ∃ flaw, outcome = .error (.malformedModel flaw) := by
  cases outcome with
  | ok a => simp [Escapes]
  | error fault => simp [Escapes]

@[simp] theorem not_escapes_ok (a : α) : ¬Escapes (Except.ok a) :=
  not_escapes_iff.mpr (.inl ⟨a, rfl⟩)

@[simp] theorem escapes_fault [Limits] {flaw : ModelFlaw} :
    Escapes (α := α) (.error flaw.fault) ↔ flaw.obstacle?.isSome := by
  unfold Escapes ModelFlaw.fault
  split <;> simp [*]

/-- Holds of an outcome that escapes. -/
def escapes : Except Fault α → Bool
  | .ok _ => false
  | .error (.malformedModel _) => false
  | .error _ => true

theorem escapes_iff {outcome : Except Fault α} : escapes outcome ↔ Escapes outcome := by
  cases outcome with
  | ok a => simp [escapes]
  | error fault => cases fault <;> simp [escapes, Escapes]

instance {outcome : Except Fault α} : Decidable (Escapes outcome) :=
  decidable_of_iff _ escapes_iff

theorem escapes_bind {x : Except Fault α} {f : α → Except Fault β} :
    Escapes (x >>= f) ↔ Escapes x ∨ ∃ a, x = .ok a ∧ Escapes (f a) := by
  cases x with
  | ok a => simp
  | error fault => simp [Escapes]

theorem escapes_mapM {f : α → Except Fault β} {xs : List α} :
    Escapes (xs.mapM f) ↔
      ∃ before x after, xs = before ++ x :: after ∧
        (∀ y ∈ before, ∃ b, f y = .ok b) ∧ Escapes (f x) := by
  constructor
  · rintro ⟨fault, hfault, hescapes⟩
    obtain ⟨before, x, after, hsplit, hbefore, hx⟩ := Outcome.mapM_eq_error.mp hfault
    exact ⟨before, x, after, hsplit, hbefore, fault, hx, hescapes⟩
  · rintro ⟨before, x, after, hsplit, hbefore, fault, hx, hescapes⟩
    exact ⟨fault, Outcome.mapM_eq_error.mpr ⟨before, x, after, hsplit, hbefore, hx⟩, hescapes⟩

/-- Holds of an integer that is beyond the doubles. -/
def IsHuge (raw : Json) : Prop := ∃ i, raw = .int i ∧ Binary64.ofInt? i = none

@[simp] theorem obstacle?_int {depth : Nat} {i : Int} :
    (Json.obstacle? depth (.int i)).isSome = Json.isLong i := by
  cases depth <;> unfold Json.obstacle? <;> split <;> simp [*]

section Reading

variable [Limits] {place : NodePlace} {part : NodePart} {features labels depth : Nat}

theorem escapes_readInteger {raw : Json} : ¬Escapes (readInteger place part raw) := by
  cases raw <;> simp [readInteger, nodeFault, ModelFlaw.obstacle?]

theorem escapes_readNumber {raw : Json} : Escapes (readNumber place part raw) ↔ IsHuge raw := by
  cases raw with
  | int i =>
      cases hi : Binary64.ofInt? i with
      | none => simp [readNumber, hi, Escapes, IsHuge]
      | some x => simp [readNumber, hi, IsHuge]
  | double x =>
      simp only [readNumber]
      split <;> simp [IsHuge, nodeFault, ModelFlaw.obstacle?]
  | _ => simp [readNumber, IsHuge, nodeFault, ModelFlaw.obstacle?]

/-- A leaf names a label with too many digits, or weighs too much. -/
theorem escapes_readTree_leaf {rawLabel rawWeight : Json} :
    Escapes (readTree features labels (depth + 1) place (.list [rawLabel, rawWeight])) ↔
      ∃ label, rawLabel = .int label ∧
        (¬(0 ≤ label ∧ label < labels) ∧ Json.isLong label ∨
          (0 ≤ label ∧ label < labels) ∧ IsHuge rawWeight) := by
  rw [readTree, escapes_bind, or_iff_right escapes_readInteger]
  simp only [readInteger_eq_ok]
  refine exists_congr fun label => and_congr_right fun _ => ?_
  split
  next hbounds => simp [escapes_bind, escapes_readNumber, hbounds]
  next hbounds =>
    simp only [nodeFault, escapes_fault, ModelFlaw.obstacle?, obstacle?_int, hbounds,
      not_false_eq_true, true_and, false_and, or_false]

/-- An inner node asks for a feature with too many digits, has a threshold that is too large, or a
subtree of that kind, while everything before is in order. -/
theorem escapes_readTree_branch {rawFeature rawThreshold rawLeft rawRight : Json} :
    Escapes (readTree features labels (depth + 1) place
        (.list [rawFeature, rawThreshold, rawLeft, rawRight])) ↔
      ∃ feature, rawFeature = .int feature ∧
        (¬(0 ≤ feature ∧ feature < features) ∧ Json.isLong feature ∨
          (0 ≤ feature ∧ feature < features) ∧ (IsHuge rawThreshold ∨
            IsNumber rawThreshold ∧
              (Escapes (readTree features labels depth ⟨place.tree, place.path ++ [.left]⟩
                  rawLeft) ∨
                (∃ l, readTree features labels depth ⟨place.tree, place.path ++ [.left]⟩
                    rawLeft = .ok l) ∧
                  Escapes (readTree features labels depth ⟨place.tree, place.path ++ [.right]⟩
                    rawRight)))) := by
  rw [readTree, escapes_bind, or_iff_right escapes_readInteger]
  simp only [readInteger_eq_ok]
  refine exists_congr fun feature => and_congr_right fun _ => ?_
  split
  next hbounds =>
    simp [escapes_bind, escapes_readNumber, hbounds, readNumber_eq_ok, IsNumber]
  next hbounds =>
    simp only [nodeFault, escapes_fault, ModelFlaw.obstacle?, obstacle?_int, hbounds,
      not_false_eq_true, true_and, false_and, or_false]

end Reading

section Assets

variable [Limits] {vocabulary : Vocabulary} {labels : LabelTable}

/-- Holds of a value that is refused without a flaw when it is read as a tree of at most `depth`
levels: a part of it is too large, and everything that is read before this part is in order. -/
inductive TooLarge (vocabulary : Vocabulary) (labels : LabelTable) : Nat → Json → Prop where
  | label {depth : Nat} {label : Int} {weight : Json} (unknown : ¬(labels.symbol? label).isSome)
      (long : Json.isLong label) :
      TooLarge vocabulary labels (depth + 1) (.list [.int label, weight])
  | weight {depth : Nat} {label : Int} {weight : Json} (known : (labels.symbol? label).isSome)
      (huge : IsHuge weight) : TooLarge vocabulary labels (depth + 1) (.list [.int label, weight])
  | feature {depth : Nat} {feature : Int} {threshold left right : Json}
      (outOfRange : ¬(0 ≤ feature ∧ feature < vocabulary.size)) (long : Json.isLong feature) :
      TooLarge vocabulary labels (depth + 1) (.list [.int feature, threshold, left, right])
  | threshold {depth : Nat} {feature : Int} {threshold left right : Json}
      (inRange : 0 ≤ feature ∧ feature < vocabulary.size) (huge : IsHuge threshold) :
      TooLarge vocabulary labels (depth + 1) (.list [.int feature, threshold, left, right])
  | left {depth : Nat} {feature : Int} {threshold left right : Json}
      (inRange : 0 ≤ feature ∧ feature < vocabulary.size) (number : IsNumber threshold)
      (hleft : TooLarge vocabulary labels depth left) :
      TooLarge vocabulary labels (depth + 1) (.list [.int feature, threshold, left, right])
  | right {depth : Nat} {feature : Int} {threshold left right : Json}
      (inRange : 0 ≤ feature ∧ feature < vocabulary.size) (number : IsNumber threshold)
      (hleft : WellFormed vocabulary labels left) (hdepth : left.nesting ≤ depth)
      (hright : TooLarge vocabulary labels depth right) :
      TooLarge vocabulary labels (depth + 1) (.list [.int feature, threshold, left, right])

theorem tooLarge_of_escapes {depth : Nat} {place : NodePlace} {raw : Json}
    (h : Escapes (readTree vocabulary.size labels.size depth place raw)) :
    TooLarge vocabulary labels depth raw := by
  induction depth generalizing place raw with
  | zero => exact absurd (escapes_fault.mp h) (by simp [ModelFlaw.obstacle?])
  | succ depth ih =>
      rcases readTree_shape depth place raw with
        ⟨_, _, rfl⟩ | ⟨_, _, _, _, rfl⟩ | ⟨flaw, hrefused, hshown⟩
      · obtain ⟨label, rfl, ⟨hunknown, hlong⟩ | ⟨hknown, hhuge⟩⟩ := escapes_readTree_leaf.mp h
        · exact .label (fun hknown => hunknown (LabelTable.symbol?_isSome.mp hknown)) hlong
        · exact .weight (LabelTable.symbol?_isSome.mpr hknown) hhuge
      · obtain ⟨feature, rfl, ⟨hout, hlong⟩ | ⟨hin, hrest⟩⟩ := escapes_readTree_branch.mp h
        · exact .feature hout hlong
        · rcases hrest with hhuge | ⟨hnumber, hleft | ⟨hleft, hright⟩⟩
          · exact .threshold hin hhuge
          · exact .left hin hnumber (ih hleft)
          · obtain ⟨hform, hdepth⟩ := exists_readTree_iff.mp hleft
            exact .right hin hnumber hform hdepth (ih hright)
      · -- A value without the shape of a node is refused for that, which can always be shown.
        rw [hrefused, nodeFault, escapes_fault, hshown] at h
        cases h

theorem escapes_of_tooLarge {depth : Nat} {raw : Json} (h : TooLarge vocabulary labels depth raw)
    (place : NodePlace) : Escapes (readTree vocabulary.size labels.size depth place raw) := by
  induction h generalizing place with
  | label unknown long =>
      refine escapes_readTree_leaf.mpr ⟨_, rfl, .inl ⟨fun hknown => unknown ?_, long⟩⟩
      exact LabelTable.symbol?_isSome.mpr hknown
  | weight known huge =>
      exact escapes_readTree_leaf.mpr
        ⟨_, rfl, .inr ⟨LabelTable.symbol?_isSome.mp known, huge⟩⟩
  | feature outOfRange long =>
      exact escapes_readTree_branch.mpr ⟨_, rfl, .inl ⟨outOfRange, long⟩⟩
  | threshold inRange huge =>
      exact escapes_readTree_branch.mpr ⟨_, rfl, .inr ⟨inRange, .inl huge⟩⟩
  | left inRange number _ ih =>
      exact escapes_readTree_branch.mpr ⟨_, rfl, .inr ⟨inRange, .inr ⟨number, .inl (ih _)⟩⟩⟩
  | right inRange number hleft hdepth _ ih =>
      have hread := exists_readTree hleft hdepth ⟨place.tree, place.path ++ [.left]⟩
      exact escapes_readTree_branch.mpr
        ⟨_, rfl, .inr ⟨inRange, .inr ⟨number, .inr ⟨hread, ih _⟩⟩⟩⟩

theorem escapes_readForest {raw : List Json} :
    Escapes (readForest vocabulary.size labels.size raw) ↔
      ∃ before tree after, raw = before ++ tree :: after ∧
        (∀ item ∈ before, WellFormed vocabulary labels item ∧ item.nesting ≤ Limits.levels) ∧
        TooLarge vocabulary labels Limits.levels tree := by
  unfold readForest
  rw [escapes_mapM]
  constructor
  · rintro ⟨before, ⟨tree, index⟩, after, hsplit, hbefore, htree⟩
    refine ⟨before.map Prod.fst, tree, after.map Prod.fst, ?_, ?_, tooLarge_of_escapes htree⟩
    · rw [← List.zipIdx_map_fst 0 raw, hsplit, List.map_append, List.map_cons]
    · intro item hitem
      obtain ⟨numbered, hnumbered, rfl⟩ := List.mem_map.mp hitem
      exact exists_readTree_iff.mp (hbefore numbered hnumbered)
  · rintro ⟨before, tree, after, rfl, hbefore, htree⟩
    rw [List.zipIdx_append, List.zipIdx_cons]
    refine ⟨_, _, _, rfl, ?_, escapes_of_tooLarge htree _⟩
    intro numbered hnumbered
    exact exists_readTree_iff.mpr (hbefore _ (List.fst_mem_of_mem_zipIdx hnumbered))

/-- The message about a vocabulary shows at most one id. -/
theorem escapes_vocabularyFlaw {read : Except VocabularyFlaw α} :
    Escapes (read.mapError fun flaw => (ModelFlaw.vocabulary flaw).fault) ↔
      ∃ id, read = .error (.duplicateId id) ∧ Json.isLong id := by
  cases read with
  | ok a => simp [Except.mapError]
  | error flaw => cases flaw <;> simp [Except.mapError, ModelFlaw.obstacle?]

theorem escapes_labelFlaw {read : Except LabelFlaw α} :
    Escapes (read.mapError fun flaw => (ModelFlaw.labels flaw).fault) ↔
      ∃ id : Nat, read = .error (.duplicateId id) ∧ Json.isLong id := by
  cases read with
  | ok a => simp [Except.mapError]
  | error flaw => cases flaw <;> simp [Except.mapError, ModelFlaw.obstacle?]

/-- Holds of the assets that are refused without a flaw: something is too large to be shown or to be
converted, and everything that is read before it is in order. -/
inductive Oversized (payload : Json) : Prop where
  | version {members : List (Text × Json)} {found : Json} (isObject : payload = .object members)
      (version : payload.member? "format_version" = some found)
      (unknown : ¬isFormatVersion found)
      (unshown : (Json.obstacle? Limits.showing found).isSome)
  | token {rawVocabulary rawForest rawLabels : List Json} {id : Int}
      (parts : HasParts payload rawVocabulary rawForest rawLabels)
      (duplicate : Vocabulary.ofList rawVocabulary = .error (.duplicateId id))
      (long : Json.isLong id)
  | label {rawVocabulary rawForest rawLabels : List Json} {vocabulary : Vocabulary} {id : Nat}
      (parts : HasParts payload rawVocabulary rawForest rawLabels)
      (vocabulary : Vocabulary.ofList rawVocabulary = .ok vocabulary)
      (duplicate : LabelTable.ofList rawLabels = .error (.duplicateId id))
      (long : Json.isLong id)
  | tree {before after : List Json} {tree : Json} {vocabulary : Vocabulary} {labels : LabelTable}
      (tables : HasTables payload (before ++ tree :: after) vocabulary labels)
      (hbefore : ∀ item ∈ before, WellFormed vocabulary labels item ∧ item.nesting ≤ Limits.levels)
      (htree : TooLarge vocabulary labels Limits.levels tree)

/-- What escapes in reading the three lists of an asset. -/
theorem escapes_ofParts {source : Text} {rawVocabulary rawForest rawLabels : List Json} :
    Escapes (ofParts source rawVocabulary rawForest rawLabels) ↔
      (∃ id, Vocabulary.ofList rawVocabulary = .error (.duplicateId id) ∧ Json.isLong id) ∨
        ∃ vocabulary, Vocabulary.ofList rawVocabulary = .ok vocabulary ∧
          ((∃ id : Nat, LabelTable.ofList rawLabels = .error (.duplicateId id) ∧ Json.isLong id) ∨
            ∃ labels, LabelTable.ofList rawLabels = .ok labels ∧
              Escapes (readForest vocabulary.size labels.size rawForest)) := by
  rw [ofParts, escapes_bind, escapes_vocabularyFlaw]
  refine or_congr_right (exists_congr fun vocabulary => and_congr Outcome.mapError_eq_ok ?_)
  rw [escapes_bind, escapes_labelFlaw]
  refine or_congr_right (exists_congr fun labels => and_congr Outcome.mapError_eq_ok ?_)
  rw [escapes_bind, or_iff_left]
  rintro ⟨trees, _, hescapes⟩
  -- A forest without trees is a flaw that shows nothing.
  split at hescapes
  next => simp [ModelFlaw.obstacle?] at hescapes
  next => exact not_escapes_ok _ hescapes

theorem oversized_of_escapes {source : Text} {payload : Json}
    (h : Escapes (ofJson source payload)) : Oversized payload := by
  rcases ofJson_cases source payload with
    ⟨rawVocabulary, rawForest, rawLabels, hparts⟩ |
      ⟨members, found, hobject, hfound, hunknown⟩ | ⟨flaw, hrefused, hshown⟩
  · rw [ofJson_of_hasParts hparts, escapes_ofParts] at h
    rcases h with ⟨id, hduplicate, hlong⟩ | ⟨vocabulary, hvocabulary, h⟩
    · exact .token hparts hduplicate hlong
    · rcases h with ⟨id, hduplicate, hlong⟩ | ⟨labels, hlabels, h⟩
      · exact .label hparts hvocabulary hduplicate hlong
      · obtain ⟨before, tree, after, rfl, hbefore, htree⟩ := escapes_readForest.mp h
        exact .tree ⟨rawVocabulary, rawLabels, hparts, hvocabulary, hlabels⟩ hbefore htree
  · rw [ofJson_of_badVersion ⟨members, hobject⟩ hfound hunknown, escapes_fault] at h
    exact .version hobject hfound hunknown h
  · rw [hrefused, escapes_fault, hshown] at h
    cases h

theorem escapes_of_oversized {payload : Json} (h : Oversized payload) (source : Text) :
    Escapes (ofJson source payload) := by
  cases h with
  | version isObject version unknown unshown =>
      rw [ofJson_of_badVersion ⟨_, isObject⟩ version unknown, escapes_fault]
      exact unshown
  | token parts duplicate long =>
      rw [ofJson_of_hasParts parts, escapes_ofParts]
      exact .inl ⟨_, duplicate, long⟩
  | label parts vocabulary duplicate long =>
      rw [ofJson_of_hasParts parts, escapes_ofParts]
      exact .inr ⟨_, vocabulary, .inl ⟨_, duplicate, long⟩⟩
  | tree tables hbefore htree =>
      obtain ⟨rawVocabulary, rawLabels, hparts, hvocabulary, hlabels⟩ := tables
      rw [ofJson_of_hasParts hparts, escapes_ofParts]
      exact .inr ⟨_, hvocabulary, .inr ⟨_, hlabels,
        escapes_readForest.mpr ⟨_, _, _, rfl, hbefore, htree⟩⟩⟩

/-- Reading an asset gives a model or refuses it for a flaw, unless something in it is too large. -/
theorem ofJson_ok_or_malformed_iff (source : Text) (payload : Json) :
    ((∃ m, ofJson source payload = .ok m) ∨
        ∃ flaw, ofJson source payload = .error (.malformedModel flaw)) ↔
      ¬Oversized payload := by
  rw [← not_escapes_iff]
  exact not_congr ⟨oversized_of_escapes, fun h => escapes_of_oversized h source⟩

end Assets

/-- An asset whose only leaf weighs more than the largest double. -/
def heavyAsset : Json :=
  .object [
    ("format_version", .int formatVersion),
    ("vocabulary", .list [.list [.text "end", .int 0]]),
    ("labels", .list [.list [.int 0, .text "ruby"]]),
    ("forest", .list [.list [.int 0, .int (Nat.pow 10 400)]])]

open scoped Limits.Usual in
theorem heavyAsset_escapes :
    ¬((∃ m, ofJson inMemory heavyAsset = .ok m) ∨
      ∃ flaw, ofJson inMemory heavyAsset = .error (.malformedModel flaw)) := by
  have hescapes : Escapes (ofJson inMemory heavyAsset) := by decide +kernel
  exact fun hgood => not_escapes_iff.mpr hgood hescapes

end Polyglot.Model
