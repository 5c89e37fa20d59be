import Polyglot.Proofs.Records
import Polyglot.Proofs.Scalar

/-! # Records and their languages

A row that is an object whose text has a language is a record with a label; every other row is
refused. Labelling writes the first and warns of the others, row by row.
-/

namespace Polyglot

namespace Classifier

variable {c : Classifier} {t : Text}

theorem exists_classify_iff :
    (∃ language, c.classify t = .ok language) ↔ ¬Text.isBlank (c.cut t) := by
  constructor
  · rintro ⟨language, hlanguage⟩ hblank
    obtain ⟨a, ha, -⟩ := Outcome.map_eq_ok.mp hlanguage
    cases (analyze_of_isBlank hblank).symm.trans ha
  · intro hblank
    obtain ⟨a, ha, -⟩ := exists_analyze hblank
    exact ⟨a.language, Outcome.map_eq_ok.mpr ⟨a, ha, rfl⟩⟩

/-- A model that knows one language finds no other. -/
theorem classify_of_languages {symbol : Text} (honly : c.model.labels.languages = [symbol])
    (hblank : ¬Text.isBlank (c.cut t)) : c.classify t = .ok symbol := by
  obtain ⟨a, ha, hconsistent⟩ := exists_analyze hblank
  have hlanguage := hconsistent.language_mem
  rw [honly, List.mem_singleton] at hlanguage
  exact Outcome.map_eq_ok.mpr ⟨a, ha, hlanguage⟩

end Classifier

namespace Records

/-- A record and the language of its text. -/
structure Labelled where
  members : List (Text × Json)
  language : Text

section Rows

variable [Limits]

/-- The record of a row, if its text has a language. -/
def labelled? (c : Classifier) (key content : Text) : Option Labelled :=
  match Json.decode Limits.decoding content with
  | .ok (.object members) =>
    match c.classify (textAt key members) with
    | .ok language => some ⟨members, language⟩
    | .error _ => none
  | _ => none

/-- Holds of a row that is no JSON, or no object, or whose text has nothing but blanks in the part
that is looked at. -/
def IsRefused (c : Classifier) (key content : Text) : Prop :=
  (∃ complaint place, Json.decode Limits.decoding content = .error (.malformed complaint place)) ∨
    ∃ v, Json.decode Limits.decoding content = .ok v ∧
      ∀ members, v = .object members → Text.isBlank (c.cut (textAt key members))

variable {c : Classifier} {key content : Text}

theorem labelled?_eq_some_iff {r : Labelled} :
    labelled? c key content = some r ↔
      Json.decode Limits.decoding content = .ok (.object r.members) ∧
        c.classify (textAt key r.members) = .ok r.language := by
  rcases r with ⟨members, language⟩
  unfold labelled?
  split
  next found hfound =>
    split
    next name hname =>
      constructor
      · rintro ⟨⟩
        exact ⟨hfound, hname⟩
      · rintro ⟨hdecode, hclassify⟩
        cases hfound.symm.trans hdecode
        cases hname.symm.trans hclassify
        rfl
    next fault hfault =>
      constructor
      · rintro ⟨⟩
      · rintro ⟨hdecode, hclassify⟩
        cases hfound.symm.trans hdecode
        cases hfault.symm.trans hclassify
  next hother =>
    constructor
    · rintro ⟨⟩
    · exact fun h => absurd h.1 (hother members)

/-- A row that is read is a record with a language unless it is refused. -/
theorem labelled?_eq_none_iff (hlimit : ¬PassesLimit content) :
    labelled? c key content = none ↔ IsRefused c key content := by
  rw [← not_iff_not, ← ne_eq, Option.ne_none_iff_exists']
  simp only [labelled?_eq_some_iff]
  constructor
  · rintro ⟨⟨members, language⟩, hdecode, hclassify⟩ (⟨complaint, place, hbroken⟩ | ⟨v, hv, hblank⟩)
    · cases hdecode.symm.trans hbroken
    · cases hdecode.symm.trans hv
      exact Classifier.exists_classify_iff.mp ⟨language, hclassify⟩ (hblank members rfl)
  · intro hrefused
    obtain ⟨hbroken, hvalue⟩ := not_or.mp hrefused
    rcases hdecode : Json.decode Limits.decoding content with stop | v
    · cases stop with
      | malformed complaint place => exact absurd ⟨complaint, place, hdecode⟩ hbroken
      | longInteger digits => exact absurd (.inl ⟨digits, hdecode⟩) hlimit
      | tooDeep => exact absurd (.inr hdecode) hlimit
    · have hobject : ∃ members,
          v = .object members ∧ ¬Text.isBlank (c.cut (textAt key members)) := by
        by_contra hnone
        exact hvalue ⟨v, hdecode, fun members hv => by_contra fun h => hnone ⟨members, hv, h⟩⟩
      obtain ⟨members, rfl, hblank⟩ := hobject
      obtain ⟨language, hlanguage⟩ := Classifier.exists_classify_iff.mpr hblank
      exact ⟨⟨members, language⟩, rfl, hlanguage⟩

theorem isClassified_eq (c : Classifier) (key content : Text) :
    isClassified c key content = (labelled? c key content).isSome := by
  unfold isClassified labelled? parse
  rcases Json.decode Limits.decoding content with stop | v
  · cases stop <;> rfl
  · cases v with
    | object members =>
        dsimp only
        rcases c.classify (textAt key members) with _ | _ <;> rfl
    | _ => rfl

/-- A row is read as a value, or as a complaint. -/
theorem parse_eq_ok {parsed : Except Reason Json} (h : parse content = .ok parsed) :
    (∃ v, Json.decode Limits.decoding content = .ok v ∧ parsed = .ok v) ∨
      ∃ complaint place,
        Json.decode Limits.decoding content = .error (.malformed complaint place) ∧
          parsed = .error (.malformed complaint place) := by
  unfold parse at h
  split at h
  next v hv =>
    cases h
    exact .inl ⟨v, hv, rfl⟩
  next complaint place hcomplaint =>
    cases h
    exact .inr ⟨complaint, place, hcomplaint, rfl⟩
  next => cases h
  next => cases h

/-- Each row is a record with a language, or it is none. -/
theorem length_eq_labelled (c : Classifier) (key : Text) (rs : List Row) :
    rs.length = rs.countP (fun row => (labelled? c key row.content).isSome) +
      rs.countP fun row => (labelled? c key row.content).isNone := by
  rw [List.length_eq_countP_add_countP fun row : Row => (labelled? c key row.content).isSome]
  simp only [Bool.not_eq_true, Bool.decide_eq_false, Option.not_isSome]

end Rows

end Records

namespace Labelling

open Records

/-- A record with its language under a key. -/
def relabel (key : Text) (r : Labelled) : Json :=
  .object (Entries.put key (.text r.language) r.members)

/-- The line of a record with its language. -/
def labelLine (key : Text) (r : Labelled) : Text := Json.encode (relabel key r)

/-- The text that is written for records: each line is ended. -/
def written (key : Text) (labelled : List Labelled) : Text :=
  labelled.flatMap fun r => labelLine key r ++ [CodePoint.lineFeed]

theorem written_eq_lines (key : Text) (labelled : List Labelled) :
    written key labelled =
      (labelled.map (labelLine key)).flatMap fun line => line ++ [CodePoint.lineFeed] := by
  rw [written, List.flatMap_map]

variable [Limits] {c : Classifier} {keys : Keys} {content : Text}

/-- A row with a language is labelled, and any other one is skipped. -/
theorem label_eq_ok {outcome : Outcome} (h : label c keys content = .ok outcome) :
    (∃ r, labelled? c keys.text content = some r ∧
        outcome = .labelled (Entries.put keys.output (.text r.language) r.members)) ∨
      labelled? c keys.text content = none ∧ ∃ reason, outcome = .skipped reason := by
  obtain ⟨parsed, hparsed, h⟩ := Outcome.bind_eq_ok.mp h
  unfold labelled?
  rcases parse_eq_ok hparsed with ⟨v, hv, rfl⟩ | ⟨complaint, place, hcomplaint, rfl⟩
  · rw [hv]
    cases v with
    | object members =>
        dsimp only [labelRecord] at h ⊢
        rcases Classifier.classify_cases c (textAt keys.text members) with
          ⟨language, hlanguage⟩ | hempty
        · rw [hlanguage] at h ⊢
          cases h
          exact .inl ⟨_, rfl, rfl⟩
        · rw [hempty] at h ⊢
          cases h
          exact .inr ⟨rfl, _, rfl⟩
    | _ =>
        cases h
        exact .inr ⟨rfl, _, rfl⟩
  · cases h
    rw [hcomplaint]
    exact .inr ⟨rfl, _, rfl⟩

section Rows

variable {rs : List Row} (hstop : (run (label c keys) rs).stop = none)

include hstop

/-- What is written are the lines of the records with a language, in their order. -/
theorem output_handled :
    output (run (label c keys) rs).handled =
      written keys.output (rs.filterMap fun row => labelled? c keys.text row.content) := by
  have hhandled := forall₂_handled hstop
  generalize (run (label c keys) rs).handled = handled at hhandled
  clear hstop
  induction hhandled with
  | nil => rfl
  | @cons row h rest handled hrow _ ih =>
      rw [output, List.flatMap_cons, ← output, ih, List.filterMap_cons]
      rcases label_eq_ok hrow.2 with ⟨r, hr, hlabelled⟩ | ⟨hnone, reason, hskipped⟩
      · rw [hr, hlabelled]
        rfl
      · rw [hnone, hskipped]
        rfl

/-- Each row that has no language is warned of once, by its number. -/
theorem warnings_handled (file : Text) :
    List.Forall₂
      (fun row entry => ∃ reason,
        label c keys row.content = .ok (.skipped reason) ∧ entry = skipping file row reason)
      (rs.filter fun row => (labelled? c keys.text row.content).isNone)
      ((run (label c keys) rs).handled.filterMap (warning? file)) := by
  have hhandled := forall₂_handled hstop
  generalize (run (label c keys) rs).handled = handled at hhandled
  clear hstop
  induction hhandled with
  | nil => exact .nil
  | @cons row h rest handled hrow _ ih =>
      rcases h with ⟨_, outcome⟩
      obtain ⟨rfl, houtcome⟩ := hrow
      rw [List.filter_cons, List.filterMap_cons]
      rcases label_eq_ok houtcome with ⟨r, hr, rfl⟩ | ⟨hnone, reason, rfl⟩
      · rw [hr]
        exact ih
      · rw [hnone]
        exact .cons ⟨reason, houtcome, rfl⟩ ih

end Rows

end Labelling

end Polyglot
