import Polyglot.Proofs.Labelling

/-! # Counting correct rows

A row is counted as correct when its language is the one it expects. A record without a language has
a mark instead, and where a file expects this very mark, the record is counted as correct although
it is an error.
-/

namespace Polyglot

namespace Records

/-- A file whose reading comes to its end is UTF-8. -/
theorem exists_decode_of_finish {α β : Type} {bytes : Bytes} {handle : Text → Except Fault α}
    {result found : β} (h : ((Reading.ofBytes bytes).run handle).finish result = .ok found) :
    ∃ t, Utf8.decode bytes = .ok t := by
  have hstop : (Reading.ofBytes bytes).stop = none :=
    (Option.or_eq_none_iff.mp (finish_eq_ok.mp h).1).2
  unfold Reading.ofBytes delivered at hstop
  split at hstop
  next t ht => exact ⟨t, ht⟩
  next => cases hstop

end Records

namespace Scoring

open Records

section Rows

variable [Limits] {c : Classifier} {keys : Keys} {content : Text}

/-- Holds of a row whose language is the one it expects. -/
def agrees (c : Classifier) (keys : Keys) (content : Text) : Bool :=
  match labelled? c keys.text content with
  | some r => r.language == Text.strip (textAt keys.label r.members)
  | none => false

/-- Holds of a record without a language that expects the mark of a failure. -/
def expectsFailure (c : Classifier) (keys : Keys) (content : Text) : Bool :=
  match Json.decode Limits.decoding content with
  | .ok (.object members) =>
    Text.isBlank (c.cut (textAt keys.text members)) &&
      Text.strip (textAt keys.label members) == failureMark
  | _ => false

/-- No record that expects a failure has a language. -/
theorem labelled?_of_expectsFailure (h : expectsFailure c keys content) :
    labelled? c keys.text content = none := by
  unfold expectsFailure at h
  split at h
  next members hdecode =>
    rw [Bool.and_eq_true] at h
    cases hr : labelled? c keys.text content with
    | none => rfl
    | some r =>
        obtain ⟨hread, hclassify⟩ := labelled?_eq_some_iff.mp hr
        cases hdecode.symm.trans hread
        exact absurd h.1 (Classifier.exists_classify_iff.mp ⟨_, hclassify⟩)
  next => cases h

/-- A row is counted as correct if it agrees, or if it expects a failure. -/
theorem isCorrect_of_score {outcome : Outcome} (h : score c keys content = .ok outcome) :
    outcome.isCorrect = (agrees c keys content || expectsFailure c keys content) := by
  obtain ⟨parsed, hparsed, h⟩ := Outcome.bind_eq_ok.mp h
  unfold agrees expectsFailure labelled?
  rcases parse_eq_ok hparsed with ⟨v, hv, rfl⟩ | ⟨complaint, place, hcomplaint, rfl⟩
  · rw [hv]
    cases v with
    | object members =>
        dsimp only [scoreRecord] at h ⊢
        by_cases hblank : Text.isBlank (c.cut (textAt keys.text members))
        · -- The prediction is the mark, so the comparison is with what the record expects.
          have hclassify : c.classify (textAt keys.text members) = .error .emptyInput :=
            Outcome.map_eq_error.mpr (Classifier.analyze_of_isBlank hblank)
          rw [hclassify] at h ⊢
          cases h
          simp only [Outcome.isCorrect, Outcome.pair?, hblank, Bool.true_and, Bool.false_or]
          exact BEq.comm
        · obtain ⟨language, hlanguage⟩ := Classifier.exists_classify_iff.mpr hblank
          rw [hlanguage] at h ⊢
          cases h
          simp only [Outcome.isCorrect, Outcome.pair?, hblank, Bool.false_and, Bool.or_false]
    | _ =>
        cases h
        rfl
  · cases h
    rw [hcomplaint]
    rfl

/-- The rows that are correct are those that agree and those that expect a failure; no row is
both. -/
theorem countP_agrees_or (c : Classifier) (keys : Keys) (rs : List Row) :
    rs.countP (fun row => agrees c keys row.content || expectsFailure c keys row.content) =
      rs.countP (fun row => agrees c keys row.content) +
        rs.countP fun row => expectsFailure c keys row.content := by
  induction rs with
  | nil => rfl
  | cons row rest ih =>
      simp only [List.countP_cons, ih]
      by_cases hfailure : expectsFailure c keys row.content
      · have hdisagrees : agrees c keys row.content = false := by
          rw [agrees, labelled?_of_expectsFailure hfailure]
        simp only [hfailure, hdisagrees, Bool.or_true, Bool.false_eq_true, if_true, if_false]
        omega
      · simp only [hfailure, Bool.or_false, Bool.false_eq_true, if_false]
        omega

/-- A row that agrees has a language. -/
theorem countP_agrees_le (c : Classifier) (keys : Keys) (rs : List Row) :
    rs.countP (fun row => agrees c keys row.content) ≤
      rs.countP fun row => (labelled? c keys.text row.content).isSome := by
  refine List.countP_mono_left fun row _ hagrees => ?_
  unfold agrees at hagrees
  split at hagrees
  next r hr => rw [hr, Option.isSome_some]
  next => cases hagrees

/-- A row that expects a failure has no language. -/
theorem countP_expectsFailure_le (c : Classifier) (keys : Keys) (rs : List Row) :
    rs.countP (fun row => expectsFailure c keys row.content) ≤
      rs.countP fun row => (labelled? c keys.text row.content).isNone := by
  refine List.countP_mono_left fun row _ hfailure => ?_
  rw [labelled?_of_expectsFailure hfailure, Option.isNone_none]

section File

variable {classifier : Action Classifier} {source : Path} {s opened : Session} {job : Job}
  {t : Text} {summary : Summary}

/-- An object agrees when its text has the language that it expects. -/
theorem agrees_iff_of_decode {members : List (Text × Json)}
    (hdecode : Json.decode Limits.decoding content = .ok (.object members)) :
    agrees c keys content ↔
      c.classify (textAt keys.text members) = .ok (Text.strip (textAt keys.label members)) := by
  unfold agrees labelled?
  rw [hdecode]
  dsimp only
  rcases c.classify (textAt keys.text members) with fault | language <;> simp

/-- Scoring that has come to its end has found its input, which is UTF-8. -/
theorem exists_of_scoreFile (h : ((scoreFile classifier keys source).perform s).1 = .ok summary) :
    ∃ job opened t, (prepare classifier source).perform s = (.ok job, opened) ∧
      Utf8.decode (opened.files.content job.input) = .ok t := by
  obtain ⟨job, opened, hprepare, h⟩ := Action.perform_bind_eq_ok.mp (Prod.ext h rfl)
  obtain ⟨t, htext⟩ := exists_decode_of_finish (Prod.mk.inj h).1
  exact ⟨job, opened, t, hprepare, htext⟩

theorem scoreFile_correct (hprepare : (prepare classifier source).perform s = (.ok job, opened))
    (htext : Utf8.decode (opened.files.content job.input) = .ok t)
    (h : ((scoreFile classifier keys source).perform s).1 = .ok summary) :
    summary.correct =
      (rows (Text.unifyNewlines t)).countP (fun row => agrees job.classifier keys row.content) +
        (rows (Text.unifyNewlines t)).countP
          fun row => expectsFailure job.classifier keys row.content := by
  obtain ⟨hstop, rfl⟩ := (scoreFile_eq_ok hprepare htext).mp h
  rw [← countP_agrees_or]
  exact countP_handled hstop fun row outcome => isCorrect_of_score

/-- Every row is correct and none is an error exactly when all rows agree. -/
theorem scoreFile_perfect_iff
    (hprepare : (prepare classifier source).perform s = (.ok job, opened))
    (htext : Utf8.decode (opened.files.content job.input) = .ok t)
    (h : ((scoreFile classifier keys source).perform s).1 = .ok summary) :
    summary.errors = 0 ∧ summary.correct = summary.rows ↔
      ∀ row ∈ rows (Text.unifyNewlines t), agrees job.classifier keys row.content := by
  obtain ⟨hrows, herrors⟩ := scoreFile_counts hprepare htext h
  have hcorrect := scoreFile_correct hprepare htext h
  -- Rows that agree have a language and the mistaken ones have none, so neither can make up for
  -- the other when there is no error.
  have hagreeing := countP_agrees_le job.classifier keys (rows (Text.unifyNewlines t))
  have hfailing := countP_expectsFailure_le job.classifier keys (rows (Text.unifyNewlines t))
  have hsplit := length_eq_labelled job.classifier keys.text (rows (Text.unifyNewlines t))
  simp only [isClassified_eq, Option.not_isSome] at herrors
  rw [← List.countP_eq_length]
  omega

/-- Scoring a file of which the rows are known, and pass no limit. -/
theorem exists_scoreFile_of_lines
    (hprepare : (prepare classifier source).perform s = (.ok job, opened))
    (htext : Utf8.decode (opened.files.content job.input) = .ok t) {lines : List Text}
    (hlines : (rows (Text.unifyNewlines t)).map Row.content = lines)
    (hlimit : ∀ line ∈ lines, ¬PassesLimit line) :
    ∃ summary, ((scoreFile classifier keys source).perform s).1 = .ok summary ∧
      summary.rows = lines.length ∧
      summary.errors = lines.countP (fun line => (labelled? job.classifier keys.text line).isNone) ∧
      summary.correct = lines.countP (agrees job.classifier keys) +
        lines.countP (expectsFailure job.classifier keys) ∧
      (summary.errors = 0 ∧ summary.correct = summary.rows ↔
        ∀ line ∈ lines, agrees job.classifier keys line) := by
  subst hlines
  rw [List.forall_mem_map] at hlimit
  obtain ⟨summary, h⟩ : ∃ summary,
      ((scoreFile classifier keys source).perform s).1 = .ok summary :=
    (scoreFile_finishes_iff hprepare htext).mpr hlimit
  obtain ⟨hrows, herrors⟩ := scoreFile_counts hprepare htext h
  simp only [isClassified_eq, Option.not_isSome] at herrors
  refine ⟨summary, h, hrows.trans (List.length_map _).symm, ?_, ?_, ?_⟩
  · rw [herrors, List.countP_map]
    rfl
  · rw [scoreFile_correct hprepare htext h, List.countP_map, List.countP_map]
    rfl
  · rw [scoreFile_perfect_iff hprepare htext h, List.forall_mem_map]

/-- What is counted as correct are the rows that agree and the errors that expect a failure. So it
is the rows that agree, and no error is among them, exactly when no record expects a failure. -/
theorem correct_eq_agreeing_iff
    (h : ((scoreFile classifier keys source).perform s).1 = .ok summary) :
    ∃ job opened t, (prepare classifier source).perform s = (.ok job, opened) ∧
      Utf8.decode (opened.files.content job.input) = .ok t ∧
      let rs := rows (Text.unifyNewlines t)
      let agreeing := rs.countP fun row => agrees job.classifier keys row.content
      let mistaken := rs.countP fun row => expectsFailure job.classifier keys row.content
      summary.rows = rs.length ∧
        summary.errors = rs.countP (fun row =>
          (labelled? job.classifier keys.text row.content).isNone) ∧
        summary.correct = agreeing + mistaken ∧
        (summary.correct = agreeing ∧ summary.correct + summary.errors ≤ summary.rows ↔
          ∀ row ∈ rs, ¬expectsFailure job.classifier keys row.content) := by
  obtain ⟨job, opened, t, hprepare, htext⟩ := exists_of_scoreFile h
  obtain ⟨hrows, herrors⟩ := scoreFile_counts hprepare htext h
  have hcorrect := scoreFile_correct hprepare htext h
  simp only [isClassified_eq, Option.not_isSome] at herrors
  refine ⟨job, opened, t, hprepare, htext, hrows, herrors, hcorrect, ?_⟩
  have hagreeing := countP_agrees_le job.classifier keys (rows (Text.unifyNewlines t))
  have hsplit := length_eq_labelled job.classifier keys.text (rows (Text.unifyNewlines t))
  rw [← List.countP_eq_zero]
  omega

end File

end Rows

section Failure

open scoped Limits.Usual

/-- The members of a record without a text that expects a failure. -/
def failureMembers : List (Text × Json) := [("text", .text []), ("language", .text failureMark)]

/-- The line of a record without a text that expects a failure. -/
def failureLine : Text := Json.encode (.object failureMembers)

theorem score_failureLine (c : Classifier) :
    score c .standard failureLine = .ok (.unclassified failureMark) := by
  have hdecode : Json.decode Limits.decoding failureLine = .ok (.object failureMembers) :=
    (Json.decode_encode (by rfl)).trans (by rfl)
  have hparse : parse failureLine = .ok (.ok (.object failureMembers)) := by
    rw [parse, hdecode]
  have htext : textAt "text" failureMembers = [] := by rfl
  have hlabel : Text.strip (textAt "language" failureMembers) = failureMark := by rfl
  have hblank : Text.isBlank (c.cut []) := by
    unfold Classifier.cut
    split <;> simp [Text.isBlank]
  have hclassify : c.classify [] = .error .emptyInput :=
    Outcome.map_eq_error.mpr (Classifier.analyze_of_isBlank hblank)
  rw [score, hparse]
  simp only [Outcome.bind_ok, scoreRecord, Keys.standard, htext, hlabel, hclassify]
  rfl

theorem scoreFile_failureLine :
    ((scoreFile (Labelling.oneLanguage "ruby") .standard (.ofText "rows")).perform
      (fileSession failureLine)).1 = .ok ⟨1, 1, 1, [(failureMark, [(failureMark, 1)])]⟩ := by
  obtain ⟨job, opened, hprepare, htext⟩ : ∃ job opened,
      (prepare (Labelling.oneLanguage "ruby") (.ofText "rows")).perform (fileSession failureLine) =
        (.ok job, opened) ∧
      Utf8.decode (opened.files.content job.input) = .ok failureLine := ⟨_, _, rfl, by rfl⟩
  have hrows : rows (Text.unifyNewlines failureLine) = [⟨1, failureLine⟩] := by rfl
  have hrun : run (score job.classifier .standard) [⟨1, failureLine⟩] =
      ⟨[(⟨1, failureLine⟩, .unclassified failureMark)], none⟩ := by
    rw [run, score_failureLine]
    rfl
  rw [scoreFile_eq_ok hprepare htext, hrows, hrun]
  exact ⟨rfl, by rfl⟩

theorem failureLine_expectsFailure :
    ∃ job opened t,
      (prepare (Labelling.oneLanguage "ruby") (.ofText "rows")).perform (fileSession failureLine) =
        (.ok job, opened) ∧
      Utf8.decode (opened.files.content job.input) = .ok t ∧
      ∃ row ∈ rows (Text.unifyNewlines t),
        expectsFailure job.classifier .standard row.content := by
  obtain ⟨job, opened, t, hprepare, htext, -, -, -, hiff⟩ :=
    correct_eq_agreeing_iff scoreFile_failureLine
  refine ⟨job, opened, t, hprepare, htext, ?_⟩
  by_contra hnone
  have hbound := (hiff.mpr fun row hrow hfailure => hnone ⟨row, hrow, hfailure⟩).2
  exact absurd hbound (by decide)

/-- An error is counted as correct. -/
theorem failureLine_is_correct :
    ∃ summary, ((scoreFile (Labelling.oneLanguage "ruby") .standard (.ofText "rows")).perform
        (fileSession failureLine)).1 = .ok summary ∧
      ¬summary.correct + summary.errors ≤ summary.rows :=
  ⟨_, scoreFile_failureLine, by decide⟩

end Failure

end Scoring

end Polyglot
