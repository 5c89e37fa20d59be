import Polyglot.Proofs.Analysis
import Polyglot.Proofs.Asset
import Polyglot.Proofs.Decode
import Polyglot.Proofs.Encoding
import Polyglot.Proofs.Text
import Polyglot.Proofs.Writing
import Polyglot.Records.Scoring

/-! # Runs over records

A run over the rows of a file comes to its end exactly when no row passes a limit of the JSON
reader. Every row then counts once: it has been classified, or it is an error.
-/

namespace Polyglot.Records

section Limit

variable [Limits]

/-- Holds of a row whose reading passes a limit: an integer in it has too many digits, or its lists
and objects are nested too deep. -/
def PassesLimit (content : Text) : Prop :=
  (∃ digits, Json.decode Limits.decoding content = .error (.longInteger digits)) ∨
    Json.decode Limits.decoding content = .error .tooDeep

/-- Holds of a row whose reading passes a limit. -/
def passesLimit (content : Text) : Bool :=
  match Json.decode Limits.decoding content with
  | .error (.longInteger _) => true
  | .error .tooDeep => true
  | _ => false

theorem passesLimit_iff {content : Text} : passesLimit content ↔ PassesLimit content := by
  unfold passesLimit PassesLimit
  split <;> simp_all

instance {content : Text} : Decidable (PassesLimit content) :=
  decidable_of_iff _ passesLimit_iff

/-- A row passes a limit only by a long row of digits, or by as many opening brackets. -/
theorem PassesLimit.oversize {content : Text} (h : PassesLimit content) :
    (∃ digits, Json.digitLimit < digits ∧ Json.HasDigits digits content) ∨
      Limits.decoding < content.countP Json.isOpening := by
  rcases h with ⟨digits, hdigits⟩ | hdeep
  · exact .inl ⟨digits, Json.decode_eq_longInteger hdigits⟩
  · exact .inr (Json.decode_eq_tooDeep hdeep)

/-- No short row passes a limit, whatever stands in it. -/
theorem not_passesLimit_of_length {content : Text} (hdigits : content.length ≤ Json.digitLimit)
    (hdepth : content.length ≤ Limits.decoding) : ¬PassesLimit content := by
  intro hpasses
  rcases hpasses.oversize with ⟨digits, hlong, run, hinfix, hlength, -⟩ | hdeep
  · have hbound := hinfix.length_le
    omega
  · have hbound := List.countP_le_length (p := Json.isOpening) (l := content)
    omega

theorem exists_parse_iff {content : Text} :
    (∃ parsed, parse content = .ok parsed) ↔ ¬PassesLimit content := by
  unfold parse PassesLimit
  split
  next value hvalue => simp [hvalue]
  next complaint place hcomplaint => simp [hcomplaint]
  next digits hdigits => simp [hdigits]
  next hdeep => simp [hdeep]

/-- What begins with reading a row gives an outcome exactly when the row is read, if it gives one of
a certain kind to everything that is read. -/
theorem outcome_of_parse {α : Type} {handle : Text → Except Fault α} {content : Text}
    {f : Except Reason Json → Except Fault α} {p : α → Prop}
    (hhandle : handle content = parse content >>= f)
    (hread : ∀ parsed, parse content = .ok parsed → ∃ outcome, f parsed = .ok outcome ∧ p outcome) :
    ((∃ outcome, handle content = .ok outcome) ↔ ¬PassesLimit content) ∧
      ∀ outcome, handle content = .ok outcome → p outcome := by
  rw [hhandle, ← exists_parse_iff]
  refine ⟨⟨?_, ?_⟩, ?_⟩
  · rintro ⟨outcome, h⟩
    obtain ⟨parsed, hparsed, -⟩ := Outcome.bind_eq_ok.mp h
    exact ⟨parsed, hparsed⟩
  · rintro ⟨parsed, hparsed⟩
    obtain ⟨outcome, houtcome, -⟩ := hread parsed hparsed
    exact ⟨outcome, Outcome.bind_eq_ok.mpr ⟨parsed, hparsed, houtcome⟩⟩
  · intro outcome h
    obtain ⟨parsed, hparsed, hf⟩ := Outcome.bind_eq_ok.mp h
    obtain ⟨found, hfound, hp⟩ := hread parsed hparsed
    cases hf.symm.trans hfound
    exact hp

end Limit

/-- A text without an end of line is one row, when no blank stands at its ends. -/
theorem rows_eq_singleton {t : Text} (hne : t ≠ []) (hfeed : CodePoint.lineFeed ∉ t)
    (hreturn : CodePoint.carriageReturn ∉ t) (hstrip : Text.strip t = t) :
    rows (Text.unifyNewlines t) = [⟨1, t⟩] := by
  rw [Text.unifyNewlines_eq_self hreturn, rows, Text.lines_eq_singleton hne hfeed]
  simp [row?, hstrip, hne]

section Run

variable {α : Type} {handle : Text → Except Fault α} {rs : List Row}

theorem run_stop_eq_none_iff :
    (run handle rs).stop = none ↔ ∀ row ∈ rs, ∃ outcome, handle row.content = .ok outcome := by
  induction rs with
  | nil => simp [run]
  | cons row rest ih =>
      unfold run
      split
      next fault hfault => simp [hfault]
      next outcome houtcome => simp [houtcome, ih]

/-- A run that was not aborted has handled every row, in order. -/
theorem forall₂_handled (hstop : (run handle rs).stop = none) :
    List.Forall₂ (fun row h => h.1 = row ∧ handle row.content = .ok h.2) rs
      (run handle rs).handled := by
  induction rs with
  | nil => exact .nil
  | cons row rest ih =>
      unfold run at hstop ⊢
      split at hstop
      next => cases hstop
      next outcome houtcome =>
        exact .cons ⟨rfl, houtcome⟩ (ih hstop)

end Run

/-- Holds of a row that is an object whose text has a language. -/
def isClassified [Limits] (c : Classifier) (key : Text) (content : Text) : Bool :=
  match parse content with
  | .ok (.ok (.object members)) => (c.classify (textAt key members)).isOk
  | _ => false

theorem finish_eq_ok {α β : Type} {r : Run α} {result found : β} :
    r.finish result = .ok found ↔ r.stop = none ∧ result = found := by
  unfold Run.finish
  split
  next hstop => simp [hstop]
  next fault hstop => simp [hstop]

theorem Reading.run_ofBytes {α : Type} {bytes : Bytes} {t : Text}
    (htext : Utf8.decode bytes = .ok t) (handle : Text → Except Fault α) :
    (Reading.ofBytes bytes).run handle =
      Records.run handle (Records.rows (Text.unifyNewlines t)) := by
  simp only [Reading.ofBytes, delivered, htext, Reading.run, Option.or_none]

theorem countP_handled {α : Type} {handle : Text → Except Fault α} {rs : List Row}
    {p : Row × α → Bool} {q : Row → Bool} (hstop : (run handle rs).stop = none)
    (hpq : ∀ row outcome, handle row.content = .ok outcome → p (row, outcome) = q row) :
    (run handle rs).handled.countP p = rs.countP q := by
  have hhandled := forall₂_handled hstop
  generalize (run handle rs).handled = handled at hhandled
  clear hstop
  induction hhandled with
  | nil => rfl
  | @cons row h rest handled hrow _ ih =>
      obtain ⟨rfl, houtcome⟩ := hrow
      rw [List.countP_cons, List.countP_cons, ih, ← hpq h.1 h.2 houtcome]

end Polyglot.Records

namespace Polyglot.Labelling

open Records

variable [Limits] {keys : Keys}

/-- A row that is read is labelled if it has a language, and skipped otherwise. -/
theorem label_outcomes (c : Classifier) (keys : Keys) (content : Text) :
    ((∃ outcome, label c keys content = .ok outcome) ↔ ¬PassesLimit content) ∧
      ∀ outcome, label c keys content = .ok outcome →
        outcome.isLabelled = isClassified c keys.text content := by
  apply outcome_of_parse rfl
  intro parsed hparsed
  rw [isClassified, hparsed]
  rcases parsed with reason | value
  · exact ⟨_, rfl, rfl⟩
  · cases value with
    | object members =>
        dsimp only [labelRecord]
        rcases Classifier.classify_cases c (textAt keys.text members) with
          ⟨language, hlanguage⟩ | hempty
        · rw [hlanguage]
          exact ⟨_, rfl, rfl⟩
        · rw [hempty]
          exact ⟨_, rfl, rfl⟩
    | _ => exact ⟨_, rfl, rfl⟩

section File

variable {classifier : Action Classifier} {source target : Path} {s opened : Session} {job : Job}
  {t : Text}

theorem labelFile_eq_ok
    (hprepare : (prepare classifier source target).perform s = (.ok job, opened))
    (htext : Utf8.decode (opened.files.content job.input) = .ok t) {summary : Summary} :
    ((labelFile classifier keys source target).perform s).1 = .ok summary ↔
      (run (label job.classifier keys) (rows (Text.unifyNewlines t))).stop = none ∧
        summarize (run (label job.classifier keys) (rows (Text.unifyNewlines t))).handled =
          summary := by
  have hperform := labelRows_perform keys source.text job opened
  simp only [Reading.run_ofBytes htext] at hperform
  rw [labelFile, labelFileOn, Action.perform_bind_of_ok hprepare, hperform]
  exact finish_eq_ok

/-- Labelling comes to its end exactly when no row passes a limit. -/
theorem labelFile_finishes_iff
    (hprepare : (prepare classifier source target).perform s = (.ok job, opened))
    (htext : Utf8.decode (opened.files.content job.input) = .ok t) :
    (∃ summary, ((labelFile classifier keys source target).perform s).1 = .ok summary) ↔
      ∀ row ∈ rows (Text.unifyNewlines t), ¬PassesLimit row.content := by
  simp only [labelFile_eq_ok hprepare htext, exists_and_left, exists_eq', and_true,
    run_stop_eq_none_iff, (label_outcomes job.classifier keys _).1]

/-- A row has been labelled, or it is an error. -/
theorem labelFile_counts
    (hprepare : (prepare classifier source target).perform s = (.ok job, opened))
    (htext : Utf8.decode (opened.files.content job.input) = .ok t) {summary : Summary}
    (h : ((labelFile classifier keys source target).perform s).1 = .ok summary) :
    summary.rowsIn = (rows (Text.unifyNewlines t)).length ∧
      summary.rowsOut = (rows (Text.unifyNewlines t)).countP
        (fun row => isClassified job.classifier keys.text row.content) ∧
      summary.errors = (rows (Text.unifyNewlines t)).countP
        (fun row => !isClassified job.classifier keys.text row.content) := by
  obtain ⟨hstop, rfl⟩ := (labelFile_eq_ok hprepare htext).mp h
  refine ⟨(forall₂_handled hstop).length_eq.symm, ?_, ?_⟩
  · exact countP_handled hstop fun row => (label_outcomes job.classifier keys row.content).2
  · refine countP_handled hstop fun row outcome houtcome => ?_
    rw [(label_outcomes job.classifier keys row.content).2 outcome houtcome]

end File

end Polyglot.Labelling

namespace Polyglot.Scoring

open Records

variable [Limits] {keys : Keys}

/-- A row that is read is an error unless it has a language. -/
theorem score_outcomes (c : Classifier) (keys : Keys) (content : Text) :
    ((∃ outcome, score c keys content = .ok outcome) ↔ ¬PassesLimit content) ∧
      ∀ outcome, score c keys content = .ok outcome →
        outcome.isError = !isClassified c keys.text content := by
  apply outcome_of_parse rfl
  intro parsed hparsed
  rw [isClassified, hparsed]
  rcases parsed with reason | value
  · exact ⟨_, rfl, rfl⟩
  · cases value with
    | object members =>
        dsimp only [scoreRecord]
        rcases Classifier.classify_cases c (textAt keys.text members) with
          ⟨language, hlanguage⟩ | hempty
        · rw [hlanguage]
          exact ⟨_, rfl, rfl⟩
        · rw [hempty]
          exact ⟨_, rfl, rfl⟩
    | _ => exact ⟨_, rfl, rfl⟩

theorem scoreRows_outcome {file : Text} {job : Job} {s : Session} :
    ((scoreRows keys file job).perform s).1 =
      let r := (Reading.ofBytes (s.files.content job.input)).run (score job.classifier keys)
      r.finish (summarize r.handled) := rfl

section File

variable {classifier : Action Classifier} {source : Path} {s opened : Session} {job : Job}
  {t : Text}

theorem scoreFile_eq_ok (hprepare : (prepare classifier source).perform s = (.ok job, opened))
    (htext : Utf8.decode (opened.files.content job.input) = .ok t) {summary : Summary} :
    ((scoreFile classifier keys source).perform s).1 = .ok summary ↔
      (run (score job.classifier keys) (rows (Text.unifyNewlines t))).stop = none ∧
        summarize (run (score job.classifier keys) (rows (Text.unifyNewlines t))).handled =
          summary := by
  rw [scoreFile, Action.perform_bind_of_ok hprepare, scoreRows_outcome]
  simp only [Reading.run_ofBytes htext]
  exact finish_eq_ok

/-- Scoring comes to its end exactly when no row passes a limit. -/
theorem scoreFile_finishes_iff
    (hprepare : (prepare classifier source).perform s = (.ok job, opened))
    (htext : Utf8.decode (opened.files.content job.input) = .ok t) :
    (∃ summary, ((scoreFile classifier keys source).perform s).1 = .ok summary) ↔
      ∀ row ∈ rows (Text.unifyNewlines t), ¬PassesLimit row.content := by
  simp only [scoreFile_eq_ok hprepare htext, exists_and_left, exists_eq', and_true,
    run_stop_eq_none_iff, (score_outcomes job.classifier keys _).1]

/-- The errors are the rows that have no language. -/
theorem scoreFile_counts (hprepare : (prepare classifier source).perform s = (.ok job, opened))
    (htext : Utf8.decode (opened.files.content job.input) = .ok t) {summary : Summary}
    (h : ((scoreFile classifier keys source).perform s).1 = .ok summary) :
    summary.rows = (rows (Text.unifyNewlines t)).length ∧
      summary.errors = (rows (Text.unifyNewlines t)).countP
        (fun row => !isClassified job.classifier keys.text row.content) := by
  obtain ⟨hstop, rfl⟩ := (scoreFile_eq_ok hprepare htext).mp h
  refine ⟨(forall₂_handled hstop).length_eq.symm, ?_⟩
  exact countP_handled hstop fun row => (score_outcomes job.classifier keys row.content).2

end File

end Polyglot.Scoring

namespace Polyglot.Records

/-- On a file that is UTF-8, and when everything before the first row went well, labelling and
scoring come to their end exactly when no row passes a limit of the reader. Then each row has been
classified, or it counts as an error. -/
theorem runs_to_end_iff [Limits] (classifier : Action Classifier) (source : Path) (s : Session) :
    (∀ (keys : Labelling.Keys) (target : Path) (job : Labelling.Job) (opened : Session) (t : Text),
      (Labelling.prepare classifier source target).perform s = (.ok job, opened) →
      Utf8.decode (opened.files.content job.input) = .ok t →
      let outcome := ((Labelling.labelFile classifier keys source target).perform s).1
      let rs := rows (Text.unifyNewlines t)
      let classified := fun row : Row => isClassified job.classifier keys.text row.content
      ((∃ summary, outcome = .ok summary) ↔ ∀ row ∈ rs, ¬PassesLimit row.content) ∧
        ∀ summary, outcome = .ok summary →
          summary.rowsIn = rs.length ∧ summary.rowsOut = rs.countP classified ∧
            summary.errors = rs.countP (fun row => !classified row)) ∧
    ∀ (keys : Scoring.Keys) (job : Scoring.Job) (opened : Session) (t : Text),
      (Scoring.prepare classifier source).perform s = (.ok job, opened) →
      Utf8.decode (opened.files.content job.input) = .ok t →
      let outcome := ((Scoring.scoreFile classifier keys source).perform s).1
      let rs := rows (Text.unifyNewlines t)
      let classified := fun row : Row => isClassified job.classifier keys.text row.content
      ((∃ summary, outcome = .ok summary) ↔ ∀ row ∈ rs, ¬PassesLimit row.content) ∧
        ∀ summary, outcome = .ok summary →
          summary.rows = rs.length ∧ summary.errors = rs.countP (fun row => !classified row) := by
  constructor
  · intro keys target job opened t hprepare htext
    exact ⟨Labelling.labelFile_finishes_iff hprepare htext,
      fun _ h => Labelling.labelFile_counts hprepare htext h⟩
  · intro keys job opened t hprepare htext
    exact ⟨Scoring.scoreFile_finishes_iff hprepare htext,
      fun _ h => Scoring.scoreFile_counts hprepare htext h⟩

/-- A classifier over the model of a small asset. -/
def smallClassifier [Limits] : Action Classifier := do
  let model ← Action.lift (Model.ofJson Model.inMemory Model.smallAsset)
  Action.lift (Classifier.withModel (← Action.enlist model) .standard)

/-- A session in a directory with one file. -/
def bytesSession (content : Bytes) : Session :=
  .initial .plain ((FileStore.empty ["work"]).addFile ["work", "rows"] content)

/-- A session with the file of a text. -/
def fileSession (content : Text) : Session := bytesSession (Utf8.encode content)

open scoped Limits.Usual in
theorem prepare_fileSession (content : Text) :
    (∃ job opened, (Labelling.prepare smallClassifier (.ofText "rows") (.ofText "labels")).perform
        (fileSession content) = (.ok job, opened) ∧
      opened.files.content job.input = Utf8.encode content) ∧
    ∃ job opened, (Scoring.prepare smallClassifier (.ofText "rows")).perform
        (fileSession content) = (.ok job, opened) ∧
      opened.files.content job.input = Utf8.encode content :=
  ⟨⟨_, _, rfl, rfl⟩, _, _, rfl, rfl⟩

/-- A record with a text, and a line that is none. -/
def shortRows : Text := Json.encode (.object [("text", .text "end")]) ++ "\nend\n"

open scoped Limits.Usual in
theorem shortRows_run_to_end :
    (∃ summary, ((Labelling.labelFile smallClassifier .standard (.ofText "rows")
      (.ofText "labels")).perform (fileSession shortRows)).1 = .ok summary) ∧
    ∃ summary, ((Scoring.scoreFile smallClassifier .standard (.ofText "rows")).perform
      (fileSession shortRows)).1 = .ok summary := by
  have hshort : ∀ row ∈ rows (Text.unifyNewlines shortRows), ¬PassesLimit row.content := by
    have hlength : ∀ row ∈ rows (Text.unifyNewlines shortRows), row.content.length ≤ 990 := by
      decide
    exact fun row hrow =>
      not_passesLimit_of_length ((hlength row hrow).trans (by decide)) (hlength row hrow)
  have htext : Utf8.decode (Utf8.encode shortRows) = .ok shortRows := by rfl
  obtain ⟨⟨_, _, hlabel, hinput⟩, _, _, hscore, hinput'⟩ := prepare_fileSession shortRows
  have hruns := runs_to_end_iff smallClassifier (.ofText "rows") (fileSession shortRows)
  constructor
  · exact (hruns.1 .standard (.ofText "labels") _ _ _ hlabel (hinput ▸ htext)).1.mpr hshort
  · exact (hruns.2 .standard _ _ _ hscore (hinput' ▸ htext)).1.mpr hshort

/-- A line of one digit too many. -/
def longRow : Text := List.replicate 4301 (CodePoint.ofChar '1')

theorem eq_of_mem_longRow {c : CodePoint} (hc : c ∈ longRow) : c = CodePoint.ofChar '1' :=
  List.eq_of_mem_replicate hc

theorem decode_longRow : Utf8.decode (Utf8.encode longRow) = .ok longRow := by
  apply Utf8.decode_encode_of_ascii
  intro c hc
  rw [eq_of_mem_longRow hc]
  decide

theorem carriageReturn_notMem_longRow : CodePoint.carriageReturn ∉ longRow :=
  fun h => absurd (eq_of_mem_longRow h) (by decide)

open scoped Limits.Usual in
theorem passesLimit_longRow : PassesLimit longRow := by decide +kernel

open scoped Limits.Usual in
theorem longRow_aborts :
    ¬(∃ summary, ((Labelling.labelFile smallClassifier .standard (.ofText "rows")
      (.ofText "labels")).perform (fileSession longRow)).1 = .ok summary) ∧
    ¬∃ summary, ((Scoring.scoreFile smallClassifier .standard (.ofText "rows")).perform
      (fileSession longRow)).1 = .ok summary := by
  have hrows : rows (Text.unifyNewlines longRow) = [⟨1, longRow⟩] := by
    apply rows_eq_singleton
    · apply List.ne_nil_of_length_pos
      rw [longRow, List.length_replicate]
      decide
    · intro h
      exact absurd (eq_of_mem_longRow h) (by decide)
    · exact carriageReturn_notMem_longRow
    · apply Text.strip_eq_self
      · intro c hc
        rw [eq_of_mem_longRow (List.mem_of_mem_head? hc)]
        decide
      · intro c hc
        rw [eq_of_mem_longRow (List.mem_of_mem_getLast? hc)]
        decide
  -- Only the row itself is small enough to be computed with; the file around it is not.
  have hlimit : ¬∀ row ∈ rows (Text.unifyNewlines longRow), ¬PassesLimit row.content := by
    rw [hrows]
    exact fun h => h _ List.mem_cons_self passesLimit_longRow
  obtain ⟨⟨_, _, hlabel, hinput⟩, _, _, hscore, hinput'⟩ := prepare_fileSession longRow
  constructor
  · exact (Labelling.labelFile_finishes_iff hlabel (hinput ▸ decode_longRow)).not.mpr hlimit
  · exact (Scoring.scoreFile_finishes_iff hscore (hinput' ▸ decode_longRow)).not.mpr hlimit

end Polyglot.Records
