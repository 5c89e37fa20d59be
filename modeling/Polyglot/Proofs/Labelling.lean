import Polyglot.Proofs.Labelled
import Polyglot.Proofs.Steady

/-! # Labelling a file

The output is made before the input is read, and making it changes nothing else. So a file that is
labelled to another one is read as it was when labelling began, and the other one comes to hold a
line for each record with a language: the record with its language, as a reader of JSON finds it.
-/

namespace Polyglot

namespace Records

theorem row?_of_isBlank {line : Text} (hblank : Text.isBlank line) (n : Nat) :
    row? (line, n) = none := by
  rw [row?, if_pos (List.isEmpty_iff.mpr (Text.strip_eq_nil_iff.mpr hblank))]

theorem row?_of_not_isBlank {line : Text} (hblank : ¬Text.isBlank line) (n : Nat) :
    row? (line, n) = some ⟨n, Text.strip line⟩ := by
  rw [row?, if_neg (mt (fun h => Text.strip_eq_nil_iff.mp (List.isEmpty_iff.mp h)) hblank)]

/-- The rows of lines that are numbered from some number on. -/
def rowsFrom (n : ℕ) (lines : List Text) : List Row := (lines.zipIdx n).filterMap row?

theorem rowsFrom_cons_of_isBlank {line : Text} (hblank : Text.isBlank line) (n : ℕ)
    (rest : List Text) : rowsFrom n (line :: rest) = rowsFrom (n + 1) rest := by
  rw [rowsFrom, List.zipIdx_cons, List.filterMap_cons, row?_of_isBlank hblank, ← rowsFrom]

theorem rowsFrom_cons_of_not_isBlank {line : Text} (hblank : ¬Text.isBlank line) (n : ℕ)
    (rest : List Text) :
    rowsFrom n (line :: rest) = ⟨n, Text.strip line⟩ :: rowsFrom (n + 1) rest := by
  rw [rowsFrom, List.zipIdx_cons, List.filterMap_cons, row?_of_not_isBlank hblank, ← rowsFrom]

/-- A row is a line that is not blank, with its number among all lines. -/
theorem mem_rows_iff {t : Text} {row : Row} :
    row ∈ rows t ↔ ∃ i line, (Text.lines t)[i]? = some line ∧ ¬Text.isBlank line ∧
      row = ⟨i + 1, Text.strip line⟩ := by
  rw [rows, List.mem_filterMap]
  constructor
  · rintro ⟨⟨line, n⟩, hmem, hrow⟩
    obtain ⟨hn, hline⟩ := List.mk_mem_zipIdx_iff_le_and_getElem?_sub.mp hmem
    have hblank : ¬Text.isBlank line := by
      intro hblank
      rw [row?_of_isBlank hblank] at hrow
      cases hrow
    rw [row?_of_not_isBlank hblank] at hrow
    refine ⟨n - 1, line, hline, hblank, ?_⟩
    rw [Nat.sub_add_cancel hn]
    exact (Option.some.inj hrow).symm
  · rintro ⟨i, line, hline, hblank, rfl⟩
    refine ⟨(line, i + 1), ?_, row?_of_not_isBlank hblank _⟩
    exact List.mk_mem_zipIdx_iff_le_and_getElem?_sub.mpr ⟨Nat.le_add_left 1 i, hline⟩

/-- The rows of a text are its lines that are not blank. -/
theorem length_rows (t : Text) :
    (rows t).length = (Text.lines t).countP fun line => !Text.isBlank line := by
  suffices ∀ n lines, (rowsFrom n lines).length = lines.countP fun line => !Text.isBlank line from
    this 1 (Text.lines t)
  intro n lines
  induction lines generalizing n with
  | nil => rfl
  | cons line rest ih =>
      rw [List.countP_cons, ← ih (n + 1)]
      by_cases hblank : Text.isBlank line
      · simp [rowsFrom_cons_of_isBlank hblank, hblank]
      · simp [rowsFrom_cons_of_not_isBlank hblank, hblank]

/-- Lines that were each ended are the rows, if none is blank or has a blank at an end. -/
theorem content_rows_of_lines {written : List Text}
    (hfeed : ∀ line ∈ written, CodePoint.lineFeed ∉ line)
    (hreturn : ∀ line ∈ written, CodePoint.carriageReturn ∉ line)
    (hstrip : ∀ line ∈ written, line ≠ [] ∧ Text.strip line = line) :
    (rows (Text.unifyNewlines (written.flatMap fun line => line ++ [CodePoint.lineFeed]))).map
      Row.content = written := by
  have hunified : CodePoint.carriageReturn ∉
      written.flatMap fun line => line ++ [CodePoint.lineFeed] := by
    intro hmem
    obtain ⟨line, hline, hc⟩ := List.mem_flatMap.mp hmem
    rcases List.mem_append.mp hc with hc | hc
    · exact hreturn line hline hc
    · exact absurd (List.mem_singleton.mp hc) (by decide)
  rw [Text.unifyNewlines_eq_self hunified, rows, Text.lines_flatMap_feed hfeed, ← rowsFrom]
  clear hunified hfeed hreturn
  -- The numbering begins anywhere, since it goes on behind the first line.
  generalize 1 = n
  induction written generalizing n with
  | nil => rfl
  | cons line rest ih =>
      obtain ⟨⟨hne, hself⟩, hrest⟩ := List.forall_mem_cons.mp hstrip
      have hblank : ¬Text.isBlank line := by
        rw [← Text.strip_eq_nil_iff, hself]
        exact hne
      rw [rowsFrom_cons_of_not_isBlank hblank, List.map_cons, ih hrest (n + 1), hself]

end Records

namespace Labelling

open Records

section Lines

theorem isPlain_labelLine (key : Text) (r : Labelled) : Json.IsPlain (labelLine key r) :=
  Json.IsPlain.write _

/-- The line of a record begins and ends with a brace. -/
theorem strip_labelLine (key : Text) (r : Labelled) :
    labelLine key r ≠ [] ∧ Text.strip (labelLine key r) = labelLine key r := by
  have hline : labelLine key r = CodePoint.openBrace ::
      Json.writeMembers Json.Style.ascii (Entries.put key (.text r.language) r.members) ++
        [CodePoint.closeBrace] := rfl
  rw [hline]
  refine ⟨List.cons_ne_nil _ _, Text.strip_eq_self ?_ ?_⟩
  · rintro c ⟨⟩
    decide
  · rw [List.getLast?_concat]
    rintro c ⟨⟩
    decide

end Lines

section File

variable {classifier : Action Classifier} {source target : Path} {s opened : Session} {job : Job}

/-- What is done before the first row is looked at: directories are made, the classifier is got, the
input is found, and the output is made. -/
theorem prepare_eq_ok (h : (prepare classifier source target).perform s = (.ok job, opened)) :
    ∃ (ready : Session) (files : FileStore),
      classifier.perform { s with files := (s.files.makeDirectoriesOf target.parent).2 } =
        (.ok job.classifier, ready) ∧
      ready.files.openFile source = .ok job.input ∧
      ready.files.create target = .ok (job.output, files) ∧
      opened = { ready with files } := by
  obtain ⟨_, around, hmade, h⟩ := Action.perform_bind_eq_ok.mp h
  obtain ⟨c, ready, hclassifier, h⟩ := Action.perform_bind_eq_ok.mp h
  obtain ⟨input, found, hinput, h⟩ := Action.perform_bind_eq_ok.mp h
  obtain ⟨output, last, houtput, h⟩ := Action.perform_bind_eq_ok.mp h
  cases Action.makeDirectories_eq_ok hmade
  obtain ⟨hopen, rfl⟩ := Action.openFile_eq_ok hinput
  obtain ⟨files, hcreate, rfl⟩ := Action.createFile_eq_ok houtput
  cases h
  exact ⟨found, files, hclassifier, hopen, hcreate, rfl⟩

section Files

variable (hprepare : (prepare classifier source target).perform s = (.ok job, opened))

include hprepare

/-- The output is empty when the first row is looked at. -/
theorem content_output : opened.files.content job.output = [] := by
  obtain ⟨ready, files, -, -, hcreate, rfl⟩ := prepare_eq_ok hprepare
  exact FileStore.content_of_create hcreate

/-- The target leads to the output. -/
theorem find?_target : opened.files.find? target = some (.file job.output) := by
  obtain ⟨ready, files, -, -, hcreate, rfl⟩ := prepare_eq_ok hprepare
  exact FileStore.find?_of_create hcreate

/-- Nothing has changed but the output and directories, if getting the classifier changes no file.
-/
theorem spares_opened (hkeeps : ∀ around, (classifier.perform around).2.files = around.files) :
    FileStore.Spares job.output s.files opened.files := by
  obtain ⟨ready, files, hclassifier, -, hcreate, rfl⟩ := prepare_eq_ok hprepare
  have hready := hkeeps { s with files := (s.files.makeDirectoriesOf target.parent).2 }
  rw [hclassifier] at hready
  have hmade := (FileStore.Paves.of_makeDirectoriesOf s.files target.parent).furnishes
  have hfiles : ready.files = (s.files.makeDirectoriesOf target.parent).2 := hready
  exact (hmade.spares job.output).trans (hfiles ▸ FileStore.spares_of_create hcreate)

/-- What labelling returns, and the session it leaves. -/
theorem labelFile_perform [Limits] (keys : Keys) :
    (labelFile classifier keys source target).perform s =
      let r := (Reading.ofBytes (opened.files.content job.input)).run (label job.classifier keys)
      (r.finish (summarize r.handled),
        { opened with
          files := opened.files.write job.output (Utf8.encode (output r.handled))
          log := opened.log ++ r.handled.filterMap (warning? source.text) }) := by
  rw [labelFile, labelFileOn, Action.perform_bind_of_ok hprepare, labelRows_perform]

/-- Labelling leaves the target where it was. -/
theorem find?_target_of_labelFile [Limits] {keys : Keys} {outcome : Except Fault Summary}
    {final : Session} (h : (labelFile classifier keys source target).perform s = (outcome, final)) :
    final.files.find? target = some (.file job.output) := by
  rw [labelFile_perform hprepare] at h
  cases (Prod.mk.inj h).2
  exact (FileStore.Spares.write ..).find? (find?_target hprepare)

end Files

variable [Limits]

/-- A line is read back as the record with its language, in which pairs of surrogates that stood
apart are joined. -/
theorem decode_labelLine {bytes : Bytes} {t : Text} (htext : Utf8.decode bytes = .ok t) {row : Row}
    (hrow : row ∈ rows (Text.unifyNewlines t)) {c : Classifier} {key : Text} {r : Labelled}
    (hr : labelled? c key row.content = some r) (output : Text) :
    Json.decode Limits.decoding (labelLine output r) =
      .ok (relabel (Json.rejoin output) { r with language := Json.rejoin r.language }) :=
  Json.decode_encode_put (isSettled_of_mem_rows htext hrow (labelled?_eq_some_iff.mp hr).1) _ _

/-- The records of a text that have a language. -/
def labelledRows (c : Classifier) (key t : Text) : List Labelled :=
  (rows (Text.unifyNewlines t)).filterMap fun row => labelled? c key row.content

/-- What labelling makes of a file with a certain text: the counters, the lines that are written,
and the warnings. -/
structure Labels (job : Job) (keys : Keys) (file t : Text) (opened final : Session)
    (summary : Summary) : Prop where
  /-- The rows are the lines that are not blank, by their numbers among all lines. -/
  row_iff : ∀ row, row ∈ rows (Text.unifyNewlines t) ↔
    ∃ i line, (Text.lines (Text.unifyNewlines t))[i]? = some line ∧ ¬Text.isBlank line ∧
      row = ⟨i + 1, Text.strip line⟩
  rowsIn_eq : summary.rowsIn =
    (Text.lines (Text.unifyNewlines t)).countP fun line => !Text.isBlank line
  rowsIn_split : summary.rowsIn = summary.rowsOut + summary.errors
  refused_iff : ∀ row ∈ rows (Text.unifyNewlines t),
    labelled? job.classifier keys.text row.content = none ↔
      IsRefused job.classifier keys.text row.content
  /-- One line for each record with a language, which is read back as this record with the language
  under the key. -/
  written : ∃ lines : List Text,
    final.files.content job.output =
        Utf8.encode (lines.flatMap fun line => line ++ [CodePoint.lineFeed]) ∧
      lines.length = summary.rowsOut ∧ (∀ line ∈ lines, Json.IsPlain line) ∧
      List.Forall₂
        (fun line r => Json.decode Limits.decoding line =
          .ok (relabel (Json.rejoin keys.output) { r with language := Json.rejoin r.language }))
        lines (labelledRows job.classifier keys.text t)
  /-- One warning for each row without a language, which tells the number of the row. -/
  warned : ∃ warnings : List Log.Entry,
    final.log = opened.log ++ warnings ∧ warnings.length = summary.errors ∧
      List.Forall₂
        (fun row entry => ∃ reason,
          label job.classifier keys row.content = .ok (.skipped reason) ∧
            entry = skipping file row reason)
        ((rows (Text.unifyNewlines t)).filter fun row =>
          (labelled? job.classifier keys.text row.content).isNone)
        warnings

section Labels

variable {keys : Keys} {t : Text}

/-- What is left by labelling that has come to its end: the output holds the lines of the records
with a language, and the warnings are in the log. -/
theorem labelFile_eq_of_ok
    (hprepare : (prepare classifier source target).perform s = (.ok job, opened))
    (htext : Utf8.decode (opened.files.content job.input) = .ok t) {summary : Summary}
    (h : ((labelFile classifier keys source target).perform s).1 = .ok summary) :
    (labelFile classifier keys source target).perform s =
      (.ok summary,
        { opened with
          files := opened.files.write job.output
            (Utf8.encode (written keys.output (labelledRows job.classifier keys.text t)))
          log := opened.log ++
            (run (label job.classifier keys) (rows (Text.unifyNewlines t))).handled.filterMap
              (warning? source.text) }) := by
  obtain ⟨hstop, hsummary⟩ := (labelFile_eq_ok hprepare htext).mp h
  rw [labelFile_perform hprepare]
  simp only [Reading.run_ofBytes htext, output_handled hstop,
    finish_eq_ok.mpr ⟨hstop, hsummary⟩]
  rfl

/-- Labelling a file to another one, when no row passes a limit of the reader, writes each record
that has a language with its language and warns of every other row. Getting the classifier must
leave the files alone, as it does for one that is given and for one that is built from settings. -/
theorem labelFile_labels
    (hkeeps : ∀ around, (classifier.perform around).2.files = around.files)
    (hprepare : (prepare classifier source target).perform s = (.ok job, opened))
    (hother : job.input ≠ job.output)
    (htext : Utf8.decode (s.files.content job.input) = .ok t)
    (hlimit : ∀ row ∈ rows (Text.unifyNewlines t), ¬PassesLimit row.content) :
    ∃ summary final,
      (labelFile classifier keys source target).perform s = (.ok summary, final) ∧
        Labels job keys source.text t opened final summary := by
  -- Only the output was emptied before the rows are read, and the input is another file.
  have htext' : Utf8.decode (opened.files.content job.input) = .ok t := by
    rw [(spares_opened hprepare hkeeps).content _ hother, htext]
  obtain ⟨summary, hsummary⟩ : ∃ summary,
      ((labelFile classifier keys source target).perform s).1 = .ok summary :=
    (labelFile_finishes_iff hprepare htext').mpr hlimit
  obtain ⟨hstop, -⟩ := (labelFile_eq_ok hprepare htext').mp hsummary
  obtain ⟨hin, hout, herrors⟩ := labelFile_counts hprepare htext' hsummary
  simp only [isClassified_eq, Option.not_isSome] at hout herrors
  refine ⟨summary, _, labelFile_eq_of_ok hprepare htext' hsummary, ?_⟩
  have hwarned := warnings_handled hstop source.text
  refine
    { row_iff := fun _ => mem_rows_iff
      rowsIn_eq := hin.trans (length_rows _)
      rowsIn_split := ?_
      refused_iff := fun row hrow => labelled?_eq_none_iff (hlimit row hrow)
      written := ⟨(labelledRows job.classifier keys.text t).map (labelLine keys.output),
        ?_, ?_, ?_, ?_⟩
      warned := ⟨_, rfl, ?_, hwarned⟩ }
  · rw [hin, hout, herrors]
    exact length_eq_labelled job.classifier keys.text _
  · rw [FileStore.content_write_self, written_eq_lines]
  · rw [List.length_map, hout]
    exact List.length_filterMap_eq_countP
  · intro line hline
    obtain ⟨r, -, rfl⟩ := List.mem_map.mp hline
    exact isPlain_labelLine keys.output r
  · rw [List.forall₂_map_left_iff, List.forall₂_same]
    intro r hr
    obtain ⟨row, hrow, hlabelled⟩ := List.mem_filterMap.mp hr
    exact decode_labelLine htext hrow hlabelled keys.output
  · rw [← hwarned.length_eq, herrors, List.countP_eq_length_filter]

end Labels

end File

section OneLanguage

open scoped Limits.Usual

variable {opened : Session} {job : Job}

/-- A classifier whose model knows one language. -/
def oneLanguage (symbol : Text) : Action Classifier := do
  let model ← Action.lift
    (Model.ofJson Model.inMemory (Model.asset ["end"] [symbol] [.leaf ⟨0, 1⟩]))
  Action.lift (Classifier.withModel (← Action.enlist model) .standard)

theorem isSteady_oneLanguage (symbol : Text) : (oneLanguage symbol).IsSteady :=
  .bind (.lift _) fun model => .bind (.enlist model) fun _ => .lift _

theorem shortRows_labels :
    ∃ job opened summary final,
      (labelFile (oneLanguage "ruby") .standard (.ofText "rows") (.ofText "labels")).perform
          (fileSession shortRows) = (.ok summary, final) ∧
        Labels job .standard "rows" shortRows opened final summary := by
  have hlimit : ∀ row ∈ rows (Text.unifyNewlines shortRows), ¬PassesLimit row.content := by
    have hlength : ∀ row ∈ rows (Text.unifyNewlines shortRows), row.content.length ≤ 990 := by
      decide
    exact fun row hrow =>
      not_passesLimit_of_length ((hlength row hrow).trans (by decide)) (hlength row hrow)
  have htext : Utf8.decode (Utf8.encode shortRows) = .ok shortRows := by rfl
  exact ⟨_, _, labelFile_labels (isSteady_oneLanguage "ruby").keeps rfl (by decide) htext hlimit⟩

/-- The members of a record with a text. -/
def endMembers : List (Text × Json) := [("text", .text "end")]

/-- The line of a record with a text. -/
def endLine : Text := Json.encode (.object endMembers)

theorem labelled?_endLine {c : Classifier} {symbol : Text}
    (honly : c.model.labels.languages = [symbol]) (hcut : c.cut "end" = "end") :
    labelled? c "text" endLine = some ⟨endMembers, symbol⟩ := by
  refine labelled?_eq_some_iff.mpr ⟨by rfl, Classifier.classify_of_languages honly ?_⟩
  have htext : textAt "text" endMembers = "end" := by rfl
  rw [htext, hcut]
  decide

/-- Holds of a job that is ready: its model knows one language, and its file has the record as its
only row. -/
structure OneRow (symbol t : Text) (job : Job) (opened : Session) : Prop where
  prepared : (prepare (oneLanguage symbol) (.ofText "rows") (.ofText "labels")).perform
    (fileSession t) = (.ok job, opened)
  text : Utf8.decode (opened.files.content job.input) = .ok t
  rows : rows (Text.unifyNewlines t) = [⟨1, endLine⟩]
  languages : job.classifier.model.labels.languages = [symbol]
  cut : job.classifier.cut "end" = "end"

/-- A job of one row and one language gives one line. -/
theorem OneRow.labelled {symbol t : Text} (hjob : OneRow symbol t job opened) (key : Text) :
    labelledRows job.classifier "text" t = [⟨endMembers, symbol⟩] ∧
      ∃ log, (labelFile (oneLanguage symbol) ⟨"text", key⟩ (.ofText "rows")
          (.ofText "labels")).perform (fileSession t) =
        (.ok ⟨1, 1, 0⟩,
          { opened with
            files := opened.files.write job.output (Utf8.encode
              (labelLine key ⟨endMembers, symbol⟩ ++ [CodePoint.lineFeed]))
            log }) := by
  have hr := labelled?_endLine hjob.languages hjob.cut
  have hlabelled : labelledRows job.classifier "text" t = [⟨endMembers, symbol⟩] := by
    rw [labelledRows, hjob.rows, List.filterMap_cons, hr, List.filterMap_nil]
  have hlimit : ∀ row ∈ Records.rows (Text.unifyNewlines t), ¬PassesLimit row.content := by
    rw [hjob.rows, List.forall_mem_singleton]
    exact not_passesLimit_of_length (by decide) (by decide)
  obtain ⟨summary, hsummary⟩ : ∃ summary, ((labelFile (oneLanguage symbol) ⟨"text", key⟩
      (.ofText "rows") (.ofText "labels")).perform (fileSession t)).1 = .ok summary :=
    (labelFile_finishes_iff hjob.prepared hjob.text).mpr hlimit
  have hclassified : isClassified job.classifier "text" endLine := by
    rw [isClassified_eq]
    exact Option.isSome_iff_exists.mpr ⟨_, hr⟩
  have hcounts : summary = ⟨1, 1, 0⟩ := by
    obtain ⟨hin, hout, herrors⟩ := labelFile_counts hjob.prepared hjob.text hsummary
    rw [hjob.rows] at hin hout herrors
    simp only [List.countP_singleton, hclassified] at hout herrors
    exact congr (congr (congrArg Summary.mk hin) hout) herrors
  have hperform := labelFile_eq_of_ok hjob.prepared hjob.text hsummary
  rw [hcounts, hlabelled, written, List.flatMap_singleton] at hperform
  exact ⟨hlabelled, _, hperform⟩

/-- A language whose symbol is the two halves of a surrogate pair. -/
def splitSymbol : Text := [0xD800, 0xDC00]

/-- The line of a record after a blank that JSON does not know. -/
def spacedLine : Text := 0xA0 :: endLine

/-- The two halves of a pair are not read back as they were, and a row that is JSON is labelled also
where its line is none. -/
theorem splitSymbol_joined_and_spacedLine_labelled :
    (∃ job opened final r line,
      (prepare (oneLanguage splitSymbol) (.ofText "rows") (.ofText "labels")).perform
          (fileSession endLine) = (.ok job, opened) ∧
        (labelFile (oneLanguage splitSymbol) .standard (.ofText "rows") (.ofText "labels")).perform
          (fileSession endLine) = (.ok ⟨1, 1, 0⟩, final) ∧
        labelledRows job.classifier "text" endLine = [r] ∧
        final.files.content job.output = Utf8.encode (line ++ [CodePoint.lineFeed]) ∧
        Json.decode Limits.decoding line ≠ .ok (relabel "language" r)) ∧
    ∃ final complaint place,
      (labelFile (oneLanguage "ruby") .standard (.ofText "rows") (.ofText "labels")).perform
          (fileSession spacedLine) = (.ok ⟨1, 1, 0⟩, final) ∧
        Text.lines (Text.unifyNewlines spacedLine) = [spacedLine] ∧
        Json.decode Limits.decoding spacedLine = .error (.malformed complaint place) := by
  constructor
  · obtain ⟨job, opened, hjob⟩ : ∃ job opened, OneRow splitSymbol endLine job opened :=
      ⟨_, _, rfl, by rfl, by rfl, by decide, by rfl⟩
    obtain ⟨hlabelled, log, hperform⟩ := hjob.labelled "language"
    refine ⟨job, opened, _, _, _, hjob.prepared, hperform, hlabelled,
      FileStore.content_write_self .., ?_⟩
    rw [decode_labelLine hjob.text (hjob.rows ▸ List.mem_singleton_self _)
      (labelled?_endLine hjob.languages hjob.cut)]
    intro hsame
    have hjoined : Json.rejoin splitSymbol ≠ splitSymbol := by decide
    injection hsame with hsame
    injection hsame with hsame
    exact hjoined (Json.text.inj (Prod.mk.inj (List.cons.inj (List.cons.inj hsame).2).1).2)
  · obtain ⟨job, opened, hjob⟩ : ∃ job opened, OneRow "ruby" spacedLine job opened :=
      ⟨_, _, rfl, by rfl, by rfl, by decide, by rfl⟩
    obtain ⟨-, log, hperform⟩ := hjob.labelled "language"
    exact ⟨_, _, _, hperform, by rfl, by rfl⟩

end OneLanguage

end Labelling

end Polyglot
