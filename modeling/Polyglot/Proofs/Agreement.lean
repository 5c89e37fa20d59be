import Polyglot.Proofs.Scoring

/-! # Scoring what was labelled

A file that was written by labelling is read again when it is scored. Every row of it is a record
that has its language under the key, so that there is no error; but the language that a record
expects is the one it was given without the blanks at its ends, so that a language with such blanks
is scored as wrong by the model that has found it.
-/

namespace Polyglot

namespace Records

theorem textAt_put_self (key t : Text) (members : List (Text × Json)) :
    textAt key (Entries.put key (.text t) members) = t := by
  rw [textAt, Entries.get?_put_self]
  cases t <;> rfl

theorem textAt_put_of_ne {key other : Text} (hne : key ≠ other) (v : Json)
    (members : List (Text × Json)) :
    textAt key (Entries.put other v members) = textAt key members := by
  rw [textAt, Entries.get?_put_of_ne hne, textAt]

/-- No row passes a limit that is read. -/
theorem not_passesLimit_of_decode [Limits] {content : Text} {v : Json}
    (h : Json.decode Limits.decoding content = .ok v) : ¬PassesLimit content := by
  rintro (⟨digits, hlong⟩ | hdeep)
  · cases h.symm.trans hlong
  · cases h.symm.trans hdeep

end Records

namespace Labelling

open Records

section Lines

/-- The members of a record as they are read back after it was labelled. -/
def reread (key : Text) (r : Labelled) : List (Text × Json) :=
  Entries.put (Json.rejoin key) (.text (Json.rejoin r.language)) r.members

theorem content_rows_written (key : Text) (labelled : List Labelled) :
    (rows (Text.unifyNewlines (written key labelled))).map Row.content =
      labelled.map (labelLine key) := by
  have hplain : ∀ line ∈ labelled.map (labelLine key), Json.IsPlain line := by
    intro line hline
    obtain ⟨r, -, rfl⟩ := List.mem_map.mp hline
    exact isPlain_labelLine key r
  rw [written_eq_lines]
  refine content_rows_of_lines ?_ ?_ ?_
  · exact fun line hline hfeed => absurd (hplain line hline _ hfeed) (by decide)
  · exact fun line hline hreturn => absurd (hplain line hline _ hreturn) (by decide)
  · intro line hline
    obtain ⟨r, -, rfl⟩ := List.mem_map.mp hline
    exact strip_labelLine key r

theorem decode_encode_written (key : Text) (labelled : List Labelled) :
    Utf8.decode (Utf8.encode (written key labelled)) = .ok (written key labelled) := by
  apply Utf8.decode_encode_of_ascii
  intro c hc
  obtain ⟨r, -, hc⟩ := List.mem_flatMap.mp hc
  rcases List.mem_append.mp hc with hc | hc
  · have hplain := isPlain_labelLine key r c hc
    simp only [Json.Style.ascii, Bool.and_eq_true, decide_eq_true_eq] at hplain
    omega
  · rw [List.mem_singleton.mp hc]
    decide

end Lines

section Runs

variable [Limits] {classifier : Action Classifier} {keys : Keys} {source target : Path}
  {s opened : Session}
  {job : Job} {t : Text} {summary : Summary}

/-- Labelling that has come to its end has found its input, which is UTF-8. -/
theorem exists_of_labelFile
    (h : ((labelFile classifier keys source target).perform s).1 = .ok summary) :
    ∃ job opened t, (prepare classifier source target).perform s = (.ok job, opened) ∧
      Utf8.decode (opened.files.content job.input) = .ok t := by
  obtain ⟨job, opened, hprepare, h⟩ := Action.perform_bind_eq_ok.mp (Prod.ext h rfl)
  rw [labelRows_perform] at h
  obtain ⟨t, htext⟩ := exists_decode_of_finish (Prod.mk.inj h).1
  exact ⟨job, opened, t, hprepare, htext⟩

/-- What was labelled is scored with the same classifier: the output is found by the path it was
made for, if it may be read, and it holds the lines that were written. -/
theorem prepare_scoring
    (hprepare : (prepare classifier source target).perform s = (.ok job, opened))
    (htext : Utf8.decode (opened.files.content job.input) = .ok t) {final : Session}
    (h : (labelFile classifier keys source target).perform s = (.ok summary, final))
    {input : FileId} (hopen : final.files.openFile target = .ok input) :
    (Scoring.prepare (pure job.classifier) target).perform final =
        (.ok ⟨job.classifier, job.output⟩, final) ∧
      Utf8.decode (final.files.content job.output) =
        .ok (written keys.output (labelledRows job.classifier keys.text t)) := by
  have hfind := (FileStore.find?_of_openFile hopen).symm.trans
    (find?_target_of_labelFile hprepare h)
  obtain rfl := Node.file.inj (Option.some.inj hfind)
  have hperform := labelFile_eq_of_ok hprepare htext (congrArg Prod.fst h)
  rw [h] at hperform
  constructor
  · refine Action.perform_bind_eq_ok.mpr ⟨job.classifier, final, rfl, ?_⟩
    exact Action.perform_bind_eq_ok.mpr ⟨job.output, final, congrArg (·, final) hopen, rfl⟩
  · cases (Prod.mk.inj hperform).2
    rw [FileStore.content_write_self, decode_encode_written]

/-- A line is read back as the record with its language. -/
theorem decode_labelLine_of_mem (htext : Utf8.decode (opened.files.content job.input) = .ok t)
    {r : Labelled} (hr : r ∈ labelledRows job.classifier keys.text t) (key : Text) :
    Json.decode Limits.decoding (labelLine key r) = .ok (.object (reread key r)) := by
  obtain ⟨row, hrow, hlabelled⟩ := List.mem_filterMap.mp hr
  exact decode_labelLine htext hrow hlabelled key

/-- The text of a record is not touched by its language, if the keys are different ones when they
are read back. -/
theorem labelled?_labelLine (htext : Utf8.decode (opened.files.content job.input) = .ok t)
    (hkeys : keys.text ≠ Json.rejoin keys.output) {r : Labelled}
    (hr : r ∈ labelledRows job.classifier keys.text t) :
    labelled? job.classifier keys.text (labelLine keys.output r) =
      some ⟨reread keys.output r, r.language⟩ := by
  refine labelled?_eq_some_iff.mpr ⟨decode_labelLine_of_mem htext hr keys.output, ?_⟩
  obtain ⟨row, -, hlabelled⟩ := List.mem_filterMap.mp hr
  dsimp only [reread]
  rw [textAt_put_of_ne hkeys]
  exact (labelled?_eq_some_iff.mp hlabelled).2

theorem agrees_labelLine (htext : Utf8.decode (opened.files.content job.input) = .ok t)
    (hkeys : keys.text ≠ keys.output) (hwhole : Json.rejoin keys.output = keys.output)
    {r : Labelled} (hr : r ∈ labelledRows job.classifier keys.text t) :
    Scoring.agrees job.classifier ⟨keys.text, keys.output⟩ (labelLine keys.output r) =
      (Text.strip (Json.rejoin r.language) == r.language) := by
  rw [Scoring.agrees, labelled?_labelLine htext (hwhole.symm ▸ hkeys) hr]
  dsimp only [reread]
  rw [hwhole, textAt_put_self]
  exact BEq.comm

/-- No line that was written is an error, and those agree whose language comes back as it was. -/
theorem counts_written (htext : Utf8.decode (opened.files.content job.input) = .ok t)
    (hkeys : keys.text ≠ keys.output) (hwhole : Json.rejoin keys.output = keys.output) :
    let records := labelledRows job.classifier keys.text t
    let lines := records.map (labelLine keys.output)
    lines.countP (fun line => (labelled? job.classifier keys.text line).isNone) = 0 ∧
      lines.countP (Scoring.agrees job.classifier ⟨keys.text, keys.output⟩) =
        records.countP (fun r => Text.strip (Json.rejoin r.language) == r.language) ∧
      lines.countP (Scoring.expectsFailure job.classifier ⟨keys.text, keys.output⟩) = 0 := by
  have hfound : ∀ r ∈ labelledRows job.classifier keys.text t,
      labelled? job.classifier keys.text (labelLine keys.output r) =
        some ⟨reread keys.output r, r.language⟩ :=
    fun r hr => labelled?_labelLine htext (hwhole.symm ▸ hkeys) hr
  refine ⟨?_, ?_, ?_⟩
  · rw [List.countP_eq_zero, List.forall_mem_map]
    intro r hr
    simp [hfound r hr]
  · rw [List.countP_map]
    refine List.countP_congr fun r hr => ?_
    rw [Function.comp_apply, agrees_labelLine htext hkeys hwhole hr]
  · rw [List.countP_eq_zero, List.forall_mem_map]
    intro r hr hfailure
    cases (Scoring.labelled?_of_expectsFailure hfailure).symm.trans (hfound r hr)

/-- Scoring finds each record that was written, as it is read back. -/
theorem exists_scoreFile_written
    (hprepare : (prepare classifier source target).perform s = (.ok job, opened))
    (htext : Utf8.decode (opened.files.content job.input) = .ok t) {final : Session}
    (h : (labelFile classifier keys source target).perform s = (.ok summary, final))
    {input : FileId} (hopen : final.files.openFile target = .ok input) :
    ∃ scores, ((Scoring.scoreFile (pure job.classifier) ⟨keys.text, keys.output⟩ target).perform
        final).1 = .ok scores ∧
      scores.rows = summary.rowsOut ∧
      (scores.errors = 0 ∧ scores.correct = scores.rows ↔
        ∀ r ∈ labelledRows job.classifier keys.text t,
          job.classifier.classify (textAt keys.text (reread keys.output r)) =
            .ok (Text.strip (textAt keys.output (reread keys.output r)))) ∧
      (keys.text ≠ keys.output → Json.rejoin keys.output = keys.output →
        scores.errors = 0 ∧
          scores.correct = (labelledRows job.classifier keys.text t).countP fun r =>
            Text.strip (Json.rejoin r.language) == r.language) := by
  obtain ⟨hscoring, hwritten⟩ := prepare_scoring hprepare htext h hopen
  have hread : ∀ r ∈ labelledRows job.classifier keys.text t,
      Json.decode Limits.decoding (labelLine keys.output r) =
        .ok (.object (reread keys.output r)) :=
    fun r hr => decode_labelLine_of_mem htext hr keys.output
  have hlimit : ∀ line ∈ (labelledRows job.classifier keys.text t).map (labelLine keys.output),
      ¬PassesLimit line :=
    List.forall_mem_map.mpr fun r hr => not_passesLimit_of_decode (hread r hr)
  obtain ⟨scores, hscores, hrows, herrors, hcorrect, hperfect⟩ :=
    Scoring.exists_scoreFile_of_lines hscoring hwritten (content_rows_written _ _) hlimit
  refine ⟨scores, hscores, ?_, ?_, ?_⟩
  · obtain ⟨-, hout, -⟩ := labelFile_counts hprepare htext (congrArg Prod.fst h)
    simp only [isClassified_eq] at hout
    rw [hrows, List.length_map, hout]
    exact List.length_filterMap_eq_countP
  · rw [hperfect, List.forall_mem_map]
    exact forall₂_congr fun r hr => Scoring.agrees_iff_of_decode (hread r hr)
  · intro hkeys hwhole
    obtain ⟨hnone, hagrees, hfails⟩ := counts_written htext hkeys hwhole
    exact ⟨herrors.trans hnone, by rw [hcorrect, hagrees, hfails, Nat.add_zero]⟩

/-- Scoring what was labelled, if it may be read, comes to its end, and it finds each record that
was written. All of them are correct exactly when each one, as it is read back, has the language
that it expects. Where the key is read back as it is, no record is an error, and those are correct
whose language is read back as it is and has no blanks at its ends. -/
theorem scoreFile_labelled (hkeys : keys.text ≠ keys.output) {final : Session}
    (h : (labelFile classifier keys source target).perform s = (.ok summary, final))
    {input : FileId} (hopen : final.files.openFile target = .ok input) :
    ∃ job opened t scores,
      (prepare classifier source target).perform s = (.ok job, opened) ∧
      Utf8.decode (opened.files.content job.input) = .ok t ∧
      ((Scoring.scoreFile (pure job.classifier) ⟨keys.text, keys.output⟩ target).perform
        final).1 = .ok scores ∧
      scores.rows = summary.rowsOut ∧
      (scores.errors = 0 ∧ scores.correct = scores.rows ↔
        ∀ r ∈ labelledRows job.classifier keys.text t,
          job.classifier.classify (textAt keys.text (reread keys.output r)) =
            .ok (Text.strip (textAt keys.output (reread keys.output r)))) ∧
      (Json.rejoin keys.output = keys.output →
        scores.errors = 0 ∧
          scores.correct = (labelledRows job.classifier keys.text t).countP fun r =>
            Text.strip (Json.rejoin r.language) == r.language) := by
  obtain ⟨job, opened, t, hprepare, htext⟩ := exists_of_labelFile (congrArg Prod.fst h)
  obtain ⟨scores, hscores, hrows, hperfect, hwhole⟩ := exists_scoreFile_written hprepare htext h hopen
  exact ⟨job, opened, t, scores, hprepare, htext, hscores, hrows, hperfect, hwhole hkeys⟩

end Runs

section OneLanguage

open scoped Limits.Usual

/-- A language whose symbol begins with a blank. -/
def blankedSymbol : Text := " ruby"

theorem exists_labelFile_blankedSymbol :
    ∃ job opened final,
      (prepare (oneLanguage blankedSymbol) (.ofText "rows") (.ofText "labels")).perform
          (fileSession endLine) = (.ok job, opened) ∧
        Utf8.decode (opened.files.content job.input) = .ok endLine ∧
        labelledRows job.classifier "text" endLine = [⟨endMembers, blankedSymbol⟩] ∧
        (labelFile (oneLanguage blankedSymbol) .standard (.ofText "rows")
          (.ofText "labels")).perform (fileSession endLine) = (.ok ⟨1, 1, 0⟩, final) ∧
        final.files.openFile (.ofText "labels") = .ok job.output := by
  obtain ⟨job, opened, hjob, hopen⟩ : ∃ job opened, OneRow blankedSymbol endLine job opened ∧
      ∀ content, (opened.files.write job.output content).openFile (.ofText "labels") =
        .ok job.output :=
    ⟨_, _, ⟨rfl, by rfl, by rfl, by decide, by rfl⟩, fun _ => rfl⟩
  obtain ⟨hlabelled, log, hperform⟩ := hjob.labelled "language"
  exact ⟨job, opened, _, hjob.prepared, hjob.text, hlabelled, hperform, hopen _⟩

theorem blankedSymbol_scored :
    ∃ (final : Session) (job : Job) (scores : Scoring.Summary),
      (labelFile (oneLanguage blankedSymbol) .standard (.ofText "rows") (.ofText "labels")).perform
          (fileSession endLine) = (.ok ⟨1, 1, 0⟩, final) ∧
        ((Scoring.scoreFile (pure job.classifier) .standard (.ofText "labels")).perform
          final).1 = .ok scores ∧
        scores.rows = 1 ∧ scores.errors = 0 := by
  obtain ⟨_, _, final, -, -, -, h, hopen⟩ := exists_labelFile_blankedSymbol
  obtain ⟨job, opened, t, scores, -, -, hscores, hrows, -, hwhole⟩ :=
    scoreFile_labelled (by decide) h hopen
  exact ⟨final, job, scores, h, hscores, hrows, (hwhole (by decide)).1⟩

/-- The language that was found and written is scored as wrong. -/
theorem blankedSymbol_is_wrong :
    ∃ job opened final scores,
      (prepare (oneLanguage blankedSymbol) (.ofText "rows") (.ofText "labels")).perform
          (fileSession endLine) = (.ok job, opened) ∧
        (labelFile (oneLanguage blankedSymbol) .standard (.ofText "rows")
          (.ofText "labels")).perform (fileSession endLine) = (.ok ⟨1, 1, 0⟩, final) ∧
        ((Scoring.scoreFile (pure job.classifier) .standard (.ofText "labels")).perform
          final).1 = .ok scores ∧
        scores.rows = 1 ∧ scores.correct = 0 := by
  obtain ⟨job, opened, final, hprepare, htext, hlabelled, h, hopen⟩ :=
    exists_labelFile_blankedSymbol
  obtain ⟨scores, hscores, hrows, -, hwhole⟩ := exists_scoreFile_written hprepare htext h hopen
  refine ⟨job, opened, final, scores, hprepare, h, hscores, hrows, ?_⟩
  have hwritten : labelledRows job.classifier Keys.standard.text endLine = _ := hlabelled
  rw [(hwhole (by decide) (by decide)).2, hwritten]
  decide

end OneLanguage

end Labelling

end Polyglot
