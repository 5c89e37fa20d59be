import Polyglot.Proofs.Labelling

/-! # Labelling that fails

Everything that can be refused before the first line is read is asked for before the output is made:
up to then at most directories are made on the way to the output. A run that is aborted after that
leaves the lines of the records before the one at fault, each with its end, unless it is aborted by
the device: then the output holds as much of the lines as there is room for.
-/

namespace Polyglot

namespace Records

section Run

variable {α : Type}

/-- A run stops at the first line that is at fault, or has handled all lines. -/
theorem exists_handled_lines (handle : Text → Except Fault α) (n : ℕ) (lines : List Text) :
    ∃ before rest, lines = before ++ rest ∧
      run handle (rowsFrom n before) = ⟨(run handle (rowsFrom n lines)).handled, none⟩ ∧
      (rest = [] ∧ (run handle (rowsFrom n lines)).stop = none ∨
        ∃ line after fault, rest = line :: after ∧ handle (Text.strip line) = .error fault ∧
          (run handle (rowsFrom n lines)).stop = some fault) := by
  induction lines generalizing n with
  | nil => exact ⟨[], [], rfl, rfl, .inl ⟨rfl, rfl⟩⟩
  | cons line lines ih =>
      obtain ⟨before, rest, hlines, hrun, hend⟩ := ih (n + 1)
      by_cases hblank : Text.isBlank line
      · -- A blank line is no row, but the next line has the next number.
        refine ⟨line :: before, rest, by rw [hlines, List.cons_append], ?_⟩
        rw [rowsFrom_cons_of_isBlank hblank, rowsFrom_cons_of_isBlank hblank]
        exact ⟨hrun, hend⟩
      · rw [rowsFrom_cons_of_not_isBlank hblank]
        cases hline : handle (Text.strip line) with
        | error fault =>
            refine ⟨[], line :: lines, rfl, ?_, .inr ⟨line, lines, fault, rfl, hline, ?_⟩⟩
            all_goals simp [run, hline, rowsFrom]
        | ok outcome =>
            refine ⟨line :: before, rest, by rw [hlines, List.cons_append], ?_⟩
            rw [rowsFrom_cons_of_not_isBlank hblank]
            simp only [run, hline, hrun]
            exact ⟨trivial, hend⟩

/-- The first rows that a run has handled are those of the first lines. -/
theorem exists_lines_of_prefix (handle : Text → Except Fault α) (n : ℕ) (lines : List Text)
    {front : List (Row × α)} (h : front <+: (run handle (rowsFrom n lines)).handled) :
    ∃ before rest, lines = before ++ rest ∧ run handle (rowsFrom n before) = ⟨front, none⟩ := by
  induction lines generalizing n front with
  | nil =>
      obtain rfl : front = [] := List.prefix_nil.mp h
      exact ⟨[], [], rfl, rfl⟩
  | cons line lines ih =>
      cases front with
      | nil => exact ⟨[], line :: lines, rfl, rfl⟩
      | cons first front =>
          by_cases hblank : Text.isBlank line
          · rw [rowsFrom_cons_of_isBlank hblank] at h
            obtain ⟨before, rest, rfl, hrun⟩ := ih (n + 1) h
            exact ⟨line :: before, rest, rfl, by rw [rowsFrom_cons_of_isBlank hblank, hrun]⟩
          · rw [rowsFrom_cons_of_not_isBlank hblank] at h
            cases hline : handle (Text.strip line) with
            | error fault =>
                simp only [run, hline, List.prefix_nil] at h
                cases h
            | ok outcome =>
                simp only [run, hline, List.cons_prefix_cons] at h
                obtain ⟨before, rest, rfl, hrun⟩ := ih (n + 1) h.2
                refine ⟨line :: before, rest, rfl, ?_⟩
                rw [rowsFrom_cons_of_not_isBlank hblank]
                simp only [run, hline, hrun, h.1]

/-- A run comes to its end when no line with anything on it is at fault. -/
theorem stop_rowsFrom_eq_none_iff {handle : Text → Except Fault α} {n : ℕ} {lines : List Text} :
    (run handle (rowsFrom n lines)).stop = none ↔
      ∀ line ∈ lines, ¬Text.isBlank line → ∃ outcome, handle (Text.strip line) = .ok outcome := by
  induction lines generalizing n with
  | nil => simp [rowsFrom, run]
  | cons line lines ih =>
      rw [List.forall_mem_cons]
      by_cases hblank : Text.isBlank line
      · rw [rowsFrom_cons_of_isBlank hblank, ih]
        simp [hblank]
      · rw [rowsFrom_cons_of_not_isBlank hblank, run_stop_eq_none_iff, List.forall_mem_cons,
          ← run_stop_eq_none_iff, ih]
        simp [hblank]

/-- A run whose result is a fault was stopped by it. -/
theorem finish_eq_error {β : Type} {r : Run α} {result : β} {fault : Fault} :
    r.finish result = .error fault ↔ r.stop = some fault := by
  unfold Run.finish
  split
  next hstop => simp [hstop]
  next found hstop => simp [hstop]

/-- What a line is made into does not depend on its number, and a blank one is made into nothing. -/
theorem filterMap_rowsFrom {β : Type} {f : Text → Option β} (hblank : f [] = none) (n : ℕ)
    (lines : List Text) :
    (rowsFrom n lines).filterMap (fun row => f row.content) =
      lines.filterMap fun line => f (Text.strip line) := by
  induction lines generalizing n with
  | nil => rfl
  | cons line lines ih =>
      by_cases hline : Text.isBlank line
      · rw [rowsFrom_cons_of_isBlank hline, ih, List.filterMap_cons,
          Text.strip_eq_nil_iff.mpr hline, hblank]
      · rw [rowsFrom_cons_of_not_isBlank hline, List.filterMap_cons, List.filterMap_cons, ih]

end Run

end Records

namespace Labelling

open Records

section Chosen

variable [Limits]

/-- A classifier that is given, or else one that is built from settings. -/
def chosen (given : Option Classifier) (draft : Settings.Draft) : Action Classifier :=
  match given with
  | some c => pure c
  | none => Classifier.build draft

theorem isSteady_chosen (given : Option Classifier) (draft : Settings.Draft) :
    (chosen given draft).IsSteady := by
  cases given with
  | some c => exact .pure c
  | none => exact Classifier.isSteady_build draft

end Chosen

section Failures

variable {classifier : Action Classifier} {source target : Path} {s s' opened : Session}
  {job : Job} {fault : Fault}

/-- Until the output is made, only directories are made on the way to it. -/
theorem paves_of_prepare (hkeeps : ∀ around, (classifier.perform around).2.files = around.files)
    (h : (prepare classifier source target).perform s = (.error fault, s')) :
    FileStore.Paves target.parent s.files s'.files := by
  have hpaves := FileStore.Paves.of_makeDirectoriesOf s.files target.parent
  have hready := hkeeps { s with files := (s.files.makeDirectoriesOf target.parent).2 }
  rcases Action.perform_bind_eq_error.mp h with hmade | ⟨_, around, hmade, hrest⟩
  · rw [Action.perform_makeDirectories] at hmade
    cases (Prod.mk.inj hmade).2
    exact hpaves
  cases Action.makeDirectories_eq_ok hmade
  rcases Action.perform_bind_eq_error.mp hrest with hclassifier | ⟨c, ready, hclassifier, hopen⟩
  · rw [hclassifier] at hready
    rwa [hready]
  rw [hclassifier] at hready
  have hfiles : ready.files = (s.files.makeDirectoriesOf target.parent).2 := hready
  rw [← hfiles] at hpaves
  rcases Action.perform_bind_eq_error.mp hopen with hinput | ⟨input, found, hinput, hcreate⟩
  · rw [Action.perform_openFile] at hinput
    cases (Prod.mk.inj hinput).2
    exact hpaves
  obtain ⟨-, rfl⟩ := Action.openFile_eq_ok hinput
  rcases Action.perform_bind_eq_error.mp hcreate with houtput | ⟨output, last, houtput, hdone⟩
  · cases Action.createFile_eq_error houtput
    exact hpaves
  · cases hdone

variable [Limits] {device : Device} {keys : Keys}

/-- The bytes of the lines that are written for some lines: those of the records with a language. -/
def linesOf (c : Classifier) (keys : Keys) (lines : List Text) : Bytes :=
  Utf8.encode (written keys.output
    (lines.filterMap fun line => labelled? c keys.text (Text.strip line)))

/-- The lines of a run over lines that was not stopped. -/
theorem encode_output_eq_linesOf {c : Classifier} {n : ℕ} {lines : List Text}
    {handled : List (Row × Outcome)} (h : run (label c keys) (rowsFrom n lines) = ⟨handled, none⟩) :
    Utf8.encode (output handled) = linesOf c keys lines := by
  have hnone : labelled? c keys.text [] = none := rfl
  have hhandled : (run (label c keys) (rowsFrom n lines)).handled = handled := by rw [h]
  rw [linesOf, ← filterMap_rowsFrom hnone n, ← output_handled (congrArg Run.stop h), hhandled]

/-- What labelling leaves that stops after some lines: the output holds the lines of the records
before the fault, as far as there was room, and nothing else has changed but directories. -/
structure StopsAfter (device : Device) (before rest : List Text) (job : Job) (keys : Keys)
    (target : Path) (fault : Fault) (s s' : Session) : Prop where
  /-- The lines that are read, which are all lines of a text, or those before the block in which
  bytes encode nothing. -/
  lines_eq : Text.lines (delivered (s.files.content job.input)).1 = before ++ rest
  /-- No fault comes from a line before. -/
  handled : ∀ line ∈ before, ∃ outcome, label job.classifier keys (Text.strip line) = .ok outcome
  /-- The fault comes from the next line, or from reading it, and all lines before are written; or
  it is that there was no room for all of them. -/
  stopped :
    ((∃ line after, rest = line :: after ∧
          label job.classifier keys (Text.strip line) = .error fault) ∨
        rest = [] ∧ (delivered (s.files.content job.input)).2 = some fault) ∧
      s'.files.content job.output = linesOf job.classifier keys before ∨
    fault = .unwritten device.refusal ∧
      device.takes (linesOf job.classifier keys before) = false ∧
      s'.files.content job.output = device.taken (linesOf job.classifier keys before)
  find?_target : s'.files.find? target = some (.file job.output)
  spares : FileStore.Spares job.output s.files s'.files

/-- No line of a run that was not stopped is at fault; a blank one is an empty text. -/
theorem exists_label_of_run {c : Classifier} {n : ℕ} {lines : List Text}
    {handled : List (Row × Outcome)}
    (hrun : run (label c keys) (rowsFrom n lines) = ⟨handled, none⟩) :
    ∀ line ∈ lines, ∃ outcome, label c keys (Text.strip line) = .ok outcome := by
  intro line hline
  by_cases hblank : Text.isBlank line
  · rw [Text.strip_eq_nil_iff.mpr hblank]
    exact ⟨_, rfl⟩
  · exact stop_rowsFrom_eq_none_iff.mp (congrArg Run.stop hrun) line hline hblank

/-- An input that is the output was emptied, and then there is nothing to fail at. -/
theorem input_ne_output_of_resultOf {r : Run Outcome}
    (hprepare : (prepare classifier source target).perform s = (.ok job, opened))
    (hruns : Runs device job.classifier keys []
      (Reading.ofBytes (opened.files.content job.input)).rows r)
    (hfault : resultOf device (Reading.ofBytes (opened.files.content job.input)) r =
      .error fault) : job.input ≠ job.output := by
  intro hsame
  rw [hsame, content_output hprepare] at hruns hfault
  obtain hnone : r.handled = [] := List.prefix_nil.mp hruns.handled_isPrefix
  have htakes : device.takes (Utf8.encode (output r.handled)) := by
    rw [hnone]
    exact device.takes_nil
  rw [resultOf, if_pos htakes, hruns.eq_of_takes htakes] at hfault
  cases hfault

/-- A run that is aborted leaves the lines of the records before the fault. -/
theorem exists_stopsAfter (hkeeps : ∀ around, (classifier.perform around).2.files = around.files)
    (hprepare : (prepare classifier source target).perform s = (.ok job, opened))
    (hfails : (labelFileOn device classifier keys source target).perform s = (.error fault, s')) :
    job.input ≠ job.output ∧
      ∃ before rest, StopsAfter device before rest job keys target fault s s' := by
  rw [labelFileOn, Action.perform_bind_of_ok hprepare] at hfails
  obtain ⟨r, hruns, hperform⟩ := labelRowsOn_perform device keys source.text job opened
  rw [hperform] at hfails
  obtain ⟨hfault, rfl⟩ := Prod.mk.inj hfails
  have hspares := spares_opened hprepare hkeeps
  have hother := input_ne_output_of_resultOf hprepare hruns hfault
  rw [hspares.content _ hother] at hruns hfault
  have hwritten := FileStore.Spares.write opened.files job.output
    (device.taken (Utf8.encode (output r.handled)))
  have hspares' := hspares.trans hwritten
  have hfind := hwritten.find? (find?_target hprepare)
  refine ⟨hother, ?_⟩
  unfold resultOf at hfault
  split at hfault
  next htakes =>
    -- The device had room, so that the rows or the reading are at fault.
    obtain rfl := hruns.eq_of_takes htakes
    obtain ⟨before, rest, hsplit, hrun, hend⟩ := exists_handled_lines (label job.classifier keys) 1
      (Text.lines (delivered (s.files.content job.input)).1)
    refine ⟨before, rest, hsplit, exists_label_of_run hrun, .inl ⟨?_, ?_⟩, hfind, hspares'⟩
    · have hor : ((run (label job.classifier keys)
          (rowsFrom 1 (Text.lines (delivered (s.files.content job.input)).1))).stop.or
            (delivered (s.files.content job.input)).2) = some fault := finish_eq_error.mp hfault
      rcases hend with ⟨hrest, hend⟩ | ⟨line, after, found, hrest, hline, hend⟩
      · rw [hend, Option.none_or] at hor
        exact .inr ⟨hrest, hor⟩
      · rw [hend, Option.some_or, Option.some.injEq] at hor
        exact .inl ⟨line, after, hrest, hor ▸ hline⟩
    · rw [FileStore.content_write_self, Device.taken_eq_self htakes]
      exact encode_output_eq_linesOf hrun
  next hfull =>
    obtain ⟨before, rest, hsplit, hrun⟩ := exists_lines_of_prefix (label job.classifier keys) 1
      (Text.lines (delivered (s.files.content job.input)).1) hruns.handled_isPrefix
    have houtput := encode_output_eq_linesOf hrun
    refine ⟨before, rest, hsplit, exists_label_of_run hrun, .inr ⟨?_, ?_, ?_⟩, hfind, hspares'⟩
    · exact (Except.error.inj hfault).symm
    · rw [← houtput]
      exact Bool.eq_false_iff.mpr hfull
    · rw [FileStore.content_write_self, houtput]

/-- Labelling that fails has either changed nothing but directories on the way to the output, when
it fails before the first line is read, or it leaves the lines of the records before the fault, as
far as there was room, in an output that is not the input. -/
theorem labelFile_fails (device : Device) (given : Option Classifier) (draft : Settings.Draft)
    (hfails : (labelFileOn device (chosen given draft) keys source target).perform s =
      (.error fault, s')) :
    (prepare (chosen given draft) source target).perform s = (.error fault, s') ∧
        FileStore.Paves target.parent s.files s'.files ∨
      ∃ job opened,
        (prepare (chosen given draft) source target).perform s = (.ok job, opened) ∧
          job.input ≠ job.output ∧
            ∃ before rest, StopsAfter device before rest job keys target fault s s' := by
  have hkeeps := (isSteady_chosen given draft).keeps
  rcases Action.perform_bind_eq_error.mp hfails with hprepare | ⟨job, opened, hprepare, -⟩
  · exact .inl ⟨hprepare, paves_of_prepare hkeeps hprepare⟩
  · exact .inr ⟨job, opened, hprepare, exists_stopsAfter hkeeps hprepare hfails⟩

end Failures

section OneLanguage

open scoped Limits.Usual

/-- A record, and after it an encoding that is cut off. -/
def cutOffRows : Bytes := Utf8.encode (endLine ++ [CodePoint.lineFeed]) ++ [0xC3]

theorem cutOffRows_leave_endLine :
    ∃ c fault final,
      (labelFileOn .endless (chosen (some c) .standard) .standard (.ofText "rows")
          (.ofText "labels")).perform (bytesSession cutOffRows) = (.error fault, final) ∧
        final.files.content 1 = Utf8.encode
          (labelLine "language" ⟨endMembers, "ruby"⟩ ++ [CodePoint.lineFeed]) := by
  obtain ⟨c, _, -, honly, hcut⟩ : ∃ c after,
      (oneLanguage "ruby").perform (bytesSession cutOffRows) = (.ok c, after) ∧
        c.model.labels.languages = [("ruby" : Text)] ∧ c.cut "end" = "end" :=
    ⟨_, _, rfl, by decide, by rfl⟩
  obtain ⟨opened, hprepare, hinput⟩ : ∃ opened,
      (prepare (chosen (some c) .standard) (.ofText "rows") (.ofText "labels")).perform
          (bytesSession cutOffRows) = (.ok ⟨c, 0, 1⟩, opened) ∧
        opened.files.content 0 = cutOffRows := ⟨_, rfl, rfl⟩
  have hlines : Text.lines (delivered cutOffRows).1 = [endLine] := by rfl
  have hlabel : ¬PassesLimit (Text.strip endLine) :=
    not_passesLimit_of_length (by decide) (by decide)
  have hr : labelled? c Keys.standard.text (Text.strip endLine) = some ⟨endMembers, "ruby"⟩ :=
    labelled?_endLine honly hcut
  rcases hperform : (labelFileOn .endless (chosen (some c) .standard) .standard (.ofText "rows")
      (.ofText "labels")).perform (bytesSession cutOffRows) with ⟨fault | summary, final⟩
  · refine ⟨c, fault, final, hperform, ?_⟩
    rcases labelFile_fails .endless (some c) .standard hperform with
      ⟨hrefused, -⟩ | ⟨job, opened', hprepared, -, before, rest, hstops⟩
    · cases hprepare.symm.trans hrefused
    · cases hprepare.symm.trans hprepared
      rcases hstops.stopped with ⟨hfault, hcontent⟩ | ⟨-, hfull, -⟩
      · rw [hcontent]
        rcases List.append_eq_singleton_iff.mp (hstops.lines_eq.symm.trans hlines) with
          ⟨rfl, rfl⟩ | ⟨rfl, rfl⟩
        · -- The record itself is not at fault.
          obtain ⟨outcome, houtcome⟩ := (label_outcomes c .standard _).1.mpr hlabel
          rcases hfault with ⟨line, after, hrest, hline⟩ | ⟨hrest, -⟩
          · cases hrest
            cases houtcome.symm.trans hline
          · cases hrest
        · rw [linesOf, List.filterMap_cons, hr, List.filterMap_nil, written,
            List.flatMap_singleton]
          rfl
      · cases hfull
  · rw [← labelFile, labelFile_perform hprepare] at hperform
    obtain ⟨hstop, -⟩ := finish_eq_ok.mp (Prod.mk.inj hperform).1
    have hnone : (delivered (opened.files.content 0)).2 = none :=
      (Option.or_eq_none_iff.mp hstop).2
    rw [hinput] at hnone
    cases hnone

/-- A device with room for four bytes, which wants each line at once. -/
def narrow : Device := ⟨some 4, .noRoom, fun _ => true⟩

/-- Two records, and after them a line with a byte that encodes nothing. -/
def brokenRows : Bytes :=
  Utf8.encode (endLine ++ CodePoint.lineFeed :: endLine ++ [CodePoint.lineFeed]) ++ [0xFF, 0x0A]

/-- The line that does not fit is cut off where there is no more room. -/
theorem narrow_cuts_line : ∃ final,
    (labelFileOn narrow (oneLanguage "ruby") .standard (.ofText "rows")
        (.ofText "labels")).perform (fileSession endLine) =
      (.error (.unwritten .noRoom), final) ∧
    final.files.read (.ofText "labels") = .ok (Utf8.encode "\x7b\"te") := by
  obtain ⟨c, opened, hprepare, hinput, hread, honly, hcut⟩ : ∃ c opened,
      (prepare (oneLanguage "ruby") (.ofText "rows") (.ofText "labels")).perform
          (fileSession endLine) = (.ok ⟨c, 0, 1⟩, opened) ∧
        (Reading.ofBytes (opened.files.content 0)).rows = rowsFrom 1 [endLine] ∧
        (∀ content, (opened.files.write 1 content).read (.ofText "labels") = .ok content) ∧
        c.model.labels.languages = [("ruby" : Text)] ∧ c.cut "end" = "end" :=
    ⟨_, _, rfl, by rfl, fun _ => rfl, by decide, by rfl⟩
  have hstop : (run (label c .standard) (rowsFrom 1 [endLine])).stop = none := by
    refine stop_rowsFrom_eq_none_iff.mpr fun line hline _ => ?_
    obtain rfl := List.mem_singleton.mp hline
    exact (label_outcomes c .standard _).1.mpr (not_passesLimit_of_length (by decide) (by decide))
  have hlines : Utf8.encode (output (run (label c .standard) (rowsFrom 1 [endLine])).handled) =
      Utf8.encode (labelLine "language" ⟨endMembers, "ruby"⟩ ++ [CodePoint.lineFeed]) := by
    have hrun : run (label c .standard) (rowsFrom 1 [endLine]) =
        ⟨(run (label c .standard) (rowsFrom 1 [endLine])).handled, none⟩ := by rw [← hstop]
    have hr : labelled? c Keys.standard.text (Text.strip endLine) = some ⟨endMembers, "ruby"⟩ :=
      labelled?_endLine honly hcut
    rw [encode_output_eq_linesOf hrun, linesOf, List.filterMap_cons, hr, List.filterMap_nil, written,
      List.flatMap_singleton]
    rfl
  obtain ⟨r, hruns, hperform⟩ :=
    labelRowsOn_perform narrow .standard (Path.ofText "rows").text ⟨c, 0, 1⟩ opened
  rw [hinput] at hruns
  -- There is one row, and without it there would be room.
  have hone : (run (label c .standard) (rowsFrom 1 [endLine])).handled.length = 1 :=
    (forall₂_handled hstop).length_eq.symm.trans (by rfl)
  have hhandled := hruns.handled_eq_of_room fun front hfront hshort => by
    have hlength : front.length < 1 :=
      hone ▸ lt_of_le_of_ne hfront.length_le fun h => hshort (hfront.eq_of_length h)
    rw [List.length_eq_zero_iff.mp (Nat.lt_one_iff.mp hlength)]
    exact narrow.takes_nil
  rw [hhandled, hlines, resultOf, hhandled, hlines] at hperform
  exact ⟨_, (Action.perform_bind_of_ok hprepare).trans hperform, hread _⟩

/-- The line with the broken byte is read together with the lines before it, which are lost. -/
theorem brokenRows_drop_lines : ∃ e final,
    (labelFile (oneLanguage "ruby") .standard (.ofText "rows") (.ofText "labels")).perform
        (bytesSession brokenRows) = (.error (.notUtf8 e), final) ∧
      final.files.read (.ofText "labels") = .ok [] := ⟨_, _, rfl, by rfl⟩

/-- A device without room is left with a part of a line, and a byte that encodes nothing keeps the
lines before it from being written when it is read with them. -/
theorem narrow_cuts_line_and_brokenRows_drop_lines :
    (∃ final,
      (labelFileOn narrow (oneLanguage "ruby") .standard (.ofText "rows")
          (.ofText "labels")).perform (fileSession endLine) =
        (.error (.unwritten .noRoom), final) ∧
      final.files.read (.ofText "labels") = .ok (Utf8.encode "\x7b\"te")) ∧
    ∃ e final,
      (labelFile (oneLanguage "ruby") .standard (.ofText "rows") (.ofText "labels")).perform
          (bytesSession brokenRows) = (.error (.notUtf8 e), final) ∧
        final.files.read (.ofText "labels") = .ok [] :=
  ⟨narrow_cuts_line, brokenRows_drop_lines⟩

end OneLanguage

end Labelling

end Polyglot
