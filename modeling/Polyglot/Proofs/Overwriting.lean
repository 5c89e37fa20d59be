import Polyglot.Proofs.Labelling

/-! # Labelling a file onto itself

Making the output empties it, and only then the input is read. So what labelling returns and writes
is decided by what the input held before exactly when the two are different files, or when there was
nothing to read.
-/

namespace Polyglot

namespace Labelling

open Records

section Targets

variable {classifier : Action Classifier} {source target : Path} {s opened : Session} {job : Job}

/-- The target has no say in the classifier and in the input. -/
theorem prepare_agree {other : Path} {job' : Job} {opened' : Session}
    (hsteady : classifier.IsSteady)
    (hprepare : (prepare classifier source target).perform s = (.ok job, opened))
    (hprepare' : (prepare classifier source other).perform s = (.ok job', opened')) :
    job.classifier = job'.classifier ∧ job.input = job'.input := by
  obtain ⟨ready, files, hclassifier, hopen, -⟩ := prepare_eq_ok hprepare
  obtain ⟨ready', files', hclassifier', hopen', -⟩ := prepare_eq_ok hprepare'
  -- The two targets may need different directories, which are all that tells the sessions apart.
  have hmade (p : Path) := (FileStore.Paves.of_makeDirectoriesOf s.files p).furnishes.sameFiles
  have hresembles : Session.Resembles
      { s with files := (s.files.makeDirectoriesOf target.parent).2 }
      { s with files := (s.files.makeDirectoriesOf other.parent).2 } :=
    ⟨(hmade _).symm.trans (hmade _), rfl, rfl, rfl, rfl⟩
  obtain ⟨hsame, hready⟩ := hsteady.agrees hresembles hclassifier hclassifier'
  exact ⟨hsame, hready.files.openFile_unique hopen hopen'⟩

variable [Limits] {keys : Keys}

/-- What labelling returns and what it writes, given what the input holds when it is read. -/
def labelBytes (c : Classifier) (keys : Keys) (content : Bytes) : Except Fault Summary × Bytes :=
  let r := (Reading.ofBytes content).run (label c keys)
  (r.finish (summarize r.handled), Utf8.encode (output r.handled))

theorem labelFile_eq_labelBytes (keys : Keys)
    (hprepare : (prepare classifier source target).perform s = (.ok job, opened)) :
    let done := (labelFile classifier keys source target).perform s
    (done.1, done.2.files.content job.output) =
      labelBytes job.classifier keys (opened.files.content job.input) := by
  rw [labelFile_perform hprepare]
  exact Prod.ext rfl (FileStore.content_write_self ..)

/-- Nothing was read exactly when nothing is counted. -/
theorem labelBytes_eq_nil_iff {c : Classifier} {content : Bytes} :
    labelBytes c keys content = labelBytes c keys [] ↔ Reading.ofBytes content = ⟨[], none⟩ := by
  constructor
  · intro h
    obtain ⟨hstop, hnone⟩ := finish_eq_ok.mp (Prod.mk.inj h).1
    generalize Reading.ofBytes content = reading at hstop hnone ⊢
    rcases reading with ⟨rs, stop⟩
    obtain ⟨hrun, rfl⟩ := Option.or_eq_none_iff.mp hstop
    have hhandled : (run (label c keys) rs).handled.length = 0 := congrArg Summary.rowsIn hnone
    rw [← (forall₂_handled hrun).length_eq, List.length_eq_zero_iff] at hhandled
    exact congrArg (Reading.mk · none) hhandled
  · intro h
    rw [labelBytes, h]
    rfl

/-- What labelling returns and writes is what it would return and write for another, different
output, exactly when the output is not the input, or when the input held no rows. -/
theorem labelFile_eq_fresh_iff (keys : Keys) {fresh : Path} {job' : Job} {opened' : Session}
    (hsteady : classifier.IsSteady)
    (hprepare : (prepare classifier source target).perform s = (.ok job, opened))
    (hfresh : (prepare classifier source fresh).perform s = (.ok job', opened'))
    (hother : job'.input ≠ job'.output) :
    let done := (labelFile classifier keys source target).perform s
    let ideal := (labelFile classifier keys source fresh).perform s
    done.1 = ideal.1 ∧
        done.2.files.content job.output = ideal.2.files.content job'.output ↔
      job.input ≠ job.output ∨ Reading.ofBytes (s.files.content job.input) = ⟨[], none⟩ := by
  obtain ⟨hclassifier, hinput⟩ := prepare_agree hsteady hprepare hfresh
  have hdone := labelFile_eq_labelBytes keys hprepare
  have hideal := labelFile_eq_labelBytes keys hfresh
  rw [← hclassifier, (spares_opened hfresh hsteady.keeps).content _ hother, ← hinput] at hideal
  dsimp only at hdone hideal ⊢
  rw [← Prod.mk.injEq, hdone, hideal]
  by_cases hsame : job.input = job.output
  · -- The input was emptied, so what is read is nothing.
    rw [hsame, content_output hprepare, eq_comm, labelBytes_eq_nil_iff]
    simp
  · rw [(spares_opened hprepare hsteady.keeps).content _ hsame]
    simp [hsame]

end Targets

section OneLanguage

open scoped Limits.Usual

/-- The path from the root to the file of a session. -/
def rowsFromRoot : Path := .ofText "/work/rows"

theorem labelFile_onto_endLine :
    let done := (labelFile (oneLanguage "ruby") .standard (.ofText "rows") rowsFromRoot).perform
      (fileSession endLine)
    let ideal := (labelFile (oneLanguage "ruby") .standard (.ofText "rows")
      (.ofText "labels")).perform (fileSession endLine)
    ¬(done.1 = ideal.1 ∧ done.2.files.content 0 = ideal.2.files.content 1) := by
  obtain ⟨job, opened, hprepare, hinput, houtput⟩ : ∃ job opened,
      (prepare (oneLanguage "ruby") (.ofText "rows") rowsFromRoot).perform
        (fileSession endLine) = (.ok job, opened) ∧
      job.input = 0 ∧ job.output = 0 := ⟨_, _, rfl, rfl, rfl⟩
  obtain ⟨fresh, opened', hfresh, hinput', houtput'⟩ : ∃ job opened,
      (prepare (oneLanguage "ruby") (.ofText "rows") (.ofText "labels")).perform
        (fileSession endLine) = (.ok job, opened) ∧
      job.input = 0 ∧ job.output = 1 := ⟨_, _, rfl, rfl, rfl⟩
  have hother : fresh.input ≠ fresh.output := by
    rw [hinput', houtput']
    decide
  have h := labelFile_eq_fresh_iff .standard (isSteady_oneLanguage "ruby") hprepare hfresh hother
  rw [hinput, houtput, houtput'] at h
  refine h.not.mpr ?_
  rintro (hne | hempty)
  · exact hne rfl
  · have hlength : (Reading.ofBytes (Utf8.encode endLine)).rows.length = 1 := by decide
    have hnone : (Reading.ofBytes (Utf8.encode endLine)).rows.length = 0 :=
      congrArg (fun r : Reading => r.rows.length) hempty
    omega

/-- A record is lost when its file is labelled onto itself. -/
theorem endLine_is_lost :
    ∃ lost labelled,
      (labelFile (oneLanguage "ruby") .standard (.ofText "rows") rowsFromRoot).perform
          (fileSession endLine) = (.ok ⟨0, 0, 0⟩, lost) ∧
        lost.files.read (.ofText "rows") = .ok [] ∧
        (labelFile (oneLanguage "ruby") .standard (.ofText "rows") (.ofText "labels")).perform
          (fileSession endLine) = (.ok ⟨1, 1, 0⟩, labelled) ∧
        labelled.files.content 1 =
          Utf8.encode (labelLine "language" ⟨endMembers, "ruby"⟩ ++ [CodePoint.lineFeed]) := by
  obtain ⟨job, opened, hjob, houtput⟩ : ∃ job opened, OneRow "ruby" endLine job opened ∧
      job.output = 1 := ⟨_, _, ⟨rfl, by rfl, by rfl, by decide, by rfl⟩, rfl⟩
  obtain ⟨-, log, hperform⟩ := hjob.labelled "language"
  refine ⟨_, _, rfl, by rfl, hperform, ?_⟩
  rw [← houtput]
  exact FileStore.content_write_self ..

end OneLanguage

end Labelling

end Polyglot
