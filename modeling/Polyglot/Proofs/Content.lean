import Polyglot.Proofs.Agreement
import Polyglot.Proofs.Confusion

/-! # Runs and what they have read

What a run returns and what it writes is decided by the classifier, by the keys and by the rows that
it has read, whatever the numbers of the rows, the paths and the session. Labelling and scoring
judge each row alike: when they read the same bytes, both come to their end or none, they count the
same rows and errors, and a language is written as often as it was predicted.
-/

namespace Polyglot

namespace Records

/-- The rows of the text of a file, without their numbers. -/
def contents (t : Text) : List Text := (rows (Text.unifyNewlines t)).map Row.content

theorem forall_mem_contents {t : Text} {p : Text → Prop} :
    (∀ line ∈ contents t, p line) ↔ ∀ row ∈ rows (Text.unifyNewlines t), p row.content :=
  List.forall_mem_map

theorem countP_contents (t : Text) (p : Text → Bool) :
    (contents t).countP p = (rows (Text.unifyNewlines t)).countP fun row => p row.content :=
  List.countP_map

theorem filterMap_contents {β : Type} (t : Text) (f : Text → Option β) :
    (contents t).filterMap f = (rows (Text.unifyNewlines t)).filterMap fun row => f row.content :=
  List.filterMap_map

/-- Holds of a content that a run reads to its end: it is UTF-8, and no row passes a limit. -/
def IsReadable [Limits] (content : Bytes) : Prop :=
  ∃ t, Utf8.decode content = .ok t ∧ ∀ line ∈ contents t, ¬PassesLimit line

theorem IsReadable.of_length [Limits] {content : Bytes} {t : Text}
    (htext : Utf8.decode content = .ok t)
    (hroom : Limits.decoding ≤ Json.digitLimit)
    (hshort : ∀ line ∈ contents t, line.length ≤ Limits.decoding) : IsReadable content :=
  ⟨t, htext, fun line hline =>
    not_passesLimit_of_length ((hshort line hline).trans hroom) (hshort line hline)⟩

end Records

namespace Labelling

open Records

variable [Limits]

/-- Holds of what a run of labelling returned and of what it left in its output, when it has read a
content with a classifier. -/
def Yields (c : Classifier) (keys : Keys) (content : Bytes) (outcome : Except Fault Summary)
    (left : Bytes) : Prop :=
  ∃ (classifier : Action Classifier) (source target : Path) (s opened : Session) (job : Job),
    (prepare classifier source target).perform s = (.ok job, opened) ∧
      job.classifier = c ∧ opened.files.content job.input = content ∧
      let done := (labelFile classifier keys source target).perform s
      done.1 = outcome ∧ done.2.files.content job.output = left

/-- The counters of lines: those with a language are written. -/
def Summary.ofLines (c : Classifier) (key : Text) (lines : List Text) : Summary :=
  { rowsIn := lines.length
    rowsOut := lines.countP fun line => (labelled? c key line).isSome
    errors := lines.countP fun line => (labelled? c key line).isNone }

namespace Yields

variable {c : Classifier} {keys : Keys} {content left : Bytes} {outcome : Except Fault Summary}
  {summary : Summary} {t : Text}

theorem exists_ok_iff (h : Yields c keys content outcome left) :
    (∃ summary, outcome = .ok summary) ↔ IsReadable content := by
  obtain ⟨classifier, source, target, s, opened, job, hprepare, rfl, rfl, rfl, -⟩ := h
  constructor
  · rintro ⟨summary, hsummary⟩
    obtain ⟨job', opened', t, hprepare', htext⟩ := exists_of_labelFile hsummary
    cases hprepare.symm.trans hprepare'
    exact ⟨t, htext, forall_mem_contents.mpr
      ((labelFile_finishes_iff hprepare htext).mp ⟨summary, hsummary⟩)⟩
  · rintro ⟨t, htext, hlimit⟩
    exact (labelFile_finishes_iff hprepare htext).mpr (forall_mem_contents.mp hlimit)

/-- What labelling counts and writes are the records of the lines that have a language. -/
theorem eq_ofLines (h : Yields c keys content (.ok summary) left)
    (htext : Utf8.decode content = .ok t) :
    summary = .ofLines c keys.text (contents t) ∧
      left = Utf8.encode (written keys.output (labelledRows c keys.text t)) := by
  obtain ⟨classifier, source, target, s, opened, job, hprepare, rfl, rfl, hsummary, rfl⟩ := h
  constructor
  · obtain ⟨hin, hout, herrors⟩ := labelFile_counts hprepare htext hsummary
    simp only [isClassified_eq, Option.not_isSome] at hout herrors
    rw [← countP_contents t fun line => (labelled? job.classifier keys.text line).isSome] at hout
    rw [← countP_contents t fun line => (labelled? job.classifier keys.text line).isNone] at herrors
    rw [Summary.ofLines, ← hout, ← herrors, contents, List.length_map, ← hin]
  · rw [labelFile_eq_of_ok hprepare htext hsummary]
    exact FileStore.content_write_self ..

end Yields

/-- Any content that can be read to its end is read so by some run, with any classifier. -/
theorem exists_yields_ok (c : Classifier) (keys : Keys) {content : Bytes}
    (h : IsReadable content) : ∃ summary left, Yields c keys content (.ok summary) left := by
  obtain ⟨outcome, left, hyields⟩ : ∃ outcome left, Yields c keys content outcome left :=
    ⟨_, _, pure c, .ofText "rows", .ofText "labels",
      bytesSession content,
      _, _, rfl, rfl, rfl, rfl, rfl⟩
  obtain ⟨summary, rfl⟩ := hyields.exists_ok_iff.mpr h
  exact ⟨summary, left, hyields⟩

end Labelling

namespace Scoring

open Records

section Runs

variable [Limits]

/-- Holds of what a run of scoring returned, when it has read a content with a classifier. -/
def Yields (c : Classifier) (keys : Keys) (content : Bytes) (outcome : Except Fault Summary) :
    Prop :=
  ∃ (classifier : Action Classifier) (source : Path) (s opened : Session) (job : Job),
    (prepare classifier source).perform s = (.ok job, opened) ∧
      job.classifier = c ∧ opened.files.content job.input = content ∧
      ((scoreFile classifier keys source).perform s).1 = outcome

/-- The counters of lines, and their table. -/
def Summary.ofLines (c : Classifier) (keys : Keys) (lines : List Text) : Summary :=
  { rows := lines.length
    correct := lines.countP fun line => agrees c keys line || expectsFailure c keys line
    errors := lines.countP fun line => (labelled? c keys.text line).isNone
    confusion := Scoring.confusion (lines.filterMap (judged? c keys)) }

namespace Yields

variable {c : Classifier} {keys : Keys} {content : Bytes} {outcome : Except Fault Summary}
  {summary : Summary} {t : Text}

theorem exists_ok_iff (h : Yields c keys content outcome) :
    (∃ summary, outcome = .ok summary) ↔ IsReadable content := by
  obtain ⟨classifier, source, s, opened, job, hprepare, rfl, rfl, rfl⟩ := h
  constructor
  · rintro ⟨summary, hsummary⟩
    obtain ⟨job', opened', t, hprepare', htext⟩ := exists_of_scoreFile hsummary
    cases hprepare.symm.trans hprepare'
    exact ⟨t, htext, forall_mem_contents.mpr
      ((scoreFile_finishes_iff hprepare htext).mp ⟨summary, hsummary⟩)⟩
  · rintro ⟨t, htext, hlimit⟩
    exact (scoreFile_finishes_iff hprepare htext).mpr (forall_mem_contents.mp hlimit)

/-- What scoring counts are the lines, with what they expect and what is predicted for them. -/
theorem eq_ofLines (h : Yields c keys content (.ok summary)) (htext : Utf8.decode content = .ok t) :
    summary = .ofLines c keys (contents t) := by
  obtain ⟨classifier, source, s, opened, job, hprepare, rfl, rfl, hsummary⟩ := h
  obtain ⟨hrows, herrors⟩ := scoreFile_counts hprepare htext hsummary
  simp only [isClassified_eq, Option.not_isSome] at herrors
  rw [← countP_contents t fun line => (labelled? job.classifier keys.text line).isNone] at herrors
  have hcorrect := scoreFile_correct hprepare htext hsummary
  rw [← countP_agrees_or, ← countP_contents t fun line => agrees job.classifier keys line ||
    expectsFailure job.classifier keys line] at hcorrect
  have htable : summary.confusion =
      confusion ((contents t).filterMap (judged? job.classifier keys)) := by
    obtain ⟨hstop, rfl⟩ := (scoreFile_eq_ok hprepare htext).mp hsummary
    rw [summarize, pairs_handled hstop, filterMap_contents]
  rw [Summary.ofLines, ← herrors, ← hcorrect, ← htable, contents, List.length_map, ← hrows]

end Yields

/-- Any content that can be read to its end is read so by some run, with any classifier. -/
theorem exists_yields_ok (c : Classifier) (keys : Keys) {content : Bytes}
    (h : IsReadable content) : ∃ summary, Yields c keys content (.ok summary) := by
  obtain ⟨outcome, hyields⟩ : ∃ outcome, Yields c keys content outcome :=
    ⟨_, pure c, .ofText "rows", bytesSession content,
      _, _, rfl, rfl, rfl, rfl⟩
  obtain ⟨summary, rfl⟩ := hyields.exists_ok_iff.mpr h
  exact ⟨summary, hyields⟩

end Runs

section Graded

open scoped Limits.Usual

theorem isReadable_gradedRows : IsReadable (Utf8.encode gradedRows) :=
  .of_length (show Utf8.decode (Utf8.encode gradedRows) = .ok gradedRows by rfl) (by decide)
    (by decide)

end Graded

end Scoring

end Polyglot
