import Polyglot.Proofs.Content

/-! # Labelling what was labelled

A file that was written by labelling is a fixed point: when it is labelled again with the same
classifier and the same keys, each row of it gets the language that it has, at the place where it
stands, and is written as the line that was read. The text of a record is not touched by its
language, so the keys have to be different ones; and the key of the language has to be read back as
it was written, as each key of a record does.
-/

namespace Polyglot

namespace Json

variable [Limits]

/-- Holds of a value that is read back as it was written. -/
def Survives (v : Json) : Prop := decode Limits.decoding (encode v) = .ok v

theorem survives_text_iff {t : Text} : Survives (.text t) ↔ rejoin t = t := by
  rw [Survives, decode_encode (obstacle?_eq_none_iff.mpr (.text t))]
  simp [settle]

end Json

namespace Labelling

open Records

section Lines

theorem contents_written (key : Text) (labelled : List Labelled) :
    contents (written key labelled) = labelled.map (labelLine key) :=
  content_rows_written key labelled

/-- A record that has its language already is written as it was. -/
theorem labelLine_reread {key : Text} (hwhole : Json.rejoin key = key) (r : Labelled) :
    labelLine key ⟨reread key r, r.language⟩ = labelLine key r := by
  simp only [labelLine, relabel, reread, hwhole, Entries.put_put]

variable [Limits] {keys : Keys} {opened : Session} {job : Job} {t : Text}

variable (htext : Utf8.decode (opened.files.content job.input) = .ok t)

include htext

theorem isReadable_written :
    IsReadable (Utf8.encode (written keys.output (labelledRows job.classifier keys.text t))) := by
  refine ⟨_, decode_encode_written _ _, ?_⟩
  rw [contents_written, List.forall_mem_map]
  exact fun r hr => not_passesLimit_of_decode (decode_labelLine_of_mem htext hr keys.output)

variable (hkeys : keys.text ≠ Json.rejoin keys.output)

include hkeys

/-- Each line that was written has the language that it was given. -/
theorem labelledRows_written :
    labelledRows job.classifier keys.text
        (written keys.output (labelledRows job.classifier keys.text t)) =
      (labelledRows job.classifier keys.text t).map fun r =>
        ⟨reread keys.output r, r.language⟩ := by
  rw [labelledRows, ← filterMap_contents, contents_written, List.filterMap_map,
    ← List.filterMap_eq_map]
  exact List.filterMap_congr fun r hr => labelled?_labelLine htext hkeys hr

theorem written_labelledRows (hwhole : Json.rejoin keys.output = keys.output) :
    written keys.output (labelledRows job.classifier keys.text
        (written keys.output (labelledRows job.classifier keys.text t))) =
      written keys.output (labelledRows job.classifier keys.text t) := by
  rw [labelledRows_written htext hkeys, written, List.flatMap_map]
  simp only [labelLine_reread hwhole]
  rfl

end Lines

theorem Summary.rowsOut_ofLines [Limits] (c : Classifier) (key t : Text) :
    (ofLines c key (contents t)).rowsOut = (labelledRows c key t).length := by
  rw [labelledRows, ← filterMap_contents, List.length_filterMap_eq_countP, ofLines]

/-- Where every line has a language, all of them are written. -/
theorem Summary.ofLines_of_labelled [Limits] {c : Classifier} {key : Text} {lines : List Text}
    (hall : ∀ line ∈ lines, (labelled? c key line).isSome) :
    ofLines c key lines = ⟨lines.length, lines.length, 0⟩ := by
  have herrors : lines.countP (fun line => (labelled? c key line).isNone) = 0 :=
    List.countP_eq_zero.mpr fun line hline => by
      simp [Option.isSome_iff_ne_none.mp (hall line hline)]
  rw [ofLines, herrors, List.countP_eq_length.mpr hall]

/-- When a run has read what another one wrote with the same classifier and the same keys, it has
written each row of it again, and as it was if the key of the language is read back as it is. -/
theorem Yields.again [Limits] {c : Classifier} {keys : Keys} {content left left' : Bytes}
    {summary : Summary} {outcome : Except Fault Summary}
    (hkeys : keys.text ≠ Json.rejoin keys.output) (h : Yields c keys content (.ok summary) left)
    (h' : Yields c keys left outcome left') :
    outcome = .ok ⟨summary.rowsOut, summary.rowsOut, 0⟩ ∧
      (Json.Survives (.text keys.output) → left' = left) := by
  obtain ⟨t, htext, -⟩ := h.exists_ok_iff.mp ⟨summary, rfl⟩
  obtain ⟨rfl, rfl⟩ := h.eq_ofLines htext
  obtain ⟨-, -, -, -, opened, job, -, rfl, rfl, -⟩ := h
  -- What was written is read as it was written, since it is ASCII, and no row of it is refused.
  obtain ⟨again, rfl⟩ := h'.exists_ok_iff.mpr (isReadable_written htext)
  obtain ⟨rfl, rfl⟩ := h'.eq_ofLines (decode_encode_written _ _)
  have hall : ∀ line ∈ contents (written keys.output (labelledRows job.classifier keys.text t)),
      (labelled? job.classifier keys.text line).isSome := by
    rw [contents_written, List.forall_mem_map]
    exact fun r hr => Option.isSome_of_eq_some (labelled?_labelLine htext hkeys hr)
  constructor
  · rw [Summary.ofLines_of_labelled hall, Summary.rowsOut_ofLines, contents_written,
      List.length_map]
  · intro hkey
    rw [written_labelledRows htext hkeys (Json.survives_text_iff.mp hkey)]

section Runs

variable {classifier : Action Classifier} {source target : Path}

/-- The file that a path leads to is the input of what begins with the path, whatever directories
were made since. -/
theorem input_eq_of_find? {s opened : Session} {job : Job} {id : FileId}
    (hkeeps : ∀ around, (classifier.perform around).2.files = around.files)
    (hprepare : (prepare classifier source target).perform s = (.ok job, opened))
    (hfind : s.files.find? source = some (.file id)) : job.input = id := by
  obtain ⟨ready, _, hclassifier, hopen, -⟩ := prepare_eq_ok hprepare
  have hready := hkeeps { s with files := (s.files.makeDirectoriesOf target.parent).2 }
  rw [hclassifier] at hready
  have hmade := (FileStore.Paves.of_makeDirectoriesOf s.files target.parent).furnishes
  have hfiles : ready.files = (s.files.makeDirectoriesOf target.parent).2 := hready
  have hkept := (hmade.spares id).find? hfind
  rw [← hfiles, FileStore.find?_of_openFile hopen] at hkept
  exact Node.file.inj (Option.some.inj hkept)

variable [Limits] {keys : Keys}

/-- Labelling is idempotent on its own output: when the file that was written is labelled to another
one, with the same classifier and the same keys, labelling comes to its end, writes every row that
was written before and has no errors; and the file it writes has the same bytes, if the key of the
language is read back as it was written, as every key is that was read from a file. Getting the
classifier must leave the files alone, as it does for one that is given and for one that is built
from settings. -/
theorem labelFile_again {s final : Session} {summary : Summary}
    (hkeys : keys.text ≠ Json.rejoin keys.output)
    (h : (labelFile classifier keys source target).perform s = (.ok summary, final)) :
    ∃ job opened, (prepare classifier source target).perform s = (.ok job, opened) ∧
      ∀ (classifier' : Action Classifier) (other : Path) (again : Job) (opened' : Session),
        (∀ around, (classifier'.perform around).2.files = around.files) →
        (prepare classifier' target other).perform final = (.ok again, opened') →
        again.classifier = job.classifier → again.input ≠ again.output →
          ∃ last, (labelFile classifier' keys target other).perform final =
              (.ok ⟨summary.rowsOut, summary.rowsOut, 0⟩, last) ∧
            (Json.Survives (.text keys.output) →
              last.files.content again.output = final.files.content job.output) := by
  obtain ⟨job, opened, t, hprepare, -⟩ := exists_of_labelFile (congrArg Prod.fst h)
  refine ⟨job, opened, hprepare, ?_⟩
  intro classifier' other again opened' hkeeps hagain hsame hother
  have hfirst : Yields job.classifier keys (opened.files.content job.input) (.ok summary)
      (final.files.content job.output) :=
    ⟨classifier, source, target, s, opened, job, hprepare, rfl, rfl, by rw [h], by rw [h]⟩
  -- The target leads to the output of the first run, which the second one leaves alone.
  have hread : opened'.files.content again.input = final.files.content job.output := by
    rw [(spares_opened hagain hkeeps).content _ hother,
      input_eq_of_find? hkeeps hagain (find?_target_of_labelFile hprepare h)]
  obtain ⟨houtcome, hcontent⟩ := hfirst.again hkeys
    ⟨classifier', target, other, final, opened', again, hagain, hsame, hread, rfl, rfl⟩
  exact ⟨_, Prod.ext houtcome rfl, hcontent⟩

end Runs

section OneLanguage

open scoped Limits.Usual

theorem endLine_labelled_again :
    ∃ job opened final last,
      (prepare (oneLanguage blankedSymbol) (.ofText "rows") (.ofText "labels")).perform
          (fileSession endLine) = (.ok job, opened) ∧
        (labelFile (oneLanguage blankedSymbol) .standard (.ofText "rows")
          (.ofText "labels")).perform (fileSession endLine) = (.ok ⟨1, 1, 0⟩, final) ∧
        (labelFile (pure job.classifier) .standard (.ofText "labels") (.ofText "again")).perform
          final = (.ok ⟨1, 1, 0⟩, last) ∧
        last.files.content 2 = final.files.content job.output := by
  obtain ⟨job, opened, hjob, hagain⟩ : ∃ job opened,
      OneRow blankedSymbol endLine job opened ∧ ∀ content log, ∃ opened',
        (prepare (pure job.classifier) (.ofText "labels") (.ofText "again")).perform
          { opened with
            files := opened.files.write job.output content
            log } = (.ok ⟨job.classifier, 1, 2⟩, opened') :=
    ⟨_, _, ⟨rfl, by rfl, by rfl, by decide, by rfl⟩, fun _ _ => ⟨_, rfl⟩⟩
  obtain ⟨-, log, h⟩ := hjob.labelled "language"
  obtain ⟨opened', hprepare'⟩ := hagain _ log
  obtain ⟨job', opened'', hprepare, hall⟩ :=
    labelFile_again (by decide) h
  cases hjob.prepared.symm.trans hprepare
  obtain ⟨last, hlast, hcontent⟩ :=
    hall _ _ ⟨job.classifier, 1, 2⟩ opened' (fun _ => rfl) hprepare' rfl
      (show (1 : FileId) ≠ 2 by decide)
  exact ⟨job, opened, _, last, hprepare, h, hlast,
    hcontent (Json.survives_text_iff.mpr (by decide))⟩

/-- A key of two surrogates that are joined when it is read is written a second time. -/
theorem splitKey_is_doubled :
    ∃ job opened final last,
      (prepare (oneLanguage "ruby") (.ofText "rows") (.ofText "labels")).perform
          (fileSession endLine) = (.ok job, opened) ∧
        (labelFile (oneLanguage "ruby") ⟨"text", splitSymbol⟩ (.ofText "rows")
          (.ofText "labels")).perform (fileSession endLine) = (.ok ⟨1, 1, 0⟩, final) ∧
        (labelFile (pure job.classifier) ⟨"text", splitSymbol⟩ (.ofText "labels")
          (.ofText "again")).perform final = (.ok ⟨1, 1, 0⟩, last) ∧
        last.files.content 2 ≠ final.files.content job.output := by
  obtain ⟨job, opened, hjob, hagain⟩ : ∃ job opened,
      OneRow "ruby" endLine job opened ∧ ∀ content log, ∃ opened',
        (prepare (pure job.classifier) (.ofText "labels") (.ofText "again")).perform
          { opened with
            files := opened.files.write job.output content
            log } = (.ok ⟨job.classifier, 1, 2⟩, opened') ∧
        opened'.files.content 1 = content :=
    ⟨_, _, ⟨rfl, by rfl, by rfl, by decide, by rfl⟩, fun _ _ => ⟨_, rfl, rfl⟩⟩
  obtain ⟨hlabelled, log, h⟩ := hjob.labelled splitSymbol
  set first : Text := labelLine splitSymbol ⟨endMembers, "ruby"⟩ ++ [CodePoint.lineFeed] with hfirst
  obtain ⟨opened', hprepare', hread⟩ := hagain (Utf8.encode first) log
  have hkeys : Keys.text ⟨"text", splitSymbol⟩ ≠
      Json.rejoin (Keys.output ⟨"text", splitSymbol⟩) := by decide
  have hrows := labelledRows_written hjob.text hkeys
  have hwritten : written splitSymbol [⟨endMembers, "ruby"⟩] = first := List.flatMap_singleton ..
  rw [hlabelled, hwritten] at hrows
  have htext : Utf8.decode (opened'.files.content 1) = .ok first := by
    rw [hread, ← hwritten, decode_encode_written]
  have hyields : Yields job.classifier ⟨"text", splitSymbol⟩ (opened.files.content job.input)
      (.ok ⟨1, 1, 0⟩) (Utf8.encode first) :=
    ⟨oneLanguage "ruby", .ofText "rows", .ofText "labels", fileSession endLine, opened, job,
      hjob.prepared, rfl, rfl, by rw [h], by rw [h, FileStore.content_write_self]⟩
  have hsummary := (hyields.again hkeys
    ⟨_, _, _, _, opened', _, hprepare', rfl, hread, rfl, rfl⟩).1
  have hlast := labelFile_eq_of_ok hprepare' htext hsummary
  refine ⟨job, opened, _, _, hjob.prepared, h, hlast, ?_⟩
  rw [FileStore.content_write_self, FileStore.content_write_self]
  dsimp only
  rw [hrows]
  decide

end OneLanguage

end Labelling

end Polyglot
