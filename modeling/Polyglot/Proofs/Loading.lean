import Polyglot.Proofs.Oversized
import Polyglot.Proofs.Records

/-! # Loading a model

Loading reads a file and reads a model from its content. A content that is no text, or whose text is
no JSON value, is refused as malformed, unless reading the text passes a limit of the JSON reader:
then the fault of the reader escapes. That takes a text with more digits in a row, or with more
opening brackets, than the limits allow.
-/

namespace Polyglot.Model

open Records (PassesLimit)

section Load

variable [Limits] {p : Path} {s : Session} {content : Bytes}

/-- What loading comes to: the outcome of reading the file, and a session in which nothing has
changed, except for the log and the number of loadings when a model was read. -/
theorem load_perform (p : Path) (s : Session) :
    (load p).perform s =
      match s.files.read p >>= ofBytes p.text with
      | .ok model =>
        (.ok ⟨model, s.loadings⟩,
          { s.record ⟨.info, Log.modelLogger, loadedMessage model⟩ with
            loadings := s.loadings + 1 })
      | .error fault => (.error fault, s) := by
  have hread := Action.perform_readFile p s
  rw [load]
  cases hcontent : s.files.read p with
  | error fault =>
      rw [hcontent] at hread
      exact Action.perform_bind_of_error hread
  | ok content =>
      rw [hcontent] at hread
      have hlift := Action.perform_lift (ofBytes p.text content) s
      rw [Action.perform_bind_of_ok hread, Outcome.bind_ok]
      cases hmodel : ofBytes p.text content with
      | error fault =>
          rw [hmodel] at hlift
          exact Action.perform_bind_of_error hlift
      | ok model =>
          rw [hmodel] at hlift
          rw [Action.perform_bind_of_ok hlift]
          rfl

/-- Holds of a content that is no text, or whose text is no JSON value. -/
def IsUndecodable (content : Bytes) : Prop :=
  ∀ t, Utf8.decode content = .ok t →
    ∀ v, Json.decode Limits.decoding (Text.unifyNewlines t) ≠ .ok v

/-- A text that passes a limit is not decoded. -/
theorem isUndecodable_of_passesLimit {t : Text} (ht : Utf8.decode content = .ok t)
    (hpasses : PassesLimit (Text.unifyNewlines t)) : IsUndecodable content := by
  intro t' ht' v hv
  cases ht.symm.trans ht'
  rcases hpasses with ⟨digits, hdigits⟩ | hdeep
  · cases hv.symm.trans hdigits
  · cases hv.symm.trans hdeep

theorem exists_ofBytes_eq_error (path : Text) (hnone : IsUndecodable content) :
    ∃ fault, ofBytes path content = .error fault := by
  unfold ofBytes
  split
  next => exact ⟨_, rfl⟩
  next t ht =>
    split
    next => exact ⟨_, rfl⟩
    next => exact ⟨_, rfl⟩
    next => exact ⟨_, rfl⟩
    next v hv => exact absurd hv (hnone t ht v)

/-- Only the faults of the JSON reader escape when there is nothing to be decoded. -/
theorem escapes_ofBytes_iff (path : Text) (hnone : IsUndecodable content) :
    Escapes (ofBytes path content) ↔
      ∃ t, Utf8.decode content = .ok t ∧ PassesLimit (Text.unifyNewlines t) := by
  unfold ofBytes PassesLimit
  split
  next e he => simp [Escapes, he]
  next t ht =>
    simp only [ht, Except.ok.injEq, exists_eq_left']
    split
    next complaint place hcomplaint => simp [Escapes, hcomplaint]
    next digits hdigits => simp [Escapes, hdigits]
    next hdeep => simp [Escapes, hdeep]
    next v hv => exact absurd hv (hnone t ht v)

/-- Loading a file with nothing to be decoded fails and leaves the session as it was. The fault is
that the file is malformed, unless reading its text passes a limit, and that takes a text with a
long row of digits or with many opening brackets. -/
theorem load_undecodable (hread : s.files.read p = .ok content) (hnone : IsUndecodable content) :
    ∃ fault, (load p).perform s = (.error fault, s) ∧
      ((∃ flaw, fault = .malformedModel flaw) ↔
        ∀ t, Utf8.decode content = .ok t → ¬PassesLimit (Text.unifyNewlines t)) ∧
      ∀ t, Utf8.decode content = .ok t → (∀ flaw, fault ≠ .malformedModel flaw) →
        (∃ digits, Json.digitLimit < digits ∧ Json.HasDigits digits (Text.unifyNewlines t)) ∨
          Limits.decoding < (Text.unifyNewlines t).countP Json.isOpening := by
  obtain ⟨fault, hfault⟩ := exists_ofBytes_eq_error p.text hnone
  have hescapes := escapes_ofBytes_iff p.text hnone
  rw [hfault, Escapes] at hescapes
  simp only [Except.error.injEq, exists_eq_left'] at hescapes
  refine ⟨fault, ?_, ?_, ?_⟩
  · rw [load_perform, hread, Outcome.bind_ok, hfault]
  · rw [← not_iff_not]
    simpa only [not_exists, not_forall, not_not, exists_prop] using hescapes
  · intro t ht hfault
    obtain ⟨t', ht', hpasses⟩ := hescapes.mp hfault
    cases ht.symm.trans ht'
    exact hpasses.oversize

end Load

theorem read_fileSession (content : Text) :
    (Records.fileSession content).files.read (.ofText "rows") = .ok (Utf8.encode content) := rfl

open scoped Limits.Usual in
theorem openBrace_undecodable :
    ∃ flaw, ((load (.ofText "rows")).perform (Records.fileSession "\x7b")).1 =
      .error (.malformedModel flaw) := by
  have htext : Utf8.decode (Utf8.encode "\x7b") = .ok "\x7b" := by rfl
  have hnone : IsUndecodable (Utf8.encode "\x7b") := by
    intro t ht v hv
    cases htext.symm.trans ht
    cases hv
  obtain ⟨fault, hload, hmalformed, -⟩ :=
    load_undecodable (read_fileSession "\x7b") hnone
  obtain ⟨flaw, rfl⟩ : ∃ flaw, fault = .malformedModel flaw := by
    refine hmalformed.mpr fun t ht => ?_
    cases htext.symm.trans ht
    exact Records.not_passesLimit_of_length (by decide) (by decide)
  exact ⟨flaw, by rw [hload]⟩

open scoped Limits.Usual in
/-- A file with nothing but a number of too many digits is not refused as malformed. -/
theorem longRow_escapes :
    IsUndecodable (Utf8.encode Records.longRow) ∧
      (Records.fileSession Records.longRow).files.read (.ofText "rows") =
        .ok (Utf8.encode Records.longRow) ∧
      ∀ flaw, ((load (.ofText "rows")).perform (Records.fileSession Records.longRow)).1 ≠
        .error (.malformedModel flaw) := by
  have hpasses : PassesLimit (Text.unifyNewlines Records.longRow) := by
    rw [Text.unifyNewlines_eq_self Records.carriageReturn_notMem_longRow]
    exact Records.passesLimit_longRow
  have hnone := isUndecodable_of_passesLimit Records.decode_longRow hpasses
  obtain ⟨fault, hfault, hescapes⟩ := (escapes_ofBytes_iff (Path.ofText "rows").text hnone).mpr
    ⟨_, Records.decode_longRow, hpasses⟩
  refine ⟨hnone, read_fileSession Records.longRow, fun flaw hload => ?_⟩
  rw [load_perform, read_fileSession, Outcome.bind_ok, hfault] at hload
  exact hescapes flaw (Except.error.inj hload)

end Polyglot.Model
