import Polyglot.Proofs.Session
import Polyglot.Records.Labelling

/-! # Rows on their way to a device

Labelling hands its output on to a device now and then, and at the end in any case. What the file
holds in the end is what the device has taken of the lines of the rows that were handled: all rows
up to the fault that ended the run, or fewer when the device took no more.
-/

namespace Polyglot

/-- Of two contents that are written after one another, the second one stays. -/
theorem FileStore.write_write (s : FileStore) (id : FileId) (a b : Bytes) :
    (s.write id a).write id b = s.write id b := by
  have hcontent : (fun i => if i = id then b else if i = id then a else s.content i) =
      fun i => if i = id then b else s.content i := by
    funext i
    by_cases hi : i = id <;> simp [hi]
  simp only [write, hcontent]

namespace Device

variable {device : Device}

/-- All of an output is taken that the device takes as a whole. -/
theorem taken_eq_self {content : Bytes} (h : device.takes content) :
    device.taken content = content := by
  unfold takes at h
  unfold taken
  split
  next => rfl
  next n hroom =>
    rw [hroom] at h
    exact List.take_of_length_le (of_decide_eq_true h)

theorem takes_nil (device : Device) : device.takes [] := by
  unfold takes
  split
  next => rfl
  next n _ => exact decide_eq_true (Nat.zero_le n)

theorem perform_handOn (device : Device) (id : FileId) (output : Text) (s : Session) :
    (device.handOn id output).perform s =
      (.ok (device.takes (Utf8.encode output)),
        { s with files := s.files.write id (device.taken (Utf8.encode output)) }) := rfl

end Device

namespace Labelling

open Records

variable [Limits] {device : Device} {keys : Keys} {file : Text} {job : Job} {c : Classifier}
  {handled : List (Row × Outcome)} {rs : List Row}

/-- Holds of a run over rows, behind those that had been handled, that a device may have ended. -/
inductive Runs (device : Device) (c : Classifier) (keys : Keys) (handled : List (Row × Outcome))
    (rs : List Row) : Run Outcome → Prop where
  /-- The device had no say. -/
  | whole : Runs device c keys handled rs
      ⟨handled ++ (run (label c keys) rs).handled, (run (label c keys) rs).stop⟩
  /-- The device did not take the output of the rows that had been handled. -/
  | refused (front : List (Row × Outcome))
      (early : front <+: (run (label c keys) rs).handled)
      (full : device.takes (Utf8.encode (output (handled ++ front))) = false) :
      Runs device c keys handled rs ⟨handled ++ front, some (.unwritten device.refusal)⟩

/-- A row that is labelled or skipped goes in front of a run. -/
theorem Runs.cons {row : Row} {outcome : Outcome} {r : Run Outcome}
    (hlabel : label c keys row.content = .ok outcome)
    (h : Runs device c keys (handled ++ [(row, outcome)]) rs r) :
    Runs device c keys handled (row :: rs) r := by
  have hrun : run (label c keys) (row :: rs) =
      ⟨(row, outcome) :: (run (label c keys) rs).handled, (run (label c keys) rs).stop⟩ := by
    rw [run, hlabel]
  cases h with
  | whole =>
      have hwhole : Runs device c keys handled (row :: rs)
          ⟨handled ++ (run (label c keys) (row :: rs)).handled,
            (run (label c keys) (row :: rs)).stop⟩ := .whole
      rwa [hrun, List.append_cons] at hwhole
  | refused front early full =>
      rw [← List.append_cons] at full ⊢
      refine .refused _ ?_ full
      rw [hrun]
      exact (List.prefix_cons_inj _).mpr early

/-- The output may be refused before the next row is looked at. -/
theorem Runs.refused_here (full : device.takes (Utf8.encode (output handled)) = false) :
    Runs device c keys handled rs ⟨handled, some (.unwritten device.refusal)⟩ := by
  have hrefused : Runs device c keys handled rs
      ⟨handled ++ [], some (.unwritten device.refusal)⟩ :=
    .refused [] List.nil_prefix (by rwa [List.append_nil])
  rwa [List.append_nil] at hrefused

/-- Labelling a row that is not at fault: the warning about it comes first, and then perhaps the
device. -/
theorem labelEach_cons_of_ok {row : Row} {outcome : Outcome} (device : Device) (file : Text)
    (handled : List (Row × Outcome)) (rest : List Row) (s : Session)
    (hlabel : label job.classifier keys row.content = .ok outcome) :
    let all := handled ++ [(row, outcome)]
    let warned := { s with log := s.log ++ (warning? file (row, outcome)).toList }
    let written :=
      { warned with files := s.files.write job.output (device.taken (Utf8.encode (output all))) }
    (labelEach device keys file job handled (row :: rest)).perform s =
      if outcome.isLabelled ∧ device.wants (output all) then
        if device.takes (Utf8.encode (output all)) then
          (labelEach device keys file job all rest).perform written
        else (.ok ⟨all, some (.unwritten device.refusal)⟩, written)
      else (labelEach device keys file job all rest).perform warned := by
  intro all warned written
  have hrun : (labelEach device keys file job handled (row :: rest)).perform s =
      Action.perform
        (if outcome.isLabelled ∧ device.wants (output all) then do
          if ← device.handOn job.output (output all) then
            labelEach device keys file job all rest
          else pure ⟨all, some (.unwritten device.refusal)⟩
        else labelEach device keys file job all rest) warned := by
    rw [labelEach, hlabel]
    rfl
  rw [hrun]
  split
  next =>
    rw [Action.perform_bind_of_ok (Device.perform_handOn device job.output _ warned)]
    split <;> rfl
  next => rfl

/-- What labelling rows comes to, and what it leaves: the log tells of the rows that were skipped,
and only the output may have been written. -/
theorem labelEach_perform (device : Device) (keys : Keys) (file : Text) (job : Job)
    (handled : List (Row × Outcome)) (rs : List Row) (s : Session) :
    ∃ r files log, (labelEach device keys file job handled rs).perform s =
        (.ok r, { s with files, log := s.log ++ log }) ∧
      Runs device job.classifier keys handled rs r ∧
      (files = s.files ∨ ∃ content, files = s.files.write job.output content) ∧
      handled.filterMap (warning? file) ++ log = r.handled.filterMap (warning? file) := by
  induction rs generalizing handled s with
  | nil =>
      refine ⟨_, s.files, [], ?_, .whole, .inl rfl, ?_⟩
      · rw [List.append_nil, run, List.append_nil]
        rfl
      · rw [run, List.append_nil, List.append_nil]
  | cons row rest ih =>
      cases hlabel : label job.classifier keys row.content with
      | error fault =>
          have hrun : run (label job.classifier keys) (row :: rest) = ⟨[], some fault⟩ := by
            rw [run, hlabel]
          refine ⟨_, s.files, [], ?_, .whole, .inl rfl, ?_⟩
          · rw [labelEach, hlabel, hrun, List.append_nil, List.append_nil]
            rfl
          · rw [hrun, List.append_nil, List.append_nil]
      | ok outcome =>
          have hwarnings : (handled ++ [(row, outcome)]).filterMap (warning? file) =
              handled.filterMap (warning? file) ++ (warning? file (row, outcome)).toList := by
            rw [List.filterMap_append]
            cases hw : warning? file (row, outcome) <;> simp [hw]
          have hrest (files : FileStore) := ih (handled ++ [(row, outcome)])
            { s with files, log := s.log ++ (warning? file (row, outcome)).toList }
          rw [labelEach_cons_of_ok device file handled rest s hlabel]
          split
          next =>
            split
            next =>
              obtain ⟨r, files, log, hperform, hruns, hfiles, hlog⟩ := hrest _
              refine ⟨r, files, _, by rw [hperform, List.append_assoc], hruns.cons hlabel, ?_, ?_⟩
              · rcases hfiles with rfl | ⟨content, rfl⟩
                · exact .inr ⟨_, rfl⟩
                · exact .inr ⟨content, FileStore.write_write _ _ _ _⟩
              · rw [← hlog, hwarnings, List.append_assoc]
            next hfull =>
              exact ⟨_, _, _, rfl, (Runs.refused_here (Bool.eq_false_iff.mpr hfull)).cons hlabel,
                .inr ⟨_, rfl⟩, hwarnings.symm⟩
          next =>
            obtain ⟨r, files, log, hperform, hruns, hfiles, hlog⟩ := hrest s.files
            refine ⟨r, files, _, by rw [hperform, List.append_assoc], hruns.cons hlabel, hfiles, ?_⟩
            rw [← hlog, hwarnings, List.append_assoc]

/-- What labelling the rows of a file comes to, given its run. -/
def resultOf (device : Device) (reading : Reading) (r : Run Outcome) : Except Fault Summary :=
  if device.takes (Utf8.encode (output r.handled)) then
    { r with stop := r.stop.or reading.stop }.finish (summarize r.handled)
  else .error (.unwritten device.refusal)

/-- The output holds what the device has taken of the lines of the rows that were handled. -/
theorem labelRowsOn_perform (device : Device) (keys : Keys) (file : Text) (job : Job)
    (s : Session) :
    ∃ r, Runs device job.classifier keys [] (Reading.ofBytes (s.files.content job.input)).rows r ∧
      (labelRowsOn device keys file job).perform s =
        (resultOf device (Reading.ofBytes (s.files.content job.input)) r,
          { s with
            files := s.files.write job.output (device.taken (Utf8.encode (output r.handled)))
            log := s.log ++ r.handled.filterMap (warning? file) }) := by
  obtain ⟨r, files, log, hperform, hruns, hfiles, hlog⟩ := labelEach_perform device keys file job []
    (Reading.ofBytes (s.files.content job.input)).rows s
  refine ⟨r, hruns, ?_⟩
  have hread : (readFrom job.input).perform s =
      (.ok (Reading.ofBytes (s.files.content job.input)), s) := rfl
  have hwritten (content : Bytes) :
      files.write job.output content = s.files.write job.output content := by
    rcases hfiles with rfl | ⟨before, rfl⟩
    · rfl
    · exact FileStore.write_write _ _ _ _
  rw [List.filterMap_nil, List.nil_append] at hlog
  rw [labelRowsOn, Action.perform_bind_of_ok hread, Action.perform_bind_of_ok hperform,
    Action.perform_bind_of_ok (Device.perform_handOn device job.output _ _), resultOf, ← hlog]
  simp only [hwritten]
  split <;> rfl

/-- A run that begins with its first row has handled the first rows. -/
theorem Runs.handled_isPrefix {r : Run Outcome} (h : Runs device c keys [] rs r) :
    r.handled <+: (run (label c keys) rs).handled := by
  cases h with
  | whole => exact List.prefix_rfl
  | refused front early full => exact early

/-- A run whose whole output is taken goes on as far as it can. -/
theorem Runs.eq_of_takes {r : Run Outcome} (h : Runs device c keys [] rs r)
    (htakes : device.takes (Utf8.encode (output r.handled))) : r = run (label c keys) rs := by
  cases h with
  | whole => rfl
  | refused front early full => exact absurd htakes (Bool.eq_false_iff.mp full)

/-- A run goes on to the end if there is room for whatever comes before it. -/
theorem Runs.handled_eq_of_room {r : Run Outcome} (h : Runs device c keys [] rs r)
    (hroom : ∀ front, front <+: (run (label c keys) rs).handled →
      front ≠ (run (label c keys) rs).handled → device.takes (Utf8.encode (output front))) :
    r.handled = (run (label c keys) rs).handled := by
  by_cases hwhole : r.handled = (run (label c keys) rs).handled
  · exact hwhole
  · have htakes := hroom r.handled h.handled_isPrefix hwhole
    exact congrArg Run.handled (h.eq_of_takes htakes)

theorem labelRows_perform (keys : Keys) (file : Text) (job : Job) (s : Session) :
    (labelRowsOn .endless keys file job).perform s =
      let r := (Reading.ofBytes (s.files.content job.input)).run (label job.classifier keys)
      (r.finish (summarize r.handled),
        { s with
          files := s.files.write job.output (Utf8.encode (output r.handled))
          log := s.log ++ r.handled.filterMap (warning? file) }) := by
  obtain ⟨r, hruns, hperform⟩ := labelRowsOn_perform .endless keys file job s
  rw [hperform, hruns.eq_of_takes rfl]
  rfl

end Labelling

end Polyglot
