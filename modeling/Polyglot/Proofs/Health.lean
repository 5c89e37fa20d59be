import Polyglot.Proofs.FileStore
import Polyglot.Proofs.Unforeseen
import Polyglot.Report

/-! # The health report

A report tells where the model of the environment is, whether a file is there, and, if so, how
asking for the model came out. There is no report when the path has no home, when the store refuses
to tell whether a file is there, and when asking for the model of a file that is there fails in a
way that no handler names.
-/

namespace Polyglot.Report

variable {s : Session} {path : Path} {fault : Fault}

/-- How asking for the model of the environment comes out for a report. -/
def outcomeOf : Except Fault Loaded → Except Fault Outcome
  | .ok loaded =>
    .ok (.valid loaded.model.vocabulary.size loaded.model.forest.length loaded.model.labels.size)
  | .error fault => if fault.isReported then .ok (.invalid fault.message) else .error fault

theorem outcomeOf_eq_error {r : Except Fault Loaded} :
    outcomeOf r = .error fault ↔ r = .error fault ∧ fault.isReported = false := by
  cases r with
  | ok loaded => simp [outcomeOf]
  | error found =>
      simp only [outcomeOf]
      split
      next hreported =>
        refine ⟨nofun, ?_⟩
        rintro ⟨⟨⟩, hnot⟩
        cases hreported.symm.trans hnot
      next hnot =>
        constructor
        · rintro ⟨⟩
          exact ⟨rfl, Bool.eq_false_iff.mpr hnot⟩
        · rintro ⟨⟨⟩, -⟩
          rfl

theorem resolvePath_of_fst {outcome : Except Fault Path}
    (h : ((Model.resolvePath none).perform s).1 = outcome) :
    (Model.resolvePath none).perform s = (outcome, s) := by
  rw [Model.resolvePath_perform] at h ⊢
  exact Prod.ext h rfl

section Reports

variable [Limits]

/-- What ends the making of a report. -/
inductive Fails (s : Session) : Fault → Prop where
  /-- The path begins with a tilde for which there is no home. -/
  | home {t : Text} {fault : Fault} (chosen : Model.chosen? s none = some t)
      (homeless : Path.Homeless s.site.users (s.getVariable Model.homeVariable) (.ofText t) fault) :
      Fails s fault
  /-- The store does not tell whether a file is there: a directory on the way may not be searched,
  or the path is too long to be looked at. -/
  | hidden {path : Path} {refusal : FileRefusal}
      (resolved : ((Model.resolvePath none).perform s).1 = .ok path)
      (askable : path.check = .ok ()) (refused : s.files.locate path = .error refusal)
      (untold : FileStore.tellsNothing refusal = false) : Fails s (.file refusal path.text)
  /-- The file is there, and asking for its model fails in a way that no handler names. -/
  | model {path : Path} {fault : Fault}
      (resolved : ((Model.resolvePath none).perform s).1 = .ok path)
      (present : s.files.HasFile path) (unforeseen : Model.Unforeseen s none fault) : Fails s fault

/-- What a report tells of the model at a path. -/
structure Tells (s : Session) (p : Path) (state : Json) : Prop where
  path : state.member? "path" = some (.text p.text)
  present : s.files.HasFile p → state.member? "present" = some (.bool true)
  /-- Where there is a file, the report says whether its model was served. -/
  valid : s.files.HasFile p →
    state.member? "valid" = some (.bool ((Model.shared none).perform s).1.isOk)
  error : s.files.HasFile p → ∀ fault, ((Model.shared none).perform s).1 = .error fault →
    state.member? "error" = some (.text fault.message)
  absent : ¬s.files.HasFile p →
    state.member? "present" = some (.bool false) ∧ state.member? "valid" = none

theorem tryModel_perform (s : Session) :
    tryModel.perform s =
      (outcomeOf ((Model.shared none).perform s).1, ((Model.shared none).perform s).2) := by
  have hrun : tryModel.perform s =
      Action.perform
        (match ((Model.shared none).perform s).1 with
          | .ok loaded => pure (Outcome.valid loaded.model.vocabulary.size
              loaded.model.forest.length loaded.model.labels.size)
          | .error fault => if fault.isReported then pure (Outcome.invalid fault.message)
              else Action.lift (.error fault)) ((Model.shared none).perform s).2 := rfl
  rw [hrun]
  cases ((Model.shared none).perform s).1 with
  | ok loaded => rfl
  | error fault =>
      simp only [outcomeOf]
      split <;> rfl

/-- The state of the model at a path, from how asking for the model comes out where a file is. -/
theorem inspect_perform (hpath : (Model.resolvePath none).perform s = (.ok path, s)) :
    (inspect.perform s).1 = (do
      let present ← s.files.testFile path
      let outcome ←
        if present then (outcomeOf ((Model.shared none).perform s).1).map some else .ok none
      pure ⟨path.text, s.getVariable Model.pathVariable, outcome⟩) := by
  have hrun : inspect.perform s = Action.perform (do
      if ← Action.lift (s.files.testFile path) then
        let outcome ← tryModel
        pure ⟨path.text, s.getVariable Model.pathVariable, some outcome⟩
      else pure ⟨path.text, s.getVariable Model.pathVariable, none⟩) s := by
    rw [inspect, Action.perform_bind_of_ok hpath]
    rfl
  rw [hrun]
  cases htest : s.files.testFile path with
  | error fault => rfl
  | ok present =>
      rw [Action.perform_bind_of_ok (Action.perform_lift _ _), Outcome.bind_ok]
      cases present with
      | false => rfl
      | true =>
          have htry := tryModel_perform s
          rw [if_pos rfl, if_pos rfl]
          cases houtcome : outcomeOf ((Model.shared none).perform s).1 with
          | ok outcome =>
              rw [houtcome] at htry
              rw [Action.perform_bind_of_ok htry]
              rfl
          | error fault =>
              rw [houtcome] at htry
              rw [Action.perform_bind_of_error htry]
              rfl

/-- With a path, what is left is whether a file is there, and then its model. -/
theorem fails_iff_of_resolved (hresolved : ((Model.resolvePath none).perform s).1 = .ok path) :
    Fails s fault ↔
      s.files.testFile path = .error fault ∨
        s.files.HasFile path ∧ Model.Unforeseen s none fault := by
  rw [FileStore.testFile_eq_error]
  constructor
  · intro h
    cases h with
    | home chosen homeless =>
        have hkey := Model.keyOf_eq_error.mpr ⟨_, chosen, homeless⟩
        rw [Model.keyOf, hresolved] at hkey
        cases hkey
    | hidden resolved askable refused untold =>
        cases hresolved.symm.trans resolved
        exact .inl ⟨askable, _, refused, untold, rfl⟩
    | model resolved present unforeseen =>
        cases hresolved.symm.trans resolved
        exact .inr ⟨present, unforeseen⟩
  · rintro (⟨haskable, refusal, hrefused, huntold, rfl⟩ | ⟨hpresent, hunforeseen⟩)
    · exact .hidden hresolved haskable hrefused huntold
    · exact .model hresolved hpresent hunforeseen

/-- The report around the state of the model. -/
def reportOf (around : Surroundings) (state : ModelState) : Json :=
  .object [("python", around.runtime), ("platform", around.platform), ("model", state.toJson),
    ("packages", .object (packages.map (packageToJson around.versions)))]

theorem collect_perform (around : Surroundings) (s : Session) :
    ((collect around).perform s).1 = (inspect.perform s).1.map (reportOf around) := by
  rcases hinspect : inspect.perform s with ⟨fault | state, s'⟩
  · rw [collect, Action.perform_bind_of_error hinspect]
    rfl
  · rw [collect, Action.perform_bind_of_ok hinspect]
    rfl

/-- The faults that end the making of a report. -/
theorem fails_iff (around : Surroundings) :
    Fails s fault ↔ ((collect around).perform s).1 = .error fault := by
  rw [collect_perform, Outcome.map_eq_error]
  cases hresolved : ((Model.resolvePath none).perform s).1 with
  | error found =>
      have hkey : Model.keyOf s none = .error found := by
        rw [Model.keyOf, hresolved]
        rfl
      obtain ⟨t, hchosen, hhomeless⟩ := Model.keyOf_eq_error.mp hkey
      rw [inspect, Action.perform_bind_of_error (resolvePath_of_fst hresolved), Except.error.injEq]
      constructor
      · intro h
        cases h with
        | home chosen homeless =>
            have hkey' := Model.keyOf_eq_error.mpr ⟨_, chosen, homeless⟩
            exact Except.error.inj (hkey.symm.trans hkey')
        | hidden resolved => cases hresolved.symm.trans resolved
        | model resolved => cases hresolved.symm.trans resolved
      · rintro rfl
        exact .home hchosen hhomeless
  | ok path =>
      rw [fails_iff_of_resolved hresolved, inspect_perform (resolvePath_of_fst hresolved)]
      cases htest : s.files.testFile path with
      | error found =>
          -- Then there is no file.
          have hnone : ¬s.files.HasFile path := by
            rintro ⟨-, id, hfind⟩
            obtain ⟨place, hlocate, -⟩ := FileStore.find?_eq_some.mp hfind
            obtain ⟨-, refusal, hrefused, -⟩ := FileStore.testFile_eq_error.mp htest
            cases hlocate.symm.trans hrefused
          rw [Outcome.bind_error]
          simp [hnone]
      | ok present =>
          rw [FileStore.hasFile_iff_of_testFile htest, Outcome.bind_ok]
          cases present with
          | false => simp
          | true =>
              rw [if_pos rfl, Outcome.bind_eq_error, Outcome.map_eq_error, outcomeOf_eq_error,
                Model.unforeseen_iff]
              simp

theorem tells_of_absent (habsent : ¬s.files.HasFile path) (override : Option Text) :
    Tells s path (ModelState.toJson ⟨path.text, override, none⟩) where
  path := rfl
  present h := absurd h habsent
  valid h := absurd h habsent
  error h := absurd h habsent
  absent _ := ⟨rfl, rfl⟩

theorem tells_of_present {outcome : Outcome} (hpresent : s.files.HasFile path)
    (houtcome : outcomeOf ((Model.shared none).perform s).1 = .ok outcome)
    (override : Option Text) :
    Tells s path (ModelState.toJson ⟨path.text, override, some outcome⟩) := by
  cases hshared : ((Model.shared none).perform s).1 with
  | ok loaded =>
      rw [hshared] at houtcome
      cases houtcome
      exact
        { path := rfl
          present := fun _ => rfl
          valid := fun _ => by rw [hshared]; rfl
          error := fun _ fault h => by rw [hshared] at h; cases h
          absent := fun h => absurd hpresent h }
  | error fault =>
      rw [hshared, outcomeOf] at houtcome
      split at houtcome
      next =>
        cases houtcome
        exact
          { path := rfl
            present := fun _ => rfl
            valid := fun _ => by rw [hshared]; rfl
            error := fun _ found h => by rw [hshared] at h; cases h; rfl
            absent := fun h => absurd hpresent h }
      next => cases houtcome

/-- A report tells of the model at the path of the environment. -/
theorem exists_tells {around : Surroundings} {report : Json}
    (h : ((collect around).perform s).1 = .ok report) :
    ∃ p state, ((Model.resolvePath none).perform s).1 = .ok p ∧
      report.member? "model" = some state ∧ Tells s p state := by
  rw [collect_perform, Outcome.map_eq_ok] at h
  obtain ⟨found, hfound, rfl⟩ := h
  cases hresolved : ((Model.resolvePath none).perform s).1 with
  | error fault =>
      rw [inspect, Action.perform_bind_of_error (resolvePath_of_fst hresolved)] at hfound
      cases hfound
  | ok path =>
      rw [inspect_perform (resolvePath_of_fst hresolved)] at hfound
      refine ⟨path, found.toJson, rfl, rfl, ?_⟩
      obtain ⟨present, htest, hfound⟩ := Outcome.bind_eq_ok.mp hfound
      have hfile := FileStore.hasFile_iff_of_testFile htest
      cases present with
      | false =>
          cases hfound
          exact tells_of_absent (hfile.not.mpr Bool.false_ne_true) _
      | true =>
          rw [if_pos rfl] at hfound
          obtain ⟨outcome, houtcome, hfound⟩ := Outcome.bind_eq_ok.mp hfound
          obtain ⟨outcome, hasked, rfl⟩ := Outcome.map_eq_ok.mp houtcome
          cases hfound
          exact tells_of_present (hfile.mpr rfl) hasked _

end Reports

end Polyglot.Report
