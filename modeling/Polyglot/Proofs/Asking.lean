import Polyglot.CommandLine.Run
import Polyglot.Proofs.Drafting
import Polyglot.Proofs.Shelf

/-! # From arguments to a classifier

A command hands the model and the limit that it was given to the settings. The path is settled
without the blanks at its ends, and a blank one counts as none. Only a limit below one is refused.
What is left is to ask for the model of that path, which does not depend on the limit.
-/

namespace Polyglot.CommandLine

variable {model : Option Text} {maxChars : Option ℤ} {s : Session}

/-- The path that settings take from an argument. -/
def askedPath (model : Option Text) : Option Text :=
  Model.nonempty? (model.map fun t => Text.strip (Path.ofText t).text)

theorem readPath_draft (depth : ℕ) (model : Option Text) (maxChars : Option ℤ) :
    ∃ path, Settings.readPath depth (draft model maxChars).modelPath = .ok path ∧
      path.map Subtype.val = askedPath model := by
  cases model with
  | none => exact ⟨none, rfl, rfl⟩
  | some t =>
      have hread : (draft (some t) maxChars).modelPath = .text (Path.ofText t).text := rfl
      rw [hread]
      by_cases hvisible : Text.strip (Path.ofText t).text = []
      · refine ⟨none, ?_, ?_⟩
        · simp [Settings.readPath, Json.display, hvisible]
        · simp [askedPath, Model.nonempty?, Option.filter, hvisible]
      · refine ⟨some ⟨Text.strip (Path.ofText t).text, hvisible, Text.strip_strip _⟩, ?_, ?_⟩
        · simp [Settings.readPath, Json.display, hvisible]
        · simp [askedPath, Model.nonempty?, Option.filter, hvisible]

variable [Limits]

theorem settle_draft_of_limit (hlimit : ∀ n ∈ maxChars, 1 ≤ n) (model : Option Text) :
    ∃ settings, (draft model maxChars).settle = .ok settings ∧
      settings.modelPath = askedPath model ∧
      settings.maxInputChars = maxChars.map Int.toNat := by
  obtain ⟨limit, hread, hchars⟩ : ∃ limit,
      Settings.readLimit (draft model maxChars).maxInputChars = .ok limit ∧
        limit.map Subtype.val = maxChars.map Int.toNat := by
    cases maxChars with
    | none => exact ⟨none, rfl, rfl⟩
    | some n => exact ⟨_, dif_pos (hlimit n rfl), rfl⟩
  obtain ⟨path, hpath, hasked⟩ := readPath_draft Limits.settling model maxChars
  have hversion : Integer.ofJson (draft model maxChars).schemaVersion =
      .ok (Settings.currentVersion : ℤ) := rfl
  refine ⟨Settings.assemble path limit Settings.currentVersion, ?_, hasked, hchars⟩
  rw [Settings.Draft.settle_of_version hversion, hread, Outcome.bind_ok, hpath, Outcome.bind_ok]
  rfl

theorem settle_draft_of_small {n : ℤ} (hn : n < 1) (model : Option Text) :
    (draft model (some n)).settle = .error (.invalidSettings .limitTooSmall) := by
  have hread : Settings.readLimit (.int n) = .error (.invalidSettings .limitTooSmall) :=
    dif_neg (Int.not_le.mpr hn)
  have hlimit : (draft model (some n)).maxInputChars = .int n := rfl
  rw [Settings.Draft.settle, hlimit, hread, Outcome.bind_error]

/-- With a limit that is not refused, a classifier is made whenever the model of the path is served,
and a fault of the model is the fault of making it. -/
theorem build_perform_of_limit (hlimit : ∀ n ∈ maxChars, 1 ≤ n) (model : Option Text)
    (s : Session) :
    ∃ settings : Settings, settings.maxInputChars = maxChars.map Int.toNat ∧
      (Classifier.build (draft model maxChars)).perform s =
        (((Model.shared (askedPath model)).perform s).1.map (Classifier.mk settings),
          ((Model.shared (askedPath model)).perform s).2) := by
  obtain ⟨settings, hsettle, hpath, hchars⟩ := settle_draft_of_limit hlimit model
  refine ⟨settings, hchars, ?_⟩
  have hlift : (Action.lift (draft model maxChars).settle).perform s = (.ok settings, s) := by
    rw [hsettle, Action.perform_lift]
  rw [Classifier.build, Action.perform_bind_of_ok hlift, hpath]
  rcases hshared : (Model.shared (askedPath model)).perform s with ⟨fault | loaded, s'⟩
  · exact Action.perform_bind_of_error hshared
  · rw [Action.perform_bind_of_ok hshared]
    rfl

/-- A limit below one is refused before anything is looked at. -/
theorem build_perform_of_small {n : ℤ} (hn : n < 1) (model : Option Text) (s : Session) :
    (Classifier.build (draft model (some n))).perform s =
      (.error (.invalidSettings .limitTooSmall), s) := by
  refine Action.perform_bind_of_error ?_
  rw [settle_draft_of_small hn, Action.perform_lift]

section Made

variable {c : Classifier} {opened : Session}

/-- A classifier that is made has the limit that was given, which was not refused. -/
theorem limit_of_build
    (hmade : (Classifier.build (draft model maxChars)).perform s = (.ok c, opened)) :
    (∀ n ∈ maxChars, 1 ≤ n) ∧ c.settings.maxInputChars = maxChars.map Int.toNat := by
  have hlimit : ∀ n ∈ maxChars, 1 ≤ n := by
    rintro n rfl
    by_contra hsmall
    cases hmade.symm.trans (build_perform_of_small (Int.not_le.mp hsmall) model s)
  obtain ⟨settings, hchars, hbuild⟩ := build_perform_of_limit hlimit model s
  rw [hbuild, Prod.mk.injEq, Outcome.map_eq_ok] at hmade
  obtain ⟨⟨loaded, -, rfl⟩, -⟩ := hmade
  exact ⟨hlimit, hchars⟩

/-- Any limit that is not refused gives a classifier of the same model. -/
theorem exists_build_of_limit {other : Option ℤ}
    (hmade : (Classifier.build (draft model maxChars)).perform s = (.ok c, opened))
    (hother : ∀ n ∈ other, 1 ≤ n) :
    ∃ c', (Classifier.build (draft model other)).perform s = (.ok c', opened) ∧
      c'.loaded = c.loaded := by
  obtain ⟨settings, -, hbuild⟩ := build_perform_of_limit (limit_of_build hmade).1 model s
  obtain ⟨settings', -, hbuild'⟩ := build_perform_of_limit hother model s
  rw [hbuild, Prod.mk.injEq, Outcome.map_eq_ok] at hmade
  obtain ⟨⟨loaded, hloaded, rfl⟩, hopened⟩ := hmade
  refine ⟨⟨settings', loaded⟩, ?_, rfl⟩
  rw [hbuild', hloaded, hopened]
  rfl

end Made

end Polyglot.CommandLine
