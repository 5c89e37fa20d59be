import Polyglot.Classifier
import Polyglot.Proofs.FileStore
import Polyglot.Proofs.Session

/-! # Actions that only read files

A steady action leaves the files as they are, and what it finds depends on their content alone, not
on the directories around them. Getting a classifier is steady, whether it is given or is built from
settings.
-/

namespace Polyglot

/-- Holds of two sessions that differ in the directories and permissions of their files and in their
logs at most. -/
structure Session.Resembles (s s' : Session) : Prop where
  files : s.files.SameFiles s'.files
  site : s.site = s'.site
  environment : s.environment = s'.environment
  shelf : s.shelf = s'.shelf
  loadings : s.loadings = s'.loadings

namespace Action

variable {α β : Type}

/-- Holds of an action that leaves the files as they are and finds the same in sessions that
resemble each other, unless it fails in one of them. -/
structure IsSteady (a : Action α) : Prop where
  keeps : ∀ s, (a.perform s).2.files = s.files
  agrees : ∀ {s s' t t' x x'}, s.Resembles s' → a.perform s = (.ok x, t) →
    a.perform s' = (.ok x', t') → x = x' ∧ t.Resembles t'

namespace IsSteady

theorem pure (x : α) : IsSteady (Pure.pure x) where
  keeps _ := rfl
  agrees hs h h' := by
    cases h
    cases h'
    exact ⟨rfl, hs⟩

theorem lift (r : Except Fault α) : IsSteady (Action.lift r) where
  keeps _ := rfl
  agrees hs h h' := by
    cases h
    cases h'
    exact ⟨rfl, hs⟩

theorem bind {a : Action α} {f : α → Action β} (ha : IsSteady a) (hf : ∀ x, IsSteady (f x)) :
    IsSteady (a >>= f) where
  keeps s := by
    rw [perform_bind, ← ha.keeps s]
    rcases a.perform s with ⟨fault | x, t⟩
    · rfl
    · exact (hf x).keeps t
  agrees hs h h' := by
    obtain ⟨x, t, ht, h⟩ := perform_bind_eq_ok.mp h
    obtain ⟨x', t', ht', h'⟩ := perform_bind_eq_ok.mp h'
    obtain ⟨rfl, hresembles⟩ := ha.agrees hs ht ht'
    exact (hf x).agrees hresembles h h'

/-- A session may decide how an action goes on, if sessions that resemble each other decide
alike. -/
theorem get_bind {f : Session → Action α} (hf : ∀ s, IsSteady (f s))
    (hsame : ∀ s s', s.Resembles s' → f s = f s') : IsSteady (get >>= f) where
  keeps s := (hf s).keeps s
  agrees {s s' t t' x x'} hs h h' := by
    refine (hf s).agrees hs h ?_
    rw [hsame s s' hs]
    exact h'

/-- A change of a session may leave the files alone and keep up a resemblance. -/
theorem of_change {change : Session → Session} (hfiles : ∀ s, (change s).files = s.files)
    (hchange : ∀ s s', s.Resembles s' → (change s).Resembles (change s')) :
    IsSteady (modify change : Action Unit) where
  keeps := hfiles
  agrees hs h h' := by
    cases h
    cases h'
    exact ⟨rfl, hchange _ _ hs⟩

theorem log (level : Log.Level) (logger message : Text) :
    IsSteady (Action.log level logger message) :=
  of_change (fun _ => rfl) fun _ _ hs => ⟨hs.files, hs.site, hs.environment, hs.shelf, hs.loadings⟩

theorem readFile (p : Path) : IsSteady (Action.readFile p) where
  keeps _ := rfl
  agrees {s s' t t' x x'} hs h h' := by
    have hread : s.files.read p = .ok x ∧ s = t := Prod.mk.inj h
    have hread' : s'.files.read p = .ok x' ∧ s' = t' := Prod.mk.inj h'
    obtain ⟨hx, rfl⟩ := hread
    obtain ⟨hx', rfl⟩ := hread'
    exact ⟨hs.files.read_unique hx hx', hs⟩

theorem enlist (model : Model) : IsSteady (Action.enlist model) := by
  refine get_bind (fun s => bind ?_ fun _ => pure _) fun s s' hs => ?_
  · exact of_change (fun _ => rfl) fun _ _ hs => ⟨hs.files, hs.site, hs.environment, hs.shelf, rfl⟩
  · simp only [hs.loadings]

end IsSteady

end Action

namespace Model

theorem isSteady_resolvePath (asked : Option Text) : (resolvePath asked).IsSteady := by
  refine .get_bind (fun s => ?_) fun s s' hs => ?_
  · split
    next => exact .lift _
    next => exact .pure _
  · simp only [Session.getVariable, hs.environment, hs.site]

theorem isSteady_load [Limits] (path : Path) : (load path).IsSteady :=
  .bind (.readFile path) fun _ => .bind (.lift _) fun _ => .bind (.log ..) fun _ => .enlist _

theorem isSteady_shared [Limits] (asked : Option Text) : (shared asked).IsSteady := by
  refine .bind (isSteady_resolvePath asked) fun path => ?_
  refine .get_bind (fun s => ?_) fun s s' hs => ?_
  · split
    next loaded _ => exact .pure loaded
    next =>
      refine .bind (.log ..) fun _ => .bind (isSteady_load _) fun loaded => ?_
      refine .bind ?_ fun _ => .pure _
      exact .of_change (fun _ => rfl) fun _ _ hs =>
        ⟨hs.files, hs.site, hs.environment, congrArg (Entries.put path.text loaded) hs.shelf,
          hs.loadings⟩
  · simp only [hs.shelf]

end Model

/-- Building a classifier from settings changes no file, and it finds the same model whichever
directories there are. -/
theorem Classifier.isSteady_build [Limits] (draft : Settings.Draft) : (build draft).IsSteady :=
  .bind (.lift _) fun _ => .bind (Model.isSteady_shared _) fun _ => .pure _

end Polyglot
