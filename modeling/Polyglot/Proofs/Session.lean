import Polyglot.Session

/-! # Actions in sequence

The second of two actions starts from the session that the first one leaves, if the first one gives
a result.
-/

namespace Polyglot.Action

variable {α β : Type} {a : Action α} {f : α → Action β} {x : α} {s s' : Session}

theorem perform_bind (a : Action α) (f : α → Action β) (s : Session) :
    (a >>= f).perform s = ExceptT.bindCont f (a.perform s).1 (a.perform s).2 := rfl

theorem perform_bind_of_ok (h : a.perform s = (.ok x, s')) :
    (a >>= f).perform s = (f x).perform s' := by
  rw [perform_bind, h]
  rfl

/-- A sequence gives a result exactly when both actions do. -/
theorem perform_bind_eq_ok {y : β} {s'' : Session} :
    (a >>= f).perform s = (.ok y, s'') ↔
      ∃ x s', a.perform s = (.ok x, s') ∧ (f x).perform s' = (.ok y, s'') := by
  rw [perform_bind]
  rcases a.perform s with ⟨fault | x, s'⟩
  · constructor
    · intro h
      cases h
    · rintro ⟨_, _, h, _⟩
      cases h
  · constructor
    · exact fun h => ⟨x, s', rfl, h⟩
    · rintro ⟨_, _, h, hf⟩
      cases h
      exact hf

theorem perform_bind_of_error {fault : Fault} (h : a.perform s = (.error fault, s')) :
    (a >>= f).perform s = (.error fault, s') := by
  rw [perform_bind, h]
  rfl

/-- A sequence fails when the first action does, or the second one after it. -/
theorem perform_bind_eq_error {fault : Fault} {s'' : Session} :
    (a >>= f).perform s = (.error fault, s'') ↔
      a.perform s = (.error fault, s'') ∨
        ∃ x s', a.perform s = (.ok x, s') ∧ (f x).perform s' = (.error fault, s'') := by
  rw [perform_bind]
  rcases a.perform s with ⟨found | x, s'⟩
  · constructor
    · intro h
      cases h
      exact .inl rfl
    · rintro (h | ⟨_, _, h, -⟩) <;> cases h
      rfl
  · constructor
    · exact fun h => .inr ⟨x, s', rfl, h⟩
    · rintro (h | ⟨_, _, h, hf⟩) <;> cases h
      exact hf

/-- After a fault the recovery starts from the session that was left. -/
theorem perform_tryCatch (a : Action α) (recover : Fault → Action α) (s : Session) :
    (tryCatch a recover).perform s =
      match a.perform s with
      | (.ok x, s') => (.ok x, s')
      | (.error fault, s') => (recover fault).perform s' := by
  rcases h : a.perform s with ⟨outcome, s'⟩
  have hrun : a s = (outcome, s') := h
  show ExceptT.tryCatch a recover s = _
  simp only [ExceptT.tryCatch, ExceptT.mk, bind, StateT.bind, hrun]
  cases outcome <;> rfl

theorem perform_lift (r : Except Fault α) (s : Session) : (lift r).perform s = (r, s) := rfl

section Files

variable {p : Path} {id : FileId}

theorem perform_readFile (p : Path) (s : Session) :
    (readFile p).perform s = (s.files.read p, s) := rfl

theorem perform_makeDirectories (p : Path) (s : Session) :
    (makeDirectories p).perform s =
      ((s.files.makeDirectoriesOf p).1, { s with files := (s.files.makeDirectoriesOf p).2 }) := rfl

theorem makeDirectories_eq_ok {u : Unit} (h : (makeDirectories p).perform s = (.ok u, s')) :
    s' = { s with files := (s.files.makeDirectoriesOf p).2 } := (Prod.mk.inj h).2.symm

theorem openFile_eq_ok (h : (openFile p).perform s = (.ok id, s')) :
    s.files.openFile p = .ok id ∧ s' = s :=
  ⟨(Prod.mk.inj h).1, (Prod.mk.inj h).2.symm⟩

theorem perform_openFile (p : Path) (s : Session) :
    (openFile p).perform s = (s.files.openFile p, s) := rfl

/-- A file that cannot be made leaves everything as it was. -/
theorem createFile_eq_error {fault : Fault} (h : (createFile p).perform s = (.error fault, s')) :
    s' = s := by
  rcases perform_bind_eq_error.mp h with hget | ⟨t, t', hget, h⟩
  · cases hget
  · cases hget
    rcases perform_bind_eq_error.mp h with hcreate | ⟨_, _, _, hput⟩
    · exact (Prod.mk.inj hcreate).2.symm
    · cases hput

theorem createFile_eq_ok (h : (createFile p).perform s = (.ok id, s')) :
    ∃ files, s.files.create p = .ok (id, files) ∧ s' = { s with files } := by
  obtain ⟨t, t', hget, h⟩ := perform_bind_eq_ok.mp h
  cases hget
  obtain ⟨⟨made, files⟩, t'', hcreate, h⟩ := perform_bind_eq_ok.mp h
  have hfound : s.files.create p = .ok (made, files) := (Prod.mk.inj hcreate).1
  cases (Prod.mk.inj hcreate).2
  cases h
  exact ⟨files, hfound, rfl⟩

end Files

end Polyglot.Action
