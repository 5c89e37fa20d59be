import Polyglot.Proofs.Analysis

/-! # Watching an analysis

An observer is told of an analysis in values, which it cannot change. So it cannot get in the way by
failing: whatever it does with its own state, and whichever calls it fails at, the outcome is the
one that is reached unobserved. What it is told is fixed by the text and the outcome alone: four
stages where there is a result, and the lack of tokens where there is none.
-/

namespace Polyglot.Classifier

section Telling

variable {σ α : Type}

/-- The state of an observer that has been told of some events, one after the other. -/
def told (observer : Observer σ) (events : List Event) (s : σ) : σ :=
  events.foldl (fun s event => ((observer event).run s).2) s

theorem told_cons (observer : Observer σ) (event : Event) (events : List Event) (s : σ) :
    told observer (event :: events) s = told observer events ((observer event).run s).2 := rfl

/-- Whether the observer fails or not, what follows goes on from the state that it leaves. -/
theorem run_tell_bind (observer : Observer σ) (event : Event)
    (rest : ExceptT Fault (StateM σ) α) (s : σ) :
    (do tell observer event; rest).run.run s = rest.run.run ((observer event).run s).2 := rfl

/-- What follows a stage without a fault leaves the observer alone until it is told again. -/
theorem run_bind_of_ok {β : Type} {x : Except Fault α} {a : α} (hx : x = .ok a)
    (rest : α → ExceptT Fault (StateM σ) β) (s : σ) :
    (ExceptT.mk (pure x) >>= rest).run.run s = (rest a).run.run s := by
  rw [hx]
  rfl

/-- Nothing follows a stage that is at fault. -/
theorem run_bind_of_error {β : Type} {x : Except Fault α} {fault : Fault} (hx : x = .error fault)
    (rest : α → ExceptT Fault (StateM σ) β) (s : σ) :
    (ExceptT.mk (pure x) >>= rest).run.run s = (.error fault, s) := by
  rw [hx]
  rfl

end Telling

/-! ## An observer that writes everything down -/

/-- An observer that keeps the events it is told of, and fails at the calls of any choice. -/
def recorder (failure? : ℕ → Option Text) : Observer (List Event) := fun event events =>
  ((failure? events.length).elim (.ok ()) .error, events ++ [event])

theorem told_recorder (failure? : ℕ → Option Text) (events kept : List Event) :
    told (recorder failure?) events kept = kept ++ events := by
  induction events generalizing kept with
  | nil => exact (List.append_nil kept).symm
  | cons event events ih =>
      have hkept : ((recorder failure? event).run kept).2 = kept ++ [event] := rfl
      rw [told_cons, hkept, ih, List.append_assoc, List.singleton_append]

/-! ## What there is to be told -/

/-- Relates the outcome of an analysis to the events on the way to it. -/
inductive Tells (c : Classifier) (t : Text) : Except Fault Analysis → List Event → Prop where
  | found {a : Analysis} {f : Frequency}
      (counted : Frequency.ofTokens c.model.vocabulary (tokens (c.cut t)) = .ok f) :
      Tells c t (.ok a)
        [.tokenized a.tokenCount ((tokens (c.cut t)).take (min 12 a.tokenCount)),
          .counted a.tokenCount a.knownCount f.total,
          .voted c.model.forest.length a.votes,
          .decided a.language]
  | empty : Tells c t (.error .emptyInput) [.tokenized 0 []]

section Run

variable {c : Classifier} {t : Text}

/-- A text without tokens is told of once, before it is refused. -/
theorem run_of_isBlank (hblank : Text.isBlank (c.cut t)) {σ : Type} (observer : Observer σ)
    (s : σ) : (analyzeWith observer c t).run.run s =
      (.error .emptyInput, told observer [.tokenized 0 []] s) := by
  have hcount : Frequency.ofTokens c.model.vocabulary [] = .error .emptyInput :=
    Frequency.ofTokens_nil
  rw [analyzeWith, Token.tokens_eq_nil_iff.mpr hblank, run_tell_bind, run_bind_of_error hcount]
  rfl

/-- A text with tokens is told of at each of the four stages. -/
theorem run_of_verdict {f : Frequency} {a : Analysis}
    (hcount : Frequency.ofTokens c.model.vocabulary (tokens (c.cut t)) = .ok f)
    (hverdict : verdict c.model f = .ok a) {σ : Type} (observer : Observer σ) (s : σ) :
    (analyzeWith observer c t).run.run s =
      (.ok a, told observer
        [.tokenized (tokens (c.cut t)).length ((tokens (c.cut t)).take previewLength),
          .counted f.tokenCount f.knownCount f.total,
          .voted c.model.forest.length a.votes,
          .decided a.language] s) := by
  rw [analyzeWith, run_tell_bind, run_bind_of_ok hcount, run_tell_bind, run_bind_of_ok hverdict,
    run_tell_bind, run_tell_bind]
  rfl

theorem exists_tells (c : Classifier) (t : Text) :
    ∃ events, Tells c t (c.analyze t) events ∧ ∀ (σ : Type) (observer : Observer σ) (s : σ),
      (analyzeWith observer c t).run.run s = (c.analyze t, told observer events s) := by
  by_cases hblank : Text.isBlank (c.cut t)
  · rw [analyze_of_isBlank hblank]
    exact ⟨_, .empty, fun σ => run_of_isBlank hblank⟩
  · obtain ⟨f, hcount, hmeasures⟩ := Frequency.exists_ofTokens (v := c.model.vocabulary)
      (Token.tokens_eq_nil_iff.not.mpr hblank)
    obtain ⟨winner, votes, language, -, -, -, -, -, -, hverdict⟩ := exists_verdict c.model f
    have hanalyze : c.analyze t = .ok ⟨language, winner, votes, f.tokenCount, f.knownCount⟩ := by
      rw [analyze, hcount, Outcome.bind_ok, hverdict]
    have hpreview : (tokens (c.cut t)).take (min 12 f.tokenCount) =
        (tokens (c.cut t)).take previewLength := by
      rw [hmeasures.tokenCount_eq, ← List.take_take, List.take_length]
      rfl
    rw [hanalyze]
    refine ⟨_, .found hcount, fun σ observer s => ?_⟩
    rw [run_of_verdict hcount hverdict, hpreview, hmeasures.tokenCount_eq]

/-- If the observer is given values that it cannot change, an observed analysis has the outcome of
one that nobody observes, and the events depend on nothing that the observer does. An observer that
writes them down has each of them once, in order, even if it fails at some of its calls or at all of
them. -/
theorem analyzeWith_observed (c : Classifier) (t : Text) :
    ∃ events, Tells c t (c.analyze t) events ∧
      (∀ (σ : Type) (observer : Observer σ) (s : σ),
        (analyzeWith observer c t).run.run s = (c.analyze t, told observer events s)) ∧
      ∀ failure?, (analyzeWith (recorder failure?) c t).run.run [] = (c.analyze t, events) := by
  obtain ⟨events, htells, hrun⟩ := exists_tells c t
  refine ⟨events, htells, hrun, fun failure? => ?_⟩
  rw [hrun, told_recorder, List.nil_append]

end Run

end Polyglot.Classifier
