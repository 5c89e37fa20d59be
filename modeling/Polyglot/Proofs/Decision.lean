import Polyglot.Proofs.Analysis
import Polyglot.Proofs.Occurrences

/-! # What leaves decide

An analysis is known by the leaves that a text reaches, by the names of labels and by two counts of
tokens. Analyses of two texts or over two models are therefore compared without looking at a vector,
an account or a sum.
-/

namespace Polyglot

section Related

variable {α β : Type} {R : α → β → Prop} {xs : List α} {ys : List β}

theorem exists_of_mem_right (h : List.Forall₂ R xs ys) : ∀ y ∈ ys, ∃ x ∈ xs, R x y := by
  induction h with
  | nil => simp
  | cons hhead _ ih =>
      intro y hy
      rcases List.mem_cons.mp hy with rfl | hy
      · exact ⟨_, List.mem_cons_self, hhead⟩
      · obtain ⟨x, hx, hrelated⟩ := ih y hy
        exact ⟨x, List.mem_cons_of_mem _ hx, hrelated⟩

theorem exists_of_mem_left (h : List.Forall₂ R xs ys) : ∀ x ∈ xs, ∃ y ∈ ys, R x y :=
  exists_of_mem_right (R := flip R) h.flip

end Related

/-- Holds of two analyses that come to the same decision, with the same votes in the same order;
they may count differently. -/
structure Analysis.Agrees (a b : Analysis) : Prop where
  language : a.language = b.language
  label : a.label = b.label
  votes : a.votes = b.votes

namespace Classifier

/-- Holds of an analysis whose votes are the named standings of leaves, and whose language is the
name of the winner. -/
structure Decides (table : LabelTable) (leaves : List (Leaf Float)) (a : Analysis) : Prop where
  votes : List.Forall₂ (Names table) (Tally.standings leaves) a.votes
  winner : Tally.pick (Tally.standings leaves) = .ok a.label
  language : table.resolve a.label = .ok a.language

theorem rightUnique_names (table : LabelTable) : Relator.RightUnique (Names table) := by
  rintro total ⟨symbol, sum⟩ ⟨symbol', sum'⟩ ⟨hname, rfl⟩ ⟨hname', rfl⟩
  cases hname.symm.trans hname'
  rfl

/-- Leaves decide an analysis but for its counts. -/
theorem Decides.agrees {table : LabelTable} {leaves : List (Leaf Float)} {a b : Analysis}
    (ha : Decides table leaves a) (hb : Decides table leaves b) : a.Agrees b := by
  have hlabel : a.label = b.label := Except.ok.inj (ha.winner.symm.trans hb.winner)
  refine ⟨?_, hlabel, List.right_unique_forall₂' (rightUnique_names table) ha.votes hb.votes⟩
  apply Except.ok.inj
  rw [← ha.language, ← hb.language, hlabel]

theorem verdict_eq_ok {m : Model} {f : Frequency} {a : Analysis} :
    verdict m f = .ok a ↔
      Decides m.labels (m.leaves f) a ∧ a.tokenCount = f.tokenCount ∧
        a.knownCount = f.knownCount := by
  obtain ⟨winner, votes, language, hwinner, -, -, hnames, -, hlanguage, hverdict⟩ :=
    exists_verdict m f
  have hdecides : Decides m.labels (m.leaves f)
      ⟨language, winner, votes, f.tokenCount, f.knownCount⟩ := ⟨hnames, hwinner, hlanguage⟩
  rw [hverdict, Except.ok.injEq]
  constructor
  · rintro rfl
    exact ⟨hdecides, rfl, rfl⟩
  · rintro ⟨ha, htokens, hknown⟩
    obtain ⟨hname, hlabel, hvotes⟩ := hdecides.agrees ha
    cases a
    simp_all

/-- What the analysis of a text is. -/
theorem analyze_eq_ok {c : Classifier} {t : Text} {a : Analysis} :
    c.analyze t = .ok a ↔
      ∃ f, Frequency.ofTokens c.model.vocabulary (tokens (c.cut t)) = .ok f ∧
        Decides c.model.labels (c.model.leaves f) a ∧ a.tokenCount = f.tokenCount ∧
          a.knownCount = f.knownCount := by
  simp only [analyze, Outcome.bind_eq_ok, verdict_eq_ok]

theorem analyze_of_tokens_nil {c : Classifier} {t : Text} (ht : tokens (c.cut t) = []) :
    c.analyze t = .error .emptyInput := by
  rw [analyze, ht, Frequency.ofTokens_nil, Outcome.bind_error]

theorem exists_analyze_of_tokens {c : Classifier} {t : Text} (ht : tokens (c.cut t) ≠ []) :
    ∃ a, c.analyze t = .ok a := by
  obtain ⟨a, ha, -⟩ := exists_analyze (Token.tokens_eq_nil_iff.not.mp ht)
  exact ⟨a, ha⟩

end Classifier

end Polyglot
