import Mathlib.Data.List.Nodup
import Polyglot.Classifier
import Polyglot.Proofs.Frequency
import Polyglot.Proofs.Standings
import Polyglot.Proofs.Token

/-! # The two outcomes of an analysis

A text of blanks has no tokens and is refused as empty. Any other text is analysed without a fault:
the tables and the trees of a model fit together, so that every id that comes up on the way is an
index of the vector, a slot of the tally or an id of the label table.
-/

namespace Polyglot

/-- The leaves that a frequency vector reaches, in the order of the trees. -/
def Model.leaves (m : Model) (f : Frequency) : List (Leaf Float) := m.forest.map (Tree.reach f)

theorem Model.label_bounds_of_mem_leaves (m : Model) (f : Frequency) :
    ∀ l ∈ m.leaves f, 0 ≤ l.label ∧ l.label < m.labels.size :=
  Tree.label_bounds_of_mem_reach m.fits

namespace Classifier

/-- A vote is a total whose label is named. -/
def Names (table : LabelTable) (total : Int × Float) (vote : Text × Float) : Prop :=
  table.resolve total.1 = .ok vote.1 ∧ vote.2 = total.2

/-- Naming labels relates each label to one symbol and each symbol to one label. -/
theorem biUnique_resolve (table : LabelTable) :
    Relator.BiUnique fun id symbol => table.resolve id = .ok symbol :=
  ⟨fun _ _ _ hi hj => LabelTable.resolve_injective hi hj,
    fun _ _ _ hi hj => Except.ok.inj (hi.symm.trans hj)⟩

theorem forall₂_keys {table : LabelTable} {totals : List (Int × Float)}
    {votes : List (Text × Float)} (hvotes : List.Forall₂ (Names table) totals votes) :
    List.Forall₂ (fun id symbol => table.resolve id = .ok symbol)
      (Entries.keys totals) (Entries.keys votes) := by
  rw [Entries.keys, Entries.keys, List.forall₂_map_left_iff, List.forall₂_map_right_iff]
  exact hvotes.imp fun _ _ h => h.1

theorem mem_languages_of_vote {table : LabelTable} {totals : List (Int × Float)}
    {votes : List (Text × Float)} (hvotes : List.Forall₂ (Names table) totals votes) :
    ∀ symbol ∈ Entries.keys votes, symbol ∈ table.languages := by
  induction hvotes with
  | nil => simp
  | cons hvote _ ih =>
      intro symbol hsymbol
      rcases List.mem_cons.mp hsymbol with rfl | hrest
      · exact LabelTable.mem_languages_of_resolve hvote.1
      · exact ih symbol hrest

/-- Where the labels have names, the totals become votes. -/
theorem exists_votes {table : LabelTable} {totals : List (Int × Float)}
    (hbounds : ∀ e ∈ totals, 0 ≤ e.1 ∧ e.1 < table.size) :
    ∃ votes, (totals.mapM fun (label, total) => do
        let symbol ← table.resolve label
        pure (symbol, total)) = .ok votes ∧ List.Forall₂ (Names table) totals votes := by
  have hresolve : ∀ e ∈ totals, ∃ vote,
      (table.resolve e.1 >>= fun symbol => pure (symbol, e.2)) = .ok vote := by
    intro e he
    obtain ⟨symbol, hsymbol⟩ := LabelTable.exists_resolve (hbounds e he).1 (hbounds e he).2
    exact ⟨(symbol, e.2), Outcome.bind_eq_ok.mpr ⟨symbol, hsymbol, rfl⟩⟩
  obtain ⟨votes, hvotes⟩ := Outcome.exists_mapM hresolve
  refine ⟨votes, hvotes, (Outcome.mapM_eq_ok.mp hvotes).imp ?_⟩
  intro e vote hvote
  obtain ⟨symbol, hsymbol, hpair⟩ := Outcome.bind_eq_ok.mp hvote
  cases hpair
  exact ⟨hsymbol, rfl⟩

/-- A frequency vector leads to a verdict, whatever its entries are. Distinct labels have distinct
names, so that the table of the votes merges nothing. -/
theorem exists_verdict (m : Model) (f : Frequency) :
    ∃ winner votes language, Tally.pick (Tally.standings (m.leaves f)) = .ok winner ∧
      Tally.ofForest m.labels.size m.forest f = .ok ⟨Tally.standings (m.leaves f), winner⟩ ∧
      Tally.Fair m.labels.size ⟨Tally.standings (m.leaves f), winner⟩ ∧
      List.Forall₂ (Names m.labels) (Tally.standings (m.leaves f)) votes ∧
      (Entries.keys votes).Nodup ∧ m.labels.resolve winner = .ok language ∧
      verdict m f = .ok ⟨language, winner, votes, f.tokenCount, f.knownCount⟩ := by
  obtain ⟨winner, hwinner, htally, hfair⟩ := Tally.exists_ofForest m.forest_ne_nil m.fits f
  obtain ⟨votes, hvotes, hnames⟩ := exists_votes hfair.label_bounds
  obtain ⟨language, hlanguage⟩ :=
    LabelTable.exists_resolve hfair.winner_bounds.1 hfair.winner_bounds.2
  have hnodup := (List.rel_nodup (biUnique_resolve m.labels) (forall₂_keys hnames)).mp
    hfair.labels_nodup
  refine ⟨winner, votes, language, hwinner, htally, hfair, hnames, hnodup, hlanguage, ?_⟩
  rw [verdict, htally, Outcome.bind_ok, hvotes, Outcome.bind_ok, hlanguage, Outcome.bind_ok,
    Entries.ofList_of_nodup hnodup]
  rfl

/-- What is promised of the analysis of a text. -/
structure Consistent (c : Classifier) (t : Text) (a : Analysis) : Prop where
  language_mem : a.language ∈ c.model.labels.languages
  label_bounds : 0 ≤ a.label ∧ a.label < c.model.labels.size
  resolve_label : c.model.labels.resolve a.label = .ok a.language
  tokenCount_eq : a.tokenCount + 1 = 2 * (Token.singles (c.cut t)).length
  knownCount_le : a.knownCount ≤ a.tokenCount
  votes_nodup : (Entries.keys a.votes).Nodup
  votes_subset : ∀ symbol ∈ Entries.keys a.votes, symbol ∈ c.model.labels.languages
  language_voted : a.language ∈ Entries.keys a.votes
  /-- The vector has an entry for every known token, and the votes are the totals of its tally, each
  with its label named. -/
  votes_named : ∃ f tally,
    Frequency.ofTokens c.model.vocabulary (tokens (c.cut t)) = .ok f ∧
    Frequency.Measures c.model.vocabulary (tokens (c.cut t)) f ∧
    Tally.ofForest c.model.labels.size c.model.forest f = .ok tally ∧
    a.votes.length = tally.totals.length ∧ List.Forall₂ (Names c.model.labels) tally.totals a.votes

theorem analyze_of_isBlank {c : Classifier} {t : Text} (hblank : Text.isBlank (c.cut t)) :
    c.analyze t = .error .emptyInput := by
  rw [analyze, Token.tokens_eq_nil_iff.mpr hblank, Frequency.ofTokens_nil, Outcome.bind_error]

theorem exists_analyze {c : Classifier} {t : Text} (hblank : ¬ Text.isBlank (c.cut t)) :
    ∃ a, c.analyze t = .ok a ∧ Consistent c t a := by
  obtain ⟨f, hf, hmeasures⟩ := Frequency.exists_ofTokens (v := c.model.vocabulary)
    (Token.tokens_eq_nil_iff.not.mpr hblank)
  obtain ⟨winner, votes, language, -, htally, hfair, hnames, hnodup, hlanguage, hverdict⟩ :=
    exists_verdict c.model f
  refine ⟨_, by rw [analyze, hf, Outcome.bind_ok, hverdict], ?_⟩
  refine
    { language_mem := LabelTable.mem_languages_of_resolve hlanguage
      label_bounds := hfair.winner_bounds
      resolve_label := hlanguage
      tokenCount_eq := ?_
      knownCount_le := hmeasures.tokenCount_eq ▸ hmeasures.knownCount_le
      votes_nodup := hnodup
      votes_subset := mem_languages_of_vote hnames
      language_voted := ?_
      votes_named := ⟨f, _, hf, hmeasures, htally, hnames.length_eq.symm, hnames⟩ }
  · have hsingles := List.length_pos_of_ne_nil (Token.singles_eq_nil_iff.not.mpr hblank)
    have hlength := hmeasures.tokenCount_eq.trans (Token.length_tokens _)
    dsimp only
    omega
  · exact (List.rel_mem (biUnique_resolve c.model.labels) hlanguage (forall₂_keys hnames)).mp
      hfair.winner_mem

theorem classify_cases (c : Classifier) (t : Text) :
    (∃ language, c.classify t = .ok language) ∨ c.classify t = .error .emptyInput := by
  by_cases hblank : Text.isBlank (c.cut t)
  · exact .inr (Outcome.map_eq_error.mpr (analyze_of_isBlank hblank))
  · obtain ⟨a, ha, _⟩ := exists_analyze hblank
    exact .inl ⟨a.language, Outcome.map_eq_ok.mpr ⟨a, ha, rfl⟩⟩

/-- An analysis has exactly two outcomes. It refuses a text as empty if and only if nothing but
blanks stands in the part that is looked at, and otherwise finds a language that the model knows. -/
theorem analyze_outcomes (c : Classifier) (t : Text) :
    (c.analyze t = .error .emptyInput ↔ ∀ x ∈ c.cut t, CodePoint.isBlank x) ∧
      (c.analyze t = .error .emptyInput ∨ ∃ a, c.analyze t = .ok a ∧ Consistent c t a) := by
  rw [← List.all_eq_true]
  by_cases hblank : Text.isBlank (c.cut t)
  · have hrefused := analyze_of_isBlank hblank
    exact ⟨iff_of_true hrefused hblank, .inl hrefused⟩
  · obtain ⟨a, ha, hconsistent⟩ := exists_analyze hblank
    have hfound : c.analyze t ≠ .error .emptyInput := by simp [ha]
    exact ⟨iff_of_false hfound hblank, .inr ⟨a, ha, hconsistent⟩⟩

end Classifier

end Polyglot
