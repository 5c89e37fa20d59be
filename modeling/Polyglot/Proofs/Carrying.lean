import Polyglot.Proofs.Decision
import Polyglot.Proofs.Walk

/-! # Models that carry over

One model carries over to another if the second knows every token and every language of the first
and has the same trees, all of it under other ids. Ids do not show in an analysis but for the label:
every text gets the same votes in the same order, and the same language. Only tokens that the second
model knows in addition are counted more.
-/

namespace Polyglot

namespace Tally

section Renumber

variable {s : Int → Int} {leaves : List (Leaf Float)}
  (hinjective : ∀ i ∈ leaves.map Leaf.label, ∀ j ∈ leaves.map Leaf.label, s i = s j → i = j)

include hinjective

theorem reached_renumber : reached (leaves.map (Leaf.renumber s)) = (reached leaves).map s := by
  have hlabels : (leaves.map (Leaf.renumber s)).map Leaf.label = (leaves.map Leaf.label).map s := by
    simp [Leaf.renumber, Function.comp_def]
  rw [reached, hlabels, eraseDups_map hinjective, reached]

theorem total_renumber {label : Int} (hlabel : label ∈ reached leaves) :
    total (leaves.map (Leaf.renumber s)) (s label) = total leaves label := by
  have hsame : (leaves.map (Leaf.renumber s)).filter (fun l => l.label = s label) =
      (leaves.filter fun l => l.label = label).map (Leaf.renumber s) := by
    rw [List.filter_map]
    apply congrArg
    apply List.filter_congr
    intro l hl
    apply decide_eq_decide.mpr
    constructor
    · exact hinjective _ (List.mem_map_of_mem hl) _ (List.mem_eraseDups.mp hlabel)
    · exact congrArg s
  rw [total, hsame, List.foldl_map, total]
  rfl

theorem standings_renumber :
    standings (leaves.map (Leaf.renumber s)) = (standings leaves).map (Prod.map s id) := by
  rw [standings, reached_renumber hinjective, standings, List.map_map, List.map_map]
  apply List.map_congr_left
  intro label hlabel
  exact Prod.ext rfl (total_renumber hinjective hlabel)

end Renumber

theorem better_map {ι κ : Type} (name : ι → κ) (best next : ι × Float) :
    better (Prod.map name id best) (Prod.map name id next) = Prod.map name id (better best next) :=
  (apply_ite _ _ _ _).symm

/-- The winner does not depend on how the entries are named. -/
theorem pick_map {ι κ : Type} (name : ι → κ) (entries : List (ι × Float)) :
    pick (entries.map (Prod.map name id)) = (pick entries).map name := by
  cases entries with
  | nil => rfl
  | cons first rest =>
      rw [List.map_cons, pick, List.foldl_map, List.foldl_hom _ (better_map name)]
      rfl

end Tally

namespace Classifier

/-- What leaves decide, the same leaves decide under other ids. -/
theorem Decides.renumber {table table' : LabelTable} {s : Int → Int} {leaves : List (Leaf Float)}
    {a : Analysis} (h : Decides table leaves a)
    (hnames : ∀ id symbol, table.resolve id = .ok symbol → table'.resolve (s id) = .ok symbol)
    (hbounds : ∀ l ∈ leaves, 0 ≤ l.label ∧ l.label < table.size) (known : Nat) :
    Decides table' (leaves.map (Leaf.renumber s)) { a with label := s a.label, knownCount := known }
    := by
  have hinjective : ∀ i ∈ leaves.map Leaf.label, ∀ j ∈ leaves.map Leaf.label,
      s i = s j → i = j := by
    intro i hi j hj heq
    obtain ⟨l, hl, rfl⟩ := List.mem_map.mp hi
    obtain ⟨l', hl', rfl⟩ := List.mem_map.mp hj
    obtain ⟨symbol, hsymbol⟩ := LabelTable.exists_resolve (hbounds l hl).1 (hbounds l hl).2
    obtain ⟨symbol', hsymbol'⟩ := LabelTable.exists_resolve (hbounds l' hl').1 (hbounds l' hl').2
    have hsame := (hnames _ _ hsymbol).symm.trans (heq ▸ hnames _ _ hsymbol')
    cases hsame
    exact LabelTable.resolve_injective hsymbol hsymbol'
  have hstandings := Tally.standings_renumber hinjective
  refine ⟨?_, ?_, hnames _ _ h.language⟩
  · rw [hstandings, List.forall₂_map_left_iff]
    exact h.votes.imp fun _ _ hvote => ⟨hnames _ _ hvote.1, hvote.2⟩
  · rw [hstandings, Tally.pick_map, h.winner]
    rfl

end Classifier

namespace Model

/-- Relates a model to one that knows its tokens and its languages by other ids and has the same
trees. -/
structure Carries (p s : Int → Int) (m m' : Model) : Prop where
  lookup : ∀ token id, m.vocabulary.lookup token = some id →
    ∃ id' : Nat, m'.vocabulary.lookup token = some id' ∧ p id = id'
  resolve : ∀ id symbol, m.labels.resolve id = .ok symbol →
    m'.labels.resolve (s id) = .ok symbol
  forest : m'.forest = m.forest.map (Tree.renumber p s)

/-- How many tokens only the second of two models knows. -/
def newlyKnown (m m' : Model) (ts : List Text) : Nat :=
  ts.countP fun token =>
    (m'.vocabulary.lookup token).isSome && (m.vocabulary.lookup token).isNone

namespace Carries

variable {p s : Int → Int} {m m' : Model} {ts : List Text} {f f' : Frequency}

theorem leaves (h : Carries p s m m') (hf : Frequency.Counts m.vocabulary ts f)
    (hf' : Frequency.Counts m'.vocabulary ts f') :
    m'.leaves f' = (m.leaves f).map (Leaf.renumber s) := by
  rw [Model.leaves, h.forest, Model.leaves, List.map_map, List.map_map]
  apply List.map_congr_left
  intro t ht
  simp only [Function.comp_apply, Tree.reach, Tree.follow_renumber]
  apply congrArg
  -- The entry under the new id is made by the same occurrences of the same token.
  apply Tree.follow_congr
  intro feature hasks
  obtain ⟨hnonneg, hlt⟩ := Tree.bounds_of_asks (m.fits t ht) hasks
  obtain ⟨id, rfl⟩ := Int.eq_ofNat_of_zero_le hnonneg
  obtain ⟨token, hid⟩ := Vocabulary.exists_lookup (Int.ofNat_lt.mp hlt)
  obtain ⟨id', hid', heq⟩ := h.lookup token id hid
  rw [heq, hf.get (Vocabulary.lookup_lt hid), hf'.get (Vocabulary.lookup_lt hid'),
    Frequency.occurrences_eq_count hid, Frequency.occurrences_eq_count hid']

theorem countP_known (h : Carries p s m m') (ts : List Text) :
    ts.countP (fun token => (m'.vocabulary.lookup token).isSome) =
      ts.countP (fun token => (m.vocabulary.lookup token).isSome) + newlyKnown m m' ts := by
  induction ts with
  | nil => rfl
  | cons token ts ih =>
      rw [newlyKnown, List.countP_cons, List.countP_cons, List.countP_cons, ih, newlyKnown]
      cases hold : m.vocabulary.lookup token with
      | none => simp; omega
      | some id =>
          obtain ⟨id', hid', -⟩ := h.lookup token id hold
          simp [hid']
          omega

/-- Two classifiers with the same settings analyse a text alike if the model of the one carries over
to the model of the other. -/
theorem analyze {c c' : Classifier} (h : Carries p s c.model c'.model)
    (hsettings : c'.settings = c.settings) (t : Text) :
    c'.analyze t = (c.analyze t).map fun a =>
      { a with
        label := s a.label
        knownCount := a.knownCount + newlyKnown c.model c'.model (tokens (c.cut t)) } := by
  have hcut : c'.cut t = c.cut t := by rw [Classifier.cut, hsettings, Classifier.cut]
  by_cases ht : tokens (c.cut t) = []
  · rw [Classifier.analyze_of_tokens_nil ht, Classifier.analyze_of_tokens_nil (hcut ▸ ht)]
    rfl
  · obtain ⟨a, ha⟩ := Classifier.exists_analyze_of_tokens ht
    obtain ⟨f, hf, hdecides, htokens, hknown⟩ := Classifier.analyze_eq_ok.mp ha
    obtain ⟨f', hf', -⟩ := Frequency.exists_ofTokens (v := c'.model.vocabulary) ht
    have hcounts := Frequency.counts_of_ofTokens hf
    have hcounts' := Frequency.counts_of_ofTokens hf'
    rw [ha]
    refine Classifier.analyze_eq_ok.mpr ⟨f', hcut ▸ hf', ?_, ?_, ?_⟩
    · rw [h.leaves hcounts hcounts']
      exact hdecides.renumber h.resolve (Model.label_bounds_of_mem_leaves _ _) _
    · exact htokens.trans (hcounts.tokenCount.trans hcounts'.tokenCount.symm)
    · rw [hcounts'.knownCount, h.countP_known, ← hcounts.knownCount, ← hknown]

end Carries

end Model

end Polyglot
