import Polyglot.Proofs.Asset
import Polyglot.Proofs.Decision

/-! # The winner of a vote

The weights of a model that was read are finite. Their sums may go beyond the doubles, to an
infinity of one sign, but never to what is no number. Hence totals can be compared, and the winner
is the label with the greatest total, among equals the one that a leaf names first.
-/

namespace Polyglot

/-- Holds of a tree whose thresholds and weights are finite. -/
def Tree.IsFinite : FloatTree → Prop
  | leaf l => l.weight.isFinite
  | branch _ threshold left right => threshold.isFinite ∧ left.IsFinite ∧ right.IsFinite

theorem Tree.IsFinite.weight_follow {t : FloatTree} (h : t.IsFinite) (value : Int → Float) :
    (t.follow value).weight.isFinite := by
  induction t with
  | leaf l => exact h
  | branch feature threshold left right ihleft ihright =>
      rw [follow]
      split
      next => exact ihleft h.2.1
      next => exact ihright h.2.2

theorem Tree.isFinite_weight_of_mem_reach {forest : List FloatTree} {f : Frequency}
    (hfinite : ∀ t ∈ forest, t.IsFinite) : ∀ l ∈ forest.map (Tree.reach f), l.weight.isFinite := by
  intro l hl
  obtain ⟨t, ht, rfl⟩ := List.mem_map.mp hl
  exact (hfinite t ht).weight_follow _

namespace Model

/-- A tree of an asset that was read is finite. -/
theorem isFinite_of_mirrors {vocabulary : Vocabulary} {labels : LabelTable} {raw : Json}
    {t : FloatTree} (hraw : WellFormed vocabulary labels raw) (hmirrors : Mirrors raw t) :
    t.IsFinite := by
  induction hraw generalizing t with
  | leaf known number =>
      obtain ⟨x, hx, hfinite⟩ := number
      cases hmirrors with
      | leaf hweight =>
          cases hx.symm.trans hweight
          exact hfinite
  | branch inRange number _ _ ihleft ihright =>
      obtain ⟨x, hx, hfinite⟩ := number
      cases hmirrors with
      | branch hthreshold hleft hright =>
          cases hx.symm.trans hthreshold
          exact ⟨hfinite, ihleft hleft, ihright hright⟩

/-- Every tree of a model that was read is finite. -/
theorem isFinite_of_mem_forest [Limits] {source : Text} {payload : Json} {m : Model}
    (hread : ofJson source payload = .ok m) : ∀ t ∈ m.forest, t.IsFinite := by
  obtain ⟨rawForest, trees, -, htrees, -, hforest, -⟩ := ofJson_eq_ok.mp hread
  obtain ⟨hforms, hmirrors⟩ := mirrors_of_readForest htrees
  rw [← hforest] at hmirrors
  intro t ht
  obtain ⟨raw, hraw, htree⟩ := exists_of_mem_right hmirrors t ht
  exact isFinite_of_mirrors (hforms raw hraw).1 htree

/-- Whatever leaf of a model that was read is reached, its weight is finite. -/
theorem isFinite_weight_of_mem_leaves [Limits] {source : Text} {payload : Json} {m : Model}
    (hread : ofJson source payload = .ok m) {f : Frequency} :
    ∀ l ∈ m.leaves f, l.weight.isFinite :=
  Tree.isFinite_weight_of_mem_reach (isFinite_of_mem_forest hread)

end Model

namespace Tally

/-- The place of the first leaf that names a label. -/
def firstLeaf {ω : Type} (leaves : List (Leaf ω)) (label : Int) : Nat :=
  (leaves.map Leaf.label).idxOf label

/-- Holds of a label that is reached and whose total no other one exceeds. -/
def Leads (leaves : List (Leaf Float)) (label : Int) : Prop :=
  label ∈ reached leaves ∧ ∀ other ∈ reached leaves, total leaves other ≤ total leaves label

theorem pairwise_standings (leaves : List (Leaf Float)) :
    (standings leaves).Pairwise fun d e => firstLeaf leaves d.1 < firstLeaf leaves e.1 := by
  rw [standings, List.pairwise_map]
  exact pairwise_idxOf_eraseDups _

section Finite

variable {leaves : List (Leaf Float)} (hfinite : ∀ l ∈ leaves, l.weight.isFinite)

include hfinite

/-- A sum of finite weights is a number, also when it is infinite. -/
theorem isNaN_total (label : Int) : (total leaves label).isNaN = false := by
  have hsum : ∀ (ls : List (Leaf Float)) (sum : Float), (∀ l ∈ ls, l.weight.isFinite) →
      sum.isNaN = false → (ls.foldl (fun sum l => sum + l.weight) sum).isNaN = false := by
    intro ls
    induction ls with
    | nil => exact fun _ _ hsum => hsum
    | cons l ls ih =>
        intro sum hls hsum
        apply ih _ fun l' hl' => hls l' (List.mem_cons_of_mem _ hl')
        exact Binary64.isNaN_add hsum (hls l List.mem_cons_self)
  refine hsum _ 0 ?_ rfl
  intro l hl
  exact hfinite l (List.mem_filter.mp hl).1

theorem isNaN_of_mem_standings : ∀ e ∈ standings leaves, e.2.isNaN = false := by
  rintro ⟨label, sum⟩ he
  obtain ⟨-, rfl⟩ := mem_standings.mp he
  exact isNaN_total hfinite label

/-- The winner leads, and any other label that leads is named later. -/
theorem leads_of_pick {winner : Int} (h : pick (standings leaves) = .ok winner) :
    Leads leaves winner ∧
      ∀ label, Leads leaves label → label ≠ winner →
        firstLeaf leaves winner < firstLeaf leaves label := by
  have hnumbers := isNaN_of_mem_standings hfinite
  obtain ⟨⟨label, sum⟩, hbest, hnumber, rfl⟩ :=
    exists_isFirstGreatest h fun e he => hnumbers e (List.mem_of_mem_head? he)
  have hmem : (label, sum) ∈ standings leaves := by
    obtain ⟨before, after, heq, -, -⟩ := hbest
    simp [heq]
  obtain ⟨hreached, rfl⟩ := mem_standings.mp hmem
  have hle : ∀ other ∈ reached leaves, total leaves other ≤ total leaves label := by
    intro other hother
    have hentry : (other, total leaves other) ∈ standings leaves := mem_standings.mpr ⟨hother, rfl⟩
    have hle := hbest.le hnumber hentry (hnumbers _ hentry)
    exact hle
  refine ⟨⟨hreached, hle⟩, ?_⟩
  rintro other ⟨hother, hgreatest⟩ hne
  have hentry : (other, total leaves other) ∈ standings leaves := mem_standings.mpr ⟨hother, rfl⟩
  have hsum := hnumbers _ hentry
  -- Before the winner every total is less, so another leader stands after it.
  obtain ⟨before, after, heq, hbefore, -⟩ := hbest
  have horder := pairwise_standings leaves
  rw [heq] at hentry horder
  rcases List.mem_append.mp hentry with hleft | hright
  · have hlt := (Binary64.lt_iff_rank hsum hnumber).mp (hbefore _ hleft hsum)
    have hge := (Binary64.le_iff_rank hnumber hsum).mp (hgreatest label hreached)
    exact absurd hge hlt.not_ge
  · rcases List.mem_cons.mp hright with hsame | hafter
    · exact absurd (Prod.mk.inj hsame).1 hne
    · exact (List.pairwise_cons.mp (List.pairwise_append.mp horder).2.1).1 _ hafter

end Finite

end Tally

namespace Classifier

/-- What is promised of the votes and of the language that leaves decide. -/
structure Elects (table : LabelTable) (leaves : List (Leaf Float)) (a : Analysis) : Prop where
  /-- Each label that is reached has its total as the vote of its name, in the order in which the
  labels are first reached. -/
  votes_named : List.Forall₂ (Names table) (Tally.standings leaves) a.votes
  votes_number : ∀ vote ∈ a.votes, vote.2.isNaN = false
  language_named : table.resolve a.label = .ok a.language
  language_voted : (a.language, Tally.total leaves a.label) ∈ a.votes
  votes_le : ∀ vote ∈ a.votes, vote.2 ≤ Tally.total leaves a.label
  leads : Tally.Leads leaves a.label
  earliest : ∀ label, Tally.Leads leaves label → label ≠ a.label →
    Tally.firstLeaf leaves a.label < Tally.firstLeaf leaves label

theorem Decides.elects {table : LabelTable} {leaves : List (Leaf Float)} {a : Analysis}
    (h : Decides table leaves a) (hfinite : ∀ l ∈ leaves, l.weight.isFinite) :
    Elects table leaves a := by
  obtain ⟨hleads, hearliest⟩ := Tally.leads_of_pick hfinite h.winner
  have hentry := Tally.mem_standings.mpr ⟨hleads.1, rfl⟩
  obtain ⟨vote, hvote, hnames⟩ := exists_of_mem_left h.votes _ hentry
  have hown : Names table (a.label, Tally.total leaves a.label)
      (a.language, Tally.total leaves a.label) := ⟨h.language, rfl⟩
  rw [rightUnique_names table hnames hown] at hvote
  refine
    { votes_named := h.votes
      votes_number := ?_
      language_named := h.language
      language_voted := hvote
      votes_le := ?_
      leads := hleads
      earliest := hearliest }
  · intro vote hvote
    obtain ⟨e, he, -, hsum⟩ := exists_of_mem_right h.votes vote hvote
    rw [hsum]
    exact Tally.isNaN_of_mem_standings hfinite e he
  · intro vote hvote
    obtain ⟨⟨label, sum⟩, he, -, hsum⟩ := exists_of_mem_right h.votes vote hvote
    obtain ⟨hreached, rfl⟩ := Tally.mem_standings.mp he
    rw [hsum]
    exact hleads.2 label hreached

/-- The analysis of a text with tokens over a model that was read elects the label with the greatest
total, the first one among equals, and no total is anything but a number. -/
theorem analyze_elects [Limits] {source : Text} {payload : Json} {c : Classifier} {t : Text}
    (hread : Model.ofJson source payload = .ok c.model) (htokens : tokens (c.cut t) ≠ []) :
    ∃ f a, Frequency.ofTokens c.model.vocabulary (tokens (c.cut t)) = .ok f ∧
      c.analyze t = .ok a ∧ Elects c.model.labels (c.model.leaves f) a := by
  obtain ⟨a, ha⟩ := exists_analyze_of_tokens htokens
  obtain ⟨f, hf, hdecides, -, -⟩ := analyze_eq_ok.mp ha
  exact ⟨f, a, hf, ha, hdecides.elects (Model.isFinite_weight_of_mem_leaves hread)⟩

/-- Two languages that get two to the power of 1023 twice each, so that both totals are infinite. -/
def infiniteAsset : Json :=
  let huge := Float.ofBits 0x7FE0000000000000
  Model.asset [] ["go", "ruby"] [.leaf ⟨1, huge⟩, .leaf ⟨0, huge⟩, .leaf ⟨0, huge⟩, .leaf ⟨1, huge⟩]

open scoped Limits.Usual in
theorem infiniteAsset_elects :
    ∃ m, Model.ofJson Model.inMemory infiniteAsset = .ok m ∧ tokens "end" ≠ [] ∧
      ∃ f a, Frequency.ofTokens m.vocabulary (tokens "end") = .ok f ∧
        (Classifier.mk .standard ⟨m, 0⟩).analyze "end" = .ok a ∧
        Elects m.labels (m.leaves f) a := by
  have htokens : tokens "end" ≠ [] := by decide
  obtain ⟨m, hread⟩ : ∃ m, Model.ofJson Model.inMemory infiniteAsset = .ok m := ⟨_, rfl⟩
  exact ⟨m, hread, htokens, analyze_elects (c := ⟨.standard, ⟨m, 0⟩⟩) hread htokens⟩

end Classifier

end Polyglot
