import Polyglot.Proofs.Ranking
import Polyglot.Proofs.Slots

/-! # The standings of labels

The leaves that a vote reaches settle it: every label that is named has the sum of its own weights,
and the labels stand in the order in which they are first named. The number of slots leaves no trace
as long as every label has one. Among totals that are numbers the winner is the first greatest one.
-/

namespace Polyglot.Tally

variable {ω : Type}

/-- The labels that leaves name, in the order in which they are first named. -/
def reached (leaves : List (Leaf ω)) : List Int := (leaves.map Leaf.label).eraseDups

/-- The weights that leaves give to a label, added from zero in the order of the leaves. -/
def total (leaves : List (Leaf Float)) (label : Int) : Float :=
  (leaves.filter fun l => l.label = label).foldl (fun sum l => sum + l.weight) 0

/-- The labels that leaves name, each with its total. -/
def standings (leaves : List (Leaf Float)) : List (Int × Float) :=
  (reached leaves).map fun label => (label, total leaves label)

theorem mem_standings {leaves : List (Leaf Float)} {label : Int} {sum : Float} :
    (label, sum) ∈ standings leaves ↔ label ∈ reached leaves ∧ total leaves label = sum := by
  simp [standings]

theorem keys_standings (leaves : List (Leaf Float)) :
    Entries.keys (standings leaves) = reached leaves := by
  simp [Entries.keys, standings, Function.comp_def]

theorem nodup_keys_standings (leaves : List (Leaf Float)) :
    (Entries.keys (standings leaves)).Nodup := by
  rw [keys_standings]
  exact nodup_eraseDups _

/-! ## The tally of labels with slots of their own -/

section Bounded

variable {n : Nat} {leaves : List (Leaf Float)} (hlabels : ∀ l ∈ leaves, 0 ≤ l.label ∧ l.label < n)

include hlabels

theorem slotOf_of_bounds : ∀ l ∈ leaves, slotOf n l.label = l.label :=
  fun l hl => if_neg (hlabels l hl).1.not_gt

theorem touched_of_bounds : touched n leaves = reached leaves :=
  congrArg List.eraseDups (List.map_congr_left (slotOf_of_bounds hlabels))

theorem eq_total_of_sums {label : Int} {entry : Int × Float} (h : Sums n leaves label entry) :
    entry = (label, total leaves label) := by
  obtain ⟨first, rest, hat, hlabel, hsum⟩ := h
  have hsame : leavesAt n leaves label = leaves.filter fun l => l.label = label :=
    List.filter_congr fun l hl => by rw [slotOf_of_bounds hlabels l hl]
  have hfirst : first ∈ leaves.filter fun l => l.label = label := by
    rw [← hsame, hat]
    exact List.mem_cons_self
  rw [← hat, hsame] at hsum
  refine Prod.ext ?_ hsum
  rw [hlabel]
  simpa using (List.mem_filter.mp hfirst).2

/-- The tally of leaves whose labels have slots is their standings and the winner among these. -/
theorem ofLeaves_eq :
    ofLeaves .ok n leaves = (pick (standings leaves)).map (Tally.mk (standings leaves)) := by
  have hslots : ∀ l ∈ leaves, HasSlot n l.label := by
    intro l hl
    have := hlabels l hl
    unfold HasSlot
    omega
  obtain ⟨totals, htotals, hvote⟩ := exists_totals hslots
  have hstandings : standings leaves = totals := by
    rw [standings, ← touched_of_bounds hlabels, ← List.forall₂_eq_eq_eq, List.forall₂_map_left_iff]
    exact htotals.imp fun _ _ h => (eq_total_of_sums hlabels h).symm
  rw [hstandings]
  exact hvote

/-- The tally of at least one leaf is fair. -/
theorem exists_ofLeaves (hleaves : leaves ≠ []) :
    ∃ winner, pick (standings leaves) = .ok winner ∧
      ofLeaves .ok n leaves = .ok ⟨standings leaves, winner⟩ ∧
      Fair n ⟨standings leaves, winner⟩ := by
  have hne : standings leaves ≠ [] := by
    obtain ⟨l, hl⟩ := List.exists_mem_of_ne_nil leaves hleaves
    have hreached : l.label ∈ reached leaves := List.mem_eraseDups.mpr (List.mem_map_of_mem hl)
    exact List.ne_nil_of_mem (mem_standings.mpr ⟨hreached, rfl⟩)
  obtain ⟨winner, hwinner, hmem⟩ := exists_pick hne
  refine ⟨winner, hwinner, by rw [ofLeaves_eq hlabels, hwinner]; rfl,
    nodup_keys_standings leaves, ?_, hmem⟩
  intro e he
  have hlabel : e.1 ∈ reached leaves := (mem_standings.mp he).1
  obtain ⟨l, hl, heq⟩ := List.mem_map.mp (List.mem_eraseDups.mp hlabel)
  rw [← heq]
  exact hlabels l hl

end Bounded

/-- A forest that fits has a tally, whatever the frequencies are. -/
theorem exists_ofForest {features labels : Nat} {forest : List FloatTree} (hforest : forest ≠ [])
    (hfits : ∀ t ∈ forest, t.Fits features labels) (f : Frequency) :
    ∃ winner, pick (standings (forest.map (Tree.reach f))) = .ok winner ∧
      ofForest labels forest f = .ok ⟨standings (forest.map (Tree.reach f)), winner⟩ ∧
      Fair labels ⟨standings (forest.map (Tree.reach f)), winner⟩ :=
  exists_ofLeaves (Tree.label_bounds_of_mem_reach hfits) (by simpa using hforest)

/-! ## The winner -/

/-- Holds of the entry that the first of the greatest totals belongs to. Totals that are no numbers
do not count. -/
def IsFirstGreatest {ι : Type} (entries : List (ι × Float)) (best : ι × Float) : Prop :=
  ∃ before after, entries = before ++ best :: after ∧
    (∀ e ∈ before, e.2.isNaN = false → e.2 < best.2) ∧
    ∀ e ∈ after, e.2.isNaN = false → e.2 ≤ best.2

section Winner

variable {ι : Type} {entries : List (ι × Float)} {best : ι × Float}

theorem IsFirstGreatest.le (h : IsFirstGreatest entries best) (hbest : best.2.isNaN = false)
    {e : ι × Float} (he : e ∈ entries) (hnumber : e.2.isNaN = false) : e.2 ≤ best.2 := by
  obtain ⟨before, after, rfl, hbefore, hafter⟩ := h
  rw [Binary64.le_iff_rank hnumber hbest]
  rcases List.mem_append.mp he with hleft | hright
  · exact ((Binary64.lt_iff_rank hnumber hbest).mp (hbefore e hleft hnumber)).le
  · rcases List.mem_cons.mp hright with rfl | hright
    · exact le_rfl
    · exact (Binary64.le_iff_rank hnumber hbest).mp (hafter e hright hnumber)

/-- One more entry takes the place of the best one exactly when its total is greater. -/
theorem IsFirstGreatest.concat (h : IsFirstGreatest entries best)
    (hbest : best.2.isNaN = false) (next : ι × Float) :
    IsFirstGreatest (entries ++ [next]) (better best next) ∧
      (better best next).2.isNaN = false := by
  rw [better]
  split
  next hlt =>
    have hnext := Binary64.isNaN_of_lt hlt
    refine ⟨⟨entries, [], rfl, ?_, by simp⟩, hnext⟩
    intro e he hnumber
    have hle := (Binary64.le_iff_rank hnumber hbest).mp (h.le hbest he hnumber)
    rw [Binary64.lt_iff_rank hbest hnext] at hlt
    exact (Binary64.lt_iff_rank hnumber hnext).mpr (hle.trans_lt hlt)
  next hle =>
    obtain ⟨before, after, rfl, hbefore, hafter⟩ := h
    refine ⟨⟨before, after ++ [next], by simp, hbefore, ?_⟩, hbest⟩
    intro e he hnumber
    rcases List.mem_append.mp he with hold | hnew
    · exact hafter e hold hnumber
    · rw [List.mem_singleton.mp hnew] at hnumber ⊢
      rw [Binary64.lt_iff_rank hbest hnumber, not_lt] at hle
      exact (Binary64.le_iff_rank hnumber hbest).mpr hle

theorem isFirstGreatest_foldl (first : ι × Float) (hfirst : first.2.isNaN = false)
    (rest : List (ι × Float)) :
    IsFirstGreatest (first :: rest) (rest.foldl better first) ∧
      (rest.foldl better first).2.isNaN = false := by
  induction rest using List.reverseRecOn with
  | nil => exact ⟨⟨[], [], rfl, by simp, by simp⟩, hfirst⟩
  | append_singleton rest next ih =>
      rw [List.foldl_append, List.foldl_cons, List.foldl_nil, ← List.cons_append]
      exact ih.1.concat ih.2 next

/-- Where the first total is a number, the winner is the one with the first greatest total. -/
theorem exists_isFirstGreatest {winner : ι} (h : pick entries = .ok winner)
    (hfirst : ∀ e ∈ entries.head?, e.2.isNaN = false) :
    ∃ best, IsFirstGreatest entries best ∧ best.2.isNaN = false ∧ best.1 = winner := by
  cases entries with
  | nil => cases h
  | cons first rest =>
      cases h
      obtain ⟨hbest, hnumber⟩ := isFirstGreatest_foldl first (hfirst first rfl) rest
      exact ⟨_, hbest, hnumber, rfl⟩

end Winner

end Polyglot.Tally
