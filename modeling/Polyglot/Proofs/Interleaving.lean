import Polyglot.Proofs.Election
import Polyglot.Proofs.SignedZero

/-! # Interleavings of a forest

A vote depends on the leaves of each label alone. The trees of one label can be moved among those of
the others without a trace in the totals, because a total is summed over the leaves of its own label
in their order, and because totals that are equal in order are the same double. What is left of the
order of the forest is the order of the totals, and it decides only among labels that are tied.
-/

namespace Polyglot.Tally

variable {ω : Type}

/-- Holds of the forests that pass as part of a model: there is a tree, and all trees are finite and
over the given numbers of features and labels. -/
structure IsValid (features labels : Nat) (forest : List FloatTree) : Prop where
  ne_nil : forest ≠ []
  fits : ∀ t ∈ forest, t.Fits features labels
  finite : ∀ t ∈ forest, t.IsFinite

/-- The forest of a model that was read is valid. -/
theorem isValid_of_ofJson [Limits] {source : Text} {payload : Json} {m : Model}
    (hread : Model.ofJson source payload = .ok m) :
    IsValid m.vocabulary.size m.labels.size m.forest :=
  ⟨m.forest_ne_nil, m.fits, Model.isFinite_of_mem_forest hread⟩

/-- The weights that leaves give to a label, in the order of the leaves. -/
def weights (leaves : List (Leaf ω)) (label : Int) : List ω :=
  (leaves.filter fun l => l.label = label).map Leaf.weight

theorem total_eq_foldl_weights (leaves : List (Leaf Float)) (label : Int) :
    total leaves label = (weights leaves label).foldl (fun sum w => sum + w) 0 := by
  rw [total, weights, List.foldl_map]

theorem mem_reached {leaves : List (Leaf ω)} {label : Int} :
    label ∈ reached leaves ↔ weights leaves label ≠ [] := by
  simp [reached, weights]

/-- A sum that starts at zero is never the negative zero. -/
theorem parts_total_ne (leaves : List (Leaf Float)) (label : Int) :
    Binary64.parts (total leaves label) ≠ .zero .negative := by
  rw [total_eq_foldl_weights]
  induction weights leaves label using List.reverseRecOn with
  | nil => exact Binary64.parts_zero_ne
  | append_singleton ws w ih =>
      rw [List.foldl_append, List.foldl_cons, List.foldl_nil]
      exact Binary64.parts_add_ne ih w

/-! ## Leaves with the same weights for every label -/

section Leaves

variable {ls ls' : List (Leaf Float)} (hweights : ∀ label, weights ls label = weights ls' label)

include hweights

theorem reached_perm : (reached ls).Perm (reached ls') := by
  have hmem : ∀ label, label ∈ reached ls ↔ label ∈ reached ls' := by
    intro label
    rw [mem_reached, mem_reached, hweights]
  exact (List.perm_ext_iff_of_nodup (nodup_eraseDups _) (nodup_eraseDups _)).mpr hmem

theorem total_congr : total ls = total ls' := by
  funext label
  rw [total_eq_foldl_weights, hweights, total_eq_foldl_weights]

theorem standings_perm : (standings ls).Perm (standings ls') := by
  rw [standings, total_congr hweights]
  exact (reached_perm hweights).map _

end Leaves

/-! ## The tallies of two forests -/

/-- Relates two tallies that hold the same total for every label. Their winners share the greatest
total, and they are the same label unless another one has it too. -/
structure SameButTies (a b : Tally) : Prop where
  lookup : ∀ label, Entries.get? label a.totals = Entries.get? label b.totals
  totals_perm : a.totals.Perm b.totals
  greatest : ∃ sum, (a.winner, sum) ∈ a.totals ∧ (b.winner, sum) ∈ b.totals ∧
    (∀ e ∈ a.totals, e.2 ≤ sum) ∧ ((∃! label, (label, sum) ∈ a.totals) → a.winner = b.winner)

section Forests

variable {ls ls' : List (Leaf Float)} {winner winner' : Int}

/-- Leaders of the same totals have the same total: neither is greater. -/
theorem total_eq_of_leads (hfinite : ∀ l ∈ ls, l.weight.isFinite) (h : Leads ls winner)
    (h' : Leads ls winner') : total ls winner' = total ls winner :=
  Binary64.eq_of_le_of_ge (isNaN_total hfinite _) (isNaN_total hfinite _) (parts_total_ne _ _)
    (parts_total_ne _ _) (h.2 _ h'.1) (h'.2 _ h.1)

theorem sameButTies_of_pick (hweights : ∀ label, weights ls label = weights ls' label)
    (hfinite : ∀ l ∈ ls, l.weight.isFinite) (hfinite' : ∀ l ∈ ls', l.weight.isFinite)
    (h : pick (standings ls) = .ok winner) (h' : pick (standings ls') = .ok winner') :
    SameButTies ⟨standings ls, winner⟩ ⟨standings ls', winner'⟩ := by
  have hperm := standings_perm hweights
  have hleads := (leads_of_pick hfinite h).1
  -- The other winner leads here as well: neither the labels nor their totals differ.
  have hleads' : Leads ls winner' := by
    obtain ⟨hmem, hle⟩ := (leads_of_pick hfinite' h').1
    rw [← total_congr hweights] at hle
    have hreached := fun label => (reached_perm hweights).mem_iff (a := label)
    exact ⟨(hreached _).mpr hmem, fun other hother => hle other ((hreached _).mp hother)⟩
  have hentry : (winner, total ls winner) ∈ standings ls := mem_standings.mpr ⟨hleads.1, rfl⟩
  have hentry' : (winner', total ls winner) ∈ standings ls :=
    mem_standings.mpr ⟨hleads'.1, total_eq_of_leads hfinite hleads hleads'⟩
  refine ⟨Entries.get?_eq_of_perm (nodup_keys_standings ls) hperm, hperm, total ls winner, hentry,
    hperm.mem_iff.mp hentry', ?_, ?_⟩
  · rintro ⟨label, sum⟩ he
    obtain ⟨hreached, rfl⟩ := mem_standings.mp he
    exact hleads.2 label hreached
  · exact fun hunique => hunique.unique hentry hentry'

variable {features labels : Nat} {forest : List FloatTree} {f : Frequency}

/-- Two valid forests whose leaves give every label the same weights in the same order have the same
totals, however the trees of different labels stand among each other, and winners that can differ
only where the greatest total is tied. -/
theorem ofForest_interleaved {features' labels' : Nat} {forest' : List FloatTree}
    (hvalid : IsValid features labels forest) (hvalid' : IsValid features' labels' forest')
    (hweights : ∀ label, weights (forest.map (Tree.reach f)) label =
      weights (forest'.map (Tree.reach f)) label) :
    ∃ a b, ofForest labels forest f = .ok a ∧ ofForest labels' forest' f = .ok b ∧
      SameButTies a b := by
  obtain ⟨winner, hpick, htally, -⟩ := exists_ofForest hvalid.ne_nil hvalid.fits f
  obtain ⟨winner', hpick', htally', -⟩ := exists_ofForest hvalid'.ne_nil hvalid'.fits f
  exact ⟨_, _, htally, htally', sameButTies_of_pick hweights
    (Tree.isFinite_weight_of_mem_reach hvalid.finite)
    (Tree.isFinite_weight_of_mem_reach hvalid'.finite) hpick hpick'⟩

/-- A leaf of one for a label and two of a half for another: the totals are tied. -/
def tiedTrees : List FloatTree := [.leaf ⟨1, 1⟩, .leaf ⟨0, 0.5⟩, .leaf ⟨0, 0.5⟩]

open scoped Limits.Usual in
theorem exists_model_tiedTrees {trees : List FloatTree}
    (htrees : trees = tiedTrees ∨ trees = tiedTrees.reverse) :
    ∃ m, Model.ofJson Model.inMemory (Model.asset [] ["go", "ruby"] trees) = .ok m ∧
      m.forest = trees ∧ m.labels.size = 2 := by
  obtain rfl | rfl := htrees <;> exact ⟨_, rfl, rfl, rfl⟩

open scoped Limits.Usual in
/-- The order of the trees decides between tied labels. -/
theorem ofForest_interleaved_tiedTrees :
    ∃ a b, ofForest 2 tiedTrees ⟨[], 1, 0⟩ = .ok a ∧
      ofForest 2 tiedTrees.reverse ⟨[], 1, 0⟩ = .ok b ∧ SameButTies a b ∧
      a.winner = 1 ∧ b.winner = 0 := by
  have hvalid {trees : List FloatTree} (htrees : trees = tiedTrees ∨ trees = tiedTrees.reverse) :
      ∃ features, IsValid features 2 trees := by
    obtain ⟨m, hread, rfl, hlabels⟩ := exists_model_tiedTrees htrees
    exact ⟨m.vocabulary.size, hlabels ▸ isValid_of_ofJson hread⟩
  obtain ⟨_, hleft⟩ := hvalid (.inl rfl)
  obtain ⟨_, hright⟩ := hvalid (.inr rfl)
  have hweights : ∀ label, weights (tiedTrees.map (Tree.reach ⟨[], 1, 0⟩)) label =
      weights (tiedTrees.reverse.map (Tree.reach ⟨[], 1, 0⟩)) label := by
    intro label
    rcases eq_or_ne label 0 with rfl | hzero
    · rfl
    · rcases eq_or_ne label 1 with rfl | hone
      · rfl
      · simp [weights, tiedTrees, Tree.reach, Tree.follow, hzero.symm, hone.symm]
  obtain ⟨a, b, ha, hb, hsame⟩ := ofForest_interleaved hleft hright hweights
  refine ⟨a, b, ha, hb, hsame, ?_, ?_⟩
  · cases ha
    rfl
  · cases hb
    rfl

end Forests

end Polyglot.Tally
