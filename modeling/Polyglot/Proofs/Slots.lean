import Polyglot.Proofs.Grouping
import Polyglot.Proofs.Outcome
import Polyglot.Proofs.Tally

/-! # Slots

A label names a slot, a negative one by counting from the end, so that two labels may name the same
slot. Leaves are entered into the accounts of their slots: an account bears the label of the leaf
that opened it, and it holds the weights of all leaves with its slot. A label without a slot ends
the vote, wherever it stands among the others.
-/

namespace Polyglot.Tally

variable {ω : Type}

/-- Holds of a label that names one of `n` slots; where `n` is negative, none does. -/
def HasSlot (n label : Int) : Prop := -n ≤ label ∧ label < n

/-- The slot of a label among `n`: a negative label counts from the end. -/
def slotOf (n label : Int) : Int := if label < 0 then label + n else label

/-- The leaves that enter a slot. -/
def leavesAt (n : Int) (leaves : List (Leaf ω)) (slot : Int) : List (Leaf ω) :=
  leaves.filter fun l => slotOf n l.label = slot

/-- The slots that leaves enter, in the order in which they are first entered. -/
def touched (n : Int) (leaves : List (Leaf ω)) : List Int :=
  (leaves.map fun l => slotOf n l.label).eraseDups

/-- Relates a slot to its entry: the label of the first leaf that enters the slot, and the weights
of all leaves that enter it, added from zero in the order of the leaves. -/
def Sums (n : Int) (leaves : List (Leaf Float)) (slot : Int) (entry : Int × Float) : Prop :=
  ∃ first rest, leavesAt n leaves slot = first :: rest ∧ entry.1 = first.label ∧
    entry.2 = (first :: rest).foldl (fun sum l => sum + l.weight) 0

section Labels

variable {n label : Int}

theorem slotOf_nonneg (h : HasSlot n label) : 0 ≤ slotOf n label := by
  unfold slotOf HasSlot at *
  split <;> omega

theorem slot?_of_hasSlot (h : HasSlot n label) :
    slot? n.toNat label = some (slotOf n label).toNat := by
  obtain ⟨hlow, hhigh⟩ := h
  unfold slot? slotOf
  by_cases hneg : label < 0
  · have hback : label < 0 ∧ -(n.toNat : Int) ≤ label := by omega
    rw [if_neg (by omega), if_pos hback, if_pos hneg, Int.toNat_of_nonneg (by omega)]
  · rw [if_pos (by omega), if_neg hneg]

theorem slot?_of_not_hasSlot (h : ¬HasSlot n label) : slot? n.toNat label = none := by
  unfold slot? HasSlot at *
  rw [if_neg (by omega), if_neg (by omega)]

end Labels

/-! ## Accounts -/

theorem foldl_credit (leaves : List (Leaf Float)) (a : Account) :
    leaves.foldl (fun account l => some (credit l account)) (some a) =
      some ⟨a.label, leaves.foldl (fun sum l => sum + l.weight) a.total⟩ := by
  induction leaves generalizing a with
  | nil => rfl
  | cons l leaves ih => exact ih _

section Leaves

variable {n : Int} {leaves : List (Leaf Float)}

/-- Leaves that all have slots change the accounts one after another. -/
theorem foldlM_enter (hslots : ∀ l ∈ leaves, HasSlot n l.label) (accounts : List (Nat × Account)) :
    leaves.foldlM (enter .ok n.toNat) accounts =
      .ok (leaves.foldl (fun table l => Entries.alter (slotOf n l.label).toNat (credit l) table)
        accounts) := by
  induction leaves generalizing accounts with
  | nil => rfl
  | cons l leaves ih =>
      have henter : enter .ok n.toNat accounts l =
          .ok (Entries.alter (slotOf n l.label).toNat (credit l) accounts) := by
        rw [enter, slot?_of_hasSlot (hslots l List.mem_cons_self)]
        rfl
      rw [List.foldlM_cons, henter, Outcome.bind_ok, List.foldl_cons]
      exact ih (fun l hl => hslots l (List.mem_cons_of_mem _ hl)) _

/-- The first leaf without a slot ends the vote. -/
theorem foldlM_enter_of_not_hasSlot (hnone : ∃ l ∈ leaves, ¬HasSlot n l.label)
    (accounts : List (Nat × Account)) :
    leaves.foldlM (enter .ok n.toNat) accounts = .error .labelOutOfRange := by
  induction leaves generalizing accounts with
  | nil => simp at hnone
  | cons l leaves ih =>
      rw [List.foldlM_cons]
      by_cases hslot : HasSlot n l.label
      · have hrest : ∃ l ∈ leaves, ¬HasSlot n l.label := by
          obtain ⟨bad, hbad, hlabel⟩ := hnone
          rcases List.mem_cons.mp hbad with rfl | hbad
          · exact absurd hslot hlabel
          · exact ⟨bad, hbad, hlabel⟩
        rw [enter, slot?_of_hasSlot hslot]
        exact ih hrest _
      · rw [enter, slot?_of_not_hasSlot hslot, Outcome.bind_error]

/-- The accounts of leaves that all have slots. -/
def accounts (n : Int) (leaves : List (Leaf Float)) : List (Nat × Account) :=
  Entries.gather (fun l => (slotOf n l.label).toNat) credit leaves

variable (hslots : ∀ l ∈ leaves, HasSlot n l.label)

include hslots

theorem touched_eq_keys : touched n leaves = (Entries.keys (accounts n leaves)).map Nat.cast := by
  have hcast : leaves.map (fun l => slotOf n l.label) =
      (leaves.map fun l => (slotOf n l.label).toNat).map Nat.cast := by
    rw [List.map_map]
    apply List.map_congr_left
    intro l hl
    exact (Int.toNat_of_nonneg (slotOf_nonneg (hslots l hl))).symm
  rw [touched, hcast, eraseDups_map fun _ _ _ _ => Int.ofNat_inj.mp, accounts,
    Entries.keys_gather]

theorem sums_of_mem_accounts {e : Nat × Account} (he : e ∈ accounts n leaves) :
    Sums n leaves e.1 (e.2.label, e.2.total) := by
  have hget : Entries.get? e.1 (accounts n leaves) = some e.2 :=
    (Entries.get?_eq_some_iff (Entries.nodup_keys_gather _ _ leaves)).mpr he
  have hleaves : (leaves.filter fun l => (slotOf n l.label).toNat = e.1) =
      leavesAt n leaves e.1 := by
    apply List.filter_congr
    intro l hl
    have := slotOf_nonneg (hslots l hl)
    simp only [decide_eq_decide]
    omega
  rw [accounts, Entries.get?_gather, hleaves] at hget
  cases hat : leavesAt n leaves e.1 with
  | nil =>
      rw [hat] at hget
      cases hget
  | cons first rest =>
      rw [hat, List.foldl_cons, foldl_credit, Option.some.injEq] at hget
      refine ⟨first, rest, hat, ?_, ?_⟩
      · rw [← hget]
        rfl
      · rw [← hget]
        rfl

/-- The totals of leaves that all have slots are the entries of these slots. -/
theorem exists_totals :
    ∃ totals, List.Forall₂ (Sums n leaves) (touched n leaves) totals ∧
      ofLeaves .ok n.toNat leaves = (pick totals).map (Tally.mk totals) := by
  refine ⟨(accounts n leaves).map fun e => (e.2.label, e.2.total), ?_, ?_⟩
  · rw [touched_eq_keys hslots, Entries.keys, List.map_map, List.forall₂_map_left_iff,
      List.forall₂_map_right_iff, List.forall₂_same]
    exact fun e he => sums_of_mem_accounts hslots he
  · rw [ofLeaves, foldlM_enter hslots, Outcome.bind_ok]
    rfl

end Leaves

/-! ## The outcomes of a vote -/

/-- Holds of a tally whose totals are the entries of the slots that leaves enter, and whose winner
is picked from these totals. -/
structure Settles (n : Int) (leaves : List (Leaf Float)) (tally : Tally) : Prop where
  totals : List.Forall₂ (Sums n leaves) (touched n leaves) tally.totals
  winner : pick tally.totals = .ok tally.winner

section Forest

variable {n : Int} {leaves : List (Leaf Float)}

theorem ofLeaves_of_not_hasSlot (hnone : ∃ l ∈ leaves, ¬HasSlot n l.label) :
    ofLeaves .ok n.toNat leaves = .error .labelOutOfRange := by
  rw [ofLeaves, foldlM_enter_of_not_hasSlot hnone, Outcome.bind_error]

theorem exists_settles (hslots : ∀ l ∈ leaves, HasSlot n l.label) (hleaves : leaves ≠ []) :
    ∃ tally, ofLeaves .ok n.toNat leaves = .ok tally ∧ Settles n leaves tally := by
  obtain ⟨totals, htotals, hvote⟩ := exists_totals hslots
  have hne : totals ≠ [] := by
    rintro rfl
    obtain ⟨l, hl⟩ := List.exists_mem_of_ne_nil leaves hleaves
    have htouched : slotOf n l.label ∈ touched n leaves :=
      List.mem_eraseDups.mpr (List.mem_map_of_mem hl)
    rw [List.forall₂_nil_right_iff.mp htotals] at htouched
    cases htouched
  obtain ⟨winner, hwinner, -⟩ := exists_pick hne
  exact ⟨⟨totals, winner⟩, by rw [hvote, hwinner]; rfl, htotals, hwinner⟩

/-- A vote fails for a label if and only if a leaf that is reached has no slot, and it fails as
empty if and only if there is no tree. Any other vote has a tally, with one entry for each slot
that is entered. -/
theorem ofForest_outcomes (n : Int) (forest : List FloatTree) (f : Frequency) :
    (ofForest n.toNat forest f = .error .labelOutOfRange ↔
        ∃ l ∈ forest.map (Tree.reach f), ¬HasSlot n l.label) ∧
      (ofForest n.toNat forest f = .error .emptyTally ↔ forest = []) ∧
      ((∀ l ∈ forest.map (Tree.reach f), HasSlot n l.label) → forest ≠ [] →
        ∃ tally, ofForest n.toNat forest f = .ok tally ∧
          Settles n (forest.map (Tree.reach f)) tally) := by
  rw [ofForest]
  by_cases hslots : ∀ l ∈ forest.map (Tree.reach f), HasSlot n l.label
  · have hnone : ¬∃ l ∈ forest.map (Tree.reach f), ¬HasSlot n l.label := by
      push Not
      exact hslots
    by_cases hforest : forest = []
    · subst hforest
      refine ⟨iff_of_false ?_ hnone, iff_of_true rfl rfl, fun _ hne => absurd rfl hne⟩
      rintro ⟨⟩
    · have hleaves : forest.map (Tree.reach f) ≠ [] := by simpa using hforest
      obtain ⟨tally, htally, hsettles⟩ := exists_settles hslots hleaves
      rw [htally]
      exact ⟨iff_of_false (by simp) hnone, iff_of_false (by simp) hforest,
        fun _ _ => ⟨tally, rfl, hsettles⟩⟩
  · have hbad : ∃ l ∈ forest.map (Tree.reach f), ¬HasSlot n l.label := by
      push Not at hslots
      exact hslots
    have hforest : forest ≠ [] := by
      rintro rfl
      simp at hbad
    rw [ofLeaves_of_not_hasSlot hbad]
    exact ⟨iff_of_true rfl hbad, iff_of_false (by simp) hforest, fun h => absurd h hslots⟩

end Forest

example : (ofForest 2 [.leaf ⟨-1, 1⟩, .leaf ⟨0, 1⟩, .leaf ⟨1, 0.5⟩] ⟨[], 1, 0⟩).map Tally.totals =
    .ok [(-1, 1.5), (0, 1)] := rfl

end Polyglot.Tally
