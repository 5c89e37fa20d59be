import Polyglot.Forest
import Polyglot.Proofs.Entries

/-! # Fair tallies

Trees that fit a label table lead to leaves whose labels are in the table, wherever the values lead.
A tally is fair if its labels are distinct and in the table, and one of them wins; among at least
one total there always is a winner.
-/

namespace Polyglot

/-- Wherever the values lead, the leaf of a tree that fits is within the bound of the labels. -/
theorem Tree.label_follow {τ ω : Type} [LE τ] [DecidableLE τ] {features labels : Nat}
    {t : Tree τ ω} (hfits : t.Fits features labels) (value : Int → τ) :
    0 ≤ (t.follow value).label ∧ (t.follow value).label < labels := by
  induction t with
  | leaf l => exact hfits
  | branch feature threshold left right ihleft ihright =>
      obtain ⟨_, hleft, hright⟩ := hfits
      rw [follow]
      split
      next => exact ihleft hleft
      next => exact ihright hright

theorem Tree.label_bounds_of_mem_reach {ω : Type} {features labels : Nat}
    {forest : List (Tree Float ω)} {f : Frequency} (hfits : ∀ t ∈ forest, t.Fits features labels) :
    ∀ l ∈ forest.map (reach f), 0 ≤ l.label ∧ l.label < labels := by
  intro l hl
  obtain ⟨t, ht, rfl⟩ := List.mem_map.mp hl
  exact label_follow (hfits t ht) _

namespace Tally

theorem foldl_better_mem {ι τ : Type} [LT τ] [DecidableLT τ] (best : ι × τ)
    (rest : List (ι × τ)) : rest.foldl better best ∈ best :: rest := by
  induction rest generalizing best with
  | nil => exact List.mem_cons_self
  | cons next rest ih =>
      rw [List.foldl_cons]
      rcases List.mem_cons.mp (ih (better best next)) with heq | hmem
      · rw [heq, better]
        split <;> simp
      · exact List.mem_cons_of_mem _ (List.mem_cons_of_mem _ hmem)

/-- Among at least one total there is a winner. -/
theorem exists_pick {ι τ : Type} [LT τ] [DecidableLT τ] {totals : List (ι × τ)}
    (htotals : totals ≠ []) :
    ∃ winner, pick totals = .ok winner ∧ winner ∈ Entries.keys totals := by
  cases totals with
  | nil => exact absurd rfl htotals
  | cons first rest => exact ⟨_, rfl, List.mem_map_of_mem (foldl_better_mem first rest)⟩

/-- A tally of distinct labels below a bound, with one of them as the winner. -/
structure Fair (n : Nat) (tally : Tally) : Prop where
  labels_nodup : (Entries.keys tally.totals).Nodup
  label_bounds : ∀ e ∈ tally.totals, 0 ≤ e.1 ∧ e.1 < n
  winner_mem : tally.winner ∈ Entries.keys tally.totals

theorem Fair.winner_bounds {n : Nat} {tally : Tally} (hfair : Fair n tally) :
    0 ≤ tally.winner ∧ tally.winner < n := by
  obtain ⟨e, he, hwinner⟩ := List.mem_map.mp hfair.winner_mem
  rw [← hwinner]
  exact hfair.label_bounds e he

end Tally

end Polyglot
