import Mathlib.Order.Bounds.Defs
import Polyglot.Proofs.Standings

/-! # The choice among totals

The totals that a winner is picked from may be any doubles. What is no number is in no order with
anything: it wins where it stands first, since nothing is greater, and nowhere else. Apart from
that the winner stands at the first place of the greatest total.
-/

namespace Polyglot.Tally

variable {ι : Type} {entries : List (ι × Float)}

/-- Holds of a place where the greatest of the totals stands that are numbers. -/
def IsGreatestAt (entries : List (ι × Float)) (i : Nat) : Prop :=
  ∃ e, entries[i]? = some e ∧ e.2.isNaN = false ∧
    ∀ other ∈ entries, other.2.isNaN = false → other.2 ≤ e.2

/-- The first entry with the greatest total stands at the least place of a greatest total. -/
theorem IsFirstGreatest.exists_isLeast {best : ι × Float} (h : IsFirstGreatest entries best)
    (hbest : best.2.isNaN = false) :
    ∃ i, IsLeast {j | IsGreatestAt entries j} i ∧ entries[i]? = some best := by
  have ⟨before, after, hsplit, hbefore, _⟩ := h
  have hplace : entries[before.length]? = some best := by simp [hsplit]
  refine ⟨before.length, ⟨⟨best, hplace, hbest, fun _ => h.le hbest⟩, ?_⟩, hplace⟩
  rintro j ⟨e, he, hnumber, hgreatest⟩
  by_contra hearlier
  -- An entry that stands before the best one is less, and so it is not the greatest.
  have hmem : e ∈ before := by
    rw [hsplit, List.getElem?_append_left (not_le.mp hearlier)] at he
    exact List.mem_of_getElem? he
  have hlt := (Binary64.lt_iff_rank hnumber hbest).mp (hbefore e hmem hnumber)
  have hge := (Binary64.le_iff_rank hbest hnumber).mp
    (hgreatest best (List.mem_of_getElem? hplace) hbest)
  exact absurd hge hlt.not_ge

theorem better_of_isNaN {best : ι × Float} (hbest : best.2.isNaN) (next : ι × Float) :
    better best next = best := by
  rw [better, if_neg]
  intro hlt
  cases hbest.symm.trans (Binary64.isNaN_of_gt hlt)

/-- Nothing takes the place of what is no number. -/
theorem foldl_better_of_isNaN {best : ι × Float} (hbest : best.2.isNaN)
    (rest : List (ι × Float)) : rest.foldl better best = best := by
  induction rest with
  | nil => rfl
  | cons next rest ih => rwa [List.foldl_cons, better_of_isNaN hbest]

/-- Picking fails if and only if there is no total. If the first total is no number, its label wins;
otherwise the label at the first place of the greatest total does. -/
theorem pick_outcomes (entries : List (ι × Float)) :
    (∀ fault, pick entries = .error fault ↔ entries = [] ∧ fault = .emptyTally) ∧
      ∀ first ∈ entries.head?,
        (first.2.isNaN → pick entries = .ok first.1) ∧
          (first.2.isNaN = false → ∃ i winner, IsLeast {j | IsGreatestAt entries j} i ∧
            entries[i]? = some winner ∧ pick entries = .ok winner.1) := by
  cases entries with
  | nil => simp [pick, eq_comm]
  | cons first rest =>
      refine ⟨by simp [pick], ?_⟩
      rintro _ ⟨⟩
      constructor
      · intro hfirst
        rw [pick, foldl_better_of_isNaN hfirst]
      · intro hfirst
        obtain ⟨hbest, hnumber⟩ := isFirstGreatest_foldl first hfirst rest
        obtain ⟨i, hleast, hplace⟩ := hbest.exists_isLeast hnumber
        exact ⟨i, _, hleast, hplace, rfl⟩

end Polyglot.Tally
