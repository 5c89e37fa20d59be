import Polyglot.Forest

/-! # Walks through a tree

A walk reads the features that inner nodes ask for and no others. It takes the same turns when the
features have other ids, and what it arrives at is named by another id when the labels have others.
-/

namespace Polyglot

/-- A leaf whose label has another id. -/
def Leaf.renumber {ω : Type} (s : Int → Int) (l : Leaf ω) : Leaf ω := { l with label := s l.label }

namespace Tree

variable {τ ω : Type}

/-- Holds of a feature that an inner node asks for. -/
def Asks (feature : Int) : Tree τ ω → Prop
  | leaf _ => False
  | branch asked _ left right => asked = feature ∨ left.Asks feature ∨ right.Asks feature

/-- The tree with other ids for the features and for the labels. -/
def renumber (p s : Int → Int) : Tree τ ω → Tree τ ω
  | leaf l => leaf (l.renumber s)
  | branch feature threshold left right =>
    branch (p feature) threshold (left.renumber p s) (right.renumber p s)

theorem bounds_of_asks {features labels : Nat} {feature : Int} {t : Tree τ ω}
    (hfits : t.Fits features labels) (hasks : t.Asks feature) :
    0 ≤ feature ∧ feature < features := by
  induction t with
  | leaf => cases hasks
  | branch asked threshold left right ihleft ihright =>
      obtain ⟨hasked, hleft, hright⟩ := hfits
      rcases hasks with rfl | hasks | hasks
      · exact hasked
      · exact ihleft hleft hasks
      · exact ihright hright hasks

section Follow

variable [LE τ] [DecidableLE τ] {t : Tree τ ω} {value value' : Int → τ}

/-- Values that agree on what is asked for lead to the same leaf. -/
theorem follow_congr (hvalue : ∀ feature, t.Asks feature → value feature = value' feature) :
    t.follow value = t.follow value' := by
  induction t with
  | leaf => rfl
  | branch asked threshold left right ihleft ihright =>
      rw [follow, follow, hvalue asked (.inl rfl),
        ihleft fun feature hasks => hvalue feature (.inr (.inl hasks)),
        ihright fun feature hasks => hvalue feature (.inr (.inr hasks))]

theorem follow_renumber (p s : Int → Int) :
    (t.renumber p s).follow value = (t.follow fun feature => value (p feature)).renumber s := by
  induction t with
  | leaf => rfl
  | branch asked threshold left right ihleft ihright =>
      rw [renumber, follow, follow, ihleft, ihright]
      split
      next => rfl
      next => rfl

end Follow

end Tree

end Polyglot
