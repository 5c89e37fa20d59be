import Polyglot.Forest
import Polyglot.Proofs.Ranking

/-! # Ways through a tree

A way leads from the root of a tree to one of its leaves and turns left or right at every inner
node. A turn to the left asks that the value of the feature is at most the threshold, and a turn to
the right that it is not, so that at every node just one of the two can be taken. Hence there is
just one way that keeps to all its turns, and the walk ends where it ends.
-/

namespace Polyglot

theorem Binary64.not_le_of_isNaN {x : Float} (hx : x.isNaN) (y : Float) : ¬x ≤ y := by
  have hle : x ≤ y ↔ (parts x).le (parts y) = true := decide_eq_true_iff
  have hparts : (parts x).isNaN = true := hx
  rw [hle]
  cases hkind : parts x <;>
    simp_all [Float.Model.UnpackedFloat.isNaN, Float.Model.UnpackedFloat.le,
      Float.Model.UnpackedFloat.compare]

/-- What is read for a feature: its entry, and zero for a feature without one, be it negative or
beyond the last entry. -/
def Frequency.reading (f : Frequency) (feature : Int) : Float :=
  if h : 0 ≤ feature ∧ feature < f.values.length then
    f.values.get ⟨feature.toNat, by omega⟩
  else 0

theorem Frequency.get_eq_reading (f : Frequency) (feature : Int) :
    f.get feature 0 = f.reading feature := by
  cases feature with
  | ofNat id =>
      by_cases hid : id < f.values.length
      · simp [get, reading, value?, hid]
      · simp [get, reading, value?, hid]
  | negSucc id => simp [get, reading, value?]

/-- A turn at an inner node: the feature that the node asks for, its threshold, and the side to
which the turn is taken. -/
structure Turn (τ : Type) where
  feature : Int
  threshold : τ
  side : Side

/-- The condition of a turn. -/
def Turn.Holds {τ : Type} [LE τ] (value : Int → τ) (turn : Turn τ) : Prop :=
  match turn.side with
  | .left => value turn.feature ≤ turn.threshold
  | .right => ¬value turn.feature ≤ turn.threshold

namespace Tree

variable {τ ω : Type} {t : Tree τ ω}

/-- A way from the root of a tree to a leaf. -/
inductive Way : Tree τ ω → Type where
  | leaf (l : Leaf ω) : Way (.leaf l)
  | left {feature : Int} {threshold : τ} {left right : Tree τ ω} (way : Way left) :
      Way (.branch feature threshold left right)
  | right {feature : Int} {threshold : τ} {left right : Tree τ ω} (way : Way right) :
      Way (.branch feature threshold left right)

namespace Way

/-- The leaf at the end of a way. -/
def last : {t : Tree τ ω} → t.Way → Leaf ω
  | .leaf l, .leaf _ => l
  | .branch _ _ _ _, .left way => way.last
  | .branch _ _ _ _, .right way => way.last

/-- The turns of a way, from the root on. -/
def turns : {t : Tree τ ω} → t.Way → List (Turn τ)
  | .leaf _, .leaf _ => []
  | .branch feature threshold _ _, .left way => ⟨feature, threshold, .left⟩ :: way.turns
  | .branch feature threshold _ _, .right way => ⟨feature, threshold, .right⟩ :: way.turns

variable [LE τ] {value value' : Int → τ}

/-- Holds of a way all of whose turns can be taken. -/
def Holds (value : Int → τ) (way : t.Way) : Prop := ∀ turn ∈ way.turns, turn.Holds value

variable {feature : Int} {threshold : τ} {left right : Tree τ ω}

theorem holds_leaf (value : Int → τ) (l : Leaf ω) :
    Holds value (.leaf l : (Tree.leaf l : Tree τ ω).Way) := by
  simp [Holds, turns]

theorem holds_left {way : left.Way} :
    Holds value (.left way : (branch feature threshold left right).Way) ↔
      value feature ≤ threshold ∧ way.Holds value := by
  simp [Holds, turns, Turn.Holds]

theorem holds_right {way : right.Way} :
    Holds value (.right way : (branch feature threshold left right).Way) ↔
      ¬value feature ≤ threshold ∧ way.Holds value := by
  simp [Holds, turns, Turn.Holds]

/-- Values that agree on the features that are asked for on a way keep to it alike. -/
theorem Holds.congr {way : t.Way} (h : way.Holds value)
    (hvalue : ∀ turn ∈ way.turns, value' turn.feature = value turn.feature) :
    way.Holds value' := by
  intro turn hturn
  have hholds := h turn hturn
  unfold Turn.Holds at hholds ⊢
  rwa [hvalue turn hturn]

/-- Two ways part at some node, and only one of their turns can be taken there. -/
theorem Holds.unique {way other : t.Way} (h : way.Holds value) (h' : other.Holds value) :
    way = other := by
  induction way with
  | leaf l =>
      cases other
      rfl
  | left way ih =>
      cases other with
      | left other => rw [ih (holds_left.mp h).2 (holds_left.mp h').2]
      | right other => exact absurd (holds_left.mp h).1 (holds_right.mp h').1
  | right way ih =>
      cases other with
      | left other => exact absurd (holds_left.mp h').1 (holds_right.mp h).1
      | right other => rw [ih (holds_right.mp h).2 (holds_right.mp h').2]

end Way

section Follow

variable [LE τ] [DecidableLE τ] {value : Int → τ}

/-- The walk goes along a way that keeps to its turns. -/
theorem exists_way (value : Int → τ) (t : Tree τ ω) :
    ∃ way : t.Way, way.Holds value ∧ way.last = t.follow value := by
  induction t with
  | leaf l => exact ⟨.leaf l, Way.holds_leaf value l, rfl⟩
  | branch feature threshold left right ihleft ihright =>
      rw [follow]
      split
      next hle =>
        obtain ⟨way, hholds, hlast⟩ := ihleft
        exact ⟨.left way, Way.holds_left.mpr ⟨hle, hholds⟩, hlast⟩
      next hnot =>
        obtain ⟨way, hholds, hlast⟩ := ihright
        exact ⟨.right way, Way.holds_right.mpr ⟨hnot, hholds⟩, hlast⟩

theorem follow_eq_last {way : t.Way} (h : way.Holds value) : t.follow value = way.last := by
  obtain ⟨walked, hholds, hlast⟩ := exists_way value t
  rw [← hlast, hholds.unique h]

end Follow

theorem reach_eq_follow (f : Frequency) (t : Tree Float ω) : t.reach f = t.follow f.reading := by
  rw [reach]
  congr 1
  exact funext f.get_eq_reading

/-- For any entries just one way keeps to all its turns, whatever features and thresholds a tree
has. The tree leads to the leaf at its end. The way turns right wherever what it reads is no number,
and the leaf depends on nothing but what is read on the way. -/
theorem reach_follows_way (t : Tree Float ω) (f : Frequency) :
    ∃ way : t.Way, way.Holds f.reading ∧ (∀ other : t.Way, other.Holds f.reading → other = way) ∧
      t.reach f = way.last ∧
      (∀ turn ∈ way.turns, (f.reading turn.feature).isNaN → turn.side = .right) ∧
      ∀ g : Frequency, (∀ turn ∈ way.turns, g.reading turn.feature = f.reading turn.feature) →
        t.reach g = t.reach f := by
  obtain ⟨way, hholds, hlast⟩ := exists_way f.reading t
  refine ⟨way, hholds, fun other hother => hother.unique hholds, ?_, ?_, ?_⟩
  · rw [reach_eq_follow, hlast]
  · intro turn hturn hnan
    have hturned := hholds turn hturn
    unfold Turn.Holds at hturned
    split at hturned
    next => exact absurd hturned (Binary64.not_le_of_isNaN hnan _)
    next hside => exact hside
  · intro g hagree
    rw [reach_eq_follow, reach_eq_follow, follow_eq_last (hholds.congr hagree), hlast]

end Tree

end Polyglot
