import Polyglot.Frequency

/-! # Forest

Every tree of a forest leads a frequency vector to a leaf, which gives its weight to a label. The
weights of a label are added in the order of the trees, and the label with the greatest total wins;
of equal totals the one that was reached first. Trees may name any feature and any label: a feature
without an entry reads as zero, and a negative label counts from the end of the table.
-/

namespace Polyglot

/-- The weight that a tree gives to a label. -/
structure Leaf (ω : Type) where
  label : Int
  weight : ω

/-- A binary tree of thresholds on features, which leads to weights. -/
inductive Tree (τ ω : Type) where
  | leaf (leaf : Leaf ω)
  | branch (feature : Int) (threshold : τ) (left right : Tree τ ω)

/-- A tree whose thresholds and weights are doubles. -/
abbrev FloatTree := Tree Float Float

namespace Tree

variable {τ ω : Type}

/-- The leaf that values of the features lead to: to the left where the value is at most the
threshold, and to the right otherwise, also where the two stand in no order. -/
def follow [LE τ] [DecidableLE τ] (value : Int → τ) : Tree τ ω → Leaf ω
  | leaf l => l
  | branch feature threshold left right =>
    if value feature ≤ threshold then follow value left else follow value right

/-- The leaf that a frequency vector reaches. -/
def reach (f : Frequency) (t : Tree Float ω) : Leaf ω := t.follow fun feature => f.get feature 0

/-- Holds of a tree whose features and labels lie below two bounds. -/
def Fits (features labels : Nat) : Tree τ ω → Prop
  | leaf l => 0 ≤ l.label ∧ l.label < labels
  | branch feature _ left right =>
    (0 ≤ feature ∧ feature < features) ∧ left.Fits features labels ∧ right.Fits features labels

end Tree

/-- The totals of the labels in the order in which they were reached, and the winner. -/
structure Tally where
  totals : List (Int × Float)
  winner : Int

namespace Tally

/-- The greater of the best entry so far and the next one, which has to be strictly greater. -/
def better {ι τ : Type} [LT τ] [DecidableLT τ] (best next : ι × τ) : ι × τ :=
  if best.2 < next.2 then next else best

/-- The label with the greatest total, the first one among equals. -/
def pick {ι τ : Type} [LT τ] [DecidableLT τ] : List (ι × τ) → Except Fault ι
  | [] => .error .emptyTally
  | first :: rest => .ok (rest.foldl better first).1

/-- The place of a label among `n` slots; a negative label counts from the end. -/
def slot? (n : Nat) (label : Int) : Option Nat :=
  if 0 ≤ label ∧ label < n then some label.toNat
  else if label < 0 ∧ -n ≤ label then some (label + n).toNat
  else none

/-- The sum of a slot, and the label that reached it first. -/
structure Account where
  label : Int
  total : Float

/-- Adds the weight of a leaf to the account of its slot; a new account starts at zero. -/
def credit (l : Leaf Float) (account : Option Account) : Account :=
  match account with
  | none => ⟨l.label, 0 + l.weight⟩
  | some a => ⟨a.label, a.total + l.weight⟩

/-- Enters a leaf into accounts for `n` slots; its weight counts for an amount. -/
def enter {ω : Type} (amount : ω → Except Fault Float) (n : Nat) (accounts : List (Nat × Account))
    (l : Leaf ω) : Except Fault (List (Nat × Account)) :=
  match slot? n l.label with
  | none => .error .labelOutOfRange
  | some slot => do
    let weight ← amount l.weight
    pure (Entries.alter slot (credit ⟨l.label, weight⟩) accounts)

/-- The tally of leaves in the order of their trees. -/
def ofLeaves {ω : Type} (amount : ω → Except Fault Float) (n : Nat) (leaves : List (Leaf ω)) :
    Except Fault Tally := do
  let accounts ← leaves.foldlM (enter amount n) []
  let totals := accounts.map fun (_, account) => (account.label, account.total)
  let winner ← pick totals
  pure ⟨totals, winner⟩

/-- The tally of a forest for a vector, with `n` slots for labels. -/
def ofForest (n : Nat) (forest : List FloatTree) (f : Frequency) : Except Fault Tally :=
  ofLeaves .ok n (forest.map (Tree.reach f))

end Tally

end Polyglot
