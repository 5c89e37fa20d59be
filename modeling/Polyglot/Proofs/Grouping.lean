import Polyglot.Proofs.Entries

/-! # Tables filled item by item

A table into which items are entered one after another has the keys of the items in the order in
which they first come. What stands at a key depends on nothing but the items with that key, in their
order.
-/

namespace Polyglot

section FirstComers

variable {α β : Type} [DecidableEq α] [DecidableEq β]

theorem eraseDups_concat (xs : List α) (x : α) :
    (xs ++ [x]).eraseDups = if x ∈ xs then xs.eraseDups else xs.eraseDups ++ [x] := by
  rw [List.eraseDups_append]
  by_cases hx : x ∈ xs
  · simp [List.removeAll, hx]
  · simp [List.removeAll, hx, List.eraseDups_cons]

/-- Without repetitions the members of a list stand in the order in which they first come. -/
theorem pairwise_idxOf_eraseDups (xs : List α) :
    xs.eraseDups.Pairwise fun x y => xs.idxOf x < xs.idxOf y := by
  induction xs using List.reverseRecOn with
  | nil => simp
  | append_singleton xs last ih =>
      -- One more item at the end moves no first occurrence.
      have hearlier : xs.eraseDups.Pairwise fun x y =>
          (xs ++ [last]).idxOf x < (xs ++ [last]).idxOf y := by
        refine ih.imp_of_mem ?_
        intro x y hx hy hlt
        rwa [List.idxOf_append_of_mem (List.mem_eraseDups.mp hx),
          List.idxOf_append_of_mem (List.mem_eraseDups.mp hy)]
      rw [eraseDups_concat]
      split
      next => exact hearlier
      next hnew =>
        refine List.pairwise_append.mpr ⟨hearlier, by simp, ?_⟩
        intro x hx y hy
        rw [List.mem_singleton] at hy
        subst hy
        have hmem := List.mem_eraseDups.mp hx
        rw [List.idxOf_append_of_mem hmem, List.idxOf_append_of_notMem hnew]
        exact Nat.lt_add_right _ (List.idxOf_lt_length_of_mem hmem)

theorem nodup_eraseDups (xs : List α) : xs.eraseDups.Nodup :=
  (pairwise_idxOf_eraseDups xs).imp fun hlt => ne_of_apply_ne xs.idxOf (Nat.ne_of_lt hlt)

/-- Other names for the members, as long as they tell the same members apart, change no order. -/
theorem eraseDups_map {f : α → β} {xs : List α}
    (hf : ∀ x ∈ xs, ∀ y ∈ xs, f x = f y → x = y) :
    (xs.map f).eraseDups = xs.eraseDups.map f := by
  induction xs using List.reverseRecOn with
  | nil => simp
  | append_singleton xs last ih =>
      have hrest := ih fun x hx y hy => hf x (by simp [hx]) y (by simp [hy])
      have hmem : f last ∈ xs.map f ↔ last ∈ xs := by
        constructor
        · intro h
          obtain ⟨x, hx, heq⟩ := List.mem_map.mp h
          rwa [← hf x (by simp [hx]) last (by simp) heq]
        · exact List.mem_map_of_mem
      rw [List.map_append, List.map_cons, List.map_nil, eraseDups_concat, eraseDups_concat, hrest]
      by_cases hlast : last ∈ xs
      · simp [hlast, hmem]
      · simp [hlast, hmem]

end FirstComers

section Distinct

variable {α : Type} [BEq α] [LawfulBEq α]

theorem eraseDups_filter (p : α → Bool) (xs : List α) :
    (xs.filter p).eraseDups = xs.eraseDups.filter p := by
  induction xs using List.reverseRecOn with
  | nil => rfl
  | append_singleton xs x ih =>
      rw [List.filter_append, List.eraseDups_append, List.eraseDups_append, List.filter_append, ih]
      by_cases hx : x ∈ xs
      · cases hp : p x <;> simp [List.removeAll, hx, hp]
      · cases hp : p x <;> simp [List.removeAll, List.eraseDups_cons, hx, hp]

/-- The members that come first in a second list stand behind those of the first one. -/
theorem eraseDups_append_new (xs ys : List α) :
    (xs ++ ys).eraseDups = xs.eraseDups ++ ys.eraseDups.filter fun y => y ∉ xs.eraseDups := by
  rw [List.eraseDups_append, List.removeAll, eraseDups_filter]
  congr 1
  exact List.filter_congr fun y _ => by simp

end Distinct

namespace Entries

variable {κ α β : Type} [DecidableEq κ]

theorem get?_alter (k key : κ) (change : Option α → α) (entries : List (κ × α)) :
    get? k (alter key change entries) =
      if key = k then some (change (get? k entries)) else get? k entries := by
  induction entries with
  | nil => simp [alter, get?]
  | cons e rest ih =>
      rcases e with ⟨k', a⟩
      rw [alter]
      by_cases hkey : k' = key
      · subst hkey
        by_cases hk : k' = k <;> simp [get?, hk]
      · by_cases hk : k' = k
        · subst hk
          simp [get?, hkey, Ne.symm hkey]
        · simp [get?, hkey, hk, ih]

/-- The table in which each item has changed what stood at its key. -/
def gather (key : β → κ) (change : β → Option α → α) (items : List β) : List (κ × α) :=
  items.foldl (fun table item => alter (key item) (change item) table) []

variable (key : β → κ) (change : β → Option α → α) (items : List β)

theorem gather_concat (item : β) :
    gather key change (items ++ [item]) =
      alter (key item) (change item) (gather key change items) := by
  simp [gather]

theorem keys_gather : keys (gather key change items) = (items.map key).eraseDups := by
  induction items using List.reverseRecOn with
  | nil => simp [gather]
  | append_singleton items item ih =>
      rw [gather_concat, keys_alter, ih, List.map_append, List.map_cons, List.map_nil,
        eraseDups_concat]
      simp

theorem nodup_keys_gather : (keys (gather key change items)).Nodup := by
  rw [keys_gather]
  exact nodup_eraseDups _

/-- What stands at a key is made by the items with this key alone. -/
theorem get?_gather (k : κ) :
    get? k (gather key change items) =
      (items.filter fun item => key item = k).foldl (fun a item => some (change item a)) none := by
  induction items using List.reverseRecOn with
  | nil => rfl
  | append_singleton items item ih =>
      rw [gather_concat, get?_alter, ih, List.filter_append]
      by_cases hk : key item = k <;> simp [hk]

end Entries

end Polyglot
