import Mathlib.Data.List.Induction
import Mathlib.Data.List.Nodup
import Polyglot.Entries

/-! # Laws of ordered tables

Writing keeps the keys distinct and in order of arrival: a key that is present keeps its place, and
a new one comes last. In a table whose keys are distinct, looking up and membership agree.
-/

namespace Polyglot.Entries

variable {κ α : Type}

@[simp] theorem keys_nil : keys ([] : List (κ × α)) = [] := rfl

@[simp] theorem keys_cons (e : κ × α) (entries : List (κ × α)) :
    keys (e :: entries) = e.1 :: keys entries := rfl

theorem mem_keys_of_mem {e : κ × α} {entries : List (κ × α)} (he : e ∈ entries) :
    e.1 ∈ keys entries := List.mem_map_of_mem he

/-- Leaving out entries for their keys leaves out the keys. -/
theorem keys_filter_key (p : κ → Bool) (entries : List (κ × α)) :
    keys (entries.filter fun e => p e.1) = (keys entries).filter p :=
  List.filter_map.symm

variable [DecidableEq κ]

theorem mem_of_get? {key : κ} {a : α} {entries : List (κ × α)}
    (hget : get? key entries = some a) : (key, a) ∈ entries := by
  induction entries with
  | nil => cases hget
  | cons e rest ih =>
      rcases e with ⟨k, b⟩
      rw [get?] at hget
      split at hget
      next heq =>
        cases hget
        subst heq
        exact List.mem_cons_self
      next => exact List.mem_cons_of_mem _ (ih hget)

theorem get?_isSome {key : κ} {entries : List (κ × α)} :
    (get? key entries).isSome ↔ key ∈ keys entries := by
  induction entries with
  | nil => simp [get?]
  | cons e rest ih =>
      rcases e with ⟨k, b⟩
      rw [get?, keys_cons, List.mem_cons]
      split
      next heq => simp [heq]
      next hne => simp [ih, Ne.symm hne]

theorem get?_filter {p : κ → Bool} {key : κ} (hkey : p key) (entries : List (κ × α)) :
    get? key (entries.filter fun e => p e.1) = get? key entries := by
  induction entries with
  | nil => rfl
  | cons e rest ih =>
      rcases e with ⟨k, a⟩
      rw [List.filter_cons, get?]
      split
      next => rw [get?, ih]
      next hk =>
        have hne : k ≠ key := by
          rintro rfl
          exact hk hkey
        rw [ih, if_neg hne]

theorem get?_erase_of_ne {key k : κ} (hne : k ≠ key) (entries : List (κ × α)) :
    get? k (erase key entries) = get? k entries :=
  get?_filter (p := fun k => k ≠ key) (by simpa using hne) entries

theorem get?_erase_self (key : κ) (entries : List (κ × α)) :
    get? key (erase key entries) = none := by
  rw [← Option.not_isSome_iff_eq_none, get?_isSome]
  simp [keys, erase]

theorem get?_of_notMem {key : κ} {entries : List (κ × α)} (hnew : key ∉ keys entries) :
    get? key entries = none := by
  rw [← Option.not_isSome_iff_eq_none, get?_isSome]
  exact hnew

theorem get?_eq_some_iff {key : κ} {a : α} {entries : List (κ × α)}
    (hnodup : (keys entries).Nodup) : get? key entries = some a ↔ (key, a) ∈ entries := by
  refine ⟨mem_of_get?, ?_⟩
  intro hmem
  obtain ⟨b, hb⟩ := Option.isSome_iff_exists.mp (get?_isSome.mpr (mem_keys_of_mem hmem))
  have heq := List.inj_on_of_nodup_map hnodup (mem_of_get? hb) hmem rfl
  rw [hb, (Prod.mk.inj heq).2]

/-- In a table with distinct keys the order tells nothing about what stands at a key. -/
theorem get?_eq_of_perm {entries entries' : List (κ × α)} (hnodup : (keys entries).Nodup)
    (hperm : entries.Perm entries') (key : κ) : get? key entries = get? key entries' := by
  have hnodup' : (keys entries').Nodup := (hperm.map Prod.fst).nodup_iff.mp hnodup
  apply Option.ext
  intro a
  rw [get?_eq_some_iff hnodup, get?_eq_some_iff hnodup', hperm.mem_iff]

/-- Writing to a key that is present keeps all keys in place; a new key comes last. -/
theorem keys_alter (key : κ) (change : Option α → α) (entries : List (κ × α)) :
    keys (alter key change entries) =
      if key ∈ keys entries then keys entries else keys entries ++ [key] := by
  induction entries with
  | nil => simp [alter]
  | cons e rest ih =>
      rcases e with ⟨k, b⟩
      rw [alter]
      split
      next heq => simp [heq]
      next hne =>
        rw [keys_cons, ih, keys_cons]
        by_cases hmem : key ∈ keys rest
        · simp [hmem]
        · simp [hmem, Ne.symm hne]

theorem nodup_keys_alter {key : κ} {change : Option α → α} {entries : List (κ × α)}
    (hnodup : (keys entries).Nodup) : (keys (alter key change entries)).Nodup := by
  rw [keys_alter]
  split
  next => exact hnodup
  next hnew => exact List.nodup_append.mpr ⟨hnodup, by simp, by grind⟩

/-- An entry of a table that was written to is an old one, or the one that was written. -/
theorem mem_alter {key : κ} {change : Option α → α} {entries : List (κ × α)} {e : κ × α}
    (he : e ∈ alter key change entries) :
    e ∈ entries ∨ ∃ old, e = (key, change old) ∧ ∀ a ∈ old, (key, a) ∈ entries := by
  induction entries with
  | nil =>
      rw [alter, List.mem_singleton] at he
      exact .inr ⟨none, he, by simp⟩
  | cons first rest ih =>
      rcases first with ⟨k, b⟩
      rw [alter] at he
      split at he
      next heq =>
        subst heq
        rcases List.mem_cons.mp he with rfl | hrest
        · exact .inr ⟨some b, rfl, by simp⟩
        · exact .inl (List.mem_cons_of_mem _ hrest)
      next =>
        rcases List.mem_cons.mp he with rfl | hrest
        · exact .inl List.mem_cons_self
        · refine (ih hrest).imp (List.mem_cons_of_mem _) ?_
          rintro ⟨old, hold, hentries⟩
          exact ⟨old, hold, fun a ha => List.mem_cons_of_mem _ (hentries a ha)⟩

theorem get?_put_self (key : κ) (a : α) (entries : List (κ × α)) :
    get? key (put key a entries) = some a := by
  induction entries with
  | nil => rw [put, alter, get?, if_pos rfl]
  | cons e rest ih =>
      rcases e with ⟨k, b⟩
      rw [put, alter]
      split
      next heq => rw [get?, if_pos heq]
      next hne => rw [get?, if_neg hne, ← put, ih]

theorem get?_put_of_ne {key k : κ} (hne : k ≠ key) (a : α) (entries : List (κ × α)) :
    get? k (put key a entries) = get? k entries := by
  induction entries with
  | nil => exact if_neg hne.symm
  | cons e rest ih =>
      rcases e with ⟨k', b⟩
      rw [put, alter]
      split
      next heq =>
        have hother : k' ≠ k := by
          rintro rfl
          exact hne heq
        rw [get?, get?, if_neg hother, if_neg hother]
      next => rw [get?, get?, ← put, ih]

/-- Of two values that are written at a key the last one stays, at the place of the first. -/
theorem put_put (key : κ) (a b : α) (entries : List (κ × α)) :
    put key a (put key b entries) = put key a entries := by
  unfold put
  induction entries with
  | nil => simp [alter]
  | cons e rest ih =>
      rcases e with ⟨k, old⟩
      by_cases hk : k = key
      · simp [alter, hk]
      · simp [alter, hk, ih]

/-- A new key comes last with its value. -/
theorem put_of_notMem {key : κ} {a : α} {entries : List (κ × α)} (hnew : key ∉ keys entries) :
    put key a entries = entries ++ [(key, a)] := by
  induction entries with
  | nil => rfl
  | cons e rest ih =>
      rcases e with ⟨k, b⟩
      rw [keys_cons, List.mem_cons, not_or] at hnew
      rw [put, alter, if_neg (Ne.symm hnew.1), List.cons_append]
      exact congrArg _ (ih hnew.2)

/-- Entries whose keys are distinct are a table as they stand. -/
theorem ofList_of_nodup {entries : List (κ × α)} (hnodup : (keys entries).Nodup) :
    ofList entries = entries := by
  have hfold : ∀ rest table : List (κ × α), (keys (table ++ rest)).Nodup →
      rest.foldl (fun table e => put e.1 e.2 table) table = table ++ rest := by
    intro rest
    induction rest with
    | nil => simp
    | cons e rest ih =>
        intro table hdistinct
        have hnew : e.1 ∉ keys table := by
          simp only [keys, List.map_append, List.map_cons] at hdistinct ⊢
          grind [List.nodup_append]
        rw [List.foldl_cons, put_of_notMem hnew, ih _ (by simpa using hdistinct)]
        simp
  exact hfold entries [] hnodup

theorem ofList_concat (entries : List (κ × α)) (e : κ × α) :
    ofList (entries ++ [e]) = put e.1 e.2 (ofList entries) := by
  simp only [ofList, List.foldl_append, List.foldl_cons, List.foldl_nil]

theorem nodup_keys_ofList (entries : List (κ × α)) : (keys (ofList entries)).Nodup := by
  induction entries using List.reverseRecOn with
  | nil => exact List.nodup_nil
  | append_singleton entries e ih =>
      rw [ofList_concat]
      exact nodup_keys_alter ih

/-- Each entry of a table was written there. -/
theorem mem_of_mem_ofList {e : κ × α} {entries : List (κ × α)} (he : e ∈ ofList entries) :
    e ∈ entries := by
  induction entries using List.reverseRecOn with
  | nil => cases he
  | append_singleton entries d ih =>
      rw [ofList_concat] at he
      rw [List.mem_append, List.mem_singleton]
      rcases mem_alter he with hold | ⟨_, rfl, -⟩
      · exact .inl (ih hold)
      · exact .inr rfl

end Polyglot.Entries
