import Mathlib.Data.List.Perm.Basic
import Polyglot.Proofs.Tables

/-! # Listings of tables

A table is read from the list of its entries, each as a pair, and from no other list. The order of
the pairs is the order of the entries, which only looking through all of them could show.
-/

namespace Polyglot

/-- What is a permutation of images is the images of a permutation. -/
theorem exists_perm_of_perm_map {α β : Type} {form : α → β} {items : List β} {es : List α}
    (hitems : items.Perm (es.map form)) : ∃ ds : List α, ds.Perm es ∧ items = ds.map form := by
  have himages : List.Forall₂ (fun item e => item = form e) (es.map form) es := by
    rw [List.forall₂_map_left_iff, List.forall₂_same]
    exact fun _ _ => rfl
  obtain ⟨ds, hds, hperm⟩ := List.perm_comp_forall₂ hitems himages
  refine ⟨ds, hperm, ?_⟩
  rw [← List.forall₂_eq_eq_eq, List.forall₂_map_right_iff]
  exact hds

/-- Holds where reading an item adds the entry that the item is the form of, and nothing but an
entry that may come next is added. -/
structure Collects {δ β φ : Type} (add : δ → Nat → Json → Except φ δ) (entries : δ → List β)
    (form : β → Json) (Admits : β → Prop) : Prop where
  entries_injective : Function.Injective entries
  exists_prefix : ∀ {d es rest}, entries d = es ++ rest → ∃ d', entries d' = es
  add_eq_ok : ∀ {d index item d'}, add d index item = .ok d' ↔
    ∃ e, item = form e ∧ Admits e ∧ entries d' = entries d ++ [e]

theorem Collects.foldlM_eq_ok {δ β φ : Type} {add : δ → Nat → Json → Except φ δ}
    {entries : δ → List β} {form : β → Json} {Admits : β → Prop}
    (h : Collects add entries form Admits) {items : List Json} {index : Nat} {d d' : δ} :
    (items.zipIdx index).foldlM (fun d (item, index) => add d index item) d = .ok d' ↔
      ∃ es, items = es.map form ∧ (∀ e ∈ es, Admits e) ∧ entries d' = entries d ++ es := by
  induction items generalizing index d with
  | nil =>
      simp only [List.zipIdx_nil, List.foldlM_nil, Outcome.pure_eq_ok, Except.ok.injEq]
      constructor
      · rintro rfl
        exact ⟨[], rfl, by simp, by simp⟩
      · rintro ⟨es, hes, -, hentries⟩
        rw [List.map_eq_nil_iff.mp hes.symm, List.append_nil] at hentries
        exact h.entries_injective hentries.symm
  | cons item items ih =>
      rw [List.zipIdx_cons, List.foldlM_cons, Outcome.bind_eq_ok]
      constructor
      · rintro ⟨d₁, hadd, hrest⟩
        obtain ⟨e, rfl, he, hnext⟩ := h.add_eq_ok.mp hadd
        obtain ⟨es, rfl, hes, hentries⟩ := ih.mp hrest
        exact ⟨e :: es, rfl, by simpa using ⟨he, hes⟩, by simp [hentries, hnext]⟩
      · rintro ⟨es, hes, hadmits, hentries⟩
        obtain ⟨e, es, rfl, rfl, rfl⟩ := List.map_eq_cons_iff.mp hes.symm
        rw [List.append_cons] at hentries
        obtain ⟨d₁, hnext⟩ := h.exists_prefix hentries
        refine ⟨d₁, h.add_eq_ok.mpr ⟨e, rfl, hadmits e List.mem_cons_self, hnext⟩, ?_⟩
        rw [← hnext] at hentries
        exact ih.mpr ⟨es, rfl, fun e he => hadmits e (List.mem_cons_of_mem _ he), hentries⟩

namespace Vocabulary

/-- An entry as it is listed. -/
def pair (e : Text × Nat) : Json := .list [.text e.1, .int e.2]

theorem ext_entries {v w : Vocabulary} (h : v.entries = w.entries) : v = w := by
  cases v
  cases w
  cases h
  rfl

theorem Draft.entries_injective : Function.Injective Draft.entries := by
  rintro ⟨_, _, _⟩ ⟨_, _, _⟩ rfl
  rfl

theorem Draft.add_eq_ok {d d' : Draft} {index : Nat} {item : Json} :
    d.add index item = .ok d' ↔
      ∃ e : Text × Int, item = .list [.text e.1, .int e.2] ∧ e.1 ≠ [] ∧
        d'.entries = d.entries ++ [e] := by
  constructor
  · intro h
    unfold Draft.add at h
    split at h
    next token id =>
      split at h
      next => cases h
      next hne =>
        split at h
        next i =>
          split at h
          next => cases h
          next =>
            split at h
            next => cases h
            next =>
              cases h
              exact ⟨(token, i), rfl, by simpa using hne, rfl⟩
        next => cases h
    next => cases h
    next => cases h
  · rintro ⟨⟨token, i⟩, rfl, hne, hentries⟩
    obtain ⟨es, htokens, hids⟩ := d'
    obtain rfl : es = d.entries ++ [(token, i)] := hentries
    have htoken : token ∉ d.entries.map Prod.fst := by
      rw [List.map_append, List.nodup_append] at htokens
      exact fun hmem => htokens.2.2 _ hmem _ List.mem_cons_self rfl
    have hid : i ∉ d.entries.map Prod.snd := by
      rw [List.map_append, List.nodup_append] at hids
      exact fun hmem => hids.2.2 _ hmem _ List.mem_cons_self rfl
    rw [Draft.add, if_neg (by simpa using hne)]
    simp only [dif_neg htoken, dif_neg hid]

theorem Draft.collects : Collects Draft.add Draft.entries
    (fun e => .list [.text e.1, .int e.2]) fun e => e.1 ≠ [] where
  entries_injective := Draft.entries_injective
  exists_prefix := by
    rintro ⟨_, htokens, hids⟩ es rest rfl
    rw [List.map_append] at htokens hids
    exact ⟨⟨es, htokens.of_append_left, hids.of_append_left⟩, rfl⟩
  add_eq_ok := Draft.add_eq_ok

theorem Draft.seal_eq_ok {d : Draft} {v : Vocabulary} :
    d.seal = .ok v ↔ d.entries = v.entries.map fun e => (e.1, (e.2 : Int)) := by
  unfold Draft.seal
  constructor
  · intro h
    split at h
    next dense =>
      cases h
      rw [List.map_map]
      conv_lhs => rw [← List.map_id d.entries]
      apply List.map_congr_left
      intro e he
      have hnonneg := (dense e he).1
      exact Prod.ext rfl (Int.toNat_of_nonneg hnonneg).symm
    next => cases h
  · intro h
    have dense : ∀ e ∈ d.entries, 0 ≤ e.2 ∧ e.2 < d.entries.length := by
      rw [h]
      intro e he
      obtain ⟨entry, hentry, rfl⟩ := List.mem_map.mp he
      have := v.ids_lt entry hentry
      simp only [List.length_map]
      omega
    rw [dif_pos dense, Except.ok.injEq]
    apply ext_entries
    simp [h, Function.comp_def]

/-- A vocabulary is read from its listing, if no token is empty, and from nothing else. -/
theorem ofList_eq_ok {items : List Json} {v : Vocabulary} :
    ofList items = .ok v ↔ items = v.entries.map pair ∧ ∀ e ∈ v.entries, e.1 ≠ [] := by
  rw [ofList, Outcome.bind_eq_ok]
  simp only [Draft.collects.foldlM_eq_ok, Draft.seal_eq_ok]
  constructor
  · rintro ⟨d, ⟨es, rfl, hes, hentries⟩, hv⟩
    rw [hv] at hentries
    obtain rfl : _ = es := hentries
    refine ⟨by simp [pair], ?_⟩
    intro e he
    exact hes _ (List.mem_map_of_mem he)
  · rintro ⟨rfl, hne⟩
    refine ⟨⟨v.entries.map fun e => (e.1, (e.2 : Int)), ?_, ?_⟩, ⟨_, ?_, ?_, rfl⟩, rfl⟩
    · simpa [Function.comp_def] using v.tokens_nodup
    · have hnodup := v.ids_nodup.map fun _ _ => Int.ofNat_inj.mp
      simpa [Function.comp_def] using hnodup
    · simp [pair]
    · intro e he
      obtain ⟨entry, hentry, rfl⟩ := List.mem_map.mp he
      exact hne entry hentry

/-- Pairs in any order are read as a vocabulary, if their ids are the numbers below their count. -/
theorem exists_ofList {items : List Json} {es : List (Text × Nat)}
    (hitems : items.Perm (es.map pair)) (hne : ∀ e ∈ es, e.1 ≠ [])
    (htokens : (es.map Prod.fst).Nodup) (hids : (es.map Prod.snd).Perm (List.range es.length)) :
    ∃ v, ofList items = .ok v ∧ v.entries.Perm es := by
  obtain ⟨ds, hperm, rfl⟩ := exists_perm_of_perm_map hitems
  have hnodup : (ds.map Prod.snd).Nodup :=
    (hperm.map _).nodup_iff.mpr (hids.nodup_iff.mpr List.nodup_range)
  refine ⟨⟨ds, (hperm.map _).nodup_iff.mpr htokens, hnodup, ?_⟩, ?_, hperm⟩
  · intro e he
    have hmem : e.2 ∈ es.map Prod.snd := List.mem_map_of_mem (hperm.subset he)
    rw [hids.mem_iff, List.mem_range] at hmem
    rw [hperm.length_eq]
    exact hmem
  · exact ofList_eq_ok.mpr ⟨rfl, fun e he => hne e (hperm.subset he)⟩

end Vocabulary

namespace LabelTable

/-- An entry as it is listed. -/
def pair (e : Nat × Text) : Json := .list [.int e.1, .text e.2]

theorem ext_entries {table other : LabelTable} (h : table.entries = other.entries) :
    table = other := by
  cases table
  cases other
  cases h
  rfl

theorem Draft.entries_injective : Function.Injective Draft.entries := by
  rintro ⟨_, _, _⟩ ⟨_, _, _⟩ rfl
  rfl

theorem Draft.add_eq_ok {d d' : Draft} {index : Nat} {item : Json} :
    d.add index item = .ok d' ↔
      ∃ e, item = pair e ∧ ¬Text.isBlank e.2 ∧ d'.entries = d.entries ++ [e] := by
  constructor
  · intro h
    unfold Draft.add at h
    split at h
    next id second =>
      split at h
      next symbol =>
        split at h
        next => cases h
        next hvisible =>
          split at h
          next => cases h
          next =>
            split at h
            next => cases h
            next =>
              cases h
              exact ⟨(id, symbol), rfl, hvisible, rfl⟩
      next => cases h
    next => cases h
    next => cases h
  · rintro ⟨⟨id, symbol⟩, rfl, hvisible, hentries⟩
    obtain ⟨es, hids, hsymbols⟩ := d'
    obtain rfl : es = d.entries ++ [(id, symbol)] := hentries
    have hid : id ∉ d.entries.map Prod.fst := by
      rw [List.map_append, List.nodup_append] at hids
      exact fun hmem => hids.2.2 _ hmem _ List.mem_cons_self rfl
    have hsymbol : symbol ∉ d.entries.map Prod.snd := by
      rw [List.map_append, List.nodup_append] at hsymbols
      exact fun hmem => hsymbols.2.2 _ hmem _ List.mem_cons_self rfl
    rw [pair, Draft.add.eq_def]
    simp only [if_neg hvisible, dif_neg hid, dif_neg hsymbol]

theorem Draft.collects : Collects Draft.add Draft.entries pair fun e => ¬Text.isBlank e.2 where
  entries_injective := Draft.entries_injective
  exists_prefix := by
    rintro ⟨_, hids, hsymbols⟩ es rest rfl
    rw [List.map_append] at hids hsymbols
    exact ⟨⟨es, hids.of_append_left, hsymbols.of_append_left⟩, rfl⟩
  add_eq_ok := Draft.add_eq_ok

theorem Draft.seal_eq_ok {d : Draft} {table : LabelTable} :
    d.seal = .ok table ↔ d.entries = table.entries := by
  unfold Draft.seal
  constructor
  · intro h
    split at h
    next => cases h
    next =>
      split at h
      next =>
        cases h
        rfl
      next => cases h
  · intro h
    rw [dif_neg (h ▸ table.ne_nil), dif_pos (h ▸ table.ids_lt), Except.ok.injEq]
    exact ext_entries h

/-- A label table is read from its listing, if no symbol is blank, and from nothing else. -/
theorem ofList_eq_ok {items : List Json} {table : LabelTable} :
    ofList items = .ok table ↔
      items = table.entries.map pair ∧ ∀ e ∈ table.entries, ¬Text.isBlank e.2 := by
  rw [ofList, Outcome.bind_eq_ok]
  simp only [Draft.collects.foldlM_eq_ok, Draft.seal_eq_ok]
  constructor
  · rintro ⟨d, ⟨es, rfl, hes, hentries⟩, htable⟩
    rw [htable] at hentries
    obtain rfl : _ = es := hentries
    exact ⟨rfl, hes⟩
  · rintro ⟨rfl, hvisible⟩
    exact ⟨⟨table.entries, table.ids_nodup, table.symbols_nodup⟩, ⟨_, rfl, hvisible, rfl⟩, rfl⟩

/-- Pairs in any order are read as a label table, if there are any and their ids are the numbers
below their count. -/
theorem exists_ofList {items : List Json} {es : List (Nat × Text)}
    (hitems : items.Perm (es.map pair)) (hvisible : ∀ e ∈ es, ¬Text.isBlank e.2) (hes : es ≠ [])
    (hids : (es.map Prod.fst).Perm (List.range es.length)) (hsymbols : (es.map Prod.snd).Nodup) :
    ∃ table, ofList items = .ok table ∧ table.entries.Perm es := by
  obtain ⟨ds, hperm, rfl⟩ := exists_perm_of_perm_map hitems
  have hnodup : (ds.map Prod.fst).Nodup :=
    (hperm.map _).nodup_iff.mpr (hids.nodup_iff.mpr List.nodup_range)
  refine ⟨⟨ds, hnodup, (hperm.map _).nodup_iff.mpr hsymbols, ?_, ?_⟩, ?_, hperm⟩
  · intro e he
    have hmem : e.1 ∈ es.map Prod.fst := List.mem_map_of_mem (hperm.subset he)
    rw [hids.mem_iff, List.mem_range] at hmem
    rw [hperm.length_eq]
    exact hmem
  · rintro rfl
    exact hes hperm.nil_eq.symm
  · exact ofList_eq_ok.mpr ⟨rfl, fun e he => hvisible e (hperm.subset he)⟩

end LabelTable

end Polyglot
