import Polyglot.Proofs.Listing

/-! # Refused listings

A list that is no table is refused for the first of its items that is at fault. Whether an item is
at fault, and for what, depends on the items before it: what is new in one place is a repetition in
another. The reader keeps the entries it has collected; here a flaw is told from the items alone.
-/

namespace Polyglot

section Flaws

variable {φ : Type} (Flawed : List Json → Json → φ → Prop)

/-- Holds of a list in which no item is at fault after those before it. -/
def IsFlawless (items : List Json) : Prop :=
  ∀ before item after, items = before ++ item :: after → ∀ flaw, ¬Flawed before item flaw

/-- Relates a list to the flaw of the first of its items that is at fault. -/
def FirstFlaw (items : List Json) (flaw : φ) : Prop :=
  ∃ before item after, items = before ++ item :: after ∧ IsFlawless Flawed before ∧
    Flawed before item flaw

end Flaws

namespace Collects

variable {δ β φ : Type} {add : δ → Nat → Json → Except φ δ} {entries : δ → List β}
  {form : β → Json} {Admits : β → Prop} {Flawed : List Json → Json → φ → Prop}
  (h : Collects add entries form Admits)
  (hflawed : ∀ {d item flaw}, add d (entries d).length item = .error flaw ↔
    Flawed ((entries d).map form) item flaw)
  {empty : δ} (hempty : entries empty = []) {items : List Json}

include h hempty

/-- The entries that are collected are those that the items are the forms of. -/
theorem map_form_of_foldlM {d : δ}
    (hread : items.zipIdx.foldlM (fun d (item, index) => add d index item) empty = .ok d) :
    (entries d).map form = items := by
  obtain ⟨es, rfl, -, hentries⟩ := h.foldlM_eq_ok.mp hread
  rw [hentries, hempty, List.nil_append]

include hflawed

theorem add_eq_error_of_foldlM {d : δ} {before : List Json} {item : Json} {flaw : φ}
    (hbefore : before.zipIdx.foldlM (fun d (item, index) => add d index item) empty = .ok d) :
    add d (0 + before.length) item = .error flaw ↔ Flawed before item flaw := by
  have hform := h.map_form_of_foldlM hempty hbefore
  have hlength : 0 + before.length = (entries d).length := by simp [← hform]
  rw [hlength, hflawed, hform]

theorem exists_foldlM_eq_ok :
    (∃ d, items.zipIdx.foldlM (fun d (item, index) => add d index item) empty = .ok d) ↔
      IsFlawless Flawed items := by
  constructor
  · rintro ⟨d, hread⟩ before item after rfl flaw hitem
    -- What stands before the item has been read, so that reading would have ended at the item.
    have hparts := hread
    rw [List.zipIdx_append, List.foldlM_append, Outcome.bind_eq_ok] at hparts
    obtain ⟨d₁, hbefore, -⟩ := hparts
    have hrefused := (h.add_eq_error_of_foldlM hflawed hempty hbefore).mpr hitem
    have herror := Outcome.foldlM_zipIdx_eq_error.mpr
      ⟨before, item, after, d₁, rfl, hbefore, hrefused⟩
    cases hread.symm.trans herror
  · intro hflawless
    cases hread : items.zipIdx.foldlM (fun d (item, index) => add d index item) empty with
    | ok d => exact ⟨d, rfl⟩
    | error flaw =>
        obtain ⟨before, item, after, d, hsplit, hbefore, hitem⟩ :=
          Outcome.foldlM_zipIdx_eq_error.mp hread
        have hflaw := (h.add_eq_error_of_foldlM hflawed hempty hbefore).mp hitem
        exact absurd hflaw (hflawless before item after hsplit flaw)

theorem foldlM_eq_error {flaw : φ} :
    items.zipIdx.foldlM (fun d (item, index) => add d index item) empty = .error flaw ↔
      FirstFlaw Flawed items flaw := by
  rw [Outcome.foldlM_zipIdx_eq_error]
  constructor
  · rintro ⟨before, item, after, d, hsplit, hbefore, hitem⟩
    exact ⟨before, item, after, hsplit, (h.exists_foldlM_eq_ok hflawed hempty).mp ⟨d, hbefore⟩,
      (h.add_eq_error_of_foldlM hflawed hempty hbefore).mp hitem⟩
  · rintro ⟨before, item, after, hsplit, hbefore, hitem⟩
    obtain ⟨d, hread⟩ := (h.exists_foldlM_eq_ok hflawed hempty).mpr hbefore
    exact ⟨before, item, after, d, hsplit, hread,
      (h.add_eq_error_of_foldlM hflawed hempty hread).mpr hitem⟩

end Collects

end Polyglot
