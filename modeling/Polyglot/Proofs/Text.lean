import Mathlib.Data.List.TakeWhile
import Polyglot.Text.Blank
import Polyglot.Text.Newline

/-! # Texts in files

A text without ends of line is its only line. Lines that were each ended are found again. Nothing
that is done to find the lines of a text brings in a code point, except for line feeds.
-/

namespace Polyglot

namespace Text

theorem strip_eq_self {t : Text} (hhead : ∀ c ∈ t.head?, CodePoint.isBlank c = false)
    (hlast : ∀ c ∈ t.getLast?, CodePoint.isBlank c = false) : strip t = t := by
  have hreverse : ∀ c ∈ t.reverse.head?, CodePoint.isBlank c = false := by
    rwa [List.head?_reverse]
  rw [strip, trim, dropWhile_eq_self _ hhead, dropWhile_eq_self _ hreverse, List.reverse_reverse]

theorem unifyNewlines_eq_self {t : Text} (hreturn : CodePoint.carriageReturn ∉ t) :
    unifyNewlines t = t := by
  unfold unifyNewlines
  induction t with
  | nil => rfl
  | cons c t ih =>
      rw [List.mem_cons, not_or] at hreturn
      obtain ⟨hc, ht⟩ := hreturn
      simp [unifyNewlinesFrom, Ne.symm hc, ih ht]

theorem lines_eq_singleton {t : Text} (hne : t ≠ []) (hfeed : CodePoint.lineFeed ∉ t) :
    lines t = [t] := by
  induction t with
  | nil => exact absurd rfl hne
  | cons c t ih =>
      rw [List.mem_cons, not_or] at hfeed
      obtain ⟨hc, ht⟩ := hfeed
      rw [lines, if_neg (Ne.symm hc)]
      cases t with
      | nil => rfl
      | cons d rest => rw [ih (List.cons_ne_nil d rest) ht]

theorem lines_append_feed {line : Text} (hfeed : CodePoint.lineFeed ∉ line) (t : Text) :
    lines (line ++ CodePoint.lineFeed :: t) = line :: lines t := by
  induction line with
  | nil => rw [List.nil_append, lines, if_pos rfl]
  | cons c line ih =>
      rw [List.mem_cons, not_or] at hfeed
      rw [List.cons_append, lines, if_neg (Ne.symm hfeed.1), ih hfeed.2]

/-- Lines that were each ended are found again. -/
theorem lines_flatMap_feed {written : List Text}
    (hfeed : ∀ line ∈ written, CodePoint.lineFeed ∉ line) :
    lines (written.flatMap fun line => line ++ [CodePoint.lineFeed]) = written := by
  induction written with
  | nil => rfl
  | cons line written ih =>
      rw [List.flatMap_cons, List.append_assoc, List.singleton_append,
        lines_append_feed (hfeed line List.mem_cons_self),
        ih fun l hl => hfeed l (List.mem_cons_of_mem line hl)]

/-- No code point of a line is new. -/
theorem mem_of_mem_lines {t line : Text} (hline : line ∈ lines t) {c : CodePoint} (hc : c ∈ line) :
    c ∈ t := by
  induction t generalizing line with
  | nil => cases hline
  | cons d t ih =>
      rw [lines] at hline
      split at hline
      next =>
        rcases List.mem_cons.mp hline with rfl | hline
        · cases hc
        · exact List.mem_cons_of_mem d (ih hline hc)
      next =>
        split at hline
        next =>
          rw [List.mem_singleton.mp hline, List.mem_singleton] at hc
          exact hc ▸ List.mem_cons_self
        next first others hlines =>
          rw [hlines] at ih
          rcases List.mem_cons.mp hline with rfl | hline
          · rcases List.mem_cons.mp hc with rfl | hc
            · exact List.mem_cons_self
            · exact List.mem_cons_of_mem d (ih List.mem_cons_self hc)
          · exact List.mem_cons_of_mem d (ih (List.mem_cons_of_mem first hline) hc)

/-- Unifying the ends of line brings in nothing but line feeds. -/
theorem mem_of_mem_unifyNewlines {t : Text} {c : CodePoint} (hc : c ∈ unifyNewlines t) :
    c = CodePoint.lineFeed ∨ c ∈ t := by
  suffices h : ∀ afterReturn, c ∈ unifyNewlinesFrom afterReturn t →
      c = CodePoint.lineFeed ∨ c ∈ t from h false hc
  clear hc
  induction t with
  | nil => exact fun _ h => absurd h List.not_mem_nil
  | cons d t ih =>
      intro afterReturn h
      rw [unifyNewlinesFrom] at h
      split at h
      next =>
        rcases List.mem_cons.mp h with rfl | h
        · exact .inl rfl
        · exact (ih true h).imp_right (List.mem_cons_of_mem d)
      next =>
        split at h
        next => exact (ih false h).imp_right (List.mem_cons_of_mem d)
        next =>
          rcases List.mem_cons.mp h with rfl | h
          · exact .inr List.mem_cons_self
          · exact (ih false h).imp_right (List.mem_cons_of_mem d)

theorem mem_of_mem_strip {t : Text} {c : CodePoint} (hc : c ∈ strip t) : c ∈ t := by
  rw [strip, trim, List.mem_reverse] at hc
  have hfront := (List.dropWhile_suffix _).subset hc
  exact (List.dropWhile_suffix _).subset (List.mem_reverse.mp hfront)

theorem strip_eq_nil_iff {t : Text} : strip t = [] ↔ isBlank t := by
  rw [strip, trim, List.reverse_eq_nil_iff, List.dropWhile_eq_nil_iff, isBlank, List.all_eq_true]
  constructor
  · intro h c hc
    by_cases hfront : c ∈ t.dropWhile CodePoint.isBlank
    · exact h c (List.mem_reverse.mpr hfront)
    · -- What was cut at the front is blank as well.
      have hsplit := List.takeWhile_append_dropWhile (p := CodePoint.isBlank) (l := t)
      rw [← hsplit, List.mem_append] at hc
      exact List.mem_takeWhile_imp (hc.resolve_right hfront)
  · intro h c hc
    exact h c ((List.dropWhile_suffix _).subset (List.mem_reverse.mp hc))

end Text

end Polyglot
