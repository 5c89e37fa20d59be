import Polyglot.Text.Basic

/-! # Blanks

Two sets of blanks are in use. Tokens, lines and symbols are separated by every Unicode white space
and by the four information separators; a number written as text may be surrounded by white space
alone. No other code point is a blank: the byte order mark and the zero width space are not.
-/

namespace Polyglot

namespace CodePoint

/-- One of the four information separators. -/
def isInformationSeparator (c : CodePoint) : Bool := 0x1C ≤ c.val && c.val ≤ 0x1F

/-- The Unicode property `White_Space`. -/
def isWhiteSpace (c : CodePoint) : Bool :=
  (0x09 ≤ c.val && c.val ≤ 0x0D) || c.val == 0x20 || c.val == 0x85 || c.val == 0xA0 ||
  c.val == 0x1680 || (0x2000 ≤ c.val && c.val ≤ 0x200A) || c.val == 0x2028 || c.val == 0x2029 ||
  c.val == 0x202F || c.val == 0x205F || c.val == 0x3000

/-- A white space or an information separator. -/
def isBlank (c : CodePoint) : Bool := isWhiteSpace c || isInformationSeparator c

end CodePoint

namespace Text

/-- Removes the blanks at both ends. -/
def strip (t : Text) : Text := trim CodePoint.isBlank t

theorem dropWhile_eq_self (blank : CodePoint → Bool) {t : Text}
    (h : ∀ c ∈ t.head?, blank c = false) : t.dropWhile blank = t := by
  cases t with
  | nil => rfl
  | cons c rest => simp [h c (by simp)]

theorem head?_dropWhile (blank : CodePoint → Bool) (t : Text) :
    ∀ c ∈ (t.dropWhile blank).head?, blank c = false := by
  intro c hc
  have h := List.head?_dropWhile_not blank t
  rw [Option.mem_def.1 hc] at h
  exact h

theorem head?_trim (blank : CodePoint → Bool) (t : Text) :
    ∀ c ∈ (trim blank t).head?, blank c = false := by
  intro c hc
  have isSuffix := List.dropWhile_suffix (l := (t.dropWhile blank).reverse) blank
  obtain ⟨removed, whole⟩ := isSuffix
  refine head?_dropWhile blank t c ?_
  have whole := congrArg List.reverse whole
  simp only [List.reverse_append, List.reverse_reverse] at whole
  rw [← whole]
  unfold trim at hc
  cases shape : ((t.dropWhile blank).reverse.dropWhile blank).reverse with
  | nil => simp [shape] at hc
  | cons d rest => simpa [shape] using hc

/-- Removing blanks a second time changes nothing. -/
theorem trim_trim (blank : CodePoint → Bool) (t : Text) :
    trim blank (trim blank t) = trim blank t := by
  have front := dropWhile_eq_self blank (head?_trim blank t)
  rw [trim, front]
  have back := dropWhile_eq_self blank (head?_dropWhile blank (t.dropWhile blank).reverse)
  simp only [trim, List.reverse_reverse, back]

/-- Removing blanks a second time changes nothing. -/
theorem strip_strip (t : Text) : strip (strip t) = strip t := trim_trim CodePoint.isBlank t

/-- Holds of a text without anything but blanks, the empty text included. -/
def isBlank (t : Text) : Bool := t.all CodePoint.isBlank

/-- The runs of a text without blanks. -/
def words (t : Text) : List Text :=
  (t.splitBy fun a b => a.isBlank = b.isBlank).filter fun run => !isBlank run

end Text

end Polyglot
