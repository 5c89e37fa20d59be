import Polyglot.Json.Encode
import Polyglot.Proofs.Decode
import Polyglot.Proofs.Numeral

/-! # Written texts are read back

The writer escapes a surrogate by itself, and the reader joins a high one and a low one that is
escaped behind it. A text is therefore read back as it was written unless two such surrogates stand
side by side in it.
-/

namespace Polyglot

namespace CodePoint

theorem val_ofNat {n : ℕ} (h : n < 0x110000) : (ofNat n).val = n := by
  rw [ofNat, dif_pos h]

theorem ofNat_val (c : CodePoint) : ofNat c.val = c := dif_pos c.isLt

theorem isHighSurrogate_iff {c : CodePoint} :
    c.isHighSurrogate ↔ 0xD800 ≤ c.val ∧ c.val < 0xDC00 := by
  rw [isHighSurrogate, Bool.and_eq_true, decide_eq_true_eq, decide_eq_true_eq]

theorem isLowSurrogate_iff {c : CodePoint} :
    c.isLowSurrogate ↔ 0xDC00 ≤ c.val ∧ c.val < 0xE000 := by
  rw [isLowSurrogate, Bool.and_eq_true, decide_eq_true_eq, decide_eq_true_eq]

theorem isSurrogate_eq_false_iff {c : CodePoint} :
    c.isSurrogate = false ↔ c.val < 0xD800 ∨ 0xE000 ≤ c.val := by
  rw [← Bool.not_eq_true, isSurrogate, Bool.and_eq_true, decide_eq_true_eq, decide_eq_true_eq]
  omega

theorem isHighSurrogate_eq_false {c : CodePoint} (h : c.val < 0xD800 ∨ 0xDC00 ≤ c.val) :
    c.isHighSurrogate = false := by
  rw [← Bool.not_eq_true, isHighSurrogate_iff]
  omega

theorem isHighSurrogate_of_isLowSurrogate {c : CodePoint} (h : c.isLowSurrogate) :
    c.isHighSurrogate = false :=
  isHighSurrogate_eq_false (.inr (isLowSurrogate_iff.mp h).1)

/-- A pair of surrogates names a code point beyond the sixteen-bit range. -/
theorem val_ofPair {high low : CodePoint} (hhigh : high.isHighSurrogate)
    (hlow : low.isLowSurrogate) :
    (ofPair high low).val = 0x10000 + (high.val - 0xD800) * 0x400 + (low.val - 0xDC00) := by
  rw [isHighSurrogate_iff] at hhigh
  rw [isLowSurrogate_iff] at hlow
  rw [ofPair, ofNat, dif_pos (by omega)]

theorem ofPair_isWide {high low : CodePoint} (hhigh : high.isHighSurrogate)
    (hlow : low.isLowSurrogate) : 0x10000 ≤ (ofPair high low).val := by
  rw [val_ofPair hhigh hlow]
  omega

/-- Each code point beyond the sixteen-bit range is named by a pair of surrogates. -/
theorem ofPair_ofNat {c : CodePoint} (hwide : 0x10000 ≤ c.val) {high low : ℕ}
    (hhigh : high = 0xD800 + (c.val - 0x10000) / 0x400)
    (hlow : low = 0xDC00 + (c.val - 0x10000) % 0x400) :
    (ofNat high).isHighSurrogate ∧ (ofNat low).isLowSurrogate ∧
      ofPair (ofNat high) (ofNat low) = c := by
  have hlt := c.isLt
  have hhighval : (ofNat high).val = high := val_ofNat (by omega)
  have hlowval : (ofNat low).val = low := val_ofNat (by omega)
  have hishigh : (ofNat high).isHighSurrogate := by
    rw [isHighSurrogate_iff, hhighval]
    omega
  have hislow : (ofNat low).isLowSurrogate := by
    rw [isLowSurrogate_iff, hlowval]
    omega
  refine ⟨hishigh, hislow, Fin.ext ?_⟩
  rw [val_ofPair hishigh hislow, hhighval, hlowval]
  omega

end CodePoint

namespace Json

/-- A text as it is read back after it was written: a high surrogate and a low one behind it have
become one code point. -/
def rejoin (t : Text) : Text := t.foldr (fun c u => joinEscaped c true u) []

@[simp] theorem rejoin_cons (c : CodePoint) (t : Text) :
    rejoin (c :: t) = joinEscaped c true (rejoin t) := rfl

theorem joinEscaped_of_not {c : CodePoint} {next : Bool} {t : Text}
    (h : ∀ d ∈ t.head?, ¬(next ∧ c.isHighSurrogate ∧ d.isLowSurrogate)) :
    joinEscaped c next t = c :: t := by
  cases t with
  | nil => rfl
  | cons d t => exact if_neg (h d rfl)

theorem joinEscaped_of_low {c : CodePoint} {next : Bool} (hc : c.isHighSurrogate = false)
    (t : Text) :
    joinEscaped c next t = c :: t :=
  joinEscaped_of_not fun _ _ h => by simp [hc] at h

/-- A low surrogate is joined only where it was escaped. -/
theorem joinEscaped_eq {c : CodePoint} {next : Bool} {t : Text}
    (h : ∀ d ∈ t.head?, d.isLowSurrogate → next) : joinEscaped c next t = joinEscaped c true t := by
  cases t with
  | nil => rfl
  | cons d t =>
      rw [joinEscaped, joinEscaped]
      by_cases hlow : d.isLowSurrogate
      · rw [h d rfl hlow]
      · rw [if_neg (by simp [hlow]), if_neg (by simp [hlow])]

/-- Joining makes no surrogate: one at the front of what was read back was written there. -/
theorem head?_of_rejoin {t : Text} {d : CodePoint} (hd : d ∈ (rejoin t).head?)
    (hlow : d.isLowSurrogate) : d ∈ t.head? := by
  cases t with
  | nil => exact hd
  | cons c t =>
      rw [rejoin_cons] at hd
      cases hrest : rejoin t with
      | nil =>
          rw [hrest] at hd
          exact hd
      | cons e u =>
          rw [hrest, joinEscaped] at hd
          split at hd
          next hpair =>
            rw [List.head?_cons, Option.mem_some_iff] at hd
            have hwide := CodePoint.ofPair_isWide hpair.2.1 hpair.2.2
            rw [← hd, CodePoint.isLowSurrogate_iff] at hlow
            omega
          next => exact hd

/-- Joining once is enough. -/
theorem rejoin_joinEscaped (c : CodePoint) {t : Text} (ht : rejoin t = t) :
    rejoin (joinEscaped c true t) = joinEscaped c true t := by
  cases t with
  | nil => rfl
  | cons d t =>
      rw [joinEscaped]
      split
      next hpair =>
        have hwide := CodePoint.ofPair_isWide hpair.2.1 hpair.2.2
        have hd := CodePoint.isHighSurrogate_of_isLowSurrogate hpair.2.2
        have hjoined := CodePoint.isHighSurrogate_eq_false (.inr (le_trans (by decide) hwide))
        rw [rejoin_cons, joinEscaped_of_low hd] at ht
        rw [rejoin_cons, joinEscaped_of_low hjoined, (List.cons.inj ht).2]
      next hsingle => rw [rejoin_cons, ht, joinEscaped, if_neg hsingle]

/-- Four hexadecimal digits are read as the code point they name. -/
theorem hexPoint?_ofDigit {a b c d : ℕ} (h : a < 16 ∧ b < 16 ∧ c < 16 ∧ d < 16) :
    hexPoint? (.ofDigit a) (.ofDigit b) (.ofDigit c) (.ofDigit d) =
      some (CodePoint.ofNat (ofDigits 16 [a, b, c, d])) := by
  obtain ⟨ha, hb, hc, hd⟩ := h
  have hvalues := CodePoint.hexValue?_ofDigit
  simp only [hexPoint?, List.mapM_cons, List.mapM_nil, hvalues a ha, hvalues b hb, hvalues c hc,
    hvalues d hd]
  rfl

theorem hexEscape_eq {n : ℕ} (hn : n < 0x10000) : ∃ a b c d : CodePoint,
    hexEscape n = [CodePoint.backslash, CodePoint.ofChar 'u', a, b, c, d] ∧
      hexPoint? a b c d = some (CodePoint.ofNat n) := by
  obtain ⟨a, b, c, d, htext, hless, hvalue⟩ := Text.exists_hex hn
  refine ⟨.ofDigit a, .ofDigit b, .ofDigit c, .ofDigit d, ?_, ?_⟩
  · rw [hexEscape, htext]
    rfl
  · rw [hexPoint?_ofDigit hless, hvalue]

section Reading

variable {opening tail rest : Text}

theorem readString_plain {c : CodePoint} (hquote : c ≠ CodePoint.quotationMark)
    (hslash : c ≠ CodePoint.backslash) (hcontrol : ¬c.val < 0x20) :
    readString opening (c :: tail) = (readString opening tail).onText (c :: ·) := by
  rw [readString.eq_def]
  dsimp only
  rw [if_neg hquote, if_neg hcontrol, if_pos hslash]

theorem readString_letter {d e : CodePoint} (hd : d ≠ 'u') (he : escape? d = some e) :
    readString opening (CodePoint.backslash :: d :: tail) =
      (readString opening tail).onText (e :: ·) := by
  rw [readString.eq_def]
  dsimp only
  rw [if_neg (by decide), if_neg (by decide), if_neg (by decide), if_neg hd, he]

theorem readString_hexEscape {n : ℕ} (hn : n < 0x10000) (htail : tail ≠ []) :
    readString opening (hexEscape n ++ tail) =
      (readString opening tail).onText
        (joinEscaped (CodePoint.ofNat n) (startsHexEscape tail)) := by
  obtain ⟨a, b, c, d, htext, hpoint⟩ := hexEscape_eq hn
  obtain ⟨e, rest, rfl⟩ := List.exists_cons_of_ne_nil htail
  rw [htext, readString.eq_def]
  dsimp only [List.cons_append, List.nil_append]
  rw [if_neg (by decide), if_neg (by decide), if_neg (by decide), if_pos rfl, hpoint]

theorem startsHexEscape_hexEscape {n : ℕ} (hn : n < 0x10000) (t : Text) :
    startsHexEscape (hexEscape n ++ t) := by
  obtain ⟨a, b, c, d, htext, -⟩ := hexEscape_eq hn
  rw [htext]
  rfl

/-- The escapes of a pair of surrogates are read as the code point that the pair names. -/
theorem readString_wide {c : CodePoint} (hwide : 0x10000 ≤ c.val) {high low : ℕ}
    (hhigh : high = 0xD800 + (c.val - 0x10000) / 0x400)
    (hlow : low = 0xDC00 + (c.val - 0x10000) % 0x400) {t : Text} (htail : tail ≠ [])
    (hread : readString opening tail = .ok (t, rest)) :
    readString opening (hexEscape high ++ hexEscape low ++ tail) = .ok (c :: t, rest) := by
  have hlt := c.isLt
  obtain ⟨hishigh, hislow, hpair⟩ := CodePoint.ofPair_ofNat hwide hhigh hlow
  have hlowread : readString opening (hexEscape low ++ tail) =
      .ok (CodePoint.ofNat low :: t, rest) := by
    rw [readString_hexEscape (by omega) htail, hread,
      ← joinEscaped_of_low (CodePoint.isHighSurrogate_of_isLowSurrogate hislow) t]
    rfl
  have hne : hexEscape low ++ tail ≠ [] := by
    simp [htail]
  rw [List.append_assoc, readString_hexEscape (by omega) hne, hlowread,
    startsHexEscape_hexEscape (by omega)]
  have hjoin : joinEscaped (CodePoint.ofNat high) true (CodePoint.ofNat low :: t) = c :: t := by
    rw [joinEscaped, if_pos ⟨rfl, hishigh, hislow⟩, hpair]
  rw [← hjoin]
  rfl

/-- One code point in front of a text, as it is read back. -/
theorem readString_escape (c : CodePoint) {t : Text} (htail : tail ≠ [])
    (hnext : ∀ d ∈ t.head?, d.isLowSurrogate → startsHexEscape tail)
    (hread : readString opening tail = .ok (t, rest)) :
    readString opening (escape Style.ascii.isPlain c ++ tail) =
      .ok (joinEscaped c true t, rest) := by
  have hletter {d : CodePoint} (hd : d ≠ 'u') (he : escape? d = some c)
      (hc : c.isHighSurrogate = false) :
      readString opening ([CodePoint.backslash, d] ++ tail) =
        .ok (joinEscaped c true t, rest) := by
    rw [joinEscaped_of_low hc, List.cons_append, List.cons_append, List.nil_append,
      readString_letter hd he, hread]
    rfl
  unfold escape
  split_ifs with hself hfeed hreturn htab hback hform hplain hnarrow
  · rcases hself with rfl | rfl
    · exact hletter (by decide) rfl (by decide)
    · exact hletter (by decide) rfl (by decide)
  · subst hfeed
    exact hletter (by decide) rfl (by decide)
  · subst hreturn
    exact hletter (by decide) rfl (by decide)
  · subst htab
    exact hletter (by decide) rfl (by decide)
  · subst hback
    exact hletter (by decide) rfl (by decide)
  · subst hform
    exact hletter (by decide) rfl (by decide)
  · obtain ⟨hquote, hslash⟩ := not_or.mp hself
    have hrange : 0x20 ≤ c.val ∧ c.val < 0x7F := by simpa [Style.ascii] using hplain
    have hhigh := CodePoint.isHighSurrogate_eq_false (c := c) (.inl (by omega))
    rw [joinEscaped_of_low hhigh, List.cons_append, List.nil_append,
      readString_plain hquote hslash (by omega), hread]
    rfl
  · -- Only here can the code point be a surrogate, which what follows may complete.
    rw [readString_hexEscape hnarrow htail, hread, CodePoint.ofNat_val, ← joinEscaped_eq hnext]
    rfl
  · have hhigh := CodePoint.isHighSurrogate_eq_false (c := c) (.inr (by omega))
    rw [joinEscaped_of_low hhigh]
    exact readString_wide (not_lt.mp hnarrow) rfl rfl htail hread

/-- A low surrogate is written as an escape. -/
theorem startsHexEscape_of_low {d : CodePoint} (hlow : d.isLowSurrogate) (t : Text) :
    startsHexEscape (escape Style.ascii.isPlain d ++ t) := by
  have hrange := CodePoint.isLowSurrogate_iff.mp hlow
  have hescape : escape Style.ascii.isPlain d = hexEscape d.val := by
    unfold escape
    split_ifs with hself hfeed hreturn htab hback hform hplain hnarrow
    · rcases hself with rfl | rfl <;> exact absurd hlow (by decide)
    · subst hfeed
      exact absurd hlow (by decide)
    · subst hreturn
      exact absurd hlow (by decide)
    · subst htab
      exact absurd hlow (by decide)
    · subst hback
      exact absurd hlow (by decide)
    · subst hform
      exact absurd hlow (by decide)
    · have hless : 0x20 ≤ d.val ∧ d.val < 0x7F := by simpa [Style.ascii] using hplain
      omega
    · rfl
    · omega
  rw [hescape]
  exact startsHexEscape_hexEscape (by omega) t

/-- A text is read back as it was written, except that pairs of surrogates have been joined. -/
theorem readString_written (opening t rest : Text) :
    readString opening (t.flatMap (escape Style.ascii.isPlain) ++ CodePoint.quotationMark :: rest) =
      .ok (rejoin t, rest) := by
  induction t with
  | nil =>
      rw [List.flatMap_nil, List.nil_append, readString.eq_def]
      exact if_pos rfl
  | cons c t ih =>
      rw [List.flatMap_cons, List.append_assoc, rejoin_cons]
      refine readString_escape c (by simp) ?_ ih
      intro d hd hlow
      cases t with
      | nil => cases hd
      | cons e t =>
          have he := head?_of_rejoin hd hlow
          rw [List.head?_cons, Option.mem_some_iff] at he
          rw [List.flatMap_cons, List.append_assoc, he]
          exact startsHexEscape_of_low hlow _

end Reading

end Json

end Polyglot
