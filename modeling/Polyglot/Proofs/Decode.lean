import Mathlib.Data.List.TakeDrop
import Mathlib.Data.List.TakeWhile
import Polyglot.Json.Decode
import Polyglot.Proofs.Outcome

/-! # Where reading JSON passes a limit

A reading goes through a text from its front. Whatever it reads, it leaves a shorter end of the
text, and it stops for a limit only where the text itself has as many digits in a row, or opens as
many lists and objects. Fuel that covers the text twice never runs out.
-/

namespace Polyglot.Json

/-- The code points that open a list or an object. -/
def isOpening (c : CodePoint) : Bool := c == CodePoint.openBracket || c == CodePoint.openBrace

/-- Holds of a text in which `n` digits stand in a row. -/
def HasDigits (n : Nat) (s : Text) : Prop :=
  ∃ run, run <:+: s ∧ run.length = n ∧ ∀ c ∈ run, CodePoint.isAsciiDigit c

/-- Holds of what a reading may come to at the front of a text when it may open `depth` lists and
objects. -/
inductive Sound {α : Type} (depth : Nat) (s : Text) : Except Stop (α × Text) → Prop where
  | ok {a : α} {rest : Text} (hrest : rest <:+ s) (hshort : rest.length < s.length) :
      Sound depth s (.ok (a, rest))
  | complaint {complaint : Complaint} {rest : Text} :
      Sound depth s (.error (.complaint complaint rest))
  | longInteger {digits : Nat} (hlong : digitLimit < digits) (hdigits : HasDigits digits s) :
      Sound depth s (.error (.longInteger digits))
  | tooDeep (hdeep : depth < s.countP isOpening) : Sound depth s (.error .tooDeep)

namespace Sound

variable {α β : Type} {depth : Nat} {s s' : Text} {r : Except Stop (α × Text)}

theorem of_suffix (h : Sound depth s' r) (hsuffix : s' <:+ s) : Sound depth s r := by
  cases h with
  | ok hrest hshort =>
      exact .ok (hrest.trans hsuffix) (Nat.lt_of_lt_of_le hshort hsuffix.length_le)
  | complaint => exact .complaint
  | longInteger hlong hdigits =>
      obtain ⟨run, hinfix, hlength, hrun⟩ := hdigits
      exact .longInteger hlong ⟨run, hinfix.trans hsuffix.isInfix, hlength, hrun⟩
  | tooDeep hdeep => exact .tooDeep (Nat.lt_of_lt_of_le hdeep hsuffix.sublist.countP_le)

theorem cons (h : Sound depth s r) (c : CodePoint) : Sound depth (c :: s) r :=
  h.of_suffix (List.suffix_cons c s)

theorem ok_cons {a : α} (hrest : s' <:+ s) (c : CodePoint) :
    Sound depth (c :: s) (.ok (a, s')) :=
  .ok (hrest.trans (List.suffix_cons c s)) (Nat.lt_succ_of_le hrest.length_le)

theorem map {g : α × Text → β × Text} (h : Sound depth s r) (hg : ∀ p, (g p).2 = p.2) :
    Sound depth s (r.map g) := by
  cases h with
  | @ok a rest hrest hshort =>
      have hsame := hg (a, rest)
      exact .ok (hsame ▸ hrest) (hsame ▸ hshort)
  | complaint => exact .complaint
  | longInteger hlong hdigits => exact .longInteger hlong hdigits
  | tooDeep hdeep => exact .tooDeep hdeep

theorem onText {r : Reading Text} (h : Sound depth s r) (f : Text → Text) :
    Sound depth s (r.onText f) :=
  h.map fun _ => rfl

theorem bind {f : α × Text → Except Stop (β × Text)} (h : Sound depth s r)
    (hf : ∀ a rest, rest <:+ s → rest.length < s.length → Sound depth s (f (a, rest))) :
    Sound depth s (r >>= f) := by
  cases h with
  | ok hrest hshort => exact hf _ _ hrest hshort
  | complaint => exact .complaint
  | longInteger hlong hdigits => exact .longInteger hlong hdigits
  | tooDeep hdeep => exact .tooDeep hdeep

/-- Behind a code point that opens a list or an object one of them less may be opened. -/
theorem enter {c : CodePoint} (hopening : isOpening c) (h : Sound depth s r) :
    Sound (depth + 1) (c :: s) r := by
  cases h with
  | tooDeep hdeep =>
      apply tooDeep
      rw [List.countP_cons_of_pos hopening]
      omega
  | ok hrest hshort => exact (ok hrest hshort).cons c
  | complaint => exact .complaint
  | longInteger hlong hdigits => exact (longInteger hlong hdigits).cons c

end Sound

theorem skipBlanks_suffix (s : Text) : skipBlanks s <:+ s := List.dropWhile_suffix _

theorem sound_readString (opening s : Text) (depth : Nat) :
    Sound depth s (readString opening s) := by
  fun_induction readString opening s with
  | case1 => exact .complaint
  | case2 rest => exact .ok_cons List.suffix_rfl _
  | case3 => exact .complaint
  | case4 c rest _ _ _ ih => exact (ih.onText _).cons c
  | case5 => exact .complaint
  | case6 _ _ _ _ _ _ _ _ _ _ _ _ ih =>
      -- An escape is six code points long.
      exact ((((((ih.onText _).cons _).cons _).cons _).cons _).cons _).cons _
  | case7 => exact .complaint
  | case8 => exact .complaint
  | case9 _ _ _ _ _ _ _ _ _ ih => exact ((ih.onText _).cons _).cons _
  | case10 => exact .complaint

theorem takeWhole_eq_some {s digits rest : Text} (h : takeWhole s = some (digits, rest)) :
    s = digits ++ rest ∧ digits ≠ [] ∧ ∀ c ∈ digits, CodePoint.isAsciiDigit c := by
  unfold takeWhole at h
  split at h
  next => cases h
  next c tail =>
    split at h
    next hzero =>
      cases h
      subst hzero
      exact ⟨rfl, by simp, by simp; rfl⟩
    next =>
      split at h
      next hdigit =>
        rw [List.span_eq_takeWhile_dropWhile] at h
        cases h
        refine ⟨(List.takeWhile_append_dropWhile ..).symm, ?_, fun d => List.mem_takeWhile_imp⟩
        simp [hdigit]
      next => cases h

theorem takeFraction_suffix (s : Text) : (takeFraction s).2 <:+ s := by
  unfold takeFraction
  split
  next c rest =>
    split
    next =>
      rw [List.span_eq_takeWhile_dropWhile]
      split
      next => exact List.suffix_rfl
      next digits after _ hspan =>
        cases hspan
        exact (List.dropWhile_suffix _).trans (List.suffix_cons c rest)
    next => exact List.suffix_rfl
  next => exact List.suffix_rfl

theorem takeSign_suffix (s : Text) : (takeSign s).2 <:+ s := by
  unfold takeSign
  split
  next => exact List.suffix_rfl
  next c rest => split_ifs <;> simp

theorem takeExponent_suffix (s : Text) : (takeExponent s).2 <:+ s := by
  unfold takeExponent
  split
  next c rest =>
    split
    next =>
      have hsign := takeSign_suffix rest
      split
      next negative unsigned heq =>
        rw [heq] at hsign
        rw [List.span_eq_takeWhile_dropWhile]
        split
        next => exact List.suffix_rfl
        next digits after _ hspan =>
          cases hspan
          exact ((List.dropWhile_suffix _).trans hsign).trans (List.suffix_cons c rest)
    next => exact List.suffix_rfl
  next => exact List.suffix_rfl

/-- A number at the front begins with its digits, after a sign. -/
theorem takeNumeral_eq_some {s rest : Text} {n : Numeral} (h : takeNumeral s = some (n, rest)) :
    rest <:+ s ∧ rest.length < s.length ∧ HasDigits n.whole.length s := by
  obtain ⟨unsigned, hunsigned, whole, after, hwhole, hn, hrest⟩ :
      ∃ unsigned, unsigned <:+ s ∧ ∃ whole after, takeWhole unsigned = some (whole, after) ∧
        n.whole = whole ∧ rest = (takeExponent (takeFraction after).2).2 := by
    unfold takeNumeral at h
    split at h
    next negative unsigned hsign =>
      obtain ⟨⟨whole, after⟩, hwhole, htail⟩ := Option.bind_eq_some_iff.mp h
      cases htail
      refine ⟨unsigned, ?_, whole, after, hwhole, rfl, rfl⟩
      split at hsign
      next c tail =>
        split at hsign
        next => cases hsign; exact List.suffix_cons _ _
        next => cases hsign; exact List.suffix_rfl
      next => cases hsign; exact List.suffix_rfl
  obtain ⟨rfl, hne, hdigits⟩ := takeWhole_eq_some hwhole
  have hsuffix : rest <:+ after :=
    hrest ▸ (takeExponent_suffix _).trans (takeFraction_suffix after)
  have hpositive := List.length_pos_iff.mpr hne
  have hlength := hunsigned.length_le
  rw [List.length_append] at hlength
  refine ⟨(hsuffix.trans (List.suffix_append whole after)).trans hunsigned, ?_, whole, ?_, ?_, ?_⟩
  · have := hsuffix.length_le
    omega
  · exact (List.infix_append [] whole after).trans hunsigned.isInfix
  · rw [hn]
  · exact hdigits

theorem takeWord_eq_some {s rest : Text} {v : Json} (h : takeWord s = some (v, rest)) :
    rest <:+ s ∧ rest.length < s.length := by
  obtain ⟨⟨word, w⟩, hword, htaken⟩ := List.exists_of_findSome?_eq_some h
  have hwords : ∀ entry ∈ words, entry.1 ≠ [] := by decide
  have hpositive : 0 < word.length := List.length_pos_iff.mpr (hwords _ hword)
  dsimp only at htaken
  split at htaken
  next hprefix =>
    cases htaken
    have hlength := (List.isPrefixOf_iff_prefix.mp hprefix).length_le
    refine ⟨List.drop_suffix _ s, ?_⟩
    rw [List.length_drop]
    omega
  next => cases htaken

theorem sound_readAtom (s : Text) (depth : Nat) : Sound depth s (readAtom s) := by
  unfold readAtom
  split
  next result hword =>
    obtain ⟨hrest, hshort⟩ := takeWord_eq_some hword
    exact .ok hrest hshort
  next =>
    split
    next => exact .complaint
    next n rest hnumeral =>
      obtain ⟨hrest, hshort, hdigits⟩ := takeNumeral_eq_some hnumeral
      unfold Numeral.value
      split
      next =>
        split
        next hlong => exact .longInteger hlong hdigits
        next => exact .ok hrest hshort
      next => exact .ok hrest hshort

section Steps

variable {fuel depth : Nat} {s : Text}

theorem sound_readValue_succ
    (hitems : ∀ depth s, 2 * s.length + 2 ≤ fuel → Sound depth s (readItems fuel depth s))
    (hmembers : ∀ depth s, 2 * s.length + 2 ≤ fuel → Sound depth s (readMembers fuel depth s))
    (hfuel : 2 * s.length ≤ fuel) : Sound depth s (readValue (fuel + 1) depth s) := by
  unfold readValue
  split
  next => exact .complaint
  next c rest =>
    have hinner := skipBlanks_suffix rest
    have hlength := hinner.length_le
    have hclosed := (List.tail_suffix _).trans hinner
    rw [List.length_cons] at hfuel
    split
    next => exact .map ((sound_readString (c :: rest) rest depth).cons c) fun _ => rfl
    next =>
      split
      next hbrace =>
        have hopening : isOpening c := by simp [isOpening, hbrace]
        cases depth with
        | zero => exact .tooDeep (List.countP_pos_iff.mpr ⟨c, List.mem_cons_self, hopening⟩)
        | succ depth =>
            dsimp only
            split
            next => exact .ok_cons hclosed c
            next =>
              have hread := (hmembers depth _ (by omega)).of_suffix hinner
              exact .map (hread.enter hopening) fun _ => rfl
      next =>
        split
        next hbracket =>
          have hopening : isOpening c := by simp [isOpening, hbracket]
          cases depth with
          | zero => exact .tooDeep (List.countP_pos_iff.mpr ⟨c, List.mem_cons_self, hopening⟩)
          | succ depth =>
              dsimp only
              split
              next => exact .ok_cons hclosed c
              next =>
                have hread := (hitems depth _ (by omega)).of_suffix hinner
                exact .map (hread.enter hopening) fun _ => rfl
        next => exact sound_readAtom (c :: rest) depth

theorem sound_readItems_succ
    (hvalue : ∀ depth s, 2 * s.length + 1 ≤ fuel → Sound depth s (readValue fuel depth s))
    (hitems : ∀ depth s, 2 * s.length + 2 ≤ fuel → Sound depth s (readItems fuel depth s))
    (hfuel : 2 * s.length + 1 ≤ fuel) : Sound depth s (readItems (fuel + 1) depth s) := by
  unfold readItems
  refine (hvalue depth s hfuel).bind fun item rest hrest hshort => ?_
  have hafter := (List.tail_suffix _).trans (skipBlanks_suffix rest)
  dsimp only
  split
  next => exact .ok (hafter.trans hrest) (Nat.lt_of_le_of_lt hafter.length_le hshort)
  next =>
    split
    next =>
      have hnext := (skipBlanks_suffix _).trans hafter
      have hlength := hnext.length_le
      have hread := (hitems depth _ (by omega)).of_suffix (hnext.trans hrest)
      exact hread.bind fun items rest hrest hshort => .ok hrest hshort
    next => exact .complaint

theorem sound_readMembers_succ
    (hvalue : ∀ depth s, 2 * s.length + 1 ≤ fuel → Sound depth s (readValue fuel depth s))
    (hmembers : ∀ depth s, 2 * s.length + 2 ≤ fuel → Sound depth s (readMembers fuel depth s))
    (hfuel : 2 * s.length + 1 ≤ fuel) : Sound depth s (readMembers (fuel + 1) depth s) := by
  unfold readMembers
  split
  next => exact .complaint
  next =>
    have hkey := (sound_readString s s.tail depth).of_suffix (List.tail_suffix s)
    refine hkey.bind fun key rest hrest hshort => ?_
    dsimp only
    split
    next => exact .complaint
    next =>
      have hcolon := (List.tail_suffix _).trans (skipBlanks_suffix rest)
      -- The key is behind, so that the fuel for its value is there.
      have hinner := ((skipBlanks_suffix _).trans hcolon).trans hrest
      have hlength := hinner.length_le
      refine ((hvalue depth _ (by omega)).of_suffix hinner).bind fun v rest hrest hshort => ?_
      have hafter := (List.tail_suffix _).trans (skipBlanks_suffix rest)
      dsimp only
      split
      next => exact .ok (hafter.trans hrest) (Nat.lt_of_le_of_lt hafter.length_le hshort)
      next =>
        split
        next =>
          have hnext := (skipBlanks_suffix _).trans hafter
          have hlength := hnext.length_le
          have hread := (hmembers depth _ (by omega)).of_suffix (hnext.trans hrest)
          exact hread.bind fun members rest hrest hshort => .ok hrest hshort
        next => exact .complaint

end Steps

/-- With enough fuel a value, the items of a list and the members of an object are read soundly. -/
theorem sound_read (fuel : Nat) :
    (∀ depth s, 2 * s.length + 1 ≤ fuel → Sound depth s (readValue fuel depth s)) ∧
      (∀ depth s, 2 * s.length + 2 ≤ fuel → Sound depth s (readItems fuel depth s)) ∧
      ∀ depth s, 2 * s.length + 2 ≤ fuel → Sound depth s (readMembers fuel depth s) := by
  -- Each reader calls the others with one unit less, so that the three go through one induction.
  induction fuel with
  | zero => exact ⟨fun _ _ h => by omega, fun _ _ h => by omega, fun _ _ h => by omega⟩
  | succ fuel ih =>
      obtain ⟨hvalue, hitems, hmembers⟩ := ih
      refine ⟨?_, ?_, ?_⟩
      · intro depth s hfuel
        exact sound_readValue_succ hitems hmembers (by omega)
      · intro depth s hfuel
        exact sound_readItems_succ hvalue hitems (by omega)
      · intro depth s hfuel
        exact sound_readMembers_succ hvalue hmembers (by omega)

/-- What stops the reading of a whole text stopped the reading of its value, or is a complaint. -/
theorem sound_of_read {depth : Nat} {s : Text} {stop : Stop} (h : read depth s = .error stop) :
    Sound (α := Json) depth s (.error stop) := by
  unfold read at h
  split at h
  next => cases h; exact .complaint
  next =>
    have hlength := (skipBlanks_suffix s).length_le
    have hsound := ((sound_read (2 * s.length + 2)).1 depth (skipBlanks s) (by omega)).of_suffix
      (skipBlanks_suffix s)
    revert h hsound
    cases readValue (2 * s.length + 2) depth (skipBlanks s) with
    | error found =>
        rintro h hsound
        cases h
        exact hsound
    | ok value =>
        rintro h -
        dsimp only [bind, Except.bind] at h
        split at h
        next => cases h
        next => cases h; exact .complaint

/-- An integer is refused for its length only where that many digits stand in a row. -/
theorem decode_eq_longInteger {depth digits : Nat} {t : Text}
    (h : decode depth t = .error (.longInteger digits)) :
    digitLimit < digits ∧ HasDigits digits t := by
  obtain ⟨stop, hread, hstop⟩ := Outcome.mapError_eq_error.mp h
  cases stop with
  | longInteger n =>
      cases hstop
      cases sound_of_read hread with
      | longInteger hlong hdigits => exact ⟨hlong, hdigits⟩
  | complaint => cases hstop
  | tooDeep => cases hstop

/-- A text is refused for its nesting only where it opens more lists and objects than allowed. -/
theorem decode_eq_tooDeep {depth : Nat} {t : Text} (h : decode depth t = .error .tooDeep) :
    depth < t.countP isOpening := by
  obtain ⟨stop, hread, hstop⟩ := Outcome.mapError_eq_error.mp h
  cases stop with
  | tooDeep =>
      cases sound_of_read hread with
      | tooDeep hdeep => exact hdeep
  | complaint => cases hstop
  | longInteger => cases hstop

end Polyglot.Json
