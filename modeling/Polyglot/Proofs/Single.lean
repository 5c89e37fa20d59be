import Polyglot.Proofs.Text
import Polyglot.Proofs.Token

/-! # Singles are the longest runs of a kind

A text is a sequence of runs: a run goes on as long as the kind of its code points stays the same.
The runs that are not blank are the singles, and a search from the left, which takes as much as it
can wherever a word sign or a symbol stands, finds the same ones. Two runs that meet are equal, so
the singles are all the runs that cannot be extended, and each code point that is not blank stands
in one of them.
-/

namespace Polyglot

namespace CodePoint

/-- What is neither a word sign, nor a white space, nor an information separator. -/
def isSymbol (c : CodePoint) : Bool := !(isWord c || isWhiteSpace c || isInformationSeparator c)

theorem isBlank_of_isWord {c : CodePoint} (hword : isWord c) : isBlank c = false := by
  simp only [isWord, isAsciiDigit, isAsciiLower, isAsciiUpper, Bool.or_eq_true, Bool.and_eq_true,
    decide_eq_true_eq, beq_iff_eq] at hword
  simp only [isBlank, isWhiteSpace, isInformationSeparator, Bool.or_eq_false_iff,
    Bool.and_eq_false_iff, decide_eq_false_iff_not, beq_eq_false_iff_ne]
  omega

theorem kind_eq_blank_iff {c : CodePoint} : kind c = .blank ↔ isBlank c := by
  unfold kind
  split_ifs with hblank <;> simp [hblank]

theorem kind_eq_word_iff {c : CodePoint} : kind c = .word ↔ isWord c := by
  unfold kind
  split_ifs with hblank hword
  · have hword : ¬isWord c := fun h => by simp [isBlank_of_isWord h] at hblank
    simp [hword]
  · simp [hword]
  · simp [hword]

theorem kind_eq_symbol_iff {c : CodePoint} : kind c = .symbol ↔ isSymbol c := by
  have hsymbol : isSymbol c = !(isWord c || isBlank c) := by
    rw [isSymbol, isBlank, Bool.or_assoc]
  rw [hsymbol]
  unfold kind
  split_ifs with hblank hword
  · simp [hblank]
  · simp [hword]
  · simp [hword, hblank]

end CodePoint

namespace Token

open CodePoint (kind)

variable {c : CodePoint} {t : Text}

/-- Holds of the code points that go on with a run. -/
def isLike (c d : CodePoint) : Bool := kind d = kind c

@[simp] theorem isLike_iff {d : CodePoint} : isLike c d ↔ kind d = kind c := decide_eq_true_iff

theorem kind_of_mem_run {d : CodePoint} (hd : d ∈ c :: t.takeWhile (isLike c)) :
    kind d = kind c := by
  rcases List.mem_cons.mp hd with rfl | hd
  · rfl
  · exact isLike_iff.mp (List.mem_takeWhile_imp hd)

/-- What follows a run is of another kind. -/
theorem kind_ne_of_mem_head? {d : CodePoint} (hd : d ∈ (t.dropWhile (isLike c)).head?) :
    kind d ≠ kind c := by
  have hnext := Text.head?_dropWhile (isLike c) t d hd
  exact fun h => by simp [isLike_iff.mpr h] at hnext

theorem run_append (c : CodePoint) (t : Text) :
    c :: t = (c :: t.takeWhile (isLike c)) ++ t.dropWhile (isLike c) := by
  rw [List.cons_append, List.takeWhile_append_dropWhile]

/-- The first block of a text is the run of its first code point. -/
theorem blocks_cons (c : CodePoint) (t : Text) :
    blocks (c :: t) = (c :: t.takeWhile (isLike c)) :: blocks (t.dropWhile (isLike c)) := by
  conv_lhs => rw [run_append c t]
  rw [blocks, List.splitBy_append, List.splitBy_of_isChain (List.cons_ne_nil _ _), ← blocks,
    List.singleton_append]
  · refine List.Pairwise.isChain (List.pairwise_of_forall_mem_list fun a ha b hb => ?_)
    exact decide_eq_true ((kind_of_mem_run ha).trans (kind_of_mem_run hb).symm)
  · intro a ha b hb
    have hkind := kind_of_mem_run (List.mem_of_mem_getLast? ha)
    exact decide_eq_false fun h => kind_ne_of_mem_head? hb (h.symm.trans hkind)

/-- Induction on the runs of a text. -/
theorem run_induction {motive : Text → Prop} (nil : motive [])
    (cons : ∀ c t, motive (t.dropWhile (isLike c)) → motive (c :: t)) (t : Text) : motive t := by
  induction hn : t.length using Nat.strong_induction_on generalizing t with
  | _ n ih =>
      cases t with
      | nil => exact nil
      | cons c t =>
          refine cons c t (ih _ ?_ _ rfl)
          have hshort := (List.dropWhile_suffix (l := t) (isLike c)).length_le
          rw [← hn, List.length_cons]
          omega

/-- A run is blank exactly when it begins so. -/
theorem isBlank_run : Text.isBlank (c :: t.takeWhile (isLike c)) ↔ kind c = .blank := by
  rw [Text.isBlank, List.all_eq_true, CodePoint.kind_eq_blank_iff]
  refine ⟨fun h => h c List.mem_cons_self, fun hblank d hd => ?_⟩
  rw [← CodePoint.kind_eq_blank_iff] at hblank ⊢
  rw [kind_of_mem_run hd, hblank]

theorem singles_cons_of_blank (hblank : kind c = .blank) :
    singles (c :: t) = singles (t.dropWhile (isLike c)) := by
  have hrun := (isBlank_run (t := t)).mpr hblank
  rw [singles, blocks_cons, List.filter_cons_of_neg (by simpa using hrun), ← singles]

theorem singles_cons_of_sign (hsign : kind c ≠ .blank) :
    singles (c :: t) = (c :: t.takeWhile (isLike c)) :: singles (t.dropWhile (isLike c)) := by
  have hrun := (isBlank_run (t := t)).not.mpr hsign
  rw [singles, blocks_cons, List.filter_cons_of_pos (by simpa using hrun), ← singles]

section Leftmost

/-- What a search from the left finds: where a code point of one of some classes stands, it takes
all that follow in this class, and it goes on behind them. A code point of no class is left out. -/
def leftmost (classes : List (CodePoint → Bool)) : Text → List Text
  | [] => []
  | c :: t =>
    match classes.find? fun p => p c with
    | none => leftmost classes t
    | some p => (c :: t.takeWhile p) :: leftmost classes (t.dropWhile p)
termination_by t => t.length
decreasing_by
  · exact Nat.lt_succ_self _
  · exact Nat.lt_succ_of_le (List.dropWhile_suffix _).length_le

/-- The classes of what may stand in a single. -/
def signs : List (CodePoint → Bool) := [CodePoint.isWord, CodePoint.isSymbol]

/-- A blank is in no class. -/
theorem find?_signs_of_blank (hblank : kind c = .blank) : signs.find? (fun p => p c) = none := by
  have hword : ¬CodePoint.isWord c := by simp [← CodePoint.kind_eq_word_iff, hblank]
  have hsymbol : ¬CodePoint.isSymbol c := by simp [← CodePoint.kind_eq_symbol_iff, hblank]
  simp [signs, hword, hsymbol]

/-- Every other code point is in the class of what is like it. -/
theorem find?_signs_of_sign (hsign : kind c ≠ .blank) :
    signs.find? (fun p => p c) = some (isLike c) := by
  cases hkind : kind c with
  | blank => exact absurd hkind hsign
  | word =>
      have hclass : CodePoint.isWord = isLike c := by
        funext d
        rw [Bool.eq_iff_iff, isLike_iff, hkind, CodePoint.kind_eq_word_iff]
      simp [signs, hclass]
  | symbol =>
      have hclass : CodePoint.isSymbol = isLike c := by
        funext d
        rw [Bool.eq_iff_iff, isLike_iff, hkind, CodePoint.kind_eq_symbol_iff]
      have hword : ¬CodePoint.isWord c := by simp [← CodePoint.kind_eq_word_iff, hkind]
      simp [signs, hword, hclass]

theorem leftmost_signs_of_blank (hblank : kind c = .blank) (t : Text) :
    leftmost signs (c :: t) = leftmost signs (t.dropWhile (isLike c)) := by
  induction t with
  | nil => rw [leftmost, find?_signs_of_blank hblank, List.dropWhile_nil]
  | cons d t ih =>
      rw [leftmost, find?_signs_of_blank hblank] at ih ⊢
      by_cases hlike : isLike c d
      · have hd : kind d = .blank := (isLike_iff.mp hlike).trans hblank
        rw [List.dropWhile_cons_of_pos hlike, leftmost, find?_signs_of_blank hd]
        exact ih
      · rw [List.dropWhile_cons_of_neg hlike]

/-- A search from the left finds the singles. -/
theorem leftmost_signs (t : Text) : leftmost signs t = singles t := by
  induction t using run_induction with
  | nil => rw [leftmost]; rfl
  | cons c t ih =>
      by_cases hblank : kind c = .blank
      · rw [leftmost_signs_of_blank hblank, singles_cons_of_blank hblank, ih]
      · rw [leftmost, find?_signs_of_sign hblank, singles_cons_of_sign hblank, ← ih]

end Leftmost

/-- A piece of a text, from the place `start` up to the place `stop`, which is left out. -/
structure Span where
  start : Nat
  stop : Nat

namespace Span

/-- The text of a span. -/
def of (t : Text) (s : Span) : Text := (t.take s.stop).drop s.start

/-- Holds of the places in a span. -/
def Covers (s : Span) (i : Nat) : Prop := s.start ≤ i ∧ i < s.stop

/-- Holds of a span of a text that has code points of one kind alone, at least one of them, and that
cannot be extended on either side. -/
structure IsRun (t : Text) (k : Kind) (s : Span) : Prop where
  start_lt_stop : s.start < s.stop
  kind_eq : ∀ i, s.Covers i → t[i]?.map kind = some k
  kind_before : ∀ i, i + 1 = s.start → t[i]?.map kind ≠ some k
  kind_after : t[s.stop]?.map kind ≠ some k

theorem exists_covers_of_mem {s : Span} {d : CodePoint} (hd : d ∈ s.of t) :
    ∃ i, s.Covers i ∧ t[i]? = some d := by
  obtain ⟨j, hj⟩ := List.mem_iff_getElem?.mp hd
  rw [of, List.getElem?_drop, List.getElem?_take] at hj
  split at hj
  next hlt => exact ⟨s.start + j, ⟨Nat.le_add_right _ _, hlt⟩, hj⟩
  next => cases hj

theorem mem_of_covers {s : Span} {i : Nat} {d : CodePoint} (hi : s.Covers i)
    (hd : t[i]? = some d) : d ∈ s.of t := by
  refine List.mem_iff_getElem?.mpr ⟨i - s.start, ?_⟩
  rw [of, List.getElem?_drop, Nat.add_sub_cancel' hi.1, List.getElem?_take_of_lt hi.2, hd]

/-- A run is blank when it is a run of blanks. -/
theorem IsRun.isBlank_iff {s : Span} {k : Kind} (h : s.IsRun t k) :
    Text.isBlank (s.of t) ↔ k = .blank := by
  rw [Text.isBlank, List.all_eq_true]
  constructor
  · intro hblank
    have hstart : s.Covers s.start := ⟨Nat.le_refl _, h.start_lt_stop⟩
    obtain ⟨d, hd, rfl⟩ := Option.map_eq_some_iff.mp (h.kind_eq _ hstart)
    exact CodePoint.kind_eq_blank_iff.mpr (hblank d (mem_of_covers hstart hd))
  · rintro rfl d hd
    obtain ⟨i, hi, hd⟩ := exists_covers_of_mem hd
    have hkind := h.kind_eq i hi
    rw [hd, Option.map_some, Option.some.injEq] at hkind
    exact CodePoint.kind_eq_blank_iff.mp hkind

section Meeting

variable {s s' : Span} {k k' : Kind} {i : Nat}

/-- A run that meets another one of its kind does not begin before it: the other one could be
extended. -/
theorem IsRun.start_le (h : s.IsRun t k) (h' : s'.IsRun t k) (hi : s.Covers i)
    (hi' : s'.Covers i) : s'.start ≤ s.start := by
  by_contra hlt
  have hcovers : s.Covers (s'.start - 1) := ⟨by omega, by have := hi.2; have := hi'.1; omega⟩
  exact h'.kind_before (s'.start - 1) (by omega) (h.kind_eq _ hcovers)

/-- A run that meets another one of its kind does not end behind it. -/
theorem IsRun.stop_le (h : s.IsRun t k) (h' : s'.IsRun t k) (hi : s.Covers i)
    (hi' : s'.Covers i) : s.stop ≤ s'.stop := by
  by_contra hlt
  have hcovers : s.Covers s'.stop := ⟨by have := hi.1; have := hi'.2; omega, by omega⟩
  exact h'.kind_after (h.kind_eq _ hcovers)

/-- Two runs that meet are equal. -/
theorem IsRun.eq_of_covers (h : s.IsRun t k) (h' : s'.IsRun t k') (hi : s.Covers i)
    (hi' : s'.Covers i) : s = s' := by
  obtain rfl : k = k' := Option.some.inj ((h.kind_eq i hi).symm.trans (h'.kind_eq i hi'))
  have hstart : s.start = s'.start :=
    Nat.le_antisymm (h'.start_le h hi' hi) (h.start_le h' hi hi')
  have hstop : s.stop = s'.stop := Nat.le_antisymm (h.stop_le h' hi hi') (h'.stop_le h hi' hi)
  cases s
  cases s'
  congr

end Meeting

end Span

section Spans

/-- The spans of pieces that follow one another from a place on. -/
def spansFrom (n : Nat) : List Text → List Span
  | [] => []
  | piece :: rest => ⟨n, n + piece.length⟩ :: spansFrom (n + piece.length) rest

theorem le_start_of_mem {n : Nat} {pieces : List Text} {s : Span} (hs : s ∈ spansFrom n pieces) :
    n ≤ s.start := by
  induction pieces generalizing n with
  | nil => cases hs
  | cons piece rest ih =>
      rcases List.mem_cons.mp hs with rfl | hs
      · exact Nat.le_refl n
      · exact (Nat.le_add_right n _).trans (ih hs)

theorem pairwise_spansFrom (n : Nat) (pieces : List Text) :
    (spansFrom n pieces).Pairwise fun a b => a.stop ≤ b.start := by
  induction pieces generalizing n with
  | nil => exact .nil
  | cons piece rest ih => exact .cons (fun _ hs => le_start_of_mem hs) (ih _)

/-- The pieces are found at their spans, whatever stands before them. -/
theorem map_of_spansFrom (before : Text) (pieces : List Text) :
    (spansFrom before.length pieces).map (Span.of (before ++ pieces.flatten)) = pieces := by
  induction pieces generalizing before with
  | nil => rfl
  | cons piece rest ih =>
      have hwhole : before ++ (piece :: rest).flatten = before ++ piece ++ rest.flatten := by
        rw [List.flatten_cons, List.append_assoc]
      have hlength : before.length + piece.length = (before ++ piece).length :=
        List.length_append.symm
      rw [spansFrom, List.map_cons, hwhole, hlength, ih (before ++ piece), Span.of,
        List.take_left, List.drop_left]

theorem exists_covers {n i : Nat} {pieces : List Text} (hle : n ≤ i)
    (hlt : i < n + pieces.flatten.length) : ∃ s ∈ spansFrom n pieces, s.Covers i := by
  induction pieces generalizing n with
  | nil => exact absurd (Nat.lt_of_le_of_lt hle hlt) (Nat.lt_irrefl n)
  | cons piece rest ih =>
      rw [List.flatten_cons, List.length_append, ← Nat.add_assoc] at hlt
      by_cases hhere : i < n + piece.length
      · exact ⟨_, List.mem_cons_self, hle, hhere⟩
      · obtain ⟨s, hs, hcovers⟩ := ih (Nat.le_of_not_lt hhere) hlt
        exact ⟨s, List.mem_cons_of_mem _ hs, hcovers⟩

/-- What follows a text that ends with another kind begins with a run. -/
theorem isRun_first {before : Text} (hbefore : ∀ a ∈ before.getLast?, kind a ≠ kind c) (t : Text) :
    Span.IsRun (before ++ c :: t) (kind c)
      ⟨before.length, before.length + (c :: t.takeWhile (isLike c)).length⟩ where
  start_lt_stop := Nat.lt_add_of_pos_right (Nat.succ_pos _)
  kind_eq := by
    rintro i ⟨hle, hlt⟩
    have hi : i - before.length < (c :: t.takeWhile (isLike c)).length :=
      Nat.sub_lt_left_of_lt_add hle hlt
    rw [run_append, List.getElem?_append_right hle, List.getElem?_append_left hi,
      List.getElem?_eq_getElem hi, Option.map_some, kind_of_mem_run (List.getElem_mem hi)]
  kind_before := by
    intro i hi h
    have hlast : i = before.length - 1 := (Nat.sub_eq_of_eq_add hi.symm).symm
    rw [List.getElem?_append_left (Nat.lt_of_succ_le hi.le), hlast,
      ← List.getLast?_eq_getElem?] at h
    obtain ⟨a, ha, hkind⟩ := Option.map_eq_some_iff.mp h
    exact hbefore a ha hkind
  kind_after := by
    rw [run_append, List.getElem?_append_right (Nat.le_add_right _ _), Nat.add_sub_cancel_left,
      List.getElem?_append_right (Nat.le_refl _), Nat.sub_self, ← List.head?_eq_getElem?]
    intro h
    obtain ⟨d, hd, hkind⟩ := Option.map_eq_some_iff.mp h
    exact kind_ne_of_mem_head? hd hkind

theorem isRun_of_mem_spansFrom {before : Text}
    (hbefore : ∀ a ∈ before.getLast?, ∀ b ∈ t.head?, kind a ≠ kind b) {s : Span}
    (hs : s ∈ spansFrom before.length (blocks t)) : ∃ k, s.IsRun (before ++ t) k := by
  induction t using run_induction generalizing before with
  | nil => cases hs
  | cons c t ih =>
      rw [blocks_cons, spansFrom] at hs
      rcases List.mem_cons.mp hs with rfl | hs
      · exact ⟨kind c, isRun_first (fun a ha => hbefore a ha c rfl) t⟩
      · rw [run_append, ← List.append_assoc]
        rw [← List.length_append] at hs
        refine ih (fun a ha b hb => ?_) hs
        rw [List.getLast?_append_of_ne_nil _ (List.cons_ne_nil _ _)] at ha
        rw [kind_of_mem_run (List.mem_of_mem_getLast? ha)]
        exact (kind_ne_of_mem_head? hb).symm

/-- The spans of the blocks of a text are its runs. -/
theorem mem_spansFrom_iff {s : Span} :
    s ∈ spansFrom 0 (blocks t) ↔ ∃ k, s.IsRun t k := by
  have hbefore : ∀ a ∈ ([] : Text).getLast?, ∀ b ∈ t.head?, kind a ≠ kind b := nofun
  have hmem {s : Span} (hs : s ∈ spansFrom 0 (blocks t)) : ∃ k, s.IsRun t k :=
    isRun_of_mem_spansFrom hbefore hs
  refine ⟨hmem, ?_⟩
  rintro ⟨k, hrun⟩
  have hstart : s.Covers s.start := ⟨Nat.le_refl _, hrun.start_lt_stop⟩
  obtain ⟨c, hc, -⟩ := Option.map_eq_some_iff.mp (hrun.kind_eq _ hstart)
  obtain ⟨hlt, -⟩ := List.getElem?_eq_some_iff.mp hc
  obtain ⟨s', hs', hcovers⟩ : ∃ s' ∈ spansFrom 0 (blocks t), s'.Covers s.start :=
    exists_covers (Nat.zero_le _) (by rwa [flatten_blocks, Nat.zero_add])
  obtain ⟨k', hrun'⟩ := hmem hs'
  rwa [hrun.eq_of_covers hrun' hstart hcovers]

/-- The spans of the singles of a text. -/
def spans (t : Text) : List Span :=
  (spansFrom 0 (blocks t)).filter fun s => !Text.isBlank (s.of t)

theorem map_of_spans (t : Text) : (spans t).map (Span.of t) = singles t := by
  have hblocks : (spansFrom 0 (blocks t)).map (Span.of t) = blocks t := by
    have h := map_of_spansFrom [] (blocks t)
    rwa [List.nil_append, flatten_blocks] at h
  rw [singles, ← hblocks, List.filter_map, spans]
  rfl

theorem mem_spans_iff {s : Span} : s ∈ spans t ↔ ∃ k, k ≠ .blank ∧ s.IsRun t k := by
  rw [spans, List.mem_filter, mem_spansFrom_iff]
  constructor
  · rintro ⟨⟨k, hrun⟩, hsign⟩
    refine ⟨k, fun hk => ?_, hrun⟩
    simp [hrun.isBlank_iff.mpr hk] at hsign
  · rintro ⟨k, hk, hrun⟩
    exact ⟨⟨k, hrun⟩, by simpa using hrun.isBlank_iff.not.mpr hk⟩

end Spans

/-- Holds of the spans of singles: in the order of the text they are all the runs that are not
blank, so that each place where no blank stands is in one of them. -/
structure AreSingles (t : Text) (spans : List Span) : Prop where
  map_of : spans.map (Span.of t) = singles t
  ordered : spans.Pairwise fun a b => a.stop ≤ b.start
  mem_iff : ∀ s, s ∈ spans ↔ ∃ k, k ≠ .blank ∧ s.IsRun t k
  covers_iff : ∀ i, (∃ c, t[i]? = some c ∧ kind c ≠ .blank) ↔ ∃! s, s ∈ spans ∧ s.Covers i

/-- The singles of a text are what a search from the left finds for word signs and for symbols, and
they are the runs of the text that are not blank, in their order. -/
theorem singles_are_runs (t : Text) :
    singles t = leftmost [CodePoint.isWord, CodePoint.isSymbol] t ∧ AreSingles t (spans t) := by
  refine ⟨(leftmost_signs t).symm, map_of_spans t, (pairwise_spansFrom 0 _).filter _,
    fun _ => mem_spans_iff, fun i => ?_⟩
  constructor
  · rintro ⟨c, hc, hsign⟩
    obtain ⟨hlt, -⟩ := List.getElem?_eq_some_iff.mp hc
    obtain ⟨s, hs, hcovers⟩ : ∃ s ∈ spansFrom 0 (blocks t), s.Covers i :=
      exists_covers (Nat.zero_le _) (by rwa [flatten_blocks, Nat.zero_add])
    obtain ⟨k, hrun⟩ := mem_spansFrom_iff.mp hs
    have hkind := hrun.kind_eq i hcovers
    rw [hc, Option.map_some, Option.some.injEq] at hkind
    refine ⟨s, ⟨mem_spans_iff.mpr ⟨k, hkind ▸ hsign, hrun⟩, hcovers⟩, ?_⟩
    rintro s' ⟨hs', hcovers'⟩
    obtain ⟨k', -, hrun'⟩ := mem_spans_iff.mp hs'
    exact hrun'.eq_of_covers hrun hcovers' hcovers
  · rintro ⟨s, ⟨hs, hcovers⟩, -⟩
    obtain ⟨k, hk, hrun⟩ := mem_spans_iff.mp hs
    obtain ⟨c, hc, hkind⟩ := Option.map_eq_some_iff.mp (hrun.kind_eq i hcovers)
    exact ⟨c, hc, hkind ▸ hk⟩

end Token

end Polyglot
