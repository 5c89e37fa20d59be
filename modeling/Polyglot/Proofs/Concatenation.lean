import Polyglot.Proofs.Content

/-! # One file after another

A file that ends with a line feed is read independently of what follows it: its bytes are decoded
alone, and its lines are its own. No row is judged by what came before it, so the counters and the
output of the whole file are those of its parts put together, and the table of the whole is the
table of the first part with what the second one adds to it.
-/

namespace Polyglot

namespace Utf8

theorem andThen_append {st : Start} {b : UInt8} {t : Text} {ps : List Piece}
    {short long : Option Pending → List Piece}
    (hlong : ∀ (state : Option Pending) (u : Text), short state = u.map .scalar →
      long state = u.map .scalar ++ ps)
    (h : st.andThen b short = t.map .scalar) : st.andThen b long = t.map .scalar ++ ps := by
  cases st with
  | whole c =>
      cases t with
      | nil => cases h
      | cons d t =>
          obtain ⟨hd, ht⟩ := List.cons.inj h
          rw [List.map_cons, ← hd, List.cons_append, ← hlong none t ht]
          rfl
  | opens p => exact hlong (some p) t h
  | refused => cases t <;> cases h

/-- Bytes that end with a whole encoding are decoded without the ones that follow. -/
theorem piecesFrom_append {state : Option Pending} {first : Bytes} {t : Text}
    (h : piecesFrom state first = t.map .scalar) (second : Bytes) :
    piecesFrom state (first ++ second) = t.map .scalar ++ pieces second := by
  induction first generalizing state t with
  | nil =>
      cases state with
      | none =>
          rw [← h]
          rfl
      | some p => cases t <;> cases h
  -- Nothing is broken before the second part, so no encoding reaches into it.
  | cons b first ih =>
      have hrest (next : Option Pending) (u : Text) (hu : piecesFrom next first = u.map .scalar) :
          piecesFrom next (first ++ second) = u.map .scalar ++ pieces second := ih hu
      cases state with
      | none => exact andThen_append hrest h
      | some p =>
          rw [piecesFrom] at h
          rw [List.cons_append, piecesFrom]
          split at h
          next hrange =>
            rw [if_pos hrange]
            dsimp only at h ⊢
            split at h
            next hdone =>
              cases t with
              | nil => cases h
              | cons d t =>
                  obtain ⟨hd, ht⟩ := List.cons.inj h
                  rw [if_pos hdone, List.map_cons, ← hd, List.cons_append, ← ih ht]
            next hmore =>
              rw [if_neg hmore]
              exact ih h
          next => cases t <;> cases h

theorem decode_append {first second : Bytes} {s t : Text} (hfirst : decode first = .ok s)
    (hsecond : decode second = .ok t) : decode (first ++ second) = .ok (s ++ t) := by
  rw [decode_eq_ok_iff] at hfirst hsecond ⊢
  rw [pieces, piecesFrom_append hfirst, hsecond, List.map_append]

theorem encode_append (s t : Text) : encode (s ++ t) = encode s ++ encode t :=
  List.flatMap_append

end Utf8

namespace Text

/-- A line feed ends a line whatever stands before it, so that what follows is read afresh. -/
theorem unifyNewlinesFrom_append_feed (afterReturn : Bool) (s t : Text) :
    unifyNewlinesFrom afterReturn (s ++ CodePoint.lineFeed :: t) =
      unifyNewlinesFrom afterReturn (s ++ [CodePoint.lineFeed]) ++ unifyNewlinesFrom false t := by
  induction s generalizing afterReturn with
  | nil =>
      have hfeed : CodePoint.lineFeed ≠ CodePoint.carriageReturn := by decide
      cases afterReturn <;> simp [unifyNewlinesFrom, hfeed]
  | cons c s ih =>
      simp only [List.cons_append, unifyNewlinesFrom, ih]
      split
      · rfl
      · split <;> rfl

/-- A last line feed is kept, unless a carriage return right before it was already written as one.
-/
theorem exists_unifyNewlinesFrom_feed (afterReturn : Bool) (s : Text) :
    ∃ u, (bif afterReturn then [CodePoint.lineFeed] else []) ++
      unifyNewlinesFrom afterReturn (s ++ [CodePoint.lineFeed]) = u ++ [CodePoint.lineFeed] := by
  induction s generalizing afterReturn with
  | nil => cases afterReturn <;> exact ⟨[], by decide⟩
  | cons c s ih =>
      obtain ⟨after, hafter⟩ := ih true
      obtain ⟨apart, hapart⟩ := ih false
      rw [cond_true, List.singleton_append] at hafter
      rw [cond_false, List.nil_append] at hapart
      set mark := bif afterReturn then [CodePoint.lineFeed] else []
      rw [List.cons_append, unifyNewlinesFrom]
      split
      next => exact ⟨mark ++ after, by rw [hafter, List.append_assoc]⟩
      next =>
        rw [hapart]
        split
        next => exact ⟨mark ++ apart, (List.append_assoc ..).symm⟩
        next => exact ⟨mark ++ c :: apart, by rw [List.append_assoc, List.cons_append]⟩

theorem lines_ne_nil {t : Text} (ht : t ≠ []) : lines t ≠ [] := by
  cases t with
  | nil => exact absurd rfl ht
  | cons c t =>
      rw [lines]
      split
      · exact List.cons_ne_nil _ _
      · split <;> exact List.cons_ne_nil _ _

theorem lines_append (s t : Text) :
    lines (s ++ CodePoint.lineFeed :: t) = lines (s ++ [CodePoint.lineFeed]) ++ lines t := by
  induction s with
  | nil => simp [lines]
  | cons c s ih =>
      rw [List.cons_append, List.cons_append, lines, lines, ih]
      split
      · rfl
      · -- The first line of what follows is one of the first part, since a line feed ends it there.
        cases hlines : lines (s ++ [CodePoint.lineFeed]) with
        | nil => exact absurd hlines (lines_ne_nil (by simp))
        | cons line others => rfl

/-- The lines of a text that ends with a line feed are lines of any text that begins with it. -/
theorem lines_unifyNewlines_append {s : Text} (hend : s.getLast? = some CodePoint.lineFeed)
    (t : Text) :
    lines (unifyNewlines (s ++ t)) = lines (unifyNewlines s) ++ lines (unifyNewlines t) := by
  obtain ⟨front, rfl⟩ := List.getLast?_eq_some_iff.mp hend
  obtain ⟨u, hu⟩ := exists_unifyNewlinesFrom_feed false front
  rw [cond_false, List.nil_append] at hu
  unfold unifyNewlines
  rw [List.append_assoc, List.singleton_append, unifyNewlinesFrom_append_feed, hu,
    List.append_assoc, List.singleton_append, lines_append]

end Text

namespace Records

/-- The rows are the lines that are not blank, without the blanks at their ends. -/
theorem contents_eq_filter (t : Text) :
    contents t = ((Text.lines (Text.unifyNewlines t)).map Text.strip).filter fun line =>
      !line.isEmpty := by
  unfold contents rows
  generalize 1 = n
  induction Text.lines (Text.unifyNewlines t) generalizing n with
  | nil => rfl
  | cons line rest ih =>
      rw [List.zipIdx_cons, List.filterMap_cons, List.map_cons, List.filter_cons, ← ih (n + 1),
        row?]
      cases (Text.strip line).isEmpty <;> rfl

theorem contents_append {s : Text} (hend : s.getLast? = some CodePoint.lineFeed) (t : Text) :
    contents (s ++ t) = contents s ++ contents t := by
  simp only [contents_eq_filter, Text.lines_unifyNewlines_append hend, List.map_append,
    List.filter_append]

theorem isReadable_iff [Limits] {content : Bytes} {t : Text} (htext : Utf8.decode content = .ok t) :
    IsReadable content ↔ ∀ line ∈ contents t, ¬PassesLimit line := by
  constructor
  · rintro ⟨t', htext', hlimit⟩
    rwa [Except.ok.inj (htext.symm.trans htext')]
  · exact fun hlimit => ⟨t, htext, hlimit⟩

theorem isReadable_append [Limits] {first second : Bytes} {s t : Text}
    (hfirst : Utf8.decode first = .ok s)
    (hend : s.getLast? = some CodePoint.lineFeed) (hsecond : Utf8.decode second = .ok t) :
    IsReadable (first ++ second) ↔ IsReadable first ∧ IsReadable second := by
  rw [isReadable_iff (Utf8.decode_append hfirst hsecond), isReadable_iff hfirst,
    isReadable_iff hsecond, contents_append hend, List.forall_mem_append]

/-- Holds of three outcomes when the last one comes to its end exactly when the other two do, and
is made of them. -/
structure Composes {α : Type} (made : α → α → α → Prop) (first second whole : Except Fault α) :
    Prop where
  ends_iff : (∃ w, whole = .ok w) ↔ (∃ u, first = .ok u) ∧ ∃ v, second = .ok v
  made : ∀ u v w, first = .ok u → second = .ok v → whole = .ok w → made u v w

end Records

namespace Labelling

open Records

/-- The counters of two files together. -/
def Summary.add (first second : Summary) : Summary :=
  { rowsIn := first.rowsIn + second.rowsIn
    rowsOut := first.rowsOut + second.rowsOut
    errors := first.errors + second.errors }

theorem Summary.ofLines_append [Limits] (c : Classifier) (key : Text) (lines others : List Text) :
    Summary.ofLines c key (lines ++ others) =
      (Summary.ofLines c key lines).add (Summary.ofLines c key others) := by
  simp only [Summary.ofLines, Summary.add, List.length_append, List.countP_append]

theorem labelledRows_append [Limits] (c : Classifier) (key : Text) {s : Text}
    (hend : s.getLast? = some CodePoint.lineFeed) (t : Text) :
    labelledRows c key (s ++ t) = labelledRows c key s ++ labelledRows c key t := by
  simp only [labelledRows, ← filterMap_contents, contents_append hend, List.filterMap_append]

theorem written_append (key : Text) (labelled others : List Labelled) :
    written key (labelled ++ others) = written key labelled ++ written key others :=
  List.flatMap_append

/-- Labelling two files as one adds the counters, and puts one output behind the other. -/
theorem Yields.append [Limits] {c : Classifier} {keys : Keys} {first second left right both : Bytes}
    {x y z : Except Fault Summary} {s t : Text} (hfirst : Utf8.decode first = .ok s)
    (hend : s.getLast? = some CodePoint.lineFeed) (hsecond : Utf8.decode second = .ok t)
    (hx : Yields c keys first x left) (hy : Yields c keys second y right)
    (hz : Yields c keys (first ++ second) z both) :
    Composes (fun u v w => w = u.add v ∧ both = left ++ right) x y z := by
  refine ⟨?_, ?_⟩
  · rw [hx.exists_ok_iff, hy.exists_ok_iff, hz.exists_ok_iff,
      isReadable_append hfirst hend hsecond]
  · rintro u v w rfl rfl rfl
    obtain ⟨hu, hleft⟩ := hx.eq_ofLines hfirst
    obtain ⟨hv, hright⟩ := hy.eq_ofLines hsecond
    obtain ⟨hw, hboth⟩ := hz.eq_ofLines (Utf8.decode_append hfirst hsecond)
    constructor
    · rw [hw, contents_append hend, Summary.ofLines_append, ← hu, ← hv]
    · rw [hboth, labelledRows_append _ _ hend, written_append, Utf8.encode_append, ← hleft,
        ← hright]

end Labelling

namespace Scoring

open Records

/-- Holds of the scores of two files and of the two as one: the counters and the entries add up,
and what came first in the first file stands before what is new in the second one. -/
structure Summary.Joins (first second whole : Summary) : Prop where
  rows : whole.rows = first.rows + second.rows
  correct : whole.correct = first.correct + second.correct
  errors : whole.errors = first.errors + second.errors
  count : ∀ e p, whole.confusion.count e p = first.confusion.count e p + second.confusion.count e p
  expectations : Entries.keys whole.confusion = Entries.keys first.confusion ++
    (Entries.keys second.confusion).filter fun e => e ∉ Entries.keys first.confusion
  predictions : ∀ e, Entries.keys (whole.confusion.row e) =
    Entries.keys (first.confusion.row e) ++
      (Entries.keys (second.confusion.row e)).filter fun p =>
        p ∉ Entries.keys (first.confusion.row e)

theorem Summary.joins_ofLines [Limits] (c : Classifier) (keys : Keys) (lines others : List Text) :
    Joins (ofLines c keys lines) (ofLines c keys others) (ofLines c keys (lines ++ others)) where
  rows := List.length_append
  correct := List.countP_append
  errors := List.countP_append
  count e p := by
    simp only [ofLines, Confusion.count_confusion, List.filterMap_append, List.count_append]
  expectations := by
    simp only [ofLines, Confusion.keys_confusion, List.filterMap_append, List.map_append]
    exact eraseDups_append_new _ _
  predictions e := by
    simp only [ofLines, Confusion.row_confusion, Confusion.keys_tally, List.filterMap_append,
      List.filter_append, List.map_append]
    exact eraseDups_append_new _ _

/-- Scoring two files as one puts their scores together. -/
theorem Yields.append [Limits] {c : Classifier} {keys : Keys} {first second : Bytes}
    {x y z : Except Fault Summary} {s t : Text} (hfirst : Utf8.decode first = .ok s)
    (hend : s.getLast? = some CodePoint.lineFeed) (hsecond : Utf8.decode second = .ok t)
    (hx : Yields c keys first x) (hy : Yields c keys second y)
    (hz : Yields c keys (first ++ second) z) : Composes Summary.Joins x y z := by
  refine ⟨?_, ?_⟩
  · rw [hx.exists_ok_iff, hy.exists_ok_iff, hz.exists_ok_iff,
      isReadable_append hfirst hend hsecond]
  · rintro u v w rfl rfl rfl
    rw [hx.eq_ofLines hfirst, hy.eq_ofLines hsecond,
      hz.eq_ofLines (Utf8.decode_append hfirst hsecond), contents_append hend]
    exact Summary.joins_ofLines c keys _ _

end Scoring

namespace Records

/-- When a file ends with a line feed, and another one is put behind it, then labelling and scoring
come to the end of the whole exactly when they come to the end of both parts. Then the counters and
the entries of the table add up, the output is that of the first part and then that of the second,
and expectations and predictions stand in the order of the first part, the new ones of the second
behind them. -/
theorem yields_append [Limits] (c : Classifier) {first second : Bytes} {s t : Text}
    (hfirst : Utf8.decode first = .ok s) (hend : s.getLast? = some CodePoint.lineFeed)
    (hsecond : Utf8.decode second = .ok t) :
    (∀ keys x y z left right both, Labelling.Yields c keys first x left →
      Labelling.Yields c keys second y right →
      Labelling.Yields c keys (first ++ second) z both →
        Composes (fun u v w => w = u.add v ∧ both = left ++ right) x y z) ∧
    ∀ keys x y z, Scoring.Yields c keys first x → Scoring.Yields c keys second y →
      Scoring.Yields c keys (first ++ second) z → Composes Scoring.Summary.Joins x y z :=
  ⟨fun _ _ _ _ _ _ _ hx hy hz => hx.append hfirst hend hsecond hy hz,
    fun _ _ _ _ hx hy hz => hx.append hfirst hend hsecond hy hz⟩

open scoped Limits.Usual in
theorem shortRows_before_gradedRows :
    ∃ (c : Classifier) (u v w : Labelling.Summary) (left right both : Bytes)
      (x y z : Scoring.Summary),
      Labelling.Yields c .standard (Utf8.encode shortRows) (.ok u) left ∧
        Labelling.Yields c .standard (Utf8.encode Scoring.gradedRows) (.ok v) right ∧
        Labelling.Yields c .standard
          (Utf8.encode shortRows ++ Utf8.encode Scoring.gradedRows) (.ok w) both ∧
        w = u.add v ∧ both = left ++ right ∧
        Scoring.Yields c .standard (Utf8.encode shortRows) (.ok x) ∧
        Scoring.Yields c .standard (Utf8.encode Scoring.gradedRows) (.ok y) ∧
        Scoring.Yields c .standard
          (Utf8.encode shortRows ++ Utf8.encode Scoring.gradedRows) (.ok z) ∧
        Scoring.Summary.Joins x y z := by
  obtain ⟨c, -⟩ : ∃ c, (smallClassifier.perform (fileSession shortRows)).1 = .ok c := ⟨_, rfl⟩
  have hfirst : Utf8.decode (Utf8.encode shortRows) = .ok shortRows := by rfl
  have hend : shortRows.getLast? = some CodePoint.lineFeed := by rfl
  have hsecond : Utf8.decode (Utf8.encode Scoring.gradedRows) = .ok Scoring.gradedRows := by rfl
  have hshort : IsReadable (Utf8.encode shortRows) :=
    .of_length hfirst (by decide) (by decide)
  have hgraded := Scoring.isReadable_gradedRows
  have hboth := (isReadable_append hfirst hend hsecond).mpr ⟨hshort, hgraded⟩
  obtain ⟨hlabel, hscore⟩ := yields_append c hfirst hend hsecond
  obtain ⟨u, left, hu⟩ := Labelling.exists_yields_ok c .standard hshort
  obtain ⟨v, right, hv⟩ := Labelling.exists_yields_ok c .standard hgraded
  obtain ⟨w, both, hw⟩ := Labelling.exists_yields_ok c .standard hboth
  obtain ⟨x, hx⟩ := Scoring.exists_yields_ok c .standard hshort
  obtain ⟨y, hy⟩ := Scoring.exists_yields_ok c .standard hgraded
  obtain ⟨z, hz⟩ := Scoring.exists_yields_ok c .standard hboth
  obtain ⟨hsum, happend⟩ := (hlabel _ _ _ _ _ _ _ hu hv hw).made u v w rfl rfl rfl
  have hjoins := (hscore _ _ _ _ hx hy hz).made x y z rfl rfl rfl
  exact ⟨c, u, v, w, left, right, both, x, y, z, hu, hv, hw, hsum, happend, hx, hy, hz, hjoins⟩

end Records

end Polyglot
