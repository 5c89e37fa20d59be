import Mathlib.Algebra.Ring.Nat
import Polyglot.Markup
import Polyglot.Proofs.Codes
import Polyglot.Proofs.Outcome
import Polyglot.Text.Printable

/-! # What markup shows as it is

A message is shown as it is when none of its opening brackets opens a tag or stands behind a
backslash, and none of its codes stands for an emoji. Such messages are also the only ones: every
tag, every such backslash and every emoji takes away a bracket, a backslash or a colon, and nothing
on the way to the console brings one in.
-/

namespace Polyglot

namespace Text

theorem activity_flatten (parts : List Text) :
    activity parts.flatten = (parts.map activity).sum := by
  induction parts with
  | nil => rfl
  | cons part rest ih => rw [List.flatten_cons, activity_append, ih, List.map_cons, List.sum_cons]

theorem activity_filter_le (p : CodePoint → Bool) (t : Text) :
    activity (t.filter p) ≤ activity t := activity_le_of_sublist List.filter_sublist

/-- Joining texts with a sign that stands for itself adds nothing. -/
theorem activity_join {separator : Text} (hseparator : activity separator = 0)
    (parts : List Text) : activity (join separator parts) = (parts.map activity).sum := by
  induction parts with
  | nil => rfl
  | cons part rest ih =>
      cases rest with
      | nil => simp [join]
      | cons next rest =>
          rw [join] at ih ⊢
          rw [List.intersperse_cons_cons, List.flatten_cons, List.flatten_cons, activity_append,
            activity_append, ih, hseparator, Nat.zero_add, List.map_cons (l := next :: rest),
            List.sum_cons]

theorem activity_cutAt {separator : CodePoint} (hseparator : separator.isActive = false)
    (t : Text) : ((cutAt separator t).map activity).sum = activity t := by
  have hnone : activity [separator] = 0 := activity_eq_zero.mpr (by simpa using hseparator)
  rw [← activity_join hnone, join, cutAt]
  exact congrArg activity (List.intercalate_splitOn separator)

theorem cutAt_of_notMem {separator : CodePoint} {t : Text} (h : separator ∉ t) :
    cutAt separator t = [t] := by
  refine List.splitOnP_eq_singleton fun c hc => ?_
  exact beq_false_of_ne fun heq => h (heq ▸ hc)

theorem isPrintable_of_ascii {t : Text}
    (h : t.all fun p => 0x20 ≤ p.val && p.val < 0x7F) : ∀ p ∈ t, CodePoint.isPrintable p := by
  intro p hp
  have hascii := List.all_eq_true.mp h p hp
  rw [Bool.and_eq_true, decide_eq_true_eq, decide_eq_true_eq] at hascii
  rw [CodePoint.isPrintable, if_pos hascii.2, decide_eq_true hascii.1]

end Text

namespace Markup

open Text (activity)

variable {t rest body run : Text} {c : CodePoint} {slashes position skip : ℕ}

/-! ## Brackets -/

/-- Holds of a text, with backslashes in front of it, in which no opening bracket opens a tag or
stands behind a backslash. -/
def IsQuiet (slashes : ℕ) (t : Text) : Prop :=
  ∀ before after, t = before ++ CodePoint.openBracket :: after →
    tagBody? after = none ∧ (backslashes slashes ++ before).getLast? ≠ some CodePoint.backslash

/-- A sign behind backslashes counts as one more of them, or ends their row. -/
theorem getLast?_backslashes_cons (slashes : ℕ) (c : CodePoint) (before : Text) :
    (backslashes slashes ++ c :: before).getLast? = some CodePoint.backslash ↔
      (backslashes (if c = CodePoint.backslash then slashes + 1 else 0) ++ before).getLast? =
        some CodePoint.backslash := by
  cases before with
  | nil => by_cases hc : c = CodePoint.backslash <;> simp [hc, backslashes, List.getLast?_replicate]
  | cons d before => simp [List.getLast?_append, List.getLast?_cons]

theorem isQuiet_nil (slashes : ℕ) : IsQuiet slashes [] := by
  intro before after h
  exact absurd h.symm (List.append_ne_nil_of_right_ne_nil _ (List.cons_ne_nil _ _))

theorem isQuiet_cons :
    IsQuiet slashes (c :: rest) ↔
      (c = CodePoint.openBracket → tagBody? rest = none ∧ slashes = 0) ∧
        IsQuiet (if c = CodePoint.backslash then slashes + 1 else 0) rest := by
  constructor
  · intro h
    refine ⟨?_, ?_⟩
    · rintro rfl
      obtain ⟨htag, hlast⟩ := h [] rest rfl
      refine ⟨htag, Nat.eq_zero_of_not_pos fun hpos => hlast ?_⟩
      simp [backslashes, List.getLast?_replicate, hpos.ne']
    · rintro before after rfl
      obtain ⟨htag, hlast⟩ := h (c :: before) after rfl
      exact ⟨htag, mt (getLast?_backslashes_cons slashes c before).mpr hlast⟩
  · rintro ⟨hopen, hrest⟩ before after h
    cases before with
    | nil =>
        obtain ⟨rfl, rfl⟩ := List.cons.inj h
        obtain ⟨htag, rfl⟩ := hopen rfl
        exact ⟨htag, nofun⟩
    | cons d before =>
        obtain ⟨rfl, hbefore⟩ := List.cons.inj h
        obtain ⟨htag, hlast⟩ := hrest before after hbefore
        exact ⟨htag, mt (getLast?_backslashes_cons slashes c before).mp hlast⟩

theorem isQuiet_of_notMem (h : CodePoint.openBracket ∉ t) (slashes : ℕ) : IsQuiet slashes t := by
  rintro before after rfl
  exact absurd (List.mem_append_right before List.mem_cons_self) h

/-! ## Pieces -/

/-- What the pieces show that are no tags. -/
def plainText (pieces : List Piece) : Text :=
  pieces.flatMap fun
    | .plain t => t
    | .tag _ _ => []

theorem plainText_append (front back : List Piece) :
    plainText (front ++ back) = plainText front ++ plainText back := List.flatMap_append

@[simp] theorem plainText_plain (t : Text) : plainText [.plain t] = t := by simp [plainText]

@[simp] theorem plainText_withText (t : Text) (pieces : List Piece) :
    plainText (withText t pieces) = t ++ plainText pieces := by
  cases t with
  | nil => rfl
  | cons c t => rfl

@[simp] theorem activity_backslashes (n : ℕ) : activity (backslashes n) = n := by
  induction n with
  | zero => rfl
  | succ n ih =>
      rw [backslashes, List.replicate_succ, Text.activity_cons, ← backslashes, ih,
        Text.activity_backslash, Nat.add_comm]

/-- A tag takes up what is between its brackets and the closing one. -/
theorem tagBody?_eq_some (h : tagBody? rest = some body) :
    rest = body ++ CodePoint.closeBracket :: rest.drop (body.length + 1) := by
  simp only [tagBody?] at h
  split at h
  next c front d back hfront hback =>
    obtain ⟨⟨-, rfl⟩, hbody⟩ := Option.ite_none_right_eq_some.mp h
    rw [Option.some.injEq] at hbody
    rw [hbody] at hback
    have hprefix : body <+: rest := hbody ▸ List.takeWhile_prefix _
    calc
      rest = rest.take body.length ++ rest.drop body.length := List.take_append_drop _ _ |>.symm
      _ = body ++ CodePoint.closeBracket :: back := by
        rw [hback, ← List.prefix_iff_eq_take.mp hprefix]
      _ = body ++ CodePoint.closeBracket :: rest.drop (body.length + 1) := by
        rw [← List.tail_drop, hback, List.tail_cons]
  next => cases h

/-- A tag and the backslashes in front of it are not all shown. -/
theorem activity_tagPieces_lt (slashes position : ℕ) (body : Text) :
    activity (plainText (tagPieces slashes position body)) < slashes + 1 + activity body := by
  have hpieces : tagPieces slashes position body = withText (backslashes (slashes / 2))
      [if slashes % 2 = 1 then .plain (CodePoint.openBracket :: body ++ [CodePoint.closeBracket])
        else .tag (position - slashes + 2 * (slashes / 2)) body] := rfl
  rw [hpieces, plainText_withText, Text.activity_append, activity_backslashes]
  split
  next hodd =>
    rw [plainText_plain, List.cons_append, Text.activity_cons, Text.activity_append,
      Text.activity_openBracket, Text.activity_closeBracket]
    omega
  next =>
    have hnone : plainText [.tag (position - slashes + 2 * (slashes / 2)) body] = [] := rfl
    rw [hnone, Text.activity_nil]
    omega

/-- A tag takes a sign away, whatever follows it. -/
theorem activity_tag_lt (htag : tagBody? rest = some body) (slashes position : ℕ) (run : Text)
    {others : List Piece}
    (hothers : activity (plainText others) ≤ activity (rest.drop (body.length + 1))) :
    activity (plainText (withText run.reverse (tagPieces slashes position body) ++ others)) <
      slashes + activity run + (activity [CodePoint.openBracket] + activity rest) := by
  have hpieces := activity_tagPieces_lt slashes position body
  have hsplit := congrArg activity (tagBody?_eq_some htag)
  rw [Text.activity_append, Text.activity_cons, Text.activity_closeBracket] at hsplit
  rw [plainText_append, plainText_withText, Text.activity_append, Text.activity_append,
    Text.activity_reverse, Text.activity_openBracket]
  omega

theorem activity_cons_backslashes (c : CodePoint) (n : ℕ) (run : Text) :
    activity (c :: backslashes n ++ run) = activity [c] + n + activity run := by
  rw [Text.activity_append, Text.activity_cons, activity_backslashes]

/-! The four ways in which the pieces of a text go on. -/

theorem piecesFrom_backslash (slashes position : ℕ) (run rest : Text) :
    piecesFrom 0 slashes position run (CodePoint.backslash :: rest) =
      piecesFrom 0 (slashes + 1) (position + 1) run rest := by
  rw [piecesFrom, if_pos rfl]

theorem piecesFrom_tag (htag : tagBody? rest = some body) (slashes position : ℕ) (run : Text) :
    piecesFrom 0 slashes position run (CodePoint.openBracket :: rest) =
      withText run.reverse (tagPieces slashes position body) ++
        piecesFrom (body.length + 1) 0 (position + 1) [] rest := by
  have hne : CodePoint.openBracket ≠ CodePoint.backslash := by decide
  simp only [piecesFrom, if_neg hne, if_pos, htag]

theorem piecesFrom_bracket (htag : tagBody? rest = none) (slashes position : ℕ) (run : Text) :
    piecesFrom 0 slashes position run (CodePoint.openBracket :: rest) =
      piecesFrom 0 0 (position + 1)
        (CodePoint.openBracket :: backslashes (slashes - 1) ++ run) rest := by
  have hne : CodePoint.openBracket ≠ CodePoint.backslash := by decide
  simp only [piecesFrom, if_neg hne, if_pos, htag]

theorem piecesFrom_other (hslash : c ≠ CodePoint.backslash) (hopen : c ≠ CodePoint.openBracket)
    (slashes position : ℕ) (run rest : Text) :
    piecesFrom 0 slashes position run (c :: rest) =
      piecesFrom 0 0 (position + 1) (c :: backslashes slashes ++ run) rest := by
  rw [piecesFrom, if_neg hslash, if_neg hopen]

/-- No piece brings in a sign. -/
theorem activity_piecesFrom_le (skip slashes position : ℕ) (run t : Text) :
    activity (plainText (piecesFrom skip slashes position run t)) ≤
      slashes + activity run + activity (t.drop skip) := by
  induction t generalizing skip slashes position run with
  | nil =>
      rw [piecesFrom, plainText_withText, Text.activity_append, Text.activity_reverse,
        Text.activity_append, activity_backslashes, List.drop_nil]
      exact Nat.le_refl _
  | cons c rest ih =>
      cases skip with
      | succ skip =>
          have hrest := ih skip 0 (position + 1) []
          rw [piecesFrom, List.drop_succ_cons]
          rw [Text.activity_nil] at hrest
          omega
      | zero =>
          rw [List.drop_zero, Text.activity_cons c rest]
          by_cases hc : c = CodePoint.backslash
          · have hrest := ih 0 (slashes + 1) (position + 1) run
            rw [List.drop_zero] at hrest
            rw [hc, piecesFrom_backslash, Text.activity_backslash]
            omega
          by_cases hbracket : c = CodePoint.openBracket
          · cases htag : tagBody? rest with
            | none =>
                have hrest := ih 0 0 (position + 1)
                  (CodePoint.openBracket :: backslashes (slashes - 1) ++ run)
                rw [List.drop_zero, activity_cons_backslashes, Text.activity_openBracket] at hrest
                rw [hbracket, piecesFrom_bracket htag, Text.activity_openBracket]
                omega
            | some body =>
                have hrest := ih (body.length + 1) 0 (position + 1) []
                rw [Text.activity_nil, Nat.zero_add] at hrest
                rw [hbracket, piecesFrom_tag htag]
                exact (activity_tag_lt htag slashes position run hrest).le
          · have hrest := ih 0 0 (position + 1) (c :: backslashes slashes ++ run)
            rw [List.drop_zero, activity_cons_backslashes] at hrest
            rw [piecesFrom_other hc hbracket]
            omega

/-- A bracket that opens a tag or stands behind a backslash takes a sign away. -/
theorem activity_piecesFrom_lt (h : ¬ IsQuiet slashes t) (position : ℕ) (run : Text) :
    activity (plainText (piecesFrom 0 slashes position run t)) <
      slashes + activity run + activity t := by
  induction t generalizing slashes position run with
  | nil => exact absurd (isQuiet_nil slashes) h
  | cons c rest ih =>
      rw [isQuiet_cons, not_and_or] at h
      rw [Text.activity_cons c rest]
      by_cases hc : c = CodePoint.backslash
      · have hbracket : c ≠ CodePoint.openBracket := hc ▸ by decide
        rw [if_pos hc] at h
        have hrest := ih (h.resolve_left (not_not_intro (absurd · hbracket))) (position + 1) run
        rw [hc, piecesFrom_backslash, Text.activity_backslash]
        omega
      rw [if_neg hc] at h
      by_cases hbracket : c = CodePoint.openBracket
      · cases htag : tagBody? rest with
        | none =>
            have hle := activity_piecesFrom_le 0 0 (position + 1)
              (CodePoint.openBracket :: backslashes (slashes - 1) ++ run) rest
            rw [List.drop_zero, activity_cons_backslashes, Text.activity_openBracket] at hle
            rw [hbracket, piecesFrom_bracket htag, Text.activity_openBracket]
            rcases Nat.eq_zero_or_pos slashes with hzero | hpos
            · have hrest := ih (h.resolve_left (not_not_intro fun _ => ⟨htag, hzero⟩))
                (position + 1) (CodePoint.openBracket :: backslashes (slashes - 1) ++ run)
              rw [activity_cons_backslashes, Text.activity_openBracket] at hrest
              omega
            · omega
        | some body =>
            have hrest := activity_piecesFrom_le (body.length + 1) 0 (position + 1) [] rest
            rw [Text.activity_nil, Nat.zero_add] at hrest
            rw [hbracket, piecesFrom_tag htag]
            exact activity_tag_lt htag slashes position run hrest
      · have hrest := ih (h.resolve_left (not_not_intro (absurd · hbracket))) (position + 1)
          (c :: backslashes slashes ++ run)
        rw [activity_cons_backslashes] at hrest
        rw [piecesFrom_other hc hbracket]
        omega

theorem piecesFrom_of_isQuiet (h : IsQuiet slashes t) (position : ℕ) (run : Text) :
    piecesFrom 0 slashes position run t =
      withText (run.reverse ++ backslashes slashes ++ t) [] := by
  induction t generalizing slashes position run with
  | nil => simp [piecesFrom, backslashes]
  | cons c rest ih =>
      rw [isQuiet_cons] at h
      obtain ⟨hopen, hrest⟩ := h
      by_cases hc : c = CodePoint.backslash
      · rw [if_pos hc] at hrest
        rw [hc, piecesFrom_backslash, ih hrest, backslashes, List.replicate_succ']
        simp [backslashes]
      rw [if_neg hc] at hrest
      by_cases hbracket : c = CodePoint.openBracket
      · obtain ⟨htag, rfl⟩ := hopen hbracket
        rw [hbracket, piecesFrom_bracket htag, ih hrest]
        simp [backslashes]
      · rw [piecesFrom_other hc hbracket, ih hrest]
        simp [backslashes]

/-! ## The shown text -/

section Shown

variable {s s' : Shown} {piece : Piece} {name text : Text}

theorem Shown.text_append (s : Shown) (t : Text) : (s.append t).text = s.text ++ t := by
  simp [Shown.append, Shown.text]

theorem Shown.add_plain (s : Shown) (t : Text) :
    s.add (.plain t) = .ok (s.append ((Emoji.replace t).filter fun c => !isLeftOut c)) := rfl

/-- Without a tag no style is looked up. -/
theorem Shown.checkStyles_append (t : Text) :
    (Shown.append ⟨[], 0, [], []⟩ t).checkStyles = .ok () := rfl

/-- Closing a tag shows nothing. -/
theorem Shown.text_close (h : s.close position body name = .ok s') : s'.text = s.text := by
  obtain ⟨⟨⟨start, tag⟩, others⟩, -, h⟩ := Outcome.bind_eq_ok.mp h
  dsimp only at h
  split at h
  next =>
    obtain ⟨-, -, h⟩ := Outcome.bind_eq_ok.mp h
    cases h
    rfl
  next =>
    cases h
    rfl

/-- A tag shows nothing. -/
theorem Shown.text_add_tag (h : s.add (.tag position body) = .ok s') : s'.text = s.text := by
  simp only [Shown.add] at h
  split at h
  next =>
    cases h
    rfl
  next =>
    split at h
    next => exact Shown.text_close h
    next =>
      obtain ⟨usual, -, h⟩ := Outcome.bind_eq_ok.mp h
      cases h
      rfl

theorem activity_add_le (h : s.add piece = .ok s') :
    activity s'.text ≤ activity s.text + activity (plainText [piece]) := by
  cases piece with
  | plain t =>
      cases h
      rw [Shown.text_append, Text.activity_append, plainText_plain]
      have hreplaced := Emoji.activity_replace t
      have hkept := Text.activity_filter_le (fun c => !isLeftOut c) (Emoji.replace t)
      omega
  | tag position body =>
      rw [Shown.text_add_tag h]
      exact Nat.le_add_right _ _

theorem activity_foldlM_add_le {pieces : List Piece} (h : pieces.foldlM Shown.add s = .ok s') :
    activity s'.text ≤ activity s.text + activity (plainText pieces) := by
  induction pieces generalizing s with
  | nil =>
      cases h
      exact Nat.le_add_right _ _
  | cons piece pieces ih =>
      rw [List.foldlM_cons] at h
      obtain ⟨next, hnext, h⟩ := Outcome.bind_eq_ok.mp h
      have hrest := ih h
      have hpiece := activity_add_le hnext
      rw [← List.singleton_append, plainText_append, Text.activity_append]
      omega

theorem activity_shown_le (h : shown t = .ok text) :
    activity text ≤ activity (plainText (pieces t)) := by
  obtain ⟨s, hs, h⟩ := Outcome.bind_eq_ok.mp h
  obtain ⟨-, -, h⟩ := Outcome.bind_eq_ok.mp h
  cases h
  have hnone : activity (Shown.text ⟨[], 0, [], []⟩) = 0 := rfl
  have hle := activity_foldlM_add_le hs
  rwa [hnone, Nat.zero_add] at hle

/-- Without tags, what is shown is the text with its emoji. -/
theorem shown_of_isQuiet (h : IsQuiet 0 t) :
    shown t = .ok ((Emoji.replace t).filter fun c => !isLeftOut c) := by
  have hpieces : pieces t = withText t [] := piecesFrom_of_isQuiet h 0 []
  cases t with
  | nil => rfl
  | cons c rest =>
      have hone : withText (c :: rest) [] = [.plain (c :: rest)] := rfl
      rw [shown, hpieces, hone, List.foldlM_cons, Shown.add_plain, Outcome.bind_ok, List.foldlM_nil,
        Outcome.pure_eq_ok, Outcome.bind_ok, Shown.checkStyles_append, Outcome.bind_ok,
        Shown.text_append]
      rfl

end Shown

/-! ## Lines -/

theorem activity_expandParts (column : ℕ) (parts : List Text) :
    activity (expandParts column parts) = (parts.map activity).sum := by
  fun_induction expandParts column parts with
  | case1 => rfl
  | case2 part => simp
  | case3 column part next rest part' column' blanks ih =>
      have hblanks : activity (List.replicate blanks 0x20) = 0 :=
        Text.activity_eq_zero.mpr fun c hc => List.eq_of_mem_replicate hc ▸ rfl
      have hpart : activity part' = activity part := by
        rw [Text.activity_append]
        rfl
      rw [Text.activity_append, Text.activity_append, ih, hblanks, hpart, Nat.add_zero,
        List.map_cons (a := part), List.sum_cons]

theorem activity_expandLine (line : Text) : activity (expandLine line) = activity line := by
  rw [expandLine, activity_expandParts, Text.activity_cutAt (by decide)]

/-- A text on one line without control characters. -/
def IsLine (t : Text) : Prop :=
  ∀ c ∈ t, c ≠ CodePoint.lineFeed ∧ c ≠ CodePoint.tab ∧ isLeftOut c = false

/-- Printable code points stay on their line. -/
theorem isLine_of_isPrintable (h : ∀ p ∈ t, CodePoint.isPrintable p) : IsLine t := by
  intro c hc
  have hprintable := h c hc
  refine ⟨?_, ?_, ?_⟩
  · rintro rfl
    exact absurd hprintable (by decide)
  · rintro rfl
    exact absurd hprintable (by decide)
  · refine Bool.eq_false_iff.mpr fun hleft => ?_
    simp only [isLeftOut, Bool.or_eq_true, beq_iff_eq] at hleft
    rcases hleft with (((rfl | rfl) | rfl) | rfl) | rfl <;> exact absurd hprintable (by decide)

theorem expandLine_of_isLine (h : IsLine t) : expandLine t = t := by
  rw [expandLine, Text.cutAt_of_notMem fun hmem => (h _ hmem).2.1 rfl, expandParts]

theorem layout_of_shown {text : Text} (htext : shown t = .ok text) (hline : IsLine text) :
    layout t = .ok (text ++ [CodePoint.lineFeed]) := by
  have hcut := Text.cutAt_of_notMem fun hmem => (hline _ hmem).1 rfl
  have hjoin : Text.join [CodePoint.lineFeed] [expandLine text] = text := by
    rw [expandLine_of_isLine hline]
    simp [Text.join]
  rw [layout, htext, Outcome.bind_ok, hcut]
  exact congrArg (fun lines => Except.ok (lines ++ [CodePoint.lineFeed])) hjoin

/-- Nothing is left out of a line. -/
theorem filter_of_isLine (hline : IsLine t) : t.filter (fun c => !isLeftOut c) = t :=
  List.filter_eq_self.mpr fun c hc => by rw [(hline c hc).2.2]; rfl

theorem layout_of_isQuiet (hline : IsLine t) (hquiet : IsQuiet 0 t)
    (hcode : ∀ body ∈ Emoji.codes t, Emoji.named? body = none) :
    layout t = .ok (t ++ [CodePoint.lineFeed]) := by
  refine layout_of_shown ?_ hline
  rw [shown_of_isQuiet hquiet, Emoji.replace_of_unnamed hcode, filter_of_isLine hline]

/-- Laying out a text in lines adds no sign and takes none away. -/
theorem activity_layout {line : Text} (h : layout t = .ok line) :
    ∃ text, shown t = .ok text ∧ activity line = activity text := by
  obtain ⟨text, htext, h⟩ := Outcome.bind_eq_ok.mp h
  cases h
  have hexpand : activity ∘ expandLine = activity := funext activity_expandLine
  refine ⟨text, htext, ?_⟩
  rw [Text.activity_append, Text.activity_lineFeed, Nat.add_zero,
    Text.activity_join Text.activity_lineFeed, List.map_map, hexpand,
    Text.activity_cutAt (by decide)]

theorem activity_layout_le {line : Text} (h : layout t = .ok line) :
    activity line ≤ activity t := by
  obtain ⟨text, htext, hsame⟩ := activity_layout h
  have hpieces := activity_piecesFrom_le 0 0 0 [] t
  have hshown := activity_shown_le htext
  rw [pieces] at hshown
  rw [List.drop_zero, Text.activity_nil] at hpieces
  omega

/-- What keeps all its signs has neither tags nor codes of emoji. -/
theorem isQuiet_of_activity {line : Text} (h : layout t = .ok line)
    (hkept : activity line = activity t) :
    IsQuiet 0 t ∧ ∀ body ∈ Emoji.codes t, Emoji.named? body = none := by
  obtain ⟨text, htext, hsame⟩ := activity_layout h
  have hquiet : IsQuiet 0 t := by
    by_contra hloud
    have hpieces := activity_piecesFrom_lt hloud 0 []
    have hshown := activity_shown_le htext
    rw [pieces] at hshown
    rw [Text.activity_nil] at hpieces
    omega
  refine ⟨hquiet, fun body hbody => ?_⟩
  -- Had a code an emoji, its colons would be missing.
  rw [shown_of_isQuiet hquiet] at htext
  cases htext
  have hreplaced := Emoji.activity_replace t
  have hfiltered := Text.activity_filter_le (fun c => !isLeftOut c) (Emoji.replace t)
  have hnone : Emoji.namedCount (Emoji.codes t) = 0 := by omega
  rw [Emoji.namedCount, List.countP_eq_zero] at hnone
  exact Option.not_isSome_iff_eq_none.mp (hnone body hbody)

end Markup

end Polyglot
