import Polyglot.Proofs.Markup

/-! # Words in red

A message may begin with words between a tag that opens a red part and one that closes it. Where the
words have no meaning, they are shown in front of everything else; and where what follows them has
no tags, the message is shown, with the words as they are.
-/

namespace Polyglot

namespace Text

/-- Text in front of the first separator belongs to the first part. -/
theorem cutAt_append {separator : CodePoint} {front : Text} (h : separator ∉ front) (t : Text) :
    cutAt separator (front ++ t) = (cutAt separator t).modifyHead (front ++ ·) := by
  induction front with
  | nil => cases hparts : cutAt separator t <;> simp [hparts]
  | cons c front ih =>
      rw [List.mem_cons, not_or] at h
      obtain ⟨hc, hfront⟩ := h
      have hkept : (c == separator) = false := beq_false_of_ne (Ne.symm hc)
      have hcons : cutAt separator (c :: (front ++ t)) =
          (cutAt separator (front ++ t)).modifyHead (c :: ·) := by
        simp [cutAt, List.splitOn, List.splitOnP_cons_eq_if_modifyHead, hkept]
      rw [List.cons_append, hcons, ih hfront]
      cases cutAt separator t <;> rfl

/-- A join begins with its first part. -/
theorem prefix_join (separator part : Text) (rest : List Text) :
    part <+: join separator (part :: rest) := by
  cases rest with
  | nil => simp [join]
  | cons next rest =>
      rw [join, List.intersperse_cons_cons, List.flatten_cons]
      exact List.prefix_append _ _

end Text

namespace Markup

variable {s s' : Shown} {front text line : Text}

/-- What is shown stays where it is. -/
theorem Shown.prefix_text_add {piece : Piece} (h : s.add piece = .ok s') : s.text <+: s'.text := by
  cases piece with
  | plain t =>
      cases h
      rw [Shown.text_append]
      exact List.prefix_append _ _
  | tag position body => exact ⟨[], by rw [List.append_nil, Shown.text_add_tag h]⟩

theorem Shown.prefix_text_foldlM {pieces : List Piece} (h : pieces.foldlM Shown.add s = .ok s') :
    s.text <+: s'.text := by
  induction pieces generalizing s with
  | nil =>
      cases h
      exact List.prefix_rfl
  | cons piece pieces ih =>
      rw [List.foldlM_cons] at h
      obtain ⟨next, hnext, h⟩ := Outcome.bind_eq_ok.mp h
      exact (Shown.prefix_text_add hnext).trans (ih h)

/-- The front of the first part keeps its place. -/
theorem prefix_expandParts (front : Text) (column : ℕ) {parts : List Text} (hparts : parts ≠ []) :
    front <+: expandParts column (parts.modifyHead (front ++ ·)) := by
  obtain ⟨part, rest, rfl⟩ := List.exists_cons_of_ne_nil hparts
  rw [List.modifyHead_cons]
  cases rest with
  | nil => exact List.prefix_append _ _
  | cons next rest =>
      simp only [expandParts, List.append_assoc]
      exact List.prefix_append _ _

theorem prefix_expandLine (htab : CodePoint.tab ∉ front) (line : Text) :
    front <+: expandLine (front ++ line) := by
  rw [expandLine, Text.cutAt_append htab]
  exact prefix_expandParts front 0 (List.splitOnP_ne_nil _ _)

/-- What is shown in front, without ends of line and tabs, comes out in front. -/
theorem prefix_layout {message : Text} (htab : CodePoint.tab ∉ front)
    (hfeed : CodePoint.lineFeed ∉ front) (htext : shown message = .ok text) (hfront : front <+: text)
    (h : layout message = .ok line) : front <+: line := by
  obtain ⟨rest, rfl⟩ := hfront
  obtain ⟨first, others, hlines⟩ := List.exists_cons_of_ne_nil
    (List.splitOnP_ne_nil (· == CodePoint.lineFeed) rest)
  have hcut : Text.cutAt CodePoint.lineFeed (front ++ rest) = (front ++ first) :: others := by
    rw [Text.cutAt_append hfeed, Text.cutAt, List.splitOn, hlines, List.modifyHead_cons]
  rw [layout, htext, Outcome.bind_ok, hcut] at h
  cases h
  rw [List.map_cons]
  exact (prefix_expandLine htab first).trans
    ((Text.prefix_join _ _ _).trans (List.prefix_append _ _))

/-! ## The pieces -/

/-- Words between the tags that open and close a red part. -/
def red (words : Text) : Text := "[red]" ++ words ++ "[/red]"

variable {words rest : Text}

/-- Signs without a meaning go to the run of text before them. -/
theorem piecesFrom_append (hopen : CodePoint.openBracket ∉ words)
    (hslash : CodePoint.backslash ∉ words) (position : ℕ) (run rest : Text) :
    piecesFrom 0 0 position run (words ++ rest) =
      piecesFrom 0 0 (position + words.length) (words.reverse ++ run) rest := by
  induction words generalizing position run with
  | nil => rfl
  | cons c words ih =>
      obtain ⟨hc, hopen⟩ := List.ne_and_not_mem_of_not_mem_cons hopen
      obtain ⟨hc', hslash⟩ := List.ne_and_not_mem_of_not_mem_cons hslash
      rw [List.cons_append, piecesFrom_other hc'.symm hc.symm, ih hopen hslash]
      simp [backslashes, Nat.add_assoc, Nat.add_comm 1]

/-- The words are a piece between two tags. -/
theorem exists_pieces_red (hne : words ≠ []) (hopen : CodePoint.openBracket ∉ words)
    (hslash : CodePoint.backslash ∉ words) (rest : Text) :
    ∃ position stop, pieces (red words ++ rest) =
      .tag 0 "red" :: .plain words :: .tag position "/red" :: piecesFrom 0 0 stop [] rest := by
  have hfront : pieces (red words ++ rest) =
      .tag 0 "red" :: piecesFrom 0 0 5 [] (words ++ ("[/red]" ++ rest)) := by
    rw [red, List.append_assoc, List.append_assoc]
    rfl
  have hclose (position : ℕ) (run : Text) : piecesFrom 0 0 position run ("[/red]" ++ rest) =
      withText run.reverse [.tag position "/red"] ++ piecesFrom 0 0 (position + 6) [] rest := rfl
  rw [hfront, piecesFrom_append hopen hslash, hclose, List.append_nil, List.reverse_reverse,
    withText, if_neg (by simpa using hne)]
  exact ⟨_, _, rfl⟩

/-! ## The style -/

/-- The table of the colors is not looked into: red is a color or no style at all. -/
theorem readStyle_red :
    Style.read "red" = .ok { Style.plain with color := some "red" } ∨
      Style.read "red" = .error .unknown := by
  have hlower : Text.lower "red" = "red" := by rfl
  have hnameless : Color.readNameless "red" = .error .unknown := by rfl
  have hcolor : Color.read "red" = .ok "red" ∨
      Color.read "red" = .error .unknown := by
    simp only [Color.read, hlower]
    split
    next => exact .inl rfl
    next =>
      rw [hnameless]
      exact .inr rfl
  have hread : Style.read "red" = (do
      let name ← Color.read "red"
      Style.readWords { Style.plain with color := some name } []) := by
    have hwords : Text.words "red" = [("red" : Text)] := by rfl
    have hattribute : Style.attribute? "red" = none := by rfl
    rw [Style.read, if_neg (by decide), hwords]
    simp only [Style.readWords, hlower, hattribute]
    rw [if_neg (by decide), if_neg (by decide), if_neg (by decide)]
  rw [hread]
  rcases hcolor with h | h
  · rw [h]
    exact .inl rfl
  · rw [h]
    exact .inr rfl

theorem usualName_red : usualName "red" = .ok "red" := by
  rw [usualName, Style.normalForm]
  rcases readStyle_red with h | h
  · rw [h]
    rfl
  · rw [h]
    rfl

theorem lookUp_red : Style.lookUp "red" = .ok () := by
  rw [Style.lookUp]
  rcases readStyle_red with h | h
  · rw [h]
  · rw [h]

/-- The tag of the heading is opened in front of everything. -/
theorem add_red : Shown.add ⟨[], 0, [], []⟩ (.tag 0 "red") =
    .ok ⟨[], 0, [(0, ⟨"red", none⟩)], []⟩ := by
  have hopen : Shown.add ⟨[], 0, [], []⟩ (.tag 0 "red") = (do
      let usual ← usualName "red"
      pure ⟨[], 0, [(0, ⟨usual, none⟩)], []⟩) := rfl
  rw [hopen, usualName_red]
  rfl

/-- The tag of the heading is closed behind it. -/
theorem add_closeRed (reversed : Text) (length position : ℕ) :
    Shown.add ⟨reversed, length, [(0, ⟨"red", none⟩)], []⟩ (.tag position "/red") =
      .ok ⟨reversed, length, [], [⟨0, length, "red"⟩]⟩ := by
  have hclose : Shown.add ⟨reversed, length, [(0, ⟨"red", none⟩)], []⟩ (.tag position "/red") =
      Shown.close ⟨reversed, length, [(0, ⟨"red", none⟩)], []⟩ position "/red" "red" := rfl
  have htake : takeTag [(0, ⟨"red", none⟩)] position "/red" "red" =
      .ok ((0, ⟨"red", none⟩), []) := by
    rw [takeTag, if_neg (by decide), usualName_red]
    rfl
  rw [hclose, Shown.close, htake]
  rfl

theorem checkStyles_red {s : Shown} {length : ℕ} (hopen : s.openTags = [])
    (hspans : s.spans = [⟨0, length, "red"⟩]) : s.checkStyles = .ok () := by
  have hall : s.allSpans = [⟨0, length, "red"⟩] := by
    rw [Shown.allSpans, hopen, hspans]
    rfl
  rw [Shown.checkStyles, hall, List.filter_singleton]
  cases Span.isVisible s.text ⟨0, length, "red"⟩ with
  | false => rfl
  | true =>
      rw [cond_true, List.forM_eq_forM, List.forM_cons, lookUp_red]
      rfl

/-! ## The lines -/

section Layout

variable (hne : words ≠ []) (hopen : CodePoint.openBracket ∉ words)
  (hslash : CodePoint.backslash ∉ words)
  (hwords : (Emoji.replace words).filter (fun c => !isLeftOut c) = words)

include hne hopen hslash hwords

/-- Words in red come first, if the message is shown. -/
theorem prefix_layout_red (htab : CodePoint.tab ∉ words) (hfeed : CodePoint.lineFeed ∉ words)
    (h : layout (red words ++ rest) = .ok line) : words <+: line := by
  obtain ⟨text, htext, -⟩ := Outcome.bind_eq_ok.mp h
  refine prefix_layout htab hfeed htext ?_ h
  obtain ⟨s, hs, htext⟩ := Outcome.bind_eq_ok.mp htext
  obtain ⟨-, -, htext⟩ := Outcome.bind_eq_ok.mp htext
  cases htext
  obtain ⟨position, stop, hpieces⟩ := exists_pieces_red hne hopen hslash rest
  rw [hpieces, List.foldlM_cons] at hs
  obtain ⟨opened, hopened, hs⟩ := Outcome.bind_eq_ok.mp hs
  rw [List.foldlM_cons, Shown.add_plain, hwords, Outcome.bind_ok] at hs
  refine List.IsPrefix.trans ?_ (Shown.prefix_text_foldlM hs)
  rw [Shown.text_append, Shown.text_add_tag hopened]
  exact List.prefix_rfl

/-- Behind the words, a text without tags is shown with its emoji. -/
theorem shown_red (hquiet : IsQuiet 0 rest) :
    shown (red words ++ rest) =
      .ok (words ++ (Emoji.replace rest).filter fun c => !isLeftOut c) := by
  obtain ⟨position, stop, hpieces⟩ := exists_pieces_red hne hopen hslash rest
  have hrest : piecesFrom 0 0 stop [] rest = withText rest [] :=
    piecesFrom_of_isQuiet hquiet stop []
  have hstart : Shown.append ⟨[], 0, [(0, ⟨"red", none⟩)], []⟩ words =
      ⟨words.reverse ++ [], 0 + words.length, [(0, ⟨"red", none⟩)], []⟩ := rfl
  rw [shown, hpieces, hrest, List.foldlM_cons, add_red, Outcome.bind_ok, List.foldlM_cons,
    Shown.add_plain, hwords, hstart, Outcome.bind_ok, List.foldlM_cons, add_closeRed,
    Outcome.bind_ok]
  cases rest with
  | nil =>
      have hnone : (Emoji.replace []).filter (fun c => !isLeftOut c) = [] := rfl
      have hnothing : withText [] [] = [] := rfl
      rw [hnone, hnothing, List.foldlM_nil, Outcome.pure_eq_ok, Outcome.bind_ok,
        checkStyles_red rfl rfl, Outcome.bind_ok]
      simp [Shown.text]
  | cons c rest =>
      have hone : withText (c :: rest) [] = [.plain (c :: rest)] := rfl
      rw [hone, List.foldlM_cons, Shown.add_plain, Outcome.bind_ok, List.foldlM_nil,
        Outcome.pure_eq_ok, Outcome.bind_ok, checkStyles_red rfl rfl, Outcome.bind_ok,
        Shown.text_append]
      simp [Shown.text]

/-- Only tags behind the words keep a message from being shown. -/
theorem exists_layout_red (hquiet : IsQuiet 0 rest) :
    ∃ line, layout (red words ++ rest) = .ok line := by
  rw [layout, shown_red hne hopen hslash hwords hquiet]
  exact ⟨_, rfl⟩

/-- A text on one line without tags and codes stands behind the words as it is. -/
theorem layout_red (hwordsLine : IsLine words) (hline : IsLine rest) (hquiet : IsQuiet 0 rest)
    (hcode : ∀ body ∈ Emoji.codes rest, Emoji.named? body = none) :
    layout (red words ++ rest) = .ok (words ++ rest ++ [CodePoint.lineFeed]) := by
  refine layout_of_shown ?_ (List.forall_mem_append.mpr ⟨hwordsLine, hline⟩)
  rw [shown_red hne hopen hslash hwords hquiet, Emoji.replace_of_unnamed hcode,
    filter_of_isLine hline]

end Layout

end Markup

end Polyglot
