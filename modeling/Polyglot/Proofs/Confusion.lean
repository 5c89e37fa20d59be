import Polyglot.Proofs.Grouping
import Polyglot.Proofs.Scientific
import Polyglot.Proofs.Scoring

/-! # The confusion table

A table counts each pair of an expectation and a prediction as often as it came, and it remembers in
which order expectations came, and predictions beside each of them. So its entries add up to the
records of a file, and those of a prediction that was expected add up to the correct rows.
-/

namespace Polyglot

namespace Entries

variable {κ α β : Type} [DecidableEq κ]

/-- The keys of a gathered table, whichever way keys are compared. -/
theorem keys_gather_of_lawful [BEq κ] [LawfulBEq κ] (key : β → κ) (change : β → Option α → α)
    (items : List β) : keys (gather key change items) = (items.map key).eraseDups := by
  have hsame : (instBEqOfDecidableEq : BEq κ) = ‹BEq κ› := lawful_beq_subsingleton _ _
  rw [keys_gather, hsame]

/-- Writing to a table changes a sum over its entries by as much as it changes what stands at the
key. -/
theorem sum_alter (weigh : κ → α → ℕ) (key : κ) (change : Option α → α) (entries : List (κ × α)) :
    ((alter key change entries).map fun e => weigh e.1 e.2).sum +
        ((get? key entries).map (weigh key)).getD 0 =
      (entries.map fun e => weigh e.1 e.2).sum + weigh key (change (get? key entries)) := by
  induction entries with
  | nil => simp [alter, get?]
  | cons e rest ih =>
      rcases e with ⟨k, a⟩
      rw [alter, get?]
      split
      next heq =>
        subst heq
        simp only [List.map_cons, List.sum_cons, Option.map_some, Option.getD_some]
        omega
      next =>
        simp only [List.map_cons, List.sum_cons]
        omega

/-- What is made of nothing by the first item is made of the default, item by item. -/
theorem getD_foldl_some {γ : Type} (change : β → γ → γ) (default : γ) (items : List β)
    (found : Option γ) :
    (items.foldl (fun a item => some (change item (a.getD default))) found).getD default =
      items.foldl (fun a item => change item a) (found.getD default) := by
  induction items generalizing found with
  | nil => rfl
  | cons item items ih => exact ih _

end Entries

namespace Scoring

open Records

namespace Confusion

/-- The predictions beside an expectation; there are none beside one that never came. -/
def row (table : Confusion) (expected : Text) : List (Text × Nat) :=
  (Entries.get? expected table).getD []

/-- How often an expectation met a prediction. -/
def count (table : Confusion) (expected predicted : Text) : Nat :=
  (Entries.get? predicted (table.row expected)).getD 0

/-- How often a prediction was made, whatever was expected. -/
def column (table : Confusion) (predicted : Text) : Nat :=
  (table.map fun entry => (Entries.get? predicted entry.2).getD 0).sum

/-- How often the prediction was the expected one. -/
def diagonal (table : Confusion) : Nat :=
  (table.map fun entry => (Entries.get? entry.1 entry.2).getD 0).sum

/-- How many predictions there are in all. -/
def total (table : Confusion) : Nat :=
  (table.map fun entry => (entry.2.map fun cell => cell.2).sum).sum

/-- How often each prediction was made. -/
def tally (predictions : List Text) : List (Text × Nat) :=
  Entries.gather id (fun _ n => n.getD 0 + 1) predictions

theorem keys_tally (predictions : List Text) :
    Entries.keys (tally predictions) = predictions.eraseDups := by
  rw [tally, Entries.keys_gather_of_lawful, List.map_id]

theorem count_tally (predictions : List Text) (p : Text) :
    (Entries.get? p (tally predictions)).getD 0 = predictions.count p := by
  rw [tally, Entries.get?_gather, Entries.getD_foldl_some (fun _ n => n + 1), List.foldl_add_const,
    Option.getD_none, Nat.zero_add, Nat.one_mul, ← List.countP_eq_length_filter]
  refine List.countP_congr fun q _ => ?_
  rw [decide_eq_true_eq, beq_iff_eq, id_eq]

/-- Each prediction that is counted was made. -/
theorem pos_of_mem_tally {predictions : List Text} {entry : Text × Nat}
    (hentry : entry ∈ tally predictions) : entry.2 = predictions.count entry.1 ∧ 0 < entry.2 := by
  have hget := (Entries.get?_eq_some_iff (Entries.nodup_keys_gather _ _ _)).mpr hentry
  have hcount := count_tally predictions entry.1
  rw [tally, hget, Option.getD_some] at hcount
  have hmem : entry.1 ∈ predictions := by
    rw [← List.mem_eraseDups, ← keys_tally]
    exact Entries.mem_keys_of_mem hentry
  exact ⟨hcount, hcount ▸ List.count_pos_iff.mpr hmem⟩

variable (pairs : List (Text × Text))

theorem confusion_eq_gather :
    confusion pairs = Entries.gather Prod.fst
      (fun pair row => Entries.alter pair.2 (fun n => n.getD 0 + 1) (row.getD [])) pairs := rfl

/-- Beside an expectation stand the predictions that were made when it came. -/
theorem row_confusion (e : Text) :
    (confusion pairs).row e = tally ((pairs.filter fun pair => pair.1 = e).map Prod.snd) := by
  rw [row, confusion_eq_gather, Entries.get?_gather, Entries.getD_foldl_some
    (fun pair row => Entries.alter (Prod.snd pair) (fun n => n.getD 0 + 1) row), tally,
    Entries.gather, List.foldl_map]
  rfl

theorem keys_confusion : Entries.keys (confusion pairs) = (pairs.map Prod.fst).eraseDups := by
  rw [confusion_eq_gather, Entries.keys_gather_of_lawful]

theorem nodup_keys_confusion : (Entries.keys (confusion pairs)).Nodup :=
  Entries.nodup_keys_gather _ _ _

theorem count_confusion (e p : Text) : (confusion pairs).count e p = pairs.count (e, p) := by
  rw [count, row_confusion, count_tally, List.count, List.countP_map, List.countP_filter]
  refine List.countP_congr fun pair _ => ?_
  rw [Function.comp_apply, Bool.and_eq_true, beq_iff_eq, decide_eq_true_eq, beq_iff_eq,
    Prod.ext_iff, and_comm]

/-- A sum over the rows of a table counts pairs, if one more prediction adds to its row as much as
the pair counts. -/
theorem sum_confusion (weigh : Text → List (Text × Nat) → ℕ) (counts : Text × Text → Bool)
    (hnil : ∀ e, weigh e [] = 0)
    (hgain : ∀ pair row, weigh pair.1 (Entries.alter pair.2 (fun n => n.getD 0 + 1) row) =
      weigh pair.1 row + if counts pair then 1 else 0) :
    ((confusion pairs).map fun entry => weigh entry.1 entry.2).sum = pairs.countP counts := by
  induction pairs using List.reverseRecOn with
  | nil => rfl
  | append_singleton pairs pair ih =>
      -- The last pair changes the row of its expectation alone, which it may have to open.
      have hsum := Entries.sum_alter weigh pair.1
        (fun row => Entries.alter pair.2 (fun n => n.getD 0 + 1) (row.getD [])) (confusion pairs)
      have hold : ((Entries.get? pair.1 (confusion pairs)).map (weigh pair.1)).getD 0 =
          weigh pair.1 ((Entries.get? pair.1 (confusion pairs)).getD []) := by
        cases Entries.get? pair.1 (confusion pairs) with
        | none => exact (hnil pair.1).symm
        | some row => rfl
      have hnew := hgain pair ((Entries.get? pair.1 (confusion pairs)).getD [])
      rw [confusion_eq_gather, Entries.gather_concat, ← confusion_eq_gather, List.countP_append,
        List.countP_singleton]
      omega

theorem total_confusion : (confusion pairs).total = pairs.length := by
  rw [← List.countP_true]
  refine sum_confusion pairs (fun _ row => (row.map fun cell => cell.2).sum) _ (fun _ => rfl) ?_
  intro pair row
  have hrow := Entries.sum_alter (fun _ n => n) pair.2 (fun n => n.getD 0 + 1) row
  rw [Option.map_id'] at hrow
  rw [if_pos rfl]
  omega

theorem diagonal_confusion :
    (confusion pairs).diagonal = pairs.countP fun pair => pair.2 == pair.1 := by
  refine sum_confusion pairs (fun e row => (Entries.get? e row).getD 0) _ (fun _ => rfl) ?_
  intro pair row
  rw [Entries.get?_alter]
  split <;> simp [*]

end Confusion

/-- A row is counted as correct when what is predicted is what it expects. -/
theorem correct_summarize (outcomes : List (Row × Outcome)) :
    (summarize outcomes).correct =
      (outcomes.filterMap fun o => o.2.pair?).countP fun pair => pair.2 == pair.1 := by
  rw [List.countP_filterMap]
  refine List.countP_congr fun o _ => ?_
  rw [Outcome.isCorrect]
  cases o.2.pair? <;> rfl

section Judging

variable [Limits] {c : Classifier} {keys : Keys} {content : Text}

/-- What is predicted for a text: its language, or the mark of a failure. -/
def prediction (c : Classifier) (t : Text) : Text :=
  match c.classify t with
  | .ok language => language
  | .error _ => failureMark

/-- What a row expects and what is predicted for it, if it is an object. -/
def judged? (c : Classifier) (keys : Keys) (content : Text) : Option (Text × Text) :=
  match Json.decode Limits.decoding content with
  | .ok (.object members) =>
    some (Text.strip (textAt keys.label members), prediction c (textAt keys.text members))
  | _ => none

/-- Holds of a row that is an object. -/
def isObject (content : Text) : Bool :=
  match Json.decode Limits.decoding content with
  | .ok (.object _) => true
  | _ => false

theorem isSome_judged? (c : Classifier) (keys : Keys) (content : Text) :
    (judged? c keys content).isSome = isObject content := by
  unfold judged? isObject
  split <;> rfl

/-- The pair that enters the table is what the row expects and what is predicted for it. -/
theorem pair?_of_score {outcome : Outcome} (h : score c keys content = .ok outcome) :
    outcome.pair? = judged? c keys content := by
  obtain ⟨parsed, hparsed, h⟩ := Outcome.bind_eq_ok.mp h
  unfold judged?
  rcases parse_eq_ok hparsed with ⟨v, hv, rfl⟩ | ⟨complaint, place, hcomplaint, rfl⟩
  · rw [hv]
    cases v with
    | object members =>
        dsimp only [scoreRecord, prediction] at h ⊢
        rcases Classifier.classify_cases c (textAt keys.text members) with
          ⟨language, hlanguage⟩ | hempty
        · rw [hlanguage] at h ⊢
          cases h
          rfl
        · rw [hempty] at h ⊢
          cases h
          rfl
    | _ =>
        cases h
        rfl
  · cases h
    rw [hcomplaint]
    rfl

/-- The pairs that enter the table are those of the rows, in their order. -/
theorem pairs_handled {rs : List Row} (hstop : (run (score c keys) rs).stop = none) :
    ((run (score c keys) rs).handled.filterMap fun o => o.2.pair?) =
      rs.filterMap fun row => judged? c keys row.content := by
  have hhandled := forall₂_handled hstop
  generalize (run (score c keys) rs).handled = handled at hhandled
  clear hstop
  induction hhandled with
  | nil => rfl
  | @cons row h rest handled hrow _ ih =>
      rw [List.filterMap_cons, List.filterMap_cons, ih, pair?_of_score hrow.2]

end Judging

/-- As long as both counters are exactly doubles, the share is rounded once. -/
theorem Summary.accuracy_eq_nearest {summary : Summary} (hcorrect : summary.correct ≤ summary.rows)
    (hrows : summary.rows < 2 ^ 53) :
    summary.accuracy = Binary64.nearestDouble (summary.correct / summary.rows) := by
  unfold Summary.accuracy
  split
  next hnone => rw [hnone, Nat.cast_zero, div_zero, Binary64.nearestDouble, if_pos rfl]
  next hsome => exact Binary64.ofNat_div_ofNat (by omega) (Nat.pos_of_ne_zero hsome) hrows

/-- What a table tells of the rows of a file, and how it goes together with the counters. -/
structure Tabulates [Limits] (c : Classifier) (keys : Keys) (rs : List Row)
    (summary : Summary) : Prop where
  /-- An entry counts the objects that have its expectation and its prediction. -/
  count_eq : ∀ e p, summary.confusion.count e p =
    rs.countP fun row => judged? c keys row.content = some (e, p)
  /-- There are no entries of zero, and no expectations without entries. -/
  pos : ∀ entry ∈ summary.confusion, entry.2 ≠ [] ∧ ∀ cell ∈ entry.2, 0 < cell.2
  /-- The expectations stand in the order in which they first came. -/
  expectations : Entries.keys summary.confusion =
    (rs.filterMap fun row => (judged? c keys row.content).map Prod.fst).eraseDups
  /-- The predictions beside an expectation stand in the order in which they first came with it. -/
  predictions : ∀ e, Entries.keys (summary.confusion.row e) =
    (rs.filterMap fun row => ((judged? c keys row.content).filter fun pair => pair.1 = e).map
      Prod.snd).eraseDups
  rows_eq : summary.rows = rs.length
  /-- The entries are as many as the rows that are objects. -/
  total : summary.confusion.total + rs.countP (fun row => !isObject row.content) = summary.rows
  /-- The entries of predictions that were expected are as many as the correct rows. -/
  diagonal : summary.confusion.diagonal = summary.correct
  accuracy_eq : summary.accuracy =
    if summary.rows = 0 then 0 else Float.ofNat summary.correct / Float.ofNat summary.rows
  /-- As long as both counters are exactly doubles, the share is the double nearest to it. -/
  accuracy_nearest : summary.rows < 2 ^ 53 →
    summary.accuracy = Binary64.nearestDouble (summary.correct / summary.rows)

/-- Every row of a table was opened by a prediction, and every entry of it counts one. -/
theorem Confusion.pos_of_mem {pairs : List (Text × Text)} {entry : Text × List (Text × Nat)}
    (hentry : entry ∈ confusion pairs) : entry.2 ≠ [] ∧ ∀ cell ∈ entry.2, 0 < cell.2 := by
  have hget := (Entries.get?_eq_some_iff (nodup_keys_confusion pairs)).mpr hentry
  have hrow := row_confusion pairs entry.1
  rw [row, hget, Option.getD_some] at hrow
  refine ⟨?_, fun cell hcell => ?_⟩
  · -- The pair that opened the row has left a prediction in it.
    have hkey : entry.1 ∈ pairs.map Prod.fst := by
      rw [← List.mem_eraseDups, ← keys_confusion]
      exact Entries.mem_keys_of_mem hentry
    obtain ⟨pair, hpair, hexpected⟩ := List.mem_map.mp hkey
    have hmade : pair.2 ∈ (pairs.filter fun pair => pair.1 = entry.1).map Prod.snd :=
      List.mem_map_of_mem (List.mem_filter.mpr ⟨hpair, decide_eq_true hexpected⟩)
    rw [← List.mem_eraseDups, ← keys_tally, ← hrow] at hmade
    intro hnil
    rw [hnil] at hmade
    cases hmade
  · rw [hrow] at hcell
    exact (pos_of_mem_tally hcell).2

theorem tabulates_of_run [Limits] {c : Classifier} {keys : Keys} {rs : List Row}
    (hstop : (run (score c keys) rs).stop = none) :
    Tabulates c keys rs (summarize (run (score c keys) rs).handled) := by
  set outcomes := (run (score c keys) rs).handled with houtcomes
  set pairs := rs.filterMap fun row => judged? c keys row.content with hpairs
  -- The table and the correct rows are both made of these pairs.
  have htable : (summarize outcomes).confusion = confusion pairs := by
    rw [summarize, houtcomes, pairs_handled hstop]
  have hcorrect : (summarize outcomes).correct = pairs.countP fun pair => pair.2 == pair.1 := by
    rw [correct_summarize, houtcomes, pairs_handled hstop]
  have hrows : (summarize outcomes).rows = rs.length := (forall₂_handled hstop).length_eq.symm
  refine
    { count_eq := fun e p => ?_
      pos := fun entry hentry => ?_
      expectations := ?_
      predictions := fun e => ?_
      rows_eq := hrows
      total := ?_
      diagonal := ?_
      accuracy_eq := rfl
      accuracy_nearest := Summary.accuracy_eq_nearest List.countP_le_length }
  · rw [htable, Confusion.count_confusion, List.count, hpairs, List.countP_filterMap]
    refine List.countP_congr fun row _ => ?_
    cases judged? c keys row.content <;> simp
  · rw [htable] at hentry
    exact Confusion.pos_of_mem hentry
  · rw [htable, Confusion.keys_confusion, hpairs, List.map_filterMap]
  · rw [htable, Confusion.row_confusion, Confusion.keys_tally, hpairs, List.filter_filterMap,
      List.map_filterMap]
  · rw [htable, Confusion.total_confusion, hpairs, List.length_filterMap_eq_countP, hrows]
    simp only [isSome_judged?]
    rw [List.length_eq_countP_add_countP fun row : Row => isObject row.content]
    simp only [Bool.not_eq_true, Bool.decide_eq_false]
  · rw [htable, hcorrect, Confusion.diagonal_confusion]

section File

variable [Limits] {classifier : Action Classifier} {keys : Keys} {source : Path} {s : Session}
  {summary : Summary}

/-- When scoring has come to its end, its table counts each pair of an expectation and a prediction,
in the order in which they first came. So its entries add up to the records, and those where the two
agree add up to the correct rows. -/
theorem scoreFile_tabulates (h : ((scoreFile classifier keys source).perform s).1 = .ok summary) :
    ∃ job opened t, (prepare classifier source).perform s = (.ok job, opened) ∧
      Utf8.decode (opened.files.content job.input) = .ok t ∧
      Tabulates job.classifier keys (rows (Text.unifyNewlines t)) summary := by
  obtain ⟨job, opened, t, hprepare, htext⟩ := exists_of_scoreFile h
  obtain ⟨hstop, rfl⟩ := (scoreFile_eq_ok hprepare htext).mp h
  exact ⟨job, opened, t, hprepare, htext, tabulates_of_run hstop⟩

end File

/-- A record with a text, one without a text, and a row that is no object. -/
def gradedRows : Text :=
  Labelling.endLine ++ "\n" ++ failureLine ++ "\n" ++ Json.encode (.list []) ++ "\n"

theorem isObject_encode [Limits] {v : Json} (h : Json.obstacle? Limits.decoding v = none) :
    isObject (Json.encode v) =
      match v with
      | .object _ => true
      | _ => false := by
  rw [isObject, Json.decode_encode h]
  cases v <;> rfl

open scoped Limits.Usual in
theorem gradedRows_tabulated :
    ∃ summary, ((scoreFile (Labelling.oneLanguage "ruby") .standard (.ofText "rows")).perform
        (fileSession gradedRows)).1 = .ok summary ∧
      summary.rows = 3 ∧ summary.confusion.total = 2 ∧
        summary.confusion.diagonal = summary.correct := by
  obtain ⟨job, opened, hprepare, htext⟩ : ∃ job opened,
      (prepare (Labelling.oneLanguage "ruby") (.ofText "rows")).perform (fileSession gradedRows) =
        (.ok job, opened) ∧
      Utf8.decode (opened.files.content job.input) = .ok gradedRows := ⟨_, _, rfl, by rfl⟩
  have hrows : rows (Text.unifyNewlines gradedRows) =
      [⟨1, Labelling.endLine⟩, ⟨2, failureLine⟩, ⟨3, Json.encode (.list [])⟩] := by rfl
  have hlimit : ∀ row ∈ rows (Text.unifyNewlines gradedRows), ¬PassesLimit row.content := by
    have hshort : ∀ row ∈ rows (Text.unifyNewlines gradedRows),
        row.content.length ≤ Limits.decoding := by decide
    exact fun row hrow => not_passesLimit_of_length ((hshort row hrow).trans (by decide)) (hshort row hrow)
  obtain ⟨summary, h⟩ : ∃ summary, ((scoreFile (Labelling.oneLanguage "ruby") .standard
      (.ofText "rows")).perform (fileSession gradedRows)).1 = .ok summary :=
    (scoreFile_finishes_iff hprepare htext).mpr hlimit
  obtain ⟨job', opened', t, hprepare', htext', htable⟩ := scoreFile_tabulates h
  have ht : t = gradedRows := by
    cases hprepare.symm.trans hprepare'
    exact Except.ok.inj (htext'.symm.trans htext)
  have hlength := htable.rows_eq
  have htotal := htable.total
  rw [ht, hrows] at hlength htotal
  have hend : isObject Labelling.endLine = true := isObject_encode (by rfl)
  have hfailure : isObject failureLine = true := isObject_encode (by rfl)
  have hlist : isObject (Json.encode (.list [])) = false := isObject_encode (by rfl)
  simp only [List.countP_cons, List.countP_nil, hend, hfailure, hlist, hlength] at htotal
  exact ⟨summary, h, hlength, Nat.succ.inj htotal, htable.diagonal⟩

end Scoring

end Polyglot
