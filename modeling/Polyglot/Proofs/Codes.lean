import Mathlib.Data.List.SplitBy
import Polyglot.Markup.Emoji
import Polyglot.Proofs.Entries

/-! # Codes and the signs they are made of

A text on the console may hold brackets, backslashes and colons that are not shown. No emoji holds
any of the three. Replacing codes therefore never adds to them, and takes some away as soon as the
name of a code is known; a text whose codes are all unknown stays as it is.
-/

namespace Polyglot

namespace CodePoint

/-- A sign that the console may take for something other than itself. -/
def isActive (c : CodePoint) : Bool := c == openBracket || c == backslash || c == Emoji.colon

end CodePoint

namespace Text

/-- How many signs of a text the console may take for something other than themselves. -/
def activity (t : Text) : ℕ := t.countP CodePoint.isActive

@[simp] theorem activity_nil : activity [] = 0 := rfl

@[simp] theorem activity_append (t u : Text) : activity (t ++ u) = activity t + activity u :=
  List.countP_append

theorem activity_cons (c : CodePoint) (t : Text) :
    activity (c :: t) = activity [c] + activity t := activity_append [c] t

@[simp] theorem activity_reverse (t : Text) : activity t.reverse = activity t :=
  List.countP_reverse

@[simp] theorem activity_openBracket : activity [CodePoint.openBracket] = 1 := rfl

@[simp] theorem activity_backslash : activity [CodePoint.backslash] = 1 := rfl

@[simp] theorem activity_colon : activity [Emoji.colon] = 1 := rfl

@[simp] theorem activity_closeBracket : activity [CodePoint.closeBracket] = 0 := rfl

@[simp] theorem activity_lineFeed : activity [CodePoint.lineFeed] = 0 := rfl

theorem activity_eq_zero {t : Text} : activity t = 0 ↔ ∀ c ∈ t, c.isActive = false := by
  simp [activity]

theorem activity_le_of_sublist {t u : Text} (h : List.Sublist t u) : activity t ≤ activity u :=
  h.countP_le

/-- The words of a text hold nothing that is not in the text. -/
theorem mem_of_mem_words {t word : Text} (hword : word ∈ words t) {c : CodePoint} (hc : c ∈ word) :
    c ∈ t := by
  have hrun := (List.mem_filter.mp hword).1
  rw [← List.flatten_splitBy (fun a b : CodePoint => a.isBlank = b.isBlank) t]
  exact List.mem_flatten.mpr ⟨word, hrun, hc⟩

end Text

namespace Emoji

/-! ## The tables -/

section Tables

/-- A test of the characters of a string is a test of the list it is made of. -/
theorem forall_mem_toList {s : String} {cs : List Char} (hs : s = String.ofList cs)
    {p : Char → Bool} (hcs : cs.all p) : ∀ c ∈ s.toList, p c := by
  rw [hs, String.toList_ofList]
  exact List.all_eq_true.mp hcs

/-- A character that is none of the three signs. -/
def isPassive (c : Char) : Bool := !(CodePoint.ofChar c).isActive

set_option maxRecDepth 200000 in
theorem isPassive_of_mem_things : ∀ c ∈ things.toList, isPassive c := by
  unfold things
  refine forall_mem_toList (by rfl) ?_
  decide +kernel

set_option maxRecDepth 20000 in
theorem isPassive_of_mem_people : ∀ c ∈ people.toList, isPassive c := by
  unfold people
  refine forall_mem_toList (by rfl) ?_
  decide +kernel

set_option maxRecDepth 20000 in
theorem isPassive_of_mem_regions : ∀ c ∈ regions.toList, isPassive c := by
  unfold regions
  refine forall_mem_toList (by rfl) ?_
  decide +kernel

end Tables

/-- The words of a table hold nothing but what its string holds. -/
theorem activity_of_mem_entriesOf {s : String} (hs : ∀ c ∈ s.toList, isPassive c)
    {entry : Text × Text} (hentry : entry ∈ entriesOf (Text.words s)) :
    Text.activity entry.2 = 0 := by
  have hemoji : ∀ ws : List Text, entry ∈ entriesOf ws → entry.2 ∈ ws := by
    intro ws
    fun_induction entriesOf ws with
    | case1 name emoji rest ih =>
        intro hmem
        rcases List.mem_cons.mp hmem with rfl | hmem
        · simp
        · exact List.mem_cons_of_mem _ (List.mem_cons_of_mem _ (ih hmem))
    | case2 => exact fun hmem => absurd hmem List.not_mem_nil
  rw [Text.activity_eq_zero]
  intro c hc
  have hmem := Text.mem_of_mem_words (hemoji _ hentry) hc
  obtain ⟨d, hd, rfl⟩ := List.mem_map.mp hmem
  have hpassive := hs d hd
  rwa [isPassive, Bool.not_eq_true'] at hpassive

theorem activity_withTone {tone : CodePoint} (htone : tone.isActive = false) (t : Text) :
    Text.activity (withTone tone t) ≤ Text.activity t := by
  cases t with
  | nil => exact Nat.le_refl _
  | cons c rest =>
      have hnone : Text.activity [tone] = 0 := Text.activity_eq_zero.mpr (by simpa using htone)
      have htail : Text.activity rest.tail ≤ Text.activity rest :=
        Text.activity_le_of_sublist (List.tail_sublist rest)
      rw [withTone, Text.activity_cons, Text.activity_cons tone, Text.activity_cons c rest, hnone]
      split <;> omega

/-- No emoji holds a bracket, a backslash or a colon. -/
theorem activity_of_find? {name emoji : Text} (h : find? name = some emoji) :
    Text.activity emoji = 0 := by
  have hthings : ∀ {n e : Text}, Entries.get? n thingEntries = some e → Text.activity e = 0 :=
    fun hget => activity_of_mem_entriesOf isPassive_of_mem_things (Entries.mem_of_get? hget)
  have hpeople : ∀ {n e : Text}, Entries.get? n personEntries = some e → Text.activity e = 0 :=
    fun hget => activity_of_mem_entriesOf isPassive_of_mem_people (Entries.mem_of_get? hget)
  have hregions : ∀ {n e : Text}, Entries.get? n regionEntries = some e → Text.activity e = 0 :=
    fun hget => activity_of_mem_entriesOf isPassive_of_mem_regions (Entries.mem_of_get? hget)
  simp only [find?, Option.or_eq_some_iff] at h
  rcases h with h | ⟨-, h | ⟨-, h | ⟨-, h⟩⟩⟩
  · exact hthings h
  · exact hpeople h
  · obtain ⟨⟨person, tone⟩, hcut, h⟩ := Option.bind_eq_some_iff.mp h
    obtain ⟨bare, hbare, h⟩ := Option.bind_eq_some_iff.mp h
    cases h
    obtain ⟨⟨ending, mark⟩, hentry, hfound⟩ := List.exists_of_findSome?_eq_some hcut
    simp only [Option.ite_none_right_eq_some, Option.some.injEq, Prod.mk.injEq] at hfound
    obtain ⟨-, -, rfl⟩ := hfound
    have htone : mark.isActive = false := by
      have hall : ∀ e ∈ tones, e.2.isActive = false := by decide
      exact hall _ hentry
    exact Nat.le_zero.mp (hpeople hbare ▸ activity_withTone htone bare)
  · exact hregions h

/-! ## Codes -/

/-- The codes that are found in a text behind its first `skip` code points, each by what is between
its colons. -/
def codesFrom (skip : ℕ) : Text → List Text
  | [] => []
  | c :: rest =>
    match skip with
    | skip + 1 => codesFrom skip rest
    | 0 =>
      match if c = colon then codeBody? rest else none with
      | some body => body :: codesFrom (body.length + 1) rest
      | none => codesFrom 0 rest

/-- The codes of a text. -/
def codes (t : Text) : List Text := codesFrom 0 t

section Codes

variable {t rest body emoji : Text} {c : CodePoint} {skip : ℕ}

theorem activity_marks (body : Text) : Text.activity (marks body) = 0 := by
  have hshapes : ∀ e ∈ shapes, Text.activity [e.2] = 0 := by decide
  unfold marks
  cases hcut : cutEnding shapes body with
  | none => rfl
  | some cut =>
      obtain ⟨entry, hentry, hfound⟩ := List.exists_of_findSome?_eq_some hcut
      simp only [Option.ite_none_right_eq_some, Option.some.injEq] at hfound
      obtain ⟨-, rfl⟩ := hfound
      exact hshapes entry hentry

theorem shown_of_unnamed (h : named? body = none) : shown body = colon :: body ++ [colon] := by
  rw [shown, h, Option.elim_none]

theorem activity_shown_of_named (h : named? body = some emoji) :
    Text.activity (shown body) = 0 := by
  rw [shown, h, Option.elim_some, Text.activity_append, activity_of_find? h, activity_marks]

theorem take_of_codeBody? (h : codeBody? t = some body) :
    t.take (body.length + 1) = body ++ [colon] := by
  simp only [codeBody?, Option.ite_none_right_eq_some, Option.some.injEq, List.head?_drop] at h
  obtain ⟨hcolon, rfl⟩ := h
  have hbody := List.prefix_iff_eq_take.mp (List.takeWhile_prefix isNamePart (l := t))
  rw [List.take_add_one, hcolon, ← hbody, Option.toList_some]

theorem replaceFrom_of_code (h : codeBody? rest = some body) :
    replaceFrom 0 (colon :: rest) = shown body ++ replaceFrom (body.length + 1) rest := by
  simp only [replaceFrom, if_true, h]

theorem codesFrom_of_code (h : codeBody? rest = some body) :
    codesFrom 0 (colon :: rest) = body :: codesFrom (body.length + 1) rest := by
  simp only [codesFrom, if_true, h]

theorem replaceFrom_of_none (h : (if c = colon then codeBody? rest else none) = none) :
    replaceFrom 0 (c :: rest) = c :: replaceFrom 0 rest := by
  simp only [replaceFrom, h]

theorem codesFrom_of_none (h : (if c = colon then codeBody? rest else none) = none) :
    codesFrom 0 (c :: rest) = codesFrom 0 rest := by
  simp only [codesFrom, h]

/-- A code takes a colon. -/
theorem codesFrom_eq_nil (hcolon : colon ∉ t) (skip : ℕ) : codesFrom skip t = [] := by
  induction t generalizing skip with
  | nil => rfl
  | cons c rest ih =>
      rw [List.mem_cons, not_or] at hcolon
      obtain ⟨hc, hrest⟩ := hcolon
      cases skip with
      | succ skip => rw [codesFrom, ih hrest]
      | zero => rw [codesFrom_of_none (if_neg (Ne.symm hc)), ih hrest]

/-- A code whose name is not known is shown as it is written. -/
theorem take_append_replaceFrom (h : ∀ body ∈ codesFrom skip t, named? body = none) :
    t.take skip ++ replaceFrom skip t = t := by
  induction t generalizing skip with
  | nil => simp [replaceFrom]
  | cons c rest ih =>
      cases skip with
      | succ skip =>
          rw [codesFrom] at h
          rw [replaceFrom, List.take_succ_cons, List.cons_append, ih h]
      | zero =>
          rw [List.take_zero, List.nil_append]
          cases hcode : if c = colon then codeBody? rest else none with
          | none =>
              rw [codesFrom_of_none hcode] at h
              have hrest := ih h
              rw [List.take_zero, List.nil_append] at hrest
              rw [replaceFrom_of_none hcode, hrest]
          | some body =>
              obtain ⟨rfl, hbody⟩ := Option.ite_none_right_eq_some.mp hcode
              rw [codesFrom_of_code hbody] at h
              obtain ⟨hnone, hothers⟩ := List.forall_mem_cons.mp h
              have hrest := ih hothers
              rw [take_of_codeBody? hbody] at hrest
              rw [replaceFrom_of_code hbody, shown_of_unnamed hnone, List.cons_append,
                List.cons_append, hrest]

/-- How many codes of a list stand for an emoji. -/
def namedCount (bodies : List Text) : ℕ := bodies.countP fun body => (named? body).isSome

theorem namedCount_cons (body : Text) (bodies : List Text) :
    namedCount (body :: bodies) = namedCount bodies + (named? body).isSome.toNat := by
  rw [namedCount, List.countP_cons, ← namedCount]
  cases named? body <;> rfl

/-- The codes that stand for an emoji are taken away with their colons. -/
theorem activity_replaceFrom (skip : ℕ) (t : Text) :
    Text.activity (t.take skip) + Text.activity (replaceFrom skip t) +
      namedCount (codesFrom skip t) ≤ Text.activity t := by
  induction t generalizing skip with
  | nil => simp [replaceFrom, codesFrom, namedCount]
  | cons c rest ih =>
      rw [Text.activity_cons c rest]
      cases skip with
      | succ skip =>
          have hrest := ih skip
          rw [replaceFrom, codesFrom, List.take_succ_cons, Text.activity_cons]
          omega
      | zero =>
          rw [List.take_zero, Text.activity_nil]
          cases hcode : if c = colon then codeBody? rest else none with
          | none =>
              have hrest := ih 0
              rw [List.take_zero, Text.activity_nil] at hrest
              rw [replaceFrom_of_none hcode, codesFrom_of_none hcode, Text.activity_cons]
              omega
          | some body =>
              obtain ⟨rfl, hbody⟩ := Option.ite_none_right_eq_some.mp hcode
              have hrest := ih (body.length + 1)
              rw [take_of_codeBody? hbody, Text.activity_append, Text.activity_colon] at hrest
              rw [replaceFrom_of_code hbody, codesFrom_of_code hbody, Text.activity_append,
                namedCount_cons, Text.activity_colon]
              cases hnamed : named? body with
              | none =>
                  rw [shown_of_unnamed hnamed, List.cons_append, Text.activity_cons,
                    Text.activity_append, Text.activity_colon, Option.isSome_none,
                    Bool.toNat_false]
                  omega
              | some emoji =>
                  rw [activity_shown_of_named hnamed, Option.isSome_some, Bool.toNat_true]
                  omega

theorem replace_of_unnamed (h : ∀ body ∈ codes t, named? body = none) : replace t = t :=
  take_append_replaceFrom h

/-- Replacing codes keeps the number of signs only where there is nothing to replace. -/
theorem activity_replace (t : Text) :
    Text.activity (replace t) + namedCount (codes t) ≤ Text.activity t := by
  have h := activity_replaceFrom 0 t
  rwa [List.take_zero, Text.activity_nil, Nat.zero_add] at h

end Codes

end Emoji

end Polyglot
