import Polyglot.Proofs.Atom
import Polyglot.Proofs.Entries
import Polyglot.Proofs.Escape

/-! # Written values are read back

A written value is read back as it was, except that pairs of surrogates have been joined, and that
of members with one key the later one counts. What is written is printable ASCII, so that it has no
end of line in it.
-/

namespace Polyglot.Json

mutual

/-- A value as it is read back after it was written: pairs of surrogates have been joined, and of
two members with one key the later one counts. -/
def settle : Json → Json
  | text t => text (rejoin t)
  | list items => list (settleItems items)
  | object members => object (Entries.ofList (settleMembers members))
  | atom => atom

/-- Values as they are read back. -/
def settleItems : List Json → List Json
  | [] => []
  | item :: rest => settle item :: settleItems rest

/-- Members as they are read back, with all their keys. -/
def settleMembers : List (Text × Json) → List (Text × Json)
  | [] => []
  | (key, value) :: rest => (rejoin key, settle value) :: settleMembers rest

end

theorem obstacle?_int_eq_none {depth : ℕ} {i : ℤ} :
    obstacle? depth (.int i) = none ↔ isLong i = false := by
  rw [obstacle?_int]
  split <;> simp [*]

theorem endsNumber_nil : EndsNumber [] := by
  rintro c ⟨⟩

theorem opensValue_of_opensAtom {c : CodePoint} (h : opensAtom c) : opensValue c := by
  simp only [opensAtom, Bool.and_eq_true] at h
  exact h.1.1.1

theorem IsAtom.write_eq {v : Json} (hv : IsAtom v) (style : Style) :
    write style v = writeAtom style v ∧ settle v = v := by
  cases hv <;> exact ⟨rfl, rfl⟩

/-- A value without an obstacle is an atom, a text, or it has parts without one. -/
inductive Shown (depth : ℕ) : Json → Prop where
  | atom {v : Json} (hv : IsAtom v) : Shown depth v
  | text (t : Text) : Shown depth (.text t)
  | list {inner : ℕ} {items : List Json} (hdepth : depth = inner + 1)
      (hitems : ∀ item ∈ items, obstacle? inner item = none) : Shown depth (.list items)
  | object {inner : ℕ} {members : List (Text × Json)} (hdepth : depth = inner + 1)
      (hmembers : ∀ m ∈ members, obstacle? inner m.2 = none) : Shown depth (.object members)

theorem obstacle?_eq_none_iff {depth : ℕ} {v : Json} :
    obstacle? depth v = none ↔ Shown depth v := by
  constructor
  · intro h
    cases v with
    | null => exact .atom .null
    | bool b => exact .atom (.bool b)
    | int i => exact .atom (.int (obstacle?_int_eq_none.mp h))
    | double x => exact .atom (.double x)
    | text t => exact .text t
    | list items =>
        cases depth with
        | zero => cases h
        | succ inner => exact .list rfl (List.findSome?_eq_none_iff.mp h)
    | object members =>
        cases depth with
        | zero => cases h
        | succ inner => exact .object rfl (List.findSome?_eq_none_iff.mp h)
  · intro h
    cases h with
    | atom hv =>
        cases hv with
        | int hi => exact obstacle?_int_eq_none.mpr hi
        | _ => cases depth <;> rfl
    | text t => cases depth <;> rfl
    | list hdepth hitems =>
        subst hdepth
        exact List.findSome?_eq_none_iff.mpr hitems
    | object hdepth hmembers =>
        subst hdepth
        exact List.findSome?_eq_none_iff.mpr hmembers

/-- A written value begins with a sign that is no blank and closes nothing. -/
theorem exists_write_cons {depth : ℕ} {v : Json} (h : obstacle? depth v = none) (style : Style) :
    ∃ c t, write style v = c :: t ∧ opensValue c := by
  cases obstacle?_eq_none_iff.mp h with
  | atom hv =>
      obtain ⟨-, c, t, hwrite, hc⟩ := readAtom_writeAtom endsNumber_nil style hv
      exact ⟨c, t, (hv.write_eq style).1.trans hwrite, opensValue_of_opensAtom hc⟩
  | text t => exact ⟨_, _, rfl, by decide⟩
  | list => exact ⟨_, _, rfl, by decide⟩
  | object => exact ⟨_, _, rfl, by decide⟩

theorem writeItems_cons_cons (style : Style) (item next : Json) (items : List Json) :
    writeItems style (item :: next :: items) =
      write style item ++ style.comma ++ writeItems style (next :: items) := rfl

theorem exists_writeItems_cons {depth : ℕ} {item : Json} {items : List Json}
    (h : ∀ i ∈ item :: items, obstacle? depth i = none) :
    ∃ c t, writeItems Style.ascii (item :: items) = c :: t ∧ opensValue c := by
  obtain ⟨c, t, hwrite, hc⟩ := exists_write_cons (h item List.mem_cons_self) Style.ascii
  cases items with
  | nil => exact ⟨c, t, hwrite, hc⟩
  | cons next items =>
      rw [writeItems_cons_cons, hwrite]
      exact ⟨_, _, rfl, hc⟩

theorem exists_writeMembers_cons (m : Text × Json) (members : List (Text × Json)) :
    ∃ t, writeMembers Style.ascii (m :: members) = CodePoint.quotationMark :: t := by
  cases members with
  | nil => exact ⟨_, rfl⟩
  | cons next members => exact ⟨_, rfl⟩

/-- Holds of a fuel with which each written value is read back that is short enough for it. -/
def ReadsValues (fuel : ℕ) : Prop :=
  ∀ depth v rest, obstacle? depth v = none → EndsNumber rest →
    2 * (write Style.ascii v ++ rest).length + 1 ≤ fuel →
    readValue fuel depth (write Style.ascii v ++ rest) = .ok (settle v, rest)

/-- Holds of a fuel with which the written items of each list are read back. -/
def ReadsItems (fuel : ℕ) : Prop :=
  ∀ depth items rest, items ≠ [] → (∀ item ∈ items, obstacle? depth item = none) →
    2 * (writeItems Style.ascii items ++ CodePoint.closeBracket :: rest).length + 2 ≤ fuel →
    readItems fuel depth (writeItems Style.ascii items ++ CodePoint.closeBracket :: rest) =
      .ok (settleItems items, rest)

/-- Holds of a fuel with which the written members of each object are read back. -/
def ReadsMembers (fuel : ℕ) : Prop :=
  ∀ depth members rest, members ≠ [] → (∀ m ∈ members, obstacle? depth m.2 = none) →
    2 * (writeMembers Style.ascii members ++ CodePoint.closeBrace :: rest).length + 2 ≤ fuel →
    readMembers fuel depth (writeMembers Style.ascii members ++ CodePoint.closeBrace :: rest) =
      .ok (settleMembers members, rest)

section Steps

variable {fuel depth : ℕ} {rest : Text}

theorem skipBlanks_of_not {c : CodePoint} {t : Text} (hc : isBlank c = false) :
    skipBlanks (c :: t) = c :: t := by
  rw [skipBlanks, List.dropWhile_cons_of_neg (by simp [hc])]

theorem readValue_atom {c : CodePoint} {t : Text} (hc : opensAtom c) :
    readValue (fuel + 1) depth (c :: t) = readAtom (c :: t) := by
  simp only [opensAtom, Bool.and_eq_true, bne_iff_ne] at hc
  rw [readValue.eq_def]
  dsimp only
  rw [if_neg hc.1.1.2, if_neg hc.1.2, if_neg hc.2]

theorem readValue_text (t : Text) :
    readValue (fuel + 1) depth (write Style.ascii (.text t) ++ rest) =
      .ok (.text (rejoin t), rest) := by
  have hwrite : write Style.ascii (.text t) ++ rest = CodePoint.quotationMark ::
      (t.flatMap (escape Style.ascii.isPlain) ++ CodePoint.quotationMark :: rest) := by
    rw [show write Style.ascii (.text t) = writeText Style.ascii t from rfl, writeText]
    simp only [List.cons_append, List.append_assoc, List.nil_append]
  rw [hwrite, readValue.eq_def]
  dsimp only
  rw [if_pos rfl, readString_written]
  rfl

theorem skipBlanks_opensValue {c : CodePoint} {t : Text} (hc : opensValue c) :
    skipBlanks (c :: t) = c :: t := by
  simp only [opensValue, Bool.and_eq_true, Bool.not_eq_true'] at hc
  exact skipBlanks_of_not hc.1.1.1

theorem readValue_list {c : CodePoint} {t : Text} (hc : opensValue c) :
    readValue (fuel + 1) (depth + 1) (CodePoint.openBracket :: c :: t) =
      (readItems fuel depth (c :: t)).map fun (items, rest) => (.list items, rest) := by
  rw [readValue.eq_def]
  dsimp only
  rw [if_neg (by decide), if_neg (by decide), if_pos rfl, skipBlanks_opensValue hc]
  simp only [opensValue, Bool.and_eq_true, bne_iff_ne] at hc
  exact if_neg fun h => hc.1.2 (Option.some.inj h)

theorem readValue_object {c : CodePoint} {t : Text} (hc : opensValue c) :
    readValue (fuel + 1) (depth + 1) (CodePoint.openBrace :: c :: t) =
      (readMembers fuel depth (c :: t)).map fun (members, rest) =>
        (.object (Entries.ofList members), rest) := by
  rw [readValue.eq_def]
  dsimp only
  rw [if_neg (by decide), if_pos rfl, skipBlanks_opensValue hc]
  simp only [opensValue, Bool.and_eq_true, bne_iff_ne] at hc
  exact if_neg fun h => hc.1.1.2 (Option.some.inj h)

theorem readValue_write_succ (hitems : ReadsItems fuel) (hmembers : ReadsMembers fuel) :
    ReadsValues (fuel + 1) := by
  intro depth v rest h hrest hfuel
  cases obstacle?_eq_none_iff.mp h with
  | atom hv =>
      obtain ⟨hwrite, hsettle⟩ := hv.write_eq Style.ascii
      obtain ⟨hread, c, t, htext, hc⟩ := readAtom_writeAtom hrest Style.ascii hv
      rw [hwrite, hsettle, ← hread, htext]
      exact readValue_atom hc
  | text t => exact readValue_text t
  | @list inner items hdepth hall =>
      subst hdepth
      have hwrite : write Style.ascii (.list items) ++ rest = CodePoint.openBracket ::
          (writeItems Style.ascii items ++ CodePoint.closeBracket :: rest) := by
        rw [show write Style.ascii (.list items) = CodePoint.openBracket ::
          writeItems Style.ascii items ++ [CodePoint.closeBracket] from rfl]
        simp only [List.cons_append, List.append_assoc, List.nil_append]
      rw [hwrite] at hfuel ⊢
      rw [List.length_cons] at hfuel
      cases items with
      | nil => rfl
      | cons item items =>
          -- The first item does not begin with the bracket that would close the list.
          obtain ⟨c, t, ht, hc⟩ := exists_writeItems_cons hall
          have hread := hitems inner (item :: items) rest (by simp) hall (by omega)
          rw [ht, List.cons_append] at hread ⊢
          rw [readValue_list hc, hread]
          rfl
  | @object inner members hdepth hall =>
      subst hdepth
      have hwrite : write Style.ascii (.object members) ++ rest = CodePoint.openBrace ::
          (writeMembers Style.ascii members ++ CodePoint.closeBrace :: rest) := by
        rw [show write Style.ascii (.object members) = CodePoint.openBrace ::
          writeMembers Style.ascii members ++ [CodePoint.closeBrace] from rfl]
        simp only [List.cons_append, List.append_assoc, List.nil_append]
      rw [hwrite] at hfuel ⊢
      rw [List.length_cons] at hfuel
      cases members with
      | nil => rfl
      | cons m members =>
          obtain ⟨t, ht⟩ := exists_writeMembers_cons m members
          have hread := hmembers inner (m :: members) rest (by simp) hall (by omega)
          rw [ht, List.cons_append] at hread ⊢
          rw [readValue_object (by decide), hread]
          rfl

theorem endsNumber_cons {c : CodePoint} {t : Text}
    (hc : CodePoint.isAsciiDigit c = false ∧ c ≠ '.' ∧ c ≠ 'e' ∧ c ≠ 'E') :
    EndsNumber (c :: t) := by
  rintro d ⟨⟩
  exact hc

theorem skipBlanks_space {c : CodePoint} {t : Text} (hc : opensValue c) :
    skipBlanks (0x20 :: c :: t) = c :: t :=
  (List.dropWhile_cons_of_pos (by decide)).trans (skipBlanks_opensValue hc)

theorem readItems_last {s : Text} {item : Json}
    (hread : readValue fuel depth s = .ok (item, CodePoint.closeBracket :: rest)) :
    readItems (fuel + 1) depth s = .ok ([item], rest) := by
  rw [readItems.eq_def]
  dsimp only
  rw [hread, Outcome.bind_ok]
  rfl

theorem readItems_more {s t : Text} {c : CodePoint} {item : Json}
    (hread : readValue fuel depth s = .ok (item, CodePoint.ofChar ',' :: 0x20 :: c :: t))
    (hc : opensValue c) :
    readItems (fuel + 1) depth s =
      (readItems fuel depth (c :: t)).map fun (items, rest) => (item :: items, rest) := by
  rw [readItems.eq_def]
  dsimp only
  rw [hread, Outcome.bind_ok]
  dsimp only
  rw [skipBlanks_of_not (by decide), List.tail_cons, skipBlanks_space hc]
  rfl

section Member

variable {s t : Text} {c : CodePoint} {key : Text} {value : Json}

theorem readMembers_last (hquote : s.head? = some CodePoint.quotationMark)
    (hkey : readString s s.tail = .ok (key, CodePoint.ofChar ':' :: 0x20 :: c :: t))
    (hc : opensValue c)
    (hread : readValue fuel depth (c :: t) = .ok (value, CodePoint.closeBrace :: rest)) :
    readMembers (fuel + 1) depth s = .ok ([(key, value)], rest) := by
  rw [readMembers.eq_def]
  dsimp only
  rw [if_neg (not_not.mpr hquote), hkey, Outcome.bind_ok]
  dsimp only
  rw [skipBlanks_of_not (by decide), List.tail_cons, skipBlanks_space hc, hread]
  rfl

theorem readMembers_more {u : Text} (hquote : s.head? = some CodePoint.quotationMark)
    (hkey : readString s s.tail = .ok (key, CodePoint.ofChar ':' :: 0x20 :: c :: t))
    (hc : opensValue c)
    (hread : readValue fuel depth (c :: t) =
      .ok (value, CodePoint.ofChar ',' :: 0x20 :: CodePoint.quotationMark :: u)) :
    readMembers (fuel + 1) depth s =
      (readMembers fuel depth (CodePoint.quotationMark :: u)).map fun (members, rest) =>
        ((key, value) :: members, rest) := by
  rw [readMembers.eq_def]
  dsimp only
  rw [if_neg (not_not.mpr hquote), hkey, Outcome.bind_ok]
  dsimp only
  rw [skipBlanks_of_not (by decide), List.tail_cons, skipBlanks_space hc, hread, Outcome.bind_ok]
  dsimp only
  rw [skipBlanks_of_not (by decide), List.tail_cons, skipBlanks_space (by decide)]
  rfl

end Member

theorem readItems_write_succ (hvalue : ReadsValues fuel) (hitems : ReadsItems fuel) :
    ReadsItems (fuel + 1) := by
  intro depth items rest hne h hfuel
  cases items with
  | nil => exact absurd rfl hne
  | cons item items =>
      have hitem := h item List.mem_cons_self
      cases items with
      | nil =>
          -- A number is over where the bracket or the comma comes.
          have hend : EndsNumber (CodePoint.closeBracket :: rest) := endsNumber_cons (by decide)
          exact readItems_last (hvalue depth item _ hitem hend (Nat.le_of_succ_le_succ hfuel))
      | cons next items =>
          have hrest : ∀ i ∈ next :: items, obstacle? depth i = none :=
            fun i hi => h i (List.mem_cons_of_mem item hi)
          obtain ⟨c, t, ht, hc⟩ := exists_writeItems_cons hrest
          have hwrite : writeItems Style.ascii (item :: next :: items) ++
              CodePoint.closeBracket :: rest = write Style.ascii item ++
                (CodePoint.ofChar ',' :: 0x20 :: (writeItems Style.ascii (next :: items) ++
                  CodePoint.closeBracket :: rest)) := by
            rw [writeItems_cons_cons]
            simp only [List.append_assoc]
            rfl
          rw [hwrite] at hfuel ⊢
          have hread := hvalue depth item _ hitem (endsNumber_cons (by decide))
            (Nat.le_of_succ_le_succ hfuel)
          have hmore := hitems depth (next :: items) rest (by simp) hrest (by
            simp only [List.length_append, List.length_cons] at hfuel ⊢
            omega)
          rw [ht, List.cons_append] at hread hmore ⊢
          rw [readItems_more hread hc, hmore]
          rfl

/-- The key of a written member is read back, with a colon and the value behind it. -/
theorem readString_member (key : Text) {v : Json} {c : CodePoint} {t : Text}
    (hwrite : write Style.ascii v = c :: t) (tail : Text) :
    let s := writeText Style.ascii key ++ Style.ascii.colon ++ write Style.ascii v ++ tail
    s.head? = some CodePoint.quotationMark ∧
      readString s s.tail = .ok (rejoin key, CodePoint.ofChar ':' :: 0x20 :: c :: (t ++ tail)) := by
  refine ⟨rfl, ?_⟩
  rw [hwrite, writeText]
  simp only [List.cons_append, List.append_assoc, List.tail_cons]
  exact readString_written _ key _

theorem writeMembers_cons_cons (style : Style) (key : Text) (v : Json) (next : Text × Json)
    (members : List (Text × Json)) :
    writeMembers style ((key, v) :: next :: members) =
      writeText style key ++ style.colon ++ write style v ++ style.comma ++
        writeMembers style (next :: members) := rfl

theorem readMembers_write_succ (hvalue : ReadsValues fuel) (hmembers : ReadsMembers fuel) :
    ReadsMembers (fuel + 1) := by
  intro depth members rest hne h hfuel
  cases members with
  | nil => exact absurd rfl hne
  | cons m members =>
      obtain ⟨key, v⟩ := m
      have hv : obstacle? depth v = none := h (key, v) List.mem_cons_self
      obtain ⟨c, t, ht, hc⟩ := exists_write_cons hv Style.ascii
      cases members with
      | nil =>
          obtain ⟨hquote, hkey⟩ := readString_member key ht (CodePoint.closeBrace :: rest)
          have hwrite : writeMembers Style.ascii [(key, v)] =
              writeText Style.ascii key ++ Style.ascii.colon ++ write Style.ascii v := rfl
          rw [hwrite] at hfuel ⊢
          have hread := hvalue depth v (CodePoint.closeBrace :: rest) hv
            (endsNumber_cons (by decide)) (by
              simp only [List.length_append] at hfuel ⊢
              omega)
          rw [ht, List.cons_append] at hread
          exact readMembers_last hquote hkey hc hread
      | cons next members =>
          set tail := writeMembers Style.ascii (next :: members) ++ CodePoint.closeBrace :: rest
            with htail
          obtain ⟨hquote, hkey⟩ := readString_member key ht (CodePoint.ofChar ',' :: 0x20 :: tail)
          have hwrite : writeMembers Style.ascii ((key, v) :: next :: members) ++
              CodePoint.closeBrace :: rest = writeText Style.ascii key ++ Style.ascii.colon ++
                write Style.ascii v ++ CodePoint.ofChar ',' :: 0x20 :: tail := by
            rw [writeMembers_cons_cons, htail]
            simp only [List.append_assoc]
            rfl
          rw [hwrite] at hfuel ⊢
          simp only [List.length_append, List.length_cons] at hfuel
          have hread := hvalue depth v (CodePoint.ofChar ',' :: 0x20 :: tail) hv
            (endsNumber_cons (by decide)) (by
              simp only [List.length_append, List.length_cons]
              omega)
          have hmore := hmembers depth (next :: members) rest (by simp)
            (fun m hm => h m (List.mem_cons_of_mem _ hm)) (by
              rw [← htail]
              omega)
          rw [← htail] at hmore
          obtain ⟨u, hu⟩ := exists_writeMembers_cons next members
          rw [hu, List.cons_append] at htail
          rw [ht, List.cons_append, htail] at hread
          rw [htail] at hmore hkey hquote ⊢
          rw [readMembers_more hquote hkey hc hread]
          exact congrArg (Except.map fun (r : List (Text × Json) × Text) =>
            ((rejoin key, settle v) :: r.1, r.2)) hmore

end Steps

/-- Each fuel reads back what is short enough for it. -/
theorem read_write (fuel : ℕ) : ReadsValues fuel ∧ ReadsItems fuel ∧ ReadsMembers fuel := by
  -- The three readers call each other with one unit less, as in their definitions.
  induction fuel with
  | zero => exact ⟨fun _ _ _ _ _ h => by omega, fun _ _ _ _ _ h => by omega,
      fun _ _ _ _ _ h => by omega⟩
  | succ fuel ih =>
      obtain ⟨hvalue, hitems, hmembers⟩ := ih
      exact ⟨readValue_write_succ hitems hmembers, readItems_write_succ hvalue hitems,
        readMembers_write_succ hvalue hmembers⟩

/-- What was written is read back, if it is not nested too deep and has no integer that is too
long. -/
theorem decode_encode {depth : ℕ} {v : Json} (h : obstacle? depth v = none) :
    decode depth (encode v) = .ok (settle v) := by
  have hread : read depth (encode v) = .ok (settle v) := by
    obtain ⟨c, t, hwrite, hc⟩ := exists_write_cons h Style.ascii
    have hvalue := (read_write (2 * (encode v).length + 2)).1 depth v [] h endsNumber_nil
      (by rw [List.append_nil]; exact Nat.le_succ _)
    rw [List.append_nil, ← encode] at hvalue
    have hmark : (encode v).head? ≠ some CodePoint.byteOrderMark := by
      rw [encode, hwrite]
      simp only [opensValue, Bool.and_eq_true, bne_iff_ne] at hc
      exact fun h => hc.2 (Option.some.inj h)
    have hblanks : skipBlanks (encode v) = encode v := by
      rw [encode, hwrite]
      exact skipBlanks_opensValue hc
    rw [read, if_neg hmark, hblanks, hvalue]
    rfl
  rw [decode, hread]
  rfl

/-- Holds of a text of the printable code points of ASCII alone. -/
def IsPlain (t : Text) : Prop := ∀ c ∈ t, Style.ascii.isPlain c

namespace IsPlain

theorem nil : IsPlain [] := List.forall_mem_nil _

theorem append {s t : Text} (hs : IsPlain s) (ht : IsPlain t) : IsPlain (s ++ t) := by
  intro c hc
  exact (List.mem_append.mp hc).elim (hs c) (ht c)

theorem cons {c : CodePoint} {t : Text} (hc : Style.ascii.isPlain c) (ht : IsPlain t) :
    IsPlain (c :: t) :=
  append (s := [c]) (by intro d hd; rw [List.mem_singleton.mp hd]; exact hc) ht

theorem of_all {t : Text} (h : t.all Style.ascii.isPlain) : IsPlain t := List.all_eq_true.mp h

theorem of_digits {t : Text} (h : ∀ c ∈ t, CodePoint.isAsciiDigit c) : IsPlain t := by
  intro c hc
  have hdigit := h c hc
  simp only [CodePoint.isAsciiDigit, Style.ascii, Bool.and_eq_true, decide_eq_true_eq] at hdigit ⊢
  omega

theorem exponentPart (e : ℤ) : IsPlain (Shortest.exponentPart e) := by
  unfold Shortest.exponentPart
  refine append ?_ (of_digits fun c hc => Text.isAsciiDigit_of_mem_padded hc)
  split
  next => exact of_all (by decide)
  next => exact of_all (by decide)

theorem numeral {n : Numeral} (hn : n.IsProper) : IsPlain n.text := by
  unfold Numeral.text Numeral.unsigned
  refine append ?_ (append ?_ (append ?_ ?_))
  · split
    next => exact of_all (by decide)
    next => exact nil
  · rcases hn.whole with hzero | ⟨-, -, -, -, hdigits⟩
    · rw [hzero]
      exact of_all (by decide)
    · exact of_digits hdigits
  · unfold Numeral.fractionPart
    cases hfraction : n.fraction with
    | none => exact nil
    | some digits => exact cons (by decide) (of_digits (hn.fraction digits hfraction).2)
  · unfold Numeral.exponentPart
    cases n.exponent with
    | none => exact nil
    | some e => exact exponentPart e

theorem hexEscape {n : ℕ} (hn : n < 0x10000) : IsPlain (hexEscape n) := by
  obtain ⟨a, b, c, d, htext, hless, -⟩ := Text.exists_hex hn
  have hdigits : ∀ k < 16, Style.ascii.isPlain (.ofDigit k) := by decide
  rw [Json.hexEscape, htext]
  refine append (of_all (by decide)) ?_
  exact cons (hdigits a hless.1) (cons (hdigits b hless.2.1) (cons (hdigits c hless.2.2.1)
    (cons (hdigits d hless.2.2.2) nil)))

theorem escape (c : CodePoint) : IsPlain (escape Style.ascii.isPlain c) := by
  unfold Json.escape
  have hlt := c.isLt
  split_ifs with hself hfeed hreturn htab hback hform hplain hnarrow
  · rcases hself with rfl | rfl <;> exact of_all (by decide)
  · exact of_all (by decide)
  · exact of_all (by decide)
  · exact of_all (by decide)
  · exact of_all (by decide)
  · exact of_all (by decide)
  · exact cons hplain nil
  · exact hexEscape hnarrow
  · exact (hexEscape (by omega)).append (hexEscape (by omega))

theorem writeText (t : Text) : IsPlain (writeText Style.ascii t) := by
  unfold Json.writeText
  refine (cons (by decide) ?_).append (of_all (by decide))
  intro c hc
  obtain ⟨d, -, hd⟩ := List.mem_flatMap.mp hc
  exact escape d c hd

theorem double (x : Float) : IsPlain (Shortest.text spelling x) := by
  unfold Shortest.text
  split
  next => exact of_all (by decide)
  next hnan =>
    split
    next =>
      split
      next => exact (of_all (t := "-") (by decide)).append (of_all (by decide))
      next => exact of_all (by decide)
    next hinf =>
      obtain ⟨n, hn, htext, -⟩ := Numeral.exists_text_finite (isFinite_of_not hnan hinf)
      exact htext ▸ numeral hn

theorem ofInt (i : ℤ) : IsPlain (Text.ofInt i) := by
  cases i with
  | ofNat n => exact of_digits (Numeral.ofNat_digits n)
  | negSucc n =>
      exact (of_all (t := "-") (by decide)).append (of_digits (Numeral.ofNat_digits (n + 1)))

mutual

/-- Whatever is written is printable ASCII. -/
theorem write : ∀ v : Json, IsPlain (write Style.ascii v)
  | .null => of_all (t := "null") (by decide)
  | .bool true => of_all (t := "true") (by decide)
  | .bool false => of_all (t := "false") (by decide)
  | .int i => ofInt i
  | .double x => double x
  | .text t => writeText t
  | .list items => (cons (by decide) (writeItems items)).append (of_all (by decide))
  | .object members => (cons (by decide) (writeMembers members)).append (of_all (by decide))

theorem writeItems : ∀ items : List Json, IsPlain (writeItems Style.ascii items)
  | [] => nil
  | [item] => write item
  | item :: next :: rest =>
    ((write item).append (of_all (by decide))).append (writeItems (next :: rest))

theorem writeMembers : ∀ members : List (Text × Json), IsPlain (writeMembers Style.ascii members)
  | [] => nil
  | [(key, value)] => ((writeText key).append (of_all (by decide))).append (write value)
  | (key, value) :: next :: rest =>
    ((((writeText key).append (of_all (by decide))).append (write value)).append
      (of_all (by decide))).append (writeMembers (next :: rest))

end

end IsPlain

end Polyglot.Json
