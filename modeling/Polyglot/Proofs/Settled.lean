import Polyglot.Proofs.Reread

/-! # Values that were read can be written

A value that was read has no long integer, is nested no deeper than the reader allows, and has each
key once, so that a message can show it. If no surrogate stood in the text it was read from, then
none stands side by side with another in it, so that it is read back as it is once it has been
written.
-/

namespace Polyglot.Json

/-- Holds of a text without surrogates. -/
def IsScalar (t : Text) : Prop := ∀ c ∈ t, c.isSurrogate = false

theorem IsScalar.of_suffix {s t : Text} (h : IsScalar s) (hsuffix : t <:+ s) : IsScalar t :=
  fun c hc => h c (hsuffix.subset hc)

theorem halves_of_not_isSurrogate {c : CodePoint} (h : c.isSurrogate = false) :
    c.isHighSurrogate = false ∧ c.isLowSurrogate = false := by
  rw [CodePoint.isSurrogate_eq_false_iff] at h
  rw [← Bool.not_eq_true, ← Bool.not_eq_true, CodePoint.isHighSurrogate_iff,
    CodePoint.isLowSurrogate_iff]
  omega

theorem onText_eq_ok {f : Text → Text} {r : Reading Text} {t rest : Text}
    (h : r.onText f = .ok (t, rest)) : ∃ u, r = .ok (u, rest) ∧ f u = t := by
  obtain ⟨⟨u, after⟩, hu, heq⟩ := Outcome.map_eq_ok.mp h
  cases heq
  exact ⟨u, hu, rfl⟩

theorem escape?_isScalar {d e : CodePoint} (h : escape? d = some e) (hd : d.isSurrogate = false) :
    e.isSurrogate = false := by
  unfold escape? at h
  split_ifs at h <;> cases h <;> first | exact hd | decide

/-- What is read from a text without surrogates is read back as it is. -/
theorem rejoin_of_readString {opening s t rest : Text} (hs : IsScalar s)
    (h : readString opening s = .ok (t, rest)) :
    rejoin t = t ∧ ∀ d ∈ t.head?, d.isLowSurrogate → startsHexEscape s := by
  have hplain {c : CodePoint} {u : Text} {next : Prop} (hc : c.isSurrogate = false)
      (hu : rejoin u = u) : rejoin (c :: u) = c :: u ∧
        ∀ d ∈ (c :: u).head?, d.isLowSurrogate → next := by
    obtain ⟨hhigh, hlow⟩ := halves_of_not_isSurrogate hc
    refine ⟨by rw [rejoin_cons, hu, joinEscaped_of_low hhigh], ?_⟩
    rintro d ⟨⟩ hd
    exact absurd hd (by simp [hlow])
  fun_induction readString opening s generalizing t rest with
  | case1 => cases h
  | case2 after =>
      cases h
      exact ⟨rfl, by rintro d ⟨⟩⟩
  | case3 => cases h
  | case4 c after hquote hcontrol hslash ih =>
      obtain ⟨u, hu, rfl⟩ := onText_eq_ok h
      have hafter := hs.of_suffix (List.suffix_cons c after)
      exact hplain (hs c List.mem_cons_self) (ih hafter hu).1
  | case5 => cases h
  | case6 c _ _ hslash h₁ h₂ h₃ h₄ e next tail hpoint ih =>
      obtain ⟨u, hu, rfl⟩ := onText_eq_ok h
      have htail : next :: tail <:+
          c :: CodePoint.ofChar 'u' :: h₁ :: h₂ :: h₃ :: h₄ :: next :: tail :=
        ⟨[c, CodePoint.ofChar 'u', h₁, h₂, h₃, h₄], rfl⟩
      -- A low surrogate behind the escape was escaped too, so that the two have been joined.
      obtain ⟨hjoined, hlow⟩ := ih (hs.of_suffix htail) hu
      rw [joinEscaped_eq hlow]
      refine ⟨rejoin_joinEscaped e hjoined, fun _ _ _ => ?_⟩
      rw [not_not.mp hslash]
      rfl
  | case7 => cases h
  | case8 => cases h
  | case9 c _ _ hslash d after hd e he ih =>
      obtain ⟨u, hu, rfl⟩ := onText_eq_ok h
      have hafter := hs.of_suffix (⟨[c, d], rfl⟩ : after <:+ c :: d :: after)
      exact hplain (escape?_isScalar he (hs d (by simp))) (ih hafter hu).1
  | case10 => cases h

theorem digitsValue_lt {t : Text} (h : ∀ c ∈ t, CodePoint.isAsciiDigit c) :
    Text.digitsValue t < 10 ^ t.length := by
  induction t with
  | nil => decide
  | cons c t ih =>
      have hrest := ih fun d hd => h d (List.mem_cons_of_mem c hd)
      have hc := h c List.mem_cons_self
      simp only [CodePoint.isAsciiDigit, Bool.and_eq_true, decide_eq_true_eq] at hc
      have hsplit := Text.digitsValue_append [c] t
      have hone : Text.digitsValue [c] ≤ 9 := by
        have hvalue : Text.digitsValue [c] = 0 * 10 + (c.val - 0x30) := rfl
        omega
      calc Text.digitsValue (c :: t) = Text.digitsValue [c] * 10 ^ t.length + Text.digitsValue t :=
            hsplit
        _ < 9 * 10 ^ t.length + 10 ^ t.length :=
            Nat.add_lt_add_of_le_of_lt (Nat.mul_le_mul_right _ hone) hrest
        _ = 10 ^ (c :: t).length := by
            rw [List.length_cons, pow_succ]
            ring

/-- An integer that is read has few enough digits. -/
theorem isAtom_of_value {n : Numeral} {v : Json} (hne : n.whole ≠ [])
    (hdigits : ∀ c ∈ n.whole, CodePoint.isAsciiDigit c) (h : n.value = .ok v) : IsAtom v := by
  unfold Numeral.value at h
  split at h
  next =>
    split at h
    next => cases h
    next hshort =>
      have hwhole : (Text.ofNat (Text.digitsValue n.whole)).length ≤ n.whole.length :=
        (Text.length_ofNat_le_iff (List.length_pos_iff.mpr hne)).mpr (digitsValue_lt hdigits)
      have hlength := hwhole.trans (not_lt.mp hshort)
      cases h
      apply IsAtom.int
      rw [Numeral.isLong_eq_false_iff]
      split <;> simpa using hlength
  next =>
    cases h
    exact .double _

theorem takeNumeral_whole {s rest : Text} {n : Numeral} (h : takeNumeral s = some (n, rest)) :
    n.whole ≠ [] ∧ ∀ c ∈ n.whole, CodePoint.isAsciiDigit c := by
  unfold takeNumeral at h
  split at h
  next negative unsigned hsign =>
    obtain ⟨⟨whole, after⟩, hwhole, htail⟩ := Option.bind_eq_some_iff.mp h
    cases htail
    exact (takeWhole_eq_some hwhole).2

theorem isAtom_of_mem_words : ∀ entry ∈ words, IsAtom entry.2 := by
  simp only [words, List.forall_mem_cons]
  exact ⟨.null, .bool true, .bool false, .double nan, .double infinity, .double (-infinity),
    List.forall_mem_nil _⟩

theorem readAtom_eq_ok {s rest : Text} {v : Json} (h : readAtom s = .ok (v, rest)) :
    IsAtom v ∧ rest <:+ s := by
  unfold readAtom at h
  split at h
  next result hword =>
    cases h
    refine ⟨?_, (takeWord_eq_some hword).1⟩
    obtain ⟨⟨word, w⟩, hmem, htaken⟩ := List.exists_of_findSome?_eq_some hword
    dsimp only at htaken
    split at htaken
    next =>
      cases htaken
      exact isAtom_of_mem_words _ hmem
    next => cases htaken
  next =>
    split at h
    next => cases h
    next n after hnumeral =>
      obtain ⟨w, hvalue, heq⟩ := Outcome.map_eq_ok.mp h
      cases heq
      obtain ⟨hne, hdigits⟩ := takeNumeral_whole hnumeral
      exact ⟨isAtom_of_value hne hdigits hvalue, (takeNumeral_eq_some hnumeral).1⟩

/-- Holds of a value that may come of reading when lists and objects may be nested `depth` deep and
the strings that are read are whole. -/
inductive IsRead (whole : Text → Prop) : ℕ → Json → Prop where
  | atom {depth : ℕ} {v : Json} (hv : IsAtom v) : IsRead whole depth v
  | text {depth : ℕ} {t : Text} (hwhole : whole t) : IsRead whole depth (.text t)
  | list {depth : ℕ} {items : List Json} (hitems : ∀ item ∈ items, IsRead whole depth item) :
      IsRead whole (depth + 1) (.list items)
  | object {depth : ℕ} {members : List (Text × Json)} (hnodup : (Entries.keys members).Nodup)
      (hkeys : ∀ m ∈ members, whole m.1) (hvalues : ∀ m ∈ members, IsRead whole depth m.2) :
      IsRead whole (depth + 1) (.object members)

/-- Holds of a value that may come of reading a text without surrogates when lists and objects may
be nested `depth` deep. -/
abbrev IsSettled : ℕ → Json → Prop := IsRead fun t => rejoin t = t

theorem settleItems_eq_self {items : List Json} (h : ∀ item ∈ items, settle item = item) :
    settleItems items = items := by
  induction items with
  | nil => rfl
  | cons item items ih =>
      rw [settleItems, h item List.mem_cons_self, ih fun i hi => h i (List.mem_cons_of_mem item hi)]

theorem settleMembers_eq_map (members : List (Text × Json)) :
    settleMembers members = members.map fun m => (rejoin m.1, settle m.2) := by
  induction members with
  | nil => rfl
  | cons m members ih => rw [settleMembers, ih, List.map_cons]

theorem settleMembers_eq_self {members : List (Text × Json)}
    (h : ∀ m ∈ members, rejoin m.1 = m.1 ∧ settle m.2 = m.2) : settleMembers members = members := by
  rw [settleMembers_eq_map]
  conv_rhs => rw [← List.map_id members]
  refine List.map_congr_left fun m hm => ?_
  rw [(h m hm).1, (h m hm).2]
  rfl

section Read

variable {whole : Text → Prop} {depth : ℕ} {v : Json}

theorem IsSettled.same (h : IsSettled depth v) : settle v = v := by
  induction h with
  | atom hv => exact (hv.write_eq Style.ascii).2
  | text hwhole => exact congrArg Json.text hwhole
  | list hitems ih => exact congrArg Json.list (settleItems_eq_self ih)
  | object hnodup hkeys hvalues ih =>
      rw [settle, settleMembers_eq_self fun m hm => ⟨hkeys m hm, ih m hm⟩,
        Entries.ofList_of_nodup hnodup]

/-- A value that was read can be shown. -/
theorem IsRead.shown (h : IsRead whole depth v) : obstacle? depth v = none := by
  rw [obstacle?_eq_none_iff]
  induction h with
  | atom hv => exact .atom hv
  | text => exact .text _
  | list hitems ih => exact .list rfl fun item hitem => obstacle?_eq_none_iff.mpr (ih item hitem)
  | object hnodup hkeys hvalues ih =>
      exact .object rfl fun m hm => obstacle?_eq_none_iff.mpr (ih m hm)

/-- What may be nested so deep may be nested deeper. -/
theorem IsRead.mono (h : IsRead whole depth v) {deeper : ℕ} (hle : depth ≤ deeper) :
    IsRead whole deeper v := by
  induction h generalizing deeper with
  | atom hv => exact .atom hv
  | text hwhole => exact .text hwhole
  | list hitems ih =>
      obtain ⟨inner, rfl⟩ := Nat.exists_eq_add_of_le' (Nat.le_of_add_left_le hle)
      exact .list fun item hitem => ih item hitem (Nat.le_of_add_le_add_right hle)
  | object hnodup hkeys hvalues ih =>
      obtain ⟨inner, rfl⟩ := Nat.exists_eq_add_of_le' (Nat.le_of_add_left_le hle)
      exact .object hnodup hkeys fun m hm => ih m hm (Nat.le_of_add_le_add_right hle)

/-- The values in an object that was read could have been read alone. -/
theorem IsRead.member {members : List (Text × Json)} (h : IsRead whole depth (.object members))
    {key : Text} (hget : Entries.get? key members = some v) : IsRead whole depth v := by
  cases h with
  | atom hv => cases hv
  | object hnodup hkeys hvalues =>
      exact (hvalues _ (Entries.mem_of_get? hget)).mono (Nat.le_succ _)

end Read

/-- Holds of a kind of texts that stay of this kind while they are read, if the strings in them are
whole. -/
structure Yields (kind whole : Text → Prop) : Prop where
  of_suffix : ∀ {s t}, kind s → t <:+ s → kind t
  readString : ∀ {opening s t rest}, kind s → readString opening s = .ok (t, rest) → whole t

theorem yields_scalar : Yields IsScalar fun t => rejoin t = t :=
  ⟨IsScalar.of_suffix, fun hs h => (rejoin_of_readString hs h).1⟩

/-- Nothing is known of the strings in a text of any kind. -/
theorem yields_any : Yields (fun _ => True) fun _ => True :=
  ⟨fun _ _ => trivial, fun _ _ => trivial⟩

/-- Holds of a reader that finds in a text of some kind only what it should, and leaves one of this
kind behind. -/
def Finds {α : Type} (kind : Text → Prop) (reader : ℕ → Text → Reading α) (good : ℕ → α → Prop) :
    Prop :=
  ∀ depth s a rest, kind s → reader depth s = .ok (a, rest) → good depth a ∧ kind rest

/-- Holds of the items of a list that may come of reading. -/
def AreItems (whole : Text → Prop) (depth : ℕ) (items : List Json) : Prop :=
  ∀ item ∈ items, IsRead whole depth item

/-- Holds of the members of an object that may come of reading, with all their keys. -/
def AreMembers (whole : Text → Prop) (depth : ℕ) (members : List (Text × Json)) : Prop :=
  ∀ m ∈ members, whole m.1 ∧ IsRead whole depth m.2

section Steps

variable {kind whole : Text → Prop} {fuel : ℕ} {s rest : Text}

theorem Yields.tail (hyields : Yields kind whole) (hs : kind s) : kind s.tail :=
  hyields.of_suffix hs (List.tail_suffix s)

theorem Yields.skipBlanks (hyields : Yields kind whole) (hs : kind s) : kind (skipBlanks s) :=
  hyields.of_suffix hs (skipBlanks_suffix s)

/-- What follows blanks and one sign is of the kind of the whole. -/
theorem Yields.past (hyields : Yields kind whole) (hs : kind s) : kind (Json.skipBlanks s).tail :=
  hyields.tail (hyields.skipBlanks hs)

theorem Yields.string (hyields : Yields kind whole) {opening t : Text} (hs : kind s)
    (h : Json.readString opening s = .ok (t, rest)) : whole t ∧ kind rest := by
  have hsound := sound_readString opening s 0
  rw [h] at hsound
  cases hsound with
  | ok hrest => exact ⟨hyields.readString hs h, hyields.of_suffix hs hrest⟩

variable (hyields : Yields kind whole)

include hyields

theorem readValue_settled_succ (hitems : Finds kind (readItems fuel) (AreItems whole))
    (hmembers : Finds kind (readMembers fuel) (AreMembers whole)) :
    Finds kind (readValue (fuel + 1)) (IsRead whole) := by
  intro depth s v rest hs h
  unfold readValue at h
  split at h
  next => cases h
  next c after =>
    have hafter : kind after := hyields.tail hs
    split at h
    next =>
      obtain ⟨⟨t, left⟩, ht, heq⟩ := Outcome.map_eq_ok.mp h
      cases heq
      obtain ⟨hjoined, hleft⟩ := hyields.string hafter ht
      exact ⟨.text hjoined, hleft⟩
    next =>
      split at h
      next =>
        split at h
        next => cases h
        next inner =>
          split at h
          next =>
            cases h
            exact ⟨.object List.nodup_nil (by simp) (by simp), hyields.past hafter⟩
          next =>
            obtain ⟨⟨members, left⟩, hread, heq⟩ := Outcome.map_eq_ok.mp h
            cases heq
            obtain ⟨hall, hleft⟩ := hmembers inner _ _ _ (hyields.skipBlanks hafter) hread
            -- Of members with one key the later one counts, and it is one of those that were read.
            have hmem := fun m hm => hall m (Entries.mem_of_mem_ofList hm)
            exact ⟨.object (Entries.nodup_keys_ofList members) (fun m hm => (hmem m hm).1)
              fun m hm => (hmem m hm).2, hleft⟩
      next =>
        split at h
        next =>
          split at h
          next => cases h
          next inner =>
            split at h
            next =>
              cases h
              exact ⟨.list (List.forall_mem_nil _), hyields.past hafter⟩
            next =>
              obtain ⟨⟨items, left⟩, hread, heq⟩ := Outcome.map_eq_ok.mp h
              cases heq
              obtain ⟨hall, hleft⟩ := hitems inner _ _ _ (hyields.skipBlanks hafter) hread
              exact ⟨.list hall, hleft⟩
        next =>
          obtain ⟨hatom, hleft⟩ := readAtom_eq_ok h
          exact ⟨.atom hatom, hyields.of_suffix hs hleft⟩

theorem readItems_settled_succ (hvalue : Finds kind (readValue fuel) (IsRead whole))
    (hitems : Finds kind (readItems fuel) (AreItems whole)) :
    Finds kind (readItems (fuel + 1)) (AreItems whole) := by
  intro depth s items rest hs h
  unfold readItems at h
  obtain ⟨⟨item, after⟩, hread, h⟩ := Outcome.bind_eq_ok.mp h
  obtain ⟨hitem, hafter⟩ := hvalue depth s item after hs hread
  dsimp only at h
  split at h
  next =>
    cases h
    exact ⟨List.forall_mem_singleton.mpr hitem, hyields.past hafter⟩
  next =>
    split at h
    next =>
      obtain ⟨⟨more, left⟩, hmore, h⟩ := Outcome.bind_eq_ok.mp h
      cases h
      obtain ⟨hall, hleft⟩ := hitems depth _ _ _ (hyields.skipBlanks (hyields.past hafter)) hmore
      exact ⟨List.forall_mem_cons.mpr ⟨hitem, hall⟩, hleft⟩
    next => cases h

theorem readMembers_settled_succ (hvalue : Finds kind (readValue fuel) (IsRead whole))
    (hmembers : Finds kind (readMembers fuel) (AreMembers whole)) :
    Finds kind (readMembers (fuel + 1)) (AreMembers whole) := by
  intro depth s members rest hs h
  unfold readMembers at h
  split at h
  next => cases h
  next =>
    obtain ⟨⟨key, after⟩, hkey, h⟩ := Outcome.bind_eq_ok.mp h
    obtain ⟨hjoined, hafter⟩ := hyields.string (hyields.tail hs) hkey
    dsimp only at h
    split at h
    next => cases h
    next =>
      obtain ⟨⟨v, left⟩, hread, h⟩ := Outcome.bind_eq_ok.mp h
      obtain ⟨hv, hleft⟩ := hvalue depth _ v left (hyields.skipBlanks (hyields.past hafter)) hread
      dsimp only at h
      split at h
      next =>
        cases h
        exact ⟨List.forall_mem_singleton.mpr ⟨hjoined, hv⟩, hyields.past hleft⟩
      next =>
        split at h
        next =>
          obtain ⟨⟨more, last⟩, hmore, h⟩ := Outcome.bind_eq_ok.mp h
          cases h
          have hnext := hyields.skipBlanks (hyields.past hleft)
          obtain ⟨hall, hlast⟩ := hmembers depth _ _ _ hnext hmore
          exact ⟨List.forall_mem_cons.mpr ⟨⟨hjoined, hv⟩, hall⟩, hlast⟩
        next => cases h

/-- What is read from a text of such a kind can come of reading. -/
theorem settled_read (fuel : ℕ) :
    Finds kind (readValue fuel) (IsRead whole) ∧ Finds kind (readItems fuel) (AreItems whole) ∧
      Finds kind (readMembers fuel) (AreMembers whole) := by
  induction fuel with
  | zero => refine ⟨?_, ?_, ?_⟩ <;> intro _ _ _ _ _ h <;> cases h
  | succ fuel ih =>
      obtain ⟨hvalue, hitems, hmembers⟩ := ih
      exact ⟨readValue_settled_succ hyields hitems hmembers,
        readItems_settled_succ hyields hvalue hitems,
        readMembers_settled_succ hyields hvalue hmembers⟩

theorem isRead_of_decode {depth : ℕ} {v : Json} (hs : kind s) (h : decode depth s = .ok v) :
    IsRead whole depth v := by
  rw [decode, Outcome.mapError_eq_ok] at h
  unfold read at h
  split at h
  next => cases h
  next =>
    obtain ⟨⟨w, after⟩, hread, h⟩ := Outcome.bind_eq_ok.mp h
    dsimp only at h
    split at h
    next =>
      cases h
      exact ((settled_read hyields _).1 depth _ _ _ (hyields.skipBlanks hs) hread).1
    next => cases h

end Steps

/-- A value that was read from a text without surrogates can be written and is read back as it
is. -/
theorem isSettled_of_decode {depth : ℕ} {s : Text} {v : Json} (hs : IsScalar s)
    (h : decode depth s = .ok v) : IsSettled depth v :=
  isRead_of_decode yields_scalar hs h

/-- An integer in a list that stands in a list has few enough digits, if both were read. -/
theorem isLong_of_decode {depth : ℕ} {s : Text} {lists parts : List Json} {i : ℤ}
    (hs : IsScalar s) (h : decode depth s = .ok (.list lists)) (hparts : .list parts ∈ lists)
    (hi : .int i ∈ parts) : isLong i = false := by
  cases isSettled_of_decode hs h with
  | atom hv => cases hv
  | list hlists =>
      cases hlists _ hparts with
      | atom hv => cases hv
      | list hitems =>
          cases hitems _ hi with
          | atom hv =>
              cases hv with
              | int hshort => exact hshort

section Put

variable {depth : ℕ} {members : List (Text × Json)} {key : Text}

theorem settleMembers_put (h : ∀ m ∈ members, rejoin m.1 = m.1 ∧ settle m.2 = m.2)
    (hkey : key ∈ Entries.keys members) (v : Json) :
    settleMembers (Entries.put key v members) = Entries.put key (settle v) members := by
  induction members with
  | nil => cases hkey
  | cons m members ih =>
      rcases m with ⟨k, w⟩
      obtain ⟨⟨hk, hw⟩, hmembers⟩ := List.forall_mem_cons.mp h
      rw [Entries.put, Entries.alter, Entries.put, Entries.alter]
      split
      next heq => rw [settleMembers, hk, settleMembers_eq_self hmembers]
      next hne =>
        have hrest := (List.mem_cons.mp hkey).resolve_left (Ne.symm hne)
        rw [settleMembers, hk, hw]
        exact congrArg _ (ih hmembers hrest)

/-- A value that is put among members that were read is read back under the key it was put under,
in which pairs of surrogates have been joined. -/
theorem settle_put (h : IsSettled depth (.object members)) (key : Text) (v : Json) :
    settle (.object (Entries.put key v members)) =
      .object (Entries.put (rejoin key) (settle v) members) := by
  cases h with
  | atom hv => cases hv
  | object hnodup hkeys hvalues =>
      have hsame : ∀ m ∈ members, rejoin m.1 = m.1 ∧ settle m.2 = m.2 :=
        fun m hm => ⟨hkeys m hm, IsSettled.same (hvalues m hm)⟩
      rw [settle]
      congr 1
      -- A key that is there was read, and is read again as it is. Any other one is written last,
      -- but is read into the place of the key that it has become.
      by_cases hkey : key ∈ Entries.keys members
      · obtain ⟨m, hm, rfl⟩ := List.mem_map.mp hkey
        rw [settleMembers_put hsame hkey, hkeys m hm]
        exact Entries.ofList_of_nodup (Entries.nodup_keys_alter hnodup)
      · rw [Entries.put_of_notMem hkey, settleMembers_eq_map, List.map_append,
          ← settleMembers_eq_map, settleMembers_eq_self hsame, List.map_singleton,
          Entries.ofList_concat, Entries.ofList_of_nodup hnodup]

theorem obstacle?_put (h : IsSettled depth (.object members)) (key t : Text) :
    obstacle? depth (.object (Entries.put key (.text t) members)) = none := by
  cases h with
  | atom hv => cases hv
  | object hnodup hkeys hvalues =>
      refine obstacle?_eq_none_iff.mpr (.object rfl fun m hm => ?_)
      rcases Entries.mem_alter hm with hold | ⟨_, rfl, -⟩
      · exact (hvalues m hold).shown
      · exact obstacle?_eq_none_iff.mpr (.text t)

/-- An object that was read and in which a text was put is read back. -/
theorem decode_encode_put (h : IsSettled depth (.object members)) (key t : Text) :
    decode depth (encode (.object (Entries.put key (.text t) members))) =
      .ok (.object (Entries.put (rejoin key) (.text (rejoin t)) members)) := by
  rw [decode_encode (obstacle?_put h key t), settle_put h]
  rfl

end Put

end Polyglot.Json
