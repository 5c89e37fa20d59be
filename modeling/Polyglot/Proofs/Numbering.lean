import Polyglot.Proofs.Refusal
import Polyglot.Proofs.Settled

/-! # Lists that number tokens

The lists that are read as vocabularies are those that pair distinct tokens with the numbers below
their count, in any order. Every other list is refused for the first item that is at fault or, where
there is none, because a number has no token.
-/

namespace Polyglot.Vocabulary

/-- Holds of a list that pairs distinct tokens, none of them empty, with the numbers below their
count. -/
structure IsNumbering (pairs : List Json) (es : List (Text × Nat)) : Prop where
  listed : pairs = es.map pair
  tokens_ne_nil : ∀ e ∈ es, e.1 ≠ []
  tokens_nodup : (es.map Prod.fst).Nodup
  ids_perm : (es.map Prod.snd).Perm (List.range es.length)

theorem ofList_eq_ok_iff_isNumbering {pairs : List Json} {v : Vocabulary} :
    ofList pairs = .ok v ↔ IsNumbering pairs v.entries := by
  rw [ofList_eq_ok]
  constructor
  · rintro ⟨hlisted, htokens⟩
    exact ⟨hlisted, htokens, v.tokens_nodup, v.perm_ids⟩
  · intro h
    exact ⟨h.listed, h.tokens_ne_nil⟩

theorem exists_ofList_iff {pairs : List Json} :
    (∃ v, ofList pairs = .ok v) ↔ ∃ es, IsNumbering pairs es := by
  constructor
  · rintro ⟨v, hv⟩
    exact ⟨v.entries, ofList_eq_ok_iff_isNumbering.mp hv⟩
  · rintro ⟨es, h⟩
    obtain ⟨v, hv, -⟩ :=
      exists_ofList (List.Perm.of_eq h.listed) h.tokens_ne_nil h.tokens_nodup h.ids_perm
    exact ⟨v, hv⟩

/-! ## Flaws -/

/-- Relates an item to its flaw, in view of the items before it. -/
inductive Flawed (before : List Json) : Json → VocabularyFlaw → Prop where
  | noPair {item : Json} (other : ∀ first second, item ≠ .list [first, second]) :
      Flawed before item (.noPair before.length)
  | badToken {first second : Json} (other : ∀ token, token ≠ [] → first ≠ .text token) :
      Flawed before (.list [first, second]) (.badToken before.length)
  | badId {token : Text} {second : Json} (nonempty : token ≠ []) (other : ∀ id, second ≠ .int id) :
      Flawed before (.list [.text token, second]) (.badId before.length)
  | duplicateToken {token : Text} {id : Int} (nonempty : token ≠ [])
      (old : ∃ other, .list [.text token, .int other] ∈ before) :
      Flawed before (.list [.text token, .int id]) (.duplicateToken token)
  | duplicateId {token : Text} {id : Int} (nonempty : token ≠ [])
      (new : ∀ other, .list [.text token, .int other] ∉ before)
      (old : ∃ other, .list [.text other, .int id] ∈ before) :
      Flawed before (.list [.text token, .int id]) (.duplicateId id)

section Draft

variable {d : Draft}

/-- The items that a draft was read from. -/
def Draft.items (d : Draft) : List Json := d.entries.map fun e => .list [.text e.1, .int e.2]

theorem Draft.length_items : d.items.length = d.entries.length := List.length_map _

theorem Draft.mem_items {token : Text} {id : Int} :
    .list [.text token, .int id] ∈ d.items ↔ (token, id) ∈ d.entries := by
  simp [items]

theorem Draft.mem_tokens {token : Text} :
    token ∈ d.entries.map Prod.fst ↔ ∃ id, .list [.text token, .int id] ∈ d.items := by
  simp [mem_items]

theorem Draft.mem_ids {id : Int} :
    id ∈ d.entries.map Prod.snd ↔ ∃ token, .list [.text token, .int id] ∈ d.items := by
  simp [mem_items]

theorem Draft.flawed_of_add {item : Json} {flaw : VocabularyFlaw}
    (h : d.add d.items.length item = .error flaw) : Flawed d.items item flaw := by
  -- In the order of the tests: the form of the token, that of the id, and what is old.
  unfold Draft.add at h
  split at h
  next token second =>
    split at h
    next hempty =>
      cases h
      refine .badToken ?_
      rintro _ hne ⟨⟩
      exact hne (List.isEmpty_iff.mp hempty)
    next hne =>
      rw [List.isEmpty_iff] at hne
      split at h
      next id =>
        split at h
        next hold =>
          cases h
          exact .duplicateToken hne (mem_tokens.mp hold)
        next hnew =>
          split at h
          next hold =>
            cases h
            exact .duplicateId hne (not_exists.mp (mem_tokens.not.mp hnew)) (mem_ids.mp hold)
          next => cases h
      next hother =>
        cases h
        exact .badId hne hother
  next first second hother =>
    cases h
    refine .badToken ?_
    rintro token - rfl
    exact hother token rfl
  next hother =>
    cases h
    exact .noPair hother

theorem Flawed.add_eq_error {item : Json} {flaw : VocabularyFlaw} (h : Flawed d.items item flaw) :
    d.add d.items.length item = .error flaw := by
  cases h with
  | noPair other =>
      unfold Draft.add
      split
      next => exact absurd rfl (other _ _)
      next => exact absurd rfl (other _ _)
      next => rfl
  | badToken other =>
      unfold Draft.add
      split
      next token second heq =>
        cases heq
        have hempty : token = [] := not_not.mp fun hne => other token hne rfl
        rw [if_pos (List.isEmpty_iff.mpr hempty)]
      next => rfl
      next hother => exact absurd rfl (hother _ _)
  | badId nonempty other =>
      rw [Draft.add, if_neg (by simpa using nonempty)]
      exact other
  | duplicateToken nonempty old =>
      rw [Draft.add, if_neg (by simpa using nonempty)]
      simp only [dif_pos (Draft.mem_tokens.mpr old)]
  | duplicateId nonempty new old =>
      have hnew := Draft.mem_tokens.not.mpr (not_exists.mpr new)
      rw [Draft.add, if_neg (by simpa using nonempty)]
      simp only [dif_neg hnew, dif_pos (Draft.mem_ids.mpr old)]

/-- An item is refused after those of a draft for its flaw, and taken where it has none. -/
theorem Draft.add_eq_error {item : Json} {flaw : VocabularyFlaw} :
    d.add d.entries.length item = .error flaw ↔ Flawed d.items item flaw := by
  rw [← length_items]
  exact ⟨flawed_of_add, Flawed.add_eq_error⟩

end Draft

section List

variable {pairs : List Json}

/-- The pairs that have been read have a gap exactly if a number below their count is missing. -/
theorem Draft.seal_eq_error {d : Draft} {flaw : VocabularyFlaw} :
    d.seal = .error flaw ↔ flaw = .sparse ∧
      ∃ id : Nat, id < d.entries.length ∧ (id : Int) ∉ d.entries.map Prod.snd := by
  cases hseal : d.seal with
  | ok v =>
      refine iff_of_false nofun ?_
      rintro ⟨-, id, hlt, hmissing⟩
      have hentries := Draft.seal_eq_ok.mp hseal
      rw [hentries, List.length_map] at hlt
      obtain ⟨token, htoken⟩ := exists_lookup (show id < v.size from hlt)
      refine hmissing ?_
      rw [hentries, List.map_map]
      exact List.mem_map.mpr ⟨(token, id), lookup_eq_some.mp htoken, rfl⟩
  | error found =>
      unfold Draft.seal at hseal
      split at hseal
      next => cases hseal
      next hgaps =>
        cases hseal
        rw [Except.error.injEq, eq_comm, iff_self_and]
        rintro -
        by_contra hall
        push Not at hall
        have hlength : (d.entries.map Prod.snd).length = d.entries.length := List.length_map _
        refine hgaps fun e he => ?_
        rw [← hlength] at hall ⊢
        exact lt_of_forall_mem hall e.2 (List.mem_map_of_mem he)

/-- Relates a list to the flaw that it is refused for: the flaw of the first item at fault or, where
no item is at fault, that a number below the length has no token. -/
inductive IsRefusedFor (pairs : List Json) : VocabularyFlaw → Prop where
  | item {flaw : VocabularyFlaw} (first : FirstFlaw Flawed pairs flaw) : IsRefusedFor pairs flaw
  | gap {id : Nat} (flawless : IsFlawless Flawed pairs) (lt : id < pairs.length)
      (missing : ∀ token, .list [.text token, .int id] ∉ pairs) : IsRefusedFor pairs .sparse

theorem exists_draft_iff :
    (∃ d, pairs.zipIdx.foldlM (fun d (item, index) => Draft.add d index item) Draft.empty = .ok d) ↔
      IsFlawless Flawed pairs :=
  Draft.collects.exists_foldlM_eq_ok Draft.add_eq_error rfl

/-- A draft of a list can be sealed unless the list leaves a number out. -/
theorem seal_eq_error_of_draft {d : Draft} {flaw : VocabularyFlaw}
    (hread : pairs.zipIdx.foldlM (fun d (item, index) => Draft.add d index item) Draft.empty =
      .ok d) :
    d.seal = .error flaw ↔ flaw = .sparse ∧
      ∃ id : Nat, id < pairs.length ∧ ∀ token, .list [.text token, .int id] ∉ pairs := by
  obtain rfl : d.items = pairs := Draft.collects.map_form_of_foldlM rfl hread
  rw [Draft.seal_eq_error, Draft.length_items]
  simp only [Draft.mem_ids, not_exists]

theorem ofList_eq_error {flaw : VocabularyFlaw} :
    ofList pairs = .error flaw ↔ IsRefusedFor pairs flaw := by
  rw [ofList, Outcome.bind_eq_error, Draft.collects.foldlM_eq_error Draft.add_eq_error rfl]
  constructor
  · rintro (hfirst | ⟨d, hread, hseal⟩)
    · exact .item hfirst
    · obtain ⟨rfl, id, hlt, hmissing⟩ := (seal_eq_error_of_draft hread).mp hseal
      exact .gap (exists_draft_iff.mp ⟨d, hread⟩) hlt hmissing
  · rintro (hfirst | ⟨hflawless, hlt, hmissing⟩)
    · exact .inl hfirst
    · obtain ⟨d, hread⟩ := exists_draft_iff.mpr hflawless
      exact .inr ⟨d, hread, (seal_eq_error_of_draft hread).mpr ⟨rfl, _, hlt, hmissing⟩⟩

/-! ## Outcomes -/

/-- Holds of a flaw that cannot be told, since its message would show an id with too many digits. -/
def isUnshown : VocabularyFlaw → Bool
  | .duplicateId id => Json.isLong id
  | _ => false

/-- What a list is refused with for a flaw: the id that cannot be shown is a fault of its own. -/
def refusal (flaw : VocabularyFlaw) : Fault :=
  if isUnshown flaw then .integer .longInteger else .malformedModel (.vocabulary flaw)

/-- No list that was read from a text is refused so: the reader refuses such integers itself. -/
theorem isUnshown_of_decode {depth : ℕ} {source : Text} {flaw : VocabularyFlaw}
    (hsource : Json.IsScalar source) (h : Json.decode depth source = .ok (.list pairs))
    (hrefused : IsRefusedFor pairs flaw) : isUnshown flaw = false := by
  cases flaw with
  | duplicateId id =>
      obtain ⟨before, item, after, rfl, -, hflaw⟩ | _ := hrefused
      cases hflaw with
      | duplicateId =>
          refine Json.isLong_of_decode hsource h (List.mem_append_right _ List.mem_cons_self) ?_
          simp
  | _ => rfl

variable [Limits]

/-- Holds of a vocabulary that numbers tokens as a list does, in whatever order its pairs stand. -/
structure Represents (v : Vocabulary) (pairs : List Json) : Prop where
  size : v.size = pairs.length
  lookup : ∀ token (id : Int),
    (v.lookup token).map Nat.cast = some id ↔ .list [.text token, .int id] ∈ pairs
  unlisted : ∀ token, v.lookup token = none ↔ ∀ id, .list [.text token, .int id] ∉ pairs
  reordered : ∀ other : List Json, other.Perm pairs → ∃ w, ofJson (.list other) = .ok w ∧
    w.size = v.size ∧ ∀ token, w.lookup token = v.lookup token

theorem ofJson_list_eq_ok {v : Vocabulary} :
    ofJson (.list pairs) = .ok v ↔ ofList pairs = .ok v := Outcome.mapError_eq_ok

theorem represents_of_ofList {v : Vocabulary} (hv : ofList pairs = .ok v) :
    Represents v pairs := by
  have hnumbering := ofList_eq_ok_iff_isNumbering.mp hv
  have hlisted := hnumbering.listed
  have hlookup : ∀ token (id : Int),
      (v.lookup token).map Nat.cast = some id ↔ .list [.text token, .int id] ∈ pairs := by
    intro token id
    rw [hlisted, Option.map_eq_some_iff, List.mem_map]
    constructor
    · rintro ⟨n, hn, rfl⟩
      exact ⟨(token, n), lookup_eq_some.mp hn, rfl⟩
    · rintro ⟨⟨_, n⟩, he, heq⟩
      cases heq
      exact ⟨n, lookup_eq_some.mpr he, rfl⟩
  refine ⟨by rw [hlisted, List.length_map, size], hlookup, ?_, ?_⟩
  · intro token
    simp only [← hlookup]
    cases v.lookup token <;> simp
  · intro other hother
    rw [hlisted] at hother
    obtain ⟨w, hw, hperm⟩ := exists_ofList hother hnumbering.tokens_ne_nil
      hnumbering.tokens_nodup hnumbering.ids_perm
    exact ⟨w, ofJson_list_eq_ok.mpr hw, hperm.length_eq,
      Entries.get?_eq_of_perm w.tokens_nodup hperm⟩

theorem fault_eq_refusal (flaw : VocabularyFlaw) :
    (ModelFlaw.vocabulary flaw).fault = refusal flaw := by
  cases flaw with
  | duplicateId id =>
      rw [ModelFlaw.fault, ModelFlaw.obstacle?, Json.obstacle?_int, refusal, isUnshown]
      by_cases hlong : Json.isLong id
      · rw [if_pos hlong, if_pos hlong]
        rfl
      · rw [if_neg hlong, if_neg hlong]
  | _ => rfl

theorem ofJson_eq_refusal {flaw : VocabularyFlaw} (hrefused : IsRefusedFor pairs flaw) :
    ofJson (.list pairs) = .error (refusal flaw) :=
  Outcome.mapError_eq_error.mpr ⟨flaw, ofList_eq_error.mpr hrefused, fault_eq_refusal flaw⟩

/-- A list is read as a vocabulary if and only if it is a numbering, and the vocabulary numbers the
tokens as the list does. Any other list is refused for its flaw, which can be told unless an id with
too many digits is repeated. In a list that was read from a text there is no such id. -/
theorem ofJson_reads_numberings (pairs : List Json) :
    ((∃ v, ofJson (.list pairs) = .ok v) ↔ ∃ es, IsNumbering pairs es) ∧
      (∀ v, ofJson (.list pairs) = .ok v → Represents v pairs) ∧
      ((¬∃ es, IsNumbering pairs es) ↔ ∃ flaw, IsRefusedFor pairs flaw) ∧
      (∀ flaw, IsRefusedFor pairs flaw → ofJson (.list pairs) = .error (refusal flaw)) ∧
      ∀ depth source, Json.IsScalar source → Json.decode depth source = .ok (.list pairs) →
        ∀ flaw, IsRefusedFor pairs flaw → isUnshown flaw = false := by
  simp only [ofJson_list_eq_ok]
  refine ⟨exists_ofList_iff, fun v => represents_of_ofList, ?_, fun _ => ofJson_eq_refusal,
    fun _ _ hsource h _ => isUnshown_of_decode hsource h⟩
  rw [← exists_ofList_iff]
  simp only [← ofList_eq_error]
  cases ofList pairs <;> simp

end List

/-- An id with more digits than a message can show. -/
def longId : Int := Nat.pow 10 Json.digitLimit

/-- A list that gives one id to two tokens. -/
def repeating (id : Int) : List Json := [.list [.text "a", .int id], .list [.text "b", .int id]]

theorem isRefusedFor_repeating (id : Int) : IsRefusedFor (repeating id) (.duplicateId id) :=
  .item ⟨[_], _, [], rfl, exists_draft_iff.mp ⟨_, rfl⟩,
    .duplicateId (by decide) (by simp [show ("b" : Text) ≠ "a" by decide]) ⟨"a", List.mem_cons_self⟩⟩

open scoped Limits.Usual in
/-- An id that is repeated is no flaw of the list if it cannot be shown. -/
theorem repeatedLongId_escapes :
    ¬((∃ v, ofJson (.list (repeating longId)) = .ok v) ∨
      ∃ flaw, ofJson (.list (repeating longId)) = .error (.malformedModel flaw)) := by
  have hlong : isUnshown (.duplicateId longId) = true := by decide +kernel
  rw [ofJson_eq_refusal (isRefusedFor_repeating longId), refusal, if_pos hlong]
  rintro (⟨v, h⟩ | ⟨flaw, h⟩) <;> cases h

example : ofList [.list [.text "end", .int 0], .list [.text "def", .bool true],
    .list [.text "end", .int 1]] = .error (.badId 1) := rfl

end Polyglot.Vocabulary
