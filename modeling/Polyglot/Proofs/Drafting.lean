import Mathlib.Data.List.Lex
import Mathlib.Data.List.Nodup
import Polyglot.Proofs.Canonical
import Polyglot.Proofs.Entries

/-! # Two ways to settings

An object can be read as settings, or its known members can be put into a draft that is settled. The
two ways look at the same values in another order: reading an object begins with the path, settling
a draft with the limit. So they differ where both of these are at fault, and otherwise only if a
path can be shown to the depth of one way and not to that of the other. Unknown keys count for a
strict reading alone, which refuses them before anything else.
-/

namespace Polyglot.Settings

/-! ## Order of keys -/

theorem isInOrder_iff {a b : Text} : isInOrder a b ↔ ¬List.Lex (· < ·) b a := by
  simp [isInOrder, List.lex_eq_decide_lex]

theorem pairwise_unknownKeys (members : List (Text × Json))
    (hnodup : (Entries.keys members).Nodup) :
    (unknownKeys members).Pairwise (List.Lex (· < ·)) := by
  have hsorted : (unknownKeys members).Pairwise fun a b => isInOrder a b := by
    apply List.pairwise_mergeSort
    · intro a b c hab hbc
      rw [isInOrder_iff] at hab hbc ⊢
      intro hca
      rcases IsOrderConnected.conn c b a hca with h | h
      · exact hbc h
      · exact hab h
    · intro a b
      rw [Bool.or_eq_true, isInOrder_iff, isInOrder_iff]
      by_contra h
      rw [not_or, not_not, not_not] at h
      exact asymm h.1 h.2
  have hdistinct : (unknownKeys members).Nodup :=
    (List.mergeSort_perm _ _).nodup_iff.mpr (hnodup.filter _)
  refine (hsorted.and hdistinct).imp ?_
  rintro a b ⟨hab, hne⟩
  rw [isInOrder_iff] at hab
  by_contra h
  exact hne (Std.Trichotomous.trichotomous a b h hab)

/-! ## The draft of the known members -/

/-- The members under keys that are known. -/
def knownMembers (members : List (Text × Json)) : List (Text × Json) :=
  members.filter fun m => keys.contains m.1

/-- Settles the draft with the values of the known members. -/
def ofKnown [Limits] (members : List (Text × Json)) : Except Fault Settings := do
  (← Draft.ofMembers (knownMembers members)).settle

/-- The value under a key, or another one if the key is missing. -/
def valueOr (members : List (Text × Json)) (key : Text) (value : Json) : Json :=
  (Entries.get? key members).getD value

/-- A draft in which some members have replaced the values under their keys. -/
def Draft.withMembers (d : Draft) (members : List (Text × Json)) : Draft where
  modelPath := valueOr members "model_path" d.modelPath
  maxInputChars := valueOr members "max_input_chars" d.maxInputChars
  schemaVersion := valueOr members "schema_version" d.schemaVersion

section Members

variable {members : List (Text × Json)}

theorem get?_knownMembers {key : Text} (hkey : key ∈ keys) (members : List (Text × Json)) :
    Entries.get? key (knownMembers members) = Entries.get? key members :=
  Entries.get?_filter (p := keys.contains) (List.contains_iff_mem.mpr hkey) members

/-- A known member that comes first is replaced by no later one with the same key. -/
theorem Draft.put_withMembers {d : Draft} {m : Text × Json} (hkey : m.1 ∈ keys)
    (hnew : m.1 ∉ Entries.keys members) :
    ∃ d', d.put m.1 m.2 = .ok d' ∧ d'.withMembers members = d.withMembers (m :: members) := by
  rcases m with ⟨key, value⟩
  have hnone := Entries.get?_of_notMem hnew
  simp only [keys, List.mem_cons, List.not_mem_nil, or_false] at hkey
  rcases hkey with rfl | rfl | rfl
  · refine ⟨{ d with modelPath := value }, rfl, Draft.ext ?_ rfl rfl⟩
    simp [withMembers, valueOr, Entries.get?, hnone]
  · refine ⟨{ d with maxInputChars := value }, rfl, Draft.ext rfl ?_ rfl⟩
    simp [withMembers, valueOr, Entries.get?, hnone]
  · refine ⟨{ d with schemaVersion := value }, rfl, Draft.ext rfl rfl ?_⟩
    simp [withMembers, valueOr, Entries.get?, hnone]

theorem Draft.foldlM_put {members : List (Text × Json)} (hkeys : ∀ m ∈ members, m.1 ∈ keys)
    (hnodup : (Entries.keys members).Nodup) (d : Draft) :
    members.foldlM (fun d m => d.put m.1 m.2) d = .ok (d.withMembers members) := by
  induction members generalizing d with
  | nil => rfl
  | cons m members ih =>
      obtain ⟨hnew, hrest⟩ := List.nodup_cons.mp hnodup
      obtain ⟨hkey, hmembers⟩ := List.forall_mem_cons.mp hkeys
      obtain ⟨d', hput, hsame⟩ := Draft.put_withMembers hkey hnew
      rw [List.foldlM_cons, hput, Outcome.bind_ok, ih hmembers hrest, hsame]

/-- Objects with the same values under the known keys give the same draft. -/
theorem Draft.withMembers_congr {others : List (Text × Json)}
    (hsame : ∀ key ∈ keys, Entries.get? key others = Entries.get? key members) (d : Draft) :
    d.withMembers others = d.withMembers members := by
  obtain ⟨hpath, hlimit, hversion, -⟩ := by simpa only [keys, List.forall_mem_cons] using hsame
  simp only [withMembers, valueOr, hpath, hlimit, hversion]

/-- Under distinct keys the known members give the values of the draft. -/
theorem ofKnown_eq [Limits] (hnodup : (Entries.keys members).Nodup) :
    ofKnown members = (Draft.standard.withMembers members).settle := by
  have hkeys : ∀ m ∈ knownMembers members, m.1 ∈ keys := by
    intro m hm
    simpa using (List.mem_filter.mp hm).2
  have hdistinct : (Entries.keys (knownMembers members)).Nodup :=
    hnodup.sublist (List.filter_sublist.map _)
  rw [ofKnown, Draft.ofMembers, Draft.foldlM_put hkeys hdistinct, Outcome.bind_ok,
    Draft.withMembers_congr fun key hkey => get?_knownMembers hkey members]

end Members

/-! ## The order of the values -/

theorem stripped_of_trimmed (path : Option TrimmedPath) :
    ∀ p ∈ path.map Subtype.val, p ≠ [] ∧ Text.strip p = p :=
  Option.forall_mem_map.mpr fun p _ => p.2

theorem one_le_of_positive (limit : Option { n : ℕ // 1 ≤ n }) :
    ∀ n ∈ limit.map Subtype.val, 1 ≤ n :=
  Option.forall_mem_map.mpr fun n _ => n.2

theorem one_le_max_one (version : ℤ) : 1 ≤ max 1 version.toNat := Nat.le_max_left 1 _

/-- The settings of a path, a limit and a version that have been read. -/
def assemble (path : Option TrimmedPath) (limit : Option { n : ℕ // 1 ≤ n }) (version : ℤ) :
    Settings where
  modelPath := path.map Subtype.val
  maxInputChars := limit.map Subtype.val
  schemaVersion := max 1 version.toNat
  modelPath_stripped := stripped_of_trimmed path
  one_le_maxInputChars := one_le_of_positive limit
  one_le_schemaVersion := one_le_max_one version

/-- A draft whose version is an integer is settled by reading its limit and then its path. -/
theorem Draft.settle_of_version [Limits] {d : Draft} {version : ℤ}
    (hversion : Integer.ofJson d.schemaVersion = .ok version) :
    d.settle = (do
      let limit ← readLimit d.maxInputChars
      let path ← readPath Limits.settling d.modelPath
      pure (assemble path limit version)) := by
  rw [settle, hversion]
  rfl

/-- An object is read by reading its path, its version and then its limit. -/
theorem ofJson_eq_assemble [Limits] (members : List (Text × Json)) :
    ofJson false (.object members) = (do
      let path ← readPath Limits.reading (valueAt members "model_path")
      let version ← readVersion (valueAt members "schema_version")
      let limit ← readLimit (valueAt members "max_input_chars")
      pure (assemble path limit version)) := by
  have hlenient : false = true → unknownKeys members = [] := nofun
  rw [ofJson_of_known hlenient]
  refine congrArg _ (funext fun path => congrArg _ (funext fun version => ?_))
  have hversion : Integer.ofJson (.int version) = .ok version := rfl
  rw [Draft.settle_of_version hversion]
  simp only [draftOf, readPath_trimmed, Outcome.bind_ok]

section Versions

variable {members : List (Text × Json)}

/-- Holds of an object whose version is missing or an integer. -/
def GivesVersion (members : List (Text × Json)) : Prop :=
  ∀ v ∈ Entries.get? ("schema_version" : Text) members, v ≠ .null ∧ ∃ i, Integer.ofJson v = .ok i

/-- Holds of an object whose version is null or no integer, an infinite number apart. -/
def LacksVersion (members : List (Text × Json)) : Prop :=
  ∃ v ∈ Entries.get? ("schema_version" : Text) members,
    v = .null ∨ ∃ fault, fault ≠ .infinite ∧ Integer.ofJson v = .error fault

theorem readVersion_of_ok {v : Json} {i : ℤ} (hnull : v ≠ .null)
    (hread : Integer.ofJson v = .ok i) : readVersion v = .ok i := by
  unfold readVersion
  split
  next => exact absurd rfl hnull
  next => rw [hread]

theorem readVersion_of_error {v : Json} {fault : IntegerFault} (hfinite : fault ≠ .infinite)
    (hread : Integer.ofJson v = .error fault) : readVersion v = .ok currentVersion := by
  unfold readVersion
  split
  next => rfl
  next =>
    rw [hread]
    refine if_pos ?_
    cases fault with
    | infinite => exact absurd rfl hfinite
    | _ => rfl

/-- The version that an object gives is the one of its draft. -/
theorem GivesVersion.exists_version (h : GivesVersion members) :
    ∃ version, readVersion (valueAt members "schema_version") = .ok version ∧
      Integer.ofJson (Draft.standard.withMembers members).schemaVersion = .ok version := by
  unfold valueAt Draft.withMembers valueOr
  cases hget : Entries.get? ("schema_version" : Text) members with
  | none => exact ⟨currentVersion, rfl, rfl⟩
  | some v =>
      obtain ⟨hnull, i, hread⟩ := h v hget
      exact ⟨i, readVersion_of_ok hnull hread, hread⟩

theorem LacksVersion.readVersion_eq (h : LacksVersion members) :
    readVersion (valueAt members "schema_version") = .ok currentVersion := by
  obtain ⟨v, hget, hlacking⟩ := h
  rw [valueAt, Option.mem_def.mp hget, Option.getD_some]
  rcases hlacking with rfl | ⟨fault, hfinite, hread⟩
  · rfl
  · exact readVersion_of_error hfinite hread

end Versions

/-! ## Where the two ways differ -/

theorem readPath_congr {depth depth' : ℕ} {v : Json}
    (hsame : Json.obstacle? depth v = Json.obstacle? depth' v) :
    readPath depth v = readPath depth' v := by
  cases v with
  | null => rfl
  | _ => simp only [readPath, hsame]

theorem ofObstacle_injective {obstacle obstacle' : Json.Obstacle}
    (h : Fault.ofObstacle obstacle = Fault.ofObstacle obstacle') : obstacle = obstacle' := by
  cases obstacle <;> cases obstacle' <;> first | rfl | cases h

/-- What is done with a path comes to the same at two depths exactly if the same keeps the path from
being shown. -/
theorem bind_readPath_eq_iff {depth depth' : ℕ} {v : Json} (use : Option TrimmedPath → Settings) :
    (readPath depth v >>= fun path => pure (use path)) =
        (readPath depth' v >>= fun path => pure (use path)) ↔
      Json.obstacle? depth v = Json.obstacle? depth' v := by
  refine ⟨fun hsame => ?_, fun hsame => by rw [readPath_congr hsame]⟩
  cases hfirst : Json.obstacle? depth v with
  | none =>
      obtain ⟨path, hpath⟩ := exists_readPath hfirst
      cases hsecond : Json.obstacle? depth' v with
      | none => rfl
      | some obstacle =>
          rw [hpath, readPath_of_unshown hsecond] at hsame
          cases hsame
  | some obstacle =>
      cases hsecond : Json.obstacle? depth' v with
      | none =>
          obtain ⟨path, hpath⟩ := exists_readPath hsecond
          rw [hpath, readPath_of_unshown hfirst] at hsame
          cases hsame
      | some other =>
          rw [readPath_of_unshown hfirst, readPath_of_unshown hsecond] at hsame
          exact congrArg some (ofObstacle_injective (Except.error.inj hsame))

/-- No limit is refused with the fault of a value that cannot be shown. -/
theorem readLimit_ne_ofObstacle (v : Json) (obstacle : Json.Obstacle) :
    readLimit v ≠ .error (.ofObstacle obstacle) := by
  by_cases hinfinite : IsInfinite v
  · rw [readLimit_of_infinite hinfinite]
    cases obstacle <;> nofun
  · rcases readLimit_of_finite hinfinite with ⟨limit, hread⟩ | ⟨flaw, hread⟩
    · rw [hread]
      nofun
    · rw [hread]
      exact fun h => Fault.ofObstacle_ne_invalidSettings _ _ (Except.error.inj h).symm

section Keys

variable {members : List (Text × Json)}

theorem mem_unknownKeys {key : Text} :
    key ∈ unknownKeys members ↔ key ∈ Entries.keys members ∧ key ∉ keys := by
  simp [unknownKeys]

theorem unknownKeys_erase {key : Text} (hkey : key ∈ keys) :
    unknownKeys (Entries.erase key members) = unknownKeys members := by
  have hfilter : (Entries.keys (Entries.erase key members)).filter (fun k => !keys.contains k) =
      (Entries.keys members).filter fun k => !keys.contains k := by
    rw [Entries.erase, Entries.keys_filter_key fun k => k ≠ key, List.filter_filter]
    refine List.filter_congr fun k _ => ?_
    by_cases hk : k = key
    · simp [hk, hkey]
    · simp [hk]
  rw [unknownKeys, unknownKeys, hfilter]

end Keys

section Ways

variable [Limits] {members : List (Text × Json)}

/-- Relates an object whose path and limit are both at fault to these two faults. -/
inductive Clashes (members : List (Text × Json)) : Fault → Fault → Prop where
  | mk {obstacle : Json.Obstacle} {fault : Fault}
      (unshown : Json.obstacle? Limits.reading (valueAt members "model_path") = some obstacle)
      (refused : readLimit (valueAt members "max_input_chars") = .error fault) :
      Clashes members (.ofObstacle obstacle) fault

/-- Holds of an object whose limit is in order, and whose path is kept from being shown by something
else at one depth than at the other. -/
def Straddles (members : List (Text × Json)) : Prop :=
  (∃ limit, readLimit (valueAt members "max_input_chars") = .ok limit) ∧
    Json.obstacle? Limits.reading (valueAt members "model_path") ≠
      Json.obstacle? Limits.settling (valueAt members "model_path")

theorem ofJson_of_clashes {fault fault' : Fault} (h : Clashes members fault fault') :
    ofJson false (.object members) = .error fault := by
  cases h with
  | mk unshown refused =>
      rw [ofJson_eq_assemble, readPath_of_unshown unshown, Outcome.bind_error]

theorem ofKnown_of_clashes (hnodup : (Entries.keys members).Nodup) (hversion : GivesVersion members)
    {fault fault' : Fault} (h : Clashes members fault fault') :
    ofKnown members = .error fault' := by
  obtain ⟨version, -, hread⟩ := hversion.exists_version
  cases h with
  | mk unshown refused =>
      have hlimit : readLimit (Draft.standard.withMembers members).maxInputChars = .error fault' :=
        refused
      rw [ofKnown_eq hnodup, Draft.settle_of_version hread, hlimit, Outcome.bind_error]

/-- What the two ways come to where the limit is in order. -/
theorem ways_of_limit (hnodup : (Entries.keys members).Nodup) (hversion : GivesVersion members)
    {limit : Option { n : ℕ // 1 ≤ n }}
    (hlimit : readLimit (valueAt members "max_input_chars") = .ok limit) :
    ∃ version,
      ofJson false (.object members) = (do
        let path ← readPath Limits.reading (valueAt members "model_path")
        pure (assemble path limit version)) ∧
      ofKnown members = (do
        let path ← readPath Limits.settling (valueAt members "model_path")
        pure (assemble path limit version)) := by
  obtain ⟨version, hread, hread'⟩ := hversion.exists_version
  have hlimit' : readLimit (Draft.standard.withMembers members).maxInputChars = .ok limit := hlimit
  refine ⟨version, ?_, ?_⟩
  · rw [ofJson_eq_assemble, hread, hlimit]
    rfl
  · rw [ofKnown_eq hnodup, Draft.settle_of_version hread', hlimit', Outcome.bind_ok]
    rfl

/-- The two ways agree exactly where the path and the limit are not both at fault, and the depths to
which they show the path do not tell them apart. -/
theorem ofJson_eq_ofKnown_iff (hnodup : (Entries.keys members).Nodup)
    (hversion : GivesVersion members) :
    ofJson false (.object members) = ofKnown members ↔
      (∀ fault fault', ¬Clashes members fault fault') ∧ ¬Straddles members := by
  cases hlimit : readLimit (valueAt members "max_input_chars") with
  | ok limit =>
      obtain ⟨version, hread, hdraft⟩ := ways_of_limit hnodup hversion hlimit
      have hclash : ∀ fault fault', ¬Clashes members fault fault' := by
        rintro _ _ ⟨-, refused⟩
        cases hlimit.symm.trans refused
      rw [hread, hdraft, bind_readPath_eq_iff, and_iff_right hclash, Straddles,
        and_iff_right ⟨limit, hlimit⟩, ne_eq, not_not]
  | error fault' =>
      have hstraddle : ¬Straddles members := by
        rintro ⟨⟨limit, hread⟩, -⟩
        cases hlimit.symm.trans hread
      rw [and_iff_left hstraddle]
      cases hshown : Json.obstacle? Limits.reading (valueAt members "model_path") with
      | some obstacle =>
          have hclash : Clashes members (.ofObstacle obstacle) fault' := .mk hshown hlimit
          refine iff_of_false ?_ fun hnone => hnone _ _ hclash
          rw [ofJson_of_clashes hclash, ofKnown_of_clashes hnodup hversion hclash]
          rintro ⟨⟩
          exact readLimit_ne_ofObstacle _ _ hlimit
      | none =>
          refine iff_of_true ?_ ?_
          · obtain ⟨path, hpath⟩ := exists_readPath hshown
            obtain ⟨version, hread, hread'⟩ := hversion.exists_version
            have hlimit' : readLimit (Draft.standard.withMembers members).maxInputChars =
                .error fault' := hlimit
            rw [ofJson_eq_assemble, hpath, hread, hlimit, ofKnown_eq hnodup,
              Draft.settle_of_version hread', hlimit']
            rfl
          · rintro _ _ ⟨unshown, -⟩
            cases hshown.symm.trans unshown

/-- What stands under unknown keys counts for nothing in a reading that lets them pass. -/
theorem ofJson_congr {others : List (Text × Json)} {strict strict' : Bool}
    (hknown : strict → unknownKeys members = []) (hknown' : strict' → unknownKeys others = [])
    (hsame : ∀ key ∈ keys, Entries.get? key others = Entries.get? key members) :
    ofJson strict' (.object others) = ofJson strict (.object members) := by
  obtain ⟨hpath, hlimit, hversion, -⟩ := by simpa only [keys, List.forall_mem_cons] using hsame
  rw [ofJson_of_known hknown, ofJson_of_known hknown']
  simp only [valueAt, hpath, hlimit, hversion]

/-- A version that is lacking is read as one that is missing. -/
theorem LacksVersion.ofJson_eq (h : LacksVersion members) (strict : Bool) :
    ofJson strict (.object members) =
      ofJson strict (.object (Entries.erase "schema_version" members)) := by
  have hunknown : unknownKeys (Entries.erase "schema_version" members) = unknownKeys members :=
    unknownKeys_erase (by decide)
  by_cases hknown : strict → unknownKeys members = []
  · have hversion : readVersion (valueAt (Entries.erase "schema_version" members)
        "schema_version") = .ok currentVersion := by
      rw [valueAt, Entries.get?_erase_self]
      rfl
    rw [ofJson_of_known hknown, ofJson_of_known (hunknown.symm ▸ hknown), h.readVersion_eq,
      hversion]
    simp only [valueAt]
    rw [Entries.get?_erase_of_ne (by decide), Entries.get?_erase_of_ne (by decide)]
  · rw [ofJson_of_unknown hknown, ofJson_of_unknown (hunknown.symm ▸ hknown), hunknown]

/-- Reading an object comes to what its draft settles to, unless the path cannot be shown. If the
limit is at fault too, the reading ends with the fault of the path, and the draft with that of the
limit; if it is not, the two may still have different depths to show the path to. A version that is
lacking counts as missing. Unknown keys count for a strict reading alone, which refuses them in
order before it looks at a value. -/
theorem ofJson_against_draft (hnodup : (Entries.keys members).Nodup) :
    (GivesVersion members →
      (ofJson false (.object members) = ofKnown members ↔
        (∀ fault fault', ¬Clashes members fault fault') ∧ ¬Straddles members) ∧
      (∀ fault fault', Clashes members fault fault' →
        ofJson false (.object members) = .error fault ∧ ofKnown members = .error fault') ∧
      ∀ limit, readLimit (valueAt members "max_input_chars") = .ok limit → ∃ version,
        ofJson false (.object members) = (do
          let path ← readPath Limits.reading (valueAt members "model_path")
          pure (assemble path limit version)) ∧
        ofKnown members = (do
          let path ← readPath Limits.settling (valueAt members "model_path")
          pure (assemble path limit version))) ∧
    (LacksVersion members → ∀ strict, ofJson strict (.object members) =
      ofJson strict (.object (Entries.erase "schema_version" members))) ∧
    (∀ others, (∀ key ∈ keys, Entries.get? key others = Entries.get? key members) →
      ofJson false (.object others) = ofJson false (.object members)) ∧
    ((∃ key ∈ Entries.keys members, key ∉ keys) →
      ∃ unknown, (∀ key, key ∈ unknown ↔ key ∈ Entries.keys members ∧ key ∉ keys) ∧
        unknown.Pairwise (List.Lex (· < ·)) ∧
        ofJson true (.object members) = .error (.invalidSettings (.unknownKeys unknown))) ∧
    ((∀ key ∈ Entries.keys members, key ∈ keys) →
      ofJson true (.object members) = ofJson false (.object members)) := by
  refine ⟨fun hversion => ⟨ofJson_eq_ofKnown_iff hnodup hversion, fun _ _ h =>
    ⟨ofJson_of_clashes h, ofKnown_of_clashes hnodup hversion h⟩,
      fun _ => ways_of_limit hnodup hversion⟩,
    LacksVersion.ofJson_eq, fun _ => ofJson_congr nofun nofun, ?_, ?_⟩
  · rintro ⟨key, hkey, hunknown⟩
    refine ⟨unknownKeys members, fun _ => mem_unknownKeys, pairwise_unknownKeys members hnodup,
      ofJson_of_unknown ?_⟩
    intro hknown
    exact List.ne_nil_of_mem (mem_unknownKeys.mpr ⟨hkey, hunknown⟩) (hknown rfl)
  · intro hkeys
    exact ofJson_congr nofun (fun _ => unknownKeys_eq_nil hkeys) fun _ _ => rfl

end Ways

/-- Members in which two unknown keys stand out of order. -/
def strangeMembers : List (Text × Json) :=
  [("zeta", .null), ("model_path", .text " m "), ("schema_version", .text "2"), ("Alpha", .null)]

open scoped Limits.Usual in
theorem strangeMembers_against_draft : GivesVersion strangeMembers ∧
    ofJson false (.object strangeMembers) = ofKnown strangeMembers ∧
    ∃ unknown, unknown.Pairwise (List.Lex (· < ·)) ∧
      ofJson true (.object strangeMembers) = .error (.invalidSettings (.unknownKeys unknown)) := by
  have hversion : GivesVersion strangeMembers := by
    rintro v ⟨⟩
    exact ⟨nofun, 2, by rfl⟩
  have hshown : ∀ depth, Json.obstacle? depth (valueAt strangeMembers "model_path") = none :=
    fun depth => Json.obstacle?_text depth _
  have hnone : ∀ fault fault', ¬Clashes strangeMembers fault fault' := by
    rintro _ _ ⟨unshown, -⟩
    cases (hshown _).symm.trans unshown
  have hsame : ¬Straddles strangeMembers := fun h => h.2 ((hshown _).trans (hshown _).symm)
  have hnodup : (Entries.keys strangeMembers).Nodup := by decide
  obtain ⟨hdraft, -, -, hstrict, -⟩ := ofJson_against_draft hnodup
  obtain ⟨unknown, -, hsorted, hrefused⟩ := hstrict ⟨"zeta", by decide, by decide⟩
  exact ⟨hversion, (hdraft hversion).1.mpr ⟨hnone, hsame⟩, unknown, hsorted, hrefused⟩

/-- A list that holds a list, and so on. -/
def buried : ℕ → Json
  | 0 => .list []
  | n + 1 => .list [buried n]

theorem obstacle?_buried {depth n : ℕ} (hdeep : depth ≤ n) :
    Json.obstacle? depth (buried n) = some .tooDeep := by
  have hlist : ∀ items, Json.obstacle? 0 (.list items) = some .tooDeep := fun _ => rfl
  have hstep : ∀ depth items, Json.obstacle? (depth + 1) (.list items) =
      items.findSome? (Json.obstacle? depth) := fun _ _ => rfl
  induction depth generalizing n with
  | zero =>
      cases n with
      | zero => exact hlist []
      | succ n => exact hlist [buried n]
  | succ depth ih =>
      obtain ⟨n, rfl⟩ := Nat.exists_eq_add_of_le' hdeep
      rw [← add_assoc, buried, hstep, List.findSome?_cons, ih (Nat.le_add_left depth n)]

/-- A path that cannot be shown, and a limit that is too small. -/
def clashingMembers : List (Text × Json) :=
  [("model_path", buried 2999), ("max_input_chars", .int 0)]

open scoped Limits.Usual in
/-- There the reading ends with the fault of the path, and the draft with that of the limit. -/
theorem clashingMembers_differ : GivesVersion clashingMembers ∧
    (Entries.keys clashingMembers).Nodup ∧
    ofJson false (.object clashingMembers) = .error .tooDeep ∧
    ofKnown clashingMembers = .error (.invalidSettings .limitTooSmall) ∧
    ofJson false (.object clashingMembers) ≠ ofKnown clashingMembers := by
  have hnodup : (Entries.keys clashingMembers).Nodup := by decide
  have hversion : GivesVersion clashingMembers := by
    rintro v ⟨⟩
  have hdeep : Limits.reading ≤ 2999 := by decide
  have hclash : Clashes clashingMembers (.ofObstacle .tooDeep) (.invalidSettings .limitTooSmall) :=
    .mk (obstacle?_buried hdeep) rfl
  have hread := ofJson_of_clashes hclash
  have hdraft := ofKnown_of_clashes hnodup hversion hclash
  refine ⟨hversion, hnodup, hread, hdraft, ?_⟩
  rw [hread, hdraft]
  nofun

end Polyglot.Settings
