import Polyglot.Proofs.Excess
import Polyglot.Proofs.Text

/-! # The canonical form of settings

A canonical draft has no path or a text without blanks at its ends, no limit or a positive integer,
and a positive integer as its version. Settling brings every draft that it accepts into this form
and leaves the drafts alone that have it already, so that settling twice is settling once. The
object form of what came out is read back as it is, by a strict reading too.
-/

namespace Polyglot.Settings

attribute [ext] Settings Draft

/-- Holds of a draft whose values have the form in which settings are written. -/
structure Draft.IsCanonical (d : Draft) : Prop where
  modelPath : d.modelPath = .null ∨ ∃ p, d.modelPath = .text p ∧ p ≠ [] ∧
    (∀ c ∈ p.head?, CodePoint.isBlank c = false) ∧ ∀ c ∈ p.getLast?, CodePoint.isBlank c = false
  maxInputChars : d.maxInputChars = .null ∨ ∃ n : ℤ, d.maxInputChars = .int n ∧ 1 ≤ n
  schemaVersion : ∃ n : ℤ, d.schemaVersion = .int n ∧ 1 ≤ n

theorem getLast?_strip (t : Text) : ∀ c ∈ (Text.strip t).getLast?, CodePoint.isBlank c = false := by
  intro c hc
  rw [Text.strip, Text.trim, List.getLast?_reverse] at hc
  exact Text.head?_dropWhile _ _ c hc

/-! ## The drafts of settings -/

section Fields

variable (s : Settings)

/-- The path of a draft of settings is null or a text, and is read as it is. -/
theorem modelPath_draft :
    (s.draft.modelPath = .null ∧ s.modelPath = none ∧
        ∀ depth, readPath depth s.draft.modelPath = .ok none) ∨
      ∃ p : TrimmedPath, s.draft.modelPath = .text p ∧ s.modelPath = some p.1 ∧
        ∀ depth, readPath depth s.draft.modelPath = .ok (some p) := by
  cases hpath : s.modelPath with
  | none =>
      have hnull : s.draft.modelPath = .null := by rw [draft, hpath]; rfl
      exact .inl ⟨hnull, rfl, fun _ => by rw [hnull]; rfl⟩
  | some p =>
      have htext : s.draft.modelPath = .text p := by rw [draft, hpath]; rfl
      let trimmed : TrimmedPath := ⟨p, s.modelPath_stripped p hpath⟩
      refine .inr ⟨trimmed, htext, rfl, fun depth => ?_⟩
      rw [htext]
      exact readPath_trimmed depth (some trimmed)

/-- The limit of a draft of settings is null or a positive integer, and is read as it is. -/
theorem maxInputChars_draft :
    (s.draft.maxInputChars = .null ∧ s.maxInputChars = none ∧
        readLimit s.draft.maxInputChars = .ok none) ∨
      ∃ n : { n : ℕ // 1 ≤ n }, s.draft.maxInputChars = .int n.1 ∧ s.maxInputChars = some n.1 ∧
        readLimit s.draft.maxInputChars = .ok (some n) := by
  cases hlimit : s.maxInputChars with
  | none =>
      have hnull : s.draft.maxInputChars = .null := by rw [draft, hlimit]; rfl
      exact .inl ⟨hnull, rfl, by rw [hnull]; rfl⟩
  | some n =>
      have hint : s.draft.maxInputChars = .int n := by rw [draft, hlimit]; rfl
      have hpositive := s.one_le_maxInputChars n hlimit
      have hread : readLimit (.int n) = .ok (some ⟨n, hpositive⟩) :=
        dif_pos (Int.ofNat_le.mpr hpositive)
      exact .inr ⟨⟨n, hpositive⟩, hint, rfl, by rw [hint, hread]⟩

/-- The draft of settings is canonical. -/
theorem isCanonical_draft : s.draft.IsCanonical := by
  refine ⟨(modelPath_draft s).imp (fun h => h.1) ?_, (maxInputChars_draft s).imp (fun h => h.1) ?_,
    s.schemaVersion, rfl, Int.ofNat_le.mpr s.one_le_schemaVersion⟩
  · rintro ⟨⟨p, hne, hstrip⟩, htext, -⟩
    refine ⟨p, htext, hne, ?_⟩
    rw [← hstrip]
    exact ⟨Text.head?_trim _ p, getLast?_strip p⟩
  · rintro ⟨⟨n, hpositive⟩, hint, -⟩
    exact ⟨n, hint, Int.ofNat_le.mpr hpositive⟩

/-- Settling the draft of settings gives these settings. -/
theorem settle_draft [Limits] : s.draft.settle = .ok s := by
  obtain ⟨limit, hlimit, hl⟩ :
      ∃ limit, readLimit s.draft.maxInputChars = .ok limit ∧
        limit.map Subtype.val = s.maxInputChars := by
    rcases maxInputChars_draft s with ⟨-, hnone, hread⟩ | ⟨n, -, hsome, hread⟩
    · exact ⟨_, hread, hnone.symm⟩
    · exact ⟨_, hread, hsome.symm⟩
  obtain ⟨path, hpath, hp⟩ :
      ∃ path, readPath Limits.settling s.draft.modelPath = .ok path ∧
        path.map Subtype.val = s.modelPath := by
    rcases modelPath_draft s with ⟨-, hnone, hread⟩ | ⟨p, -, hsome, hread⟩
    · exact ⟨_, hread _, hnone.symm⟩
    · exact ⟨_, hread _, hsome.symm⟩
  rw [Draft.settle, hlimit, Outcome.bind_ok, hpath, Outcome.bind_ok]
  exact congrArg Except.ok (Settings.ext hp hl (max_eq_right s.one_le_schemaVersion))

end Fields

/-- A canonical draft is the draft of settings. -/
theorem Draft.IsCanonical.exists_draft {d : Draft} (h : d.IsCanonical) :
    ∃ s : Settings, s.draft = d := by
  obtain ⟨path, hstripped, hpath⟩ : ∃ path : Option Text,
      (∀ p ∈ path, p ≠ [] ∧ Text.strip p = p) ∧
        ∀ s : Settings, s.modelPath = path → s.draft.modelPath = d.modelPath := by
    rcases h.modelPath with hnull | ⟨p, htext, hne, hhead, hlast⟩
    · exact ⟨none, nofun, fun s hs => by rw [draft, hs, hnull]; rfl⟩
    · refine ⟨some p, ?_, fun s hs => by rw [draft, hs, htext]; rfl⟩
      rintro _ ⟨⟩
      exact ⟨hne, Text.strip_eq_self hhead hlast⟩
  obtain ⟨limit, hpositive, hlimit⟩ : ∃ limit : Option ℕ, (∀ n ∈ limit, 1 ≤ n) ∧
      ∀ s : Settings, s.maxInputChars = limit → s.draft.maxInputChars = d.maxInputChars := by
    rcases h.maxInputChars with hnull | ⟨n, hint, hn⟩
    · exact ⟨none, nofun, fun s hs => by rw [draft, hs, hnull]; rfl⟩
    · refine ⟨some n.toNat, ?_, fun s hs => ?_⟩
      · rintro _ ⟨⟩
        omega
      · rw [draft, hs, hint]
        exact congrArg Json.int (Int.toNat_of_nonneg (by omega))
  obtain ⟨n, hversion, hn⟩ := h.schemaVersion
  let s : Settings := ⟨path, limit, n.toNat, hstripped, hpositive, by omega⟩
  refine ⟨s, Draft.ext (hpath s rfl) (hlimit s rfl) ?_⟩
  rw [hversion]
  exact congrArg Json.int (Int.toNat_of_nonneg (by omega))

/-! ## What came out is read back -/

theorem unknownKeys_eq_nil {members : List (Text × Json)}
    (hkeys : ∀ key ∈ Entries.keys members, key ∈ keys) :
    unknownKeys members = [] := by
  have hnone : (Entries.keys members).filter (fun key => !keys.contains key) = [] := by
    rw [List.filter_eq_nil_iff]
    intro key hkey
    simp [hkeys key hkey]
  rw [unknownKeys, hnone, List.mergeSort_nil]

/-- The object form of settings is read as these settings. -/
theorem ofJson_toJson [Limits] (strict : Bool) (s : Settings) : ofJson strict s.toJson = .ok s := by
  obtain ⟨path, hpath, hdraft⟩ : ∃ path,
      readPath Limits.reading s.draft.modelPath = .ok path ∧
        draftOf path s.draft.maxInputChars s.schemaVersion = s.draft := by
    rcases modelPath_draft s with ⟨hnull, -, hread⟩ | ⟨p, htext, -, hread⟩
    · exact ⟨_, hread _, Draft.ext hnull.symm rfl rfl⟩
    · exact ⟨_, hread _, Draft.ext htext.symm rfl rfl⟩
  have hversion : readVersion s.draft.schemaVersion = .ok s.schemaVersion := rfl
  have hknown : unknownKeys [("model_path", s.draft.modelPath),
      ("max_input_chars", s.draft.maxInputChars),
      ("schema_version", s.draft.schemaVersion)] = [] := unknownKeys_eq_nil fun _ hkey => hkey
  rw [toJson, ofJson_of_known fun _ => hknown]
  calc _ = (do
        let path ← readPath Limits.reading s.draft.modelPath
        let version ← readVersion s.draft.schemaVersion
        (draftOf path s.draft.maxInputChars version).settle) := rfl
    _ = .ok s := by
        rw [hpath, Outcome.bind_ok, hversion, Outcome.bind_ok, hdraft, settle_draft]

/-- Whatever the values of a draft are, settling it leads to the canonical form and no further: the
draft of what comes out is canonical and settles to the same settings, the object form is read back,
and a draft that is canonical already stays as it is. -/
theorem settle_canonical [Limits] {d : Draft} {s : Settings} (hsettled : d.settle = .ok s) :
    s.draft.IsCanonical ∧ s.draft.settle = .ok s ∧
      (∀ strict, ofJson strict s.toJson = .ok s) ∧ (d.IsCanonical ↔ s.draft = d) := by
  refine ⟨isCanonical_draft s, settle_draft s, fun strict => ofJson_toJson strict s, ?_, ?_⟩
  · intro hcanonical
    obtain ⟨s', rfl⟩ := hcanonical.exists_draft
    rw [Except.ok.inj (hsettled.symm.trans (settle_draft s'))]
  · rintro rfl
    exact isCanonical_draft s

/-- A path with blanks around it, a limit that is written as a text, and a version of true. -/
def looseDraft : Draft := ⟨.text " model.json\n", .text " 1_0", .bool true⟩

/-- What that draft settles to. -/
def looseSettings : Settings :=
  ⟨some "model.json", some 10, 1, by rintro _ ⟨⟩; decide, by rintro _ ⟨⟩; decide, by decide⟩

open scoped Limits.Usual in
theorem looseDraft_canonical : looseDraft.settle = .ok looseSettings ∧
    looseSettings.draft.settle = .ok looseSettings ∧
    ofJson true looseSettings.toJson = .ok looseSettings ∧ ¬looseDraft.IsCanonical := by
  have hsettled : looseDraft.settle = .ok looseSettings := by rfl
  obtain ⟨-, hagain, hread, hcanonical⟩ := settle_canonical hsettled
  refine ⟨hsettled, hagain, hread true, mt hcanonical.mp ?_⟩
  intro heq
  cases congrArg Draft.schemaVersion heq

end Polyglot.Settings
