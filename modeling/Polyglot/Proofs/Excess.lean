import Polyglot.Proofs.Atom
import Polyglot.Proofs.Outcome
import Polyglot.Settings

/-! # Settings with values beyond measure

Reading an object as settings gives settings or refuses it for a flaw, unless one of its values is
beyond measure: a path that cannot be shown, or a version or a limit that is an infinite number. The
path is read first, so that its fault comes before that of a number, and a flaw of the limit comes
after all of these.
-/

namespace Polyglot.Settings

/-- Holds of an infinite double, of either sign. -/
def IsInfinite (v : Json) : Prop := v = .double Json.infinity ∨ v = .double (-Json.infinity)

/-- The value under a key of an object; a key that is missing has the value null. -/
def valueAt (members : List (Text × Json)) (key : Text) : Json :=
  (Entries.get? key members).getD .null

/-- Relates an object to the fault, which is no flaw of settings, that reading it ends with. -/
inductive Exceeds [Limits] (strict : Bool) (members : List (Text × Json)) : Fault → Prop where
  | path {obstacle : Json.Obstacle} (known : strict → unknownKeys members = [])
      (unshown : Json.obstacle? Limits.reading (valueAt members "model_path") = some obstacle) :
      Exceeds strict members (.ofObstacle obstacle)
  | number (known : strict → unknownKeys members = [])
      (shown : Json.obstacle? Limits.reading (valueAt members "model_path") = none)
      (infinite : IsInfinite (valueAt members "schema_version") ∨
        IsInfinite (valueAt members "max_input_chars")) :
      Exceeds strict members (.integer .infinite)

/-! ## The values under the keys -/

section Values

variable {v : Json}

theorem ofText_ne_infinite (t : Text) : Integer.ofText t ≠ .error .infinite := by
  unfold Integer.ofText
  dsimp only
  split_ifs <;> nofun

theorem ofJson_eq_infinite : Integer.ofJson v = .error .infinite ↔ IsInfinite v := by
  constructor
  · intro h
    cases v with
    | double x =>
        rw [Integer.ofJson] at h
        split at h
        next => cases h
        next =>
          split at h
          next hinfinite =>
            have hx := Json.eq_infinity hinfinite
            split at hx
            next => exact .inr (congrArg Json.double hx)
            next => exact .inl (congrArg Json.double hx)
          next => cases h
    | text t => exact absurd h (ofText_ne_infinite t)
    | _ => cases h
  · rintro (rfl | rfl) <;> rfl

theorem isRefused_of_finite {fault : IntegerFault} (hfinite : ¬IsInfinite v)
    (h : Integer.ofJson v = .error fault) : isRefused fault := by
  rw [← ofJson_eq_infinite, h] at hfinite
  cases fault with
  | infinite => exact absurd rfl hfinite
  | _ => rfl

theorem readPath_of_unshown {depth : Nat} {obstacle : Json.Obstacle}
    (hunshown : Json.obstacle? depth v = some obstacle) :
    readPath depth v = .error (.ofObstacle obstacle) := by
  unfold readPath
  split
  next => simp at hunshown
  next => rw [hunshown]

theorem exists_readPath {depth : Nat} (hshown : Json.obstacle? depth v = none) :
    ∃ path, readPath depth v = .ok path := by
  unfold readPath
  split
  next => exact ⟨none, rfl⟩
  next =>
    rw [hshown]
    exact ⟨_, rfl⟩

theorem readVersion_of_infinite (hinfinite : IsInfinite v) :
    readVersion v = .error (.integer .infinite) := by
  rcases hinfinite with rfl | rfl <;> rfl

/-- What is no integer is no flaw of a version, as long as it is finite. -/
theorem exists_readVersion (hfinite : ¬IsInfinite v) : ∃ version, readVersion v = .ok version := by
  unfold readVersion
  split
  next => exact ⟨_, rfl⟩
  next =>
    split
    next version _ => exact ⟨version, rfl⟩
    next fault hread => exact ⟨_, if_pos (isRefused_of_finite hfinite hread)⟩

theorem readLimit_of_infinite (hinfinite : IsInfinite v) :
    readLimit v = .error (.integer .infinite) := by
  rcases hinfinite with rfl | rfl <;> rfl

/-- A finite value is a limit or has a flaw. -/
theorem readLimit_of_finite (hfinite : ¬IsInfinite v) :
    (∃ limit, readLimit v = .ok limit) ∨
      ∃ flaw, readLimit v = .error (.invalidSettings flaw) := by
  unfold readLimit
  split
  next => exact .inl ⟨none, rfl⟩
  next =>
    split
    next fault hread =>
      exact .inr ⟨_, congrArg Except.error (if_pos (isRefused_of_finite hfinite hread))⟩
    next limit _ =>
      split
      next => exact .inl ⟨_, rfl⟩
      next => exact .inr ⟨_, rfl⟩

end Values

/-! ## Whole objects -/

/-- A path that was read is read again as it is. -/
theorem readPath_trimmed (depth : Nat) (path : Option TrimmedPath) :
    readPath depth ((path.map fun p => Json.text p.1).getD .null) = .ok path := by
  cases path with
  | none => rfl
  | some p =>
      have hstrip : Text.strip (Json.display (.text p.1)) = p.1 := p.2.2
      simp only [readPath, Option.map_some, Option.getD_some, Json.obstacle?_text, hstrip, ne_eq,
        p.2.1, not_false_eq_true, dif_pos]

/-- The draft of an object whose path and version have been read. -/
def draftOf (path : Option TrimmedPath) (limit : Json) (version : Int) : Draft :=
  ⟨(path.map fun p => Json.text p.1).getD .null, limit, .int version⟩

section Draft

variable [Limits] (path : Option TrimmedPath) {limit : Json} (version : Int)

theorem exists_settle_of_limit {n : Option { n : Nat // 1 ≤ n }}
    (hlimit : readLimit limit = .ok n) :
    ∃ s, (draftOf path limit version).settle = .ok s := by
  rw [Draft.settle, draftOf, hlimit, readPath_trimmed]
  exact ⟨_, rfl⟩

theorem settle_of_limit_fault {fault : Fault} (hlimit : readLimit limit = .error fault) :
    (draftOf path limit version).settle = .error fault := by
  rw [Draft.settle, draftOf, hlimit]
  rfl

end Draft

section Object

variable [Limits] {strict : Bool} {members : List (Text × Json)}

/-- A strict reading refuses unknown keys before it looks at a value. -/
theorem ofJson_of_unknown (hunknown : ¬(strict → unknownKeys members = [])) :
    ofJson strict (.object members) =
      .error (.invalidSettings (.unknownKeys (unknownKeys members))) := by
  rw [Classical.not_imp] at hunknown
  simp only [ofJson, ne_eq, if_pos hunknown]
  rfl

theorem ofJson_of_known (hknown : strict → unknownKeys members = []) :
    ofJson strict (.object members) = (do
      let path ← readPath Limits.reading (valueAt members "model_path")
      let version ← readVersion (valueAt members "schema_version")
      (draftOf path (valueAt members "max_input_chars") version).settle) := by
  have hpass : ¬(strict ∧ unknownKeys members ≠ []) := fun h => h.2 (hknown h.1)
  simp only [ofJson, if_neg hpass]
  rfl

theorem ofJson_of_exceeds {fault : Fault} (h : Exceeds strict members fault) :
    ofJson strict (.object members) = .error fault := by
  cases h with
  | path known unshown =>
      rw [ofJson_of_known known, readPath_of_unshown unshown, Outcome.bind_error]
  | number known shown infinite =>
      obtain ⟨path, hpath⟩ := exists_readPath shown
      rw [ofJson_of_known known, hpath, Outcome.bind_ok]
      by_cases hversion : IsInfinite (valueAt members "schema_version")
      · rw [readVersion_of_infinite hversion, Outcome.bind_error]
      · obtain ⟨version, hread⟩ := exists_readVersion hversion
        rw [hread, Outcome.bind_ok]
        have hlimit := infinite.resolve_left hversion
        exact settle_of_limit_fault path version (readLimit_of_infinite hlimit)

theorem ofJson_of_not_exceeds (h : ∀ fault, ¬Exceeds strict members fault) :
    (∃ s, ofJson strict (.object members) = .ok s) ∨
      ∃ flaw, ofJson strict (.object members) = .error (.invalidSettings flaw) := by
  by_cases hknown : strict → unknownKeys members = []
  · have hshown : Json.obstacle? Limits.reading (valueAt members "model_path") = none := by
      cases hpath : Json.obstacle? Limits.reading (valueAt members "model_path") with
      | none => rfl
      | some obstacle => exact absurd (.path hknown hpath) (h _)
    have hfinite : ¬(IsInfinite (valueAt members "schema_version") ∨
        IsInfinite (valueAt members "max_input_chars")) :=
      fun hinfinite => h _ (.number hknown hshown hinfinite)
    obtain ⟨hversion, hlimit⟩ := not_or.mp hfinite
    obtain ⟨path, hpath⟩ := exists_readPath hshown
    obtain ⟨version, hread⟩ := exists_readVersion hversion
    rw [ofJson_of_known hknown, hpath, Outcome.bind_ok, hread, Outcome.bind_ok]
    refine (readLimit_of_finite hlimit).imp ?_ ?_
    · rintro ⟨n, hn⟩
      exact exists_settle_of_limit path version hn
    · rintro ⟨flaw, hflaw⟩
      exact ⟨flaw, settle_of_limit_fault path version hflaw⟩
  · exact .inr ⟨_, ofJson_of_unknown hknown⟩

theorem Exceeds.ne_invalidSettings {fault : Fault} (h : Exceeds strict members fault)
    (flaw : SettingsFlaw) : fault ≠ .invalidSettings flaw := by
  cases h with
  | path => exact Fault.ofObstacle_ne_invalidSettings _ flaw
  | number => nofun

/-- Reading an object gives settings or refuses it for a flaw, unless a value is beyond measure;
then it ends with the fault of the first such value. -/
theorem ofJson_ok_or_invalid_iff (strict : Bool) (members : List (Text × Json)) :
    (((∃ s, ofJson strict (.object members) = .ok s) ∨
        ∃ flaw, ofJson strict (.object members) = .error (.invalidSettings flaw)) ↔
      ∀ fault, ¬Exceeds strict members fault) ∧
      ∀ fault, Exceeds strict members fault →
        ofJson strict (.object members) = .error fault := by
  refine ⟨⟨?_, ofJson_of_not_exceeds⟩, fun fault => ofJson_of_exceeds⟩
  rintro (⟨s, hread⟩ | ⟨flaw, hrefused⟩) fault hexceeds
  · cases hread.symm.trans (ofJson_of_exceeds hexceeds)
  · have heq := hrefused.symm.trans (ofJson_of_exceeds hexceeds)
    exact hexceeds.ne_invalidSettings flaw (Except.error.inj heq).symm

end Object

open scoped Limits.Usual in
/-- An infinite version is noticed before a limit that is too small. -/
theorem infiniteVersion_escapes :
    Exceeds false [("max_input_chars", .int 0), ("schema_version", .double (-Json.infinity))]
        (.integer .infinite) ∧
      ofJson false (.object [("max_input_chars", .int 0),
        ("schema_version", .double (-Json.infinity))]) = .error (.integer .infinite) := by
  have hexceeds : Exceeds false
      [("max_input_chars", .int 0), ("schema_version", .double (-Json.infinity))]
      (.integer .infinite) := .number nofun rfl (.inl (.inr rfl))
  exact ⟨hexceeds, (ofJson_ok_or_invalid_iff _ _).2 _ hexceeds⟩

open scoped Limits.Usual in
/-- An infinite limit is no integer, and is not refused for that. -/
theorem infiniteLimit_escapes :
    ¬((∃ s, ofJson false (.object [("max_input_chars", .double Json.infinity)]) = .ok s) ∨
      ∃ flaw, ofJson false (.object [("max_input_chars", .double Json.infinity)]) =
        .error (.invalidSettings flaw)) := by
  have hread : ofJson false (.object [("max_input_chars", .double Json.infinity)]) =
      .error (.integer .infinite) := rfl
  rw [hread]
  rintro (⟨s, h⟩ | ⟨flaw, h⟩) <;> cases h

end Polyglot.Settings
