import Polyglot.Proofs.Shelf

/-! # Faults of a model that no handler names

A handler names the refusals of the file store and of models. Asking for a model may also fail in
other ways: a tilde that stands for no home, a path that no system takes, a text that passes a limit
of its reader, and an asset with a value that is too large. The session tells which of them happens,
and there are no others.
-/

namespace Polyglot

/-! ## Homes -/

namespace Path

/-- A text that no system takes is a fault that no handler names. -/
theorem isReported_of_checkText {t : Text} {fault : Fault} (h : checkText t = .error fault) :
    fault.isReported = false := by
  unfold checkText at h
  split at h
  next =>
    cases h
    rfl
  next =>
    split at h <;> cases h
    rfl

theorem isReported_of_check {p : Path} {fault : Fault} (h : p.check = .error fault) :
    fault.isReported = false := isReported_of_checkText h

/-- For want of a home, there is no handler. -/
theorem Homeless.isReported {users : Users} {home : Option Text} {p : Path} {fault : Fault}
    (h : Homeless users home p fault) : fault.isReported = false := by
  cases h with
  | unknown => rfl
  | unaskable rest named refused => exact isReported_of_checkText refused

end Path

namespace Model

/-! ## Assets -/

section Asset

variable {α β : Type} {fault : Fault}

/-- Holds of an outcome whose fault, if a handler names it, is a flaw of a model. -/
def KeepsToFlaws (outcome : Except Fault α) : Prop :=
  ∀ fault, outcome = .error fault → fault.isReported → ∃ flaw, fault = .malformedModel flaw

namespace KeepsToFlaws

theorem ok (a : α) : KeepsToFlaws (.ok a) := nofun

theorem bind {x : Except Fault α} {f : α → Except Fault β} (hx : KeepsToFlaws x)
    (hf : ∀ a, KeepsToFlaws (f a)) : KeepsToFlaws (x >>= f) := by
  intro fault hfault
  rcases Outcome.bind_eq_error.mp hfault with hfault | ⟨a, -, hfault⟩
  · exact hx fault hfault
  · exact hf a fault hfault

theorem mapM {f : α → Except Fault β} (hf : ∀ a, KeepsToFlaws (f a)) (xs : List α) :
    KeepsToFlaws (xs.mapM f) := by
  intro fault hfault
  obtain ⟨-, x, -, -, -, hfault⟩ := Outcome.mapM_eq_error.mp hfault
  exact hf x fault hfault

variable [Limits]

theorem flaw (flaw : ModelFlaw) : KeepsToFlaws (α := α) (.error flaw.fault) := by
  rintro fault ⟨⟩ hreported
  unfold ModelFlaw.fault at hreported ⊢
  split
  next => exact ⟨flaw, rfl⟩
  next obstacle hobstacle =>
    rw [hobstacle] at hreported
    cases obstacle <;> cases hreported

theorem mapError {ε : Type} (x : Except ε α) (f : ε → ModelFlaw) :
    KeepsToFlaws (x.mapError fun e => (f e).fault) := by
  intro fault hfault
  obtain ⟨e, -, rfl⟩ := Outcome.mapError_eq_error.mp hfault
  exact flaw (α := α) (f e) _ rfl

theorem readInteger (place : NodePlace) (part : NodePart) (raw : Json) :
    KeepsToFlaws (Model.readInteger place part raw) := by
  unfold Model.readInteger
  split
  next => exact ok _
  next => exact flaw _

theorem readNumber (place : NodePlace) (part : NodePart) (raw : Json) :
    KeepsToFlaws (Model.readNumber place part raw) := by
  unfold Model.readNumber
  split
  next =>
    split
    next => exact ok _
    next =>
      rintro fault ⟨⟩ hreported
      cases hreported
  next =>
    split
    next => exact ok _
    next => exact flaw _
  next => exact flaw _

theorem readTree (features labels depth : ℕ) (place : NodePlace) (raw : Json) :
    KeepsToFlaws (Model.readTree features labels depth place raw) := by
  induction depth generalizing place raw with
  | zero => exact flaw _
  | succ depth ih =>
      unfold Model.readTree
      split
      next rawLabel rawWeight =>
        refine (readInteger _ _ _).bind fun label => ?_
        split
        next => exact (readNumber _ _ _).bind fun weight => ok _
        next => exact flaw _
      next rawFeature rawThreshold rawLeft rawRight =>
        refine (readInteger _ _ _).bind fun feature => ?_
        split
        next =>
          exact (readNumber _ _ _).bind fun threshold => (ih _ _).bind fun left =>
            (ih _ _).bind fun right => ok _
        next => exact flaw _
      next => exact flaw _
      next => exact flaw _

theorem checkVersion (payload : Json) : KeepsToFlaws (Model.checkVersion payload) := by
  unfold Model.checkVersion
  split
  next => exact ok _
  next =>
    split
    next => exact ok _
    next => exact flaw _

theorem listAt (payload : Json) (key : Text) : KeepsToFlaws (Model.listAt payload key) := by
  unfold Model.listAt
  split
  next => exact ok _
  next => exact flaw _

theorem ofParts (source : Text) (rawVocabulary rawForest rawLabels : List Json) :
    KeepsToFlaws (Model.ofParts source rawVocabulary rawForest rawLabels) := by
  refine (mapError _ ModelFlaw.vocabulary).bind fun vocabulary =>
    (mapError _ ModelFlaw.labels).bind fun labels =>
      (mapM (fun _ => readTree _ _ _ _ _) _).bind fun trees => ?_
  split
  next => exact flaw _
  next => exact ok _

/-- Reading an asset has no fault that a handler names, except for its flaws. -/
theorem ofJson (source : Text) (payload : Json) : KeepsToFlaws (Model.ofJson source payload) := by
  unfold Model.ofJson
  split
  next =>
    exact (checkVersion _).bind fun _ => (listAt _ _).bind fun rawVocabulary =>
      (listAt _ _).bind fun rawForest => (listAt _ _).bind fun rawLabels => ofParts _ _ _ _
  next => exact flaw _

end KeepsToFlaws

end Asset

/-! ## Asking for a model -/

/-- The path that decides, if any: the one that is asked for, or else that of the environment. -/
def chosen? (s : Session) (asked : Option Text) : Option Text :=
  (nonempty? asked).or (nonempty? (s.getVariable pathVariable))

/-- The faults of asking for a model that no handler names. -/
inductive Unforeseen [Limits] (s : Session) (asked : Option Text) : Fault → Prop where
  /-- The path begins with a tilde for which there is no home. -/
  | home {t : Text} {fault : Fault} (chosen : chosen? s asked = some t)
      (homeless : Path.Homeless s.site.users (s.getVariable homeVariable) (.ofText t) fault) :
      Unforeseen s asked fault
  /-- The path is one that no system takes. -/
  | path {key : Text} {fault : Fault} (sought : keyOf s asked = .ok key)
      (unshelved : Entries.get? key s.shelf = none)
      (refused : (Path.ofText key).check = .error fault) : Unforeseen s asked fault
  /-- The file has a number of too many digits. -/
  | digits {key t : Text} {content : Bytes} {digits : Nat} (sought : keyOf s asked = .ok key)
      (unshelved : Entries.get? key s.shelf = none)
      (read : s.files.read (Path.ofText key) = .ok content) (text : Utf8.decode content = .ok t)
      (long : Json.decode Limits.decoding (Text.unifyNewlines t) = .error (.longInteger digits)) :
      Unforeseen s asked (.longInteger digits)
  /-- The file has lists or objects that are nested too deep. -/
  | depth {key t : Text} {content : Bytes} (sought : keyOf s asked = .ok key)
      (unshelved : Entries.get? key s.shelf = none)
      (read : s.files.read (Path.ofText key) = .ok content) (text : Utf8.decode content = .ok t)
      (deep : Json.decode Limits.decoding (Text.unifyNewlines t) = .error .tooDeep) :
      Unforeseen s asked .tooDeep
  /-- The file is an asset in which something is too large. -/
  | asset {key t : Text} {content : Bytes} {payload : Json} {fault : Fault}
      (sought : keyOf s asked = .ok key) (unshelved : Entries.get? key s.shelf = none)
      (read : s.files.read (Path.ofText key) = .ok content) (text : Utf8.decode content = .ok t)
      (value : Json.decode Limits.decoding (Text.unifyNewlines t) = .ok payload)
      (oversized : Oversized payload) (refused : ofJson key payload = .error fault) :
      Unforeseen s asked fault

section Asking

variable {s : Session} {asked : Option Text} {key : Text} {fault : Fault}

theorem keyOf_eq_error :
    keyOf s asked = .error fault ↔ ∃ t, chosen? s asked = some t ∧
      Path.Homeless s.site.users (s.getVariable homeVariable) (.ofText t) fault := by
  cases hchosen : chosen? s asked with
  | none =>
      rw [keyOf_of_none hchosen]
      simp
  | some t =>
      rw [(isKeyOf_of_chosen hchosen).error_iff]
      simp

/-- A file cannot be read when its path is one that no system takes, or when the store refuses. -/
theorem read_eq_error {files : FileStore} {p : Path} (h : files.read p = .error fault) :
    p.check = .error fault ∨ fault.isReported := by
  rw [FileStore.read, Outcome.map_eq_error, FileStore.openFile, FileStore.refuse,
    Outcome.bind_eq_error] at h
  refine h.imp_right ?_
  rintro ⟨-, -, hrefused⟩
  obtain ⟨refusal, -, rfl⟩ := Outcome.mapError_eq_error.mp hrefused
  rfl

theorem read_of_check {p : Path} (h : p.check = .error fault) (files : FileStore) :
    files.read p = .error fault := by
  rw [FileStore.read, FileStore.openFile, FileStore.refuse, h]
  rfl

variable [Limits]

/-- A path that is not on the shelf fails as reading its file does. -/
theorem shared_eq_error (hkey : keyOf s asked = .ok key) :
    ((shared asked).perform s).1 = .error fault ↔
      Entries.get? key s.shelf = none ∧
        s.files.read (Path.ofText key) >>= ofBytes key = .error fault := by
  have htext := (resolvePath_of_keyOf hkey).2
  rw [shared_perform hkey]
  cases hget : Entries.get? key s.shelf with
  | some loaded => simp
  | none =>
      have hfiles : (s.record (initializing key)).files = s.files := rfl
      rw [load_perform, hfiles, htext]
      cases hmodel : s.files.read (Path.ofText key) >>= ofBytes key with
      | ok m => simp
      | error found => simp

/-- Such a fault ends the asking, and it has no handler. -/
theorem Unforeseen.shared_eq_error (h : Unforeseen s asked fault) :
    ((shared asked).perform s).1 = .error fault ∧ fault.isReported = false := by
  cases h with
  | home chosen homeless =>
      have hkey := keyOf_eq_error.mpr ⟨_, chosen, homeless⟩
      exact ⟨congrArg Prod.fst (shared_of_keyOf_error hkey), homeless.isReported⟩
  | path sought unshelved refused =>
      refine ⟨(Model.shared_eq_error sought).mpr ⟨unshelved, ?_⟩, Path.isReported_of_check refused⟩
      rw [read_of_check refused, Outcome.bind_error]
  | digits sought unshelved read text long =>
      refine ⟨(Model.shared_eq_error sought).mpr ⟨unshelved, ?_⟩, rfl⟩
      simp only [read, Outcome.bind_ok, ofBytes, text, long]
  | depth sought unshelved read text deep =>
      refine ⟨(Model.shared_eq_error sought).mpr ⟨unshelved, ?_⟩, rfl⟩
      simp only [read, Outcome.bind_ok, ofBytes, text, deep]
  | @asset key _ _ payload fault sought unshelved read text value oversized refused =>
      refine ⟨(Model.shared_eq_error sought).mpr ⟨unshelved, ?_⟩, ?_⟩
      · simp only [read, Outcome.bind_ok, ofBytes, text, value, refused]
      · -- A fault that a handler names would be a flaw, but the asset is too large for one.
        obtain ⟨found, hfound, hescapes⟩ := escapes_of_oversized oversized key
        cases refused.symm.trans hfound
        refine Bool.eq_false_iff.mpr fun hreported => ?_
        obtain ⟨flaw, hflaw⟩ := KeepsToFlaws.ofJson key payload fault refused hreported
        exact hescapes flaw hflaw

/-- A fault of the content of a file that has no handler is one of its digits, its depth or of an
asset in it. -/
theorem unforeseen_of_ofBytes {content : Bytes} (hkey : keyOf s asked = .ok key)
    (hget : Entries.get? key s.shelf = none) (hread : s.files.read (Path.ofText key) = .ok content)
    (hmodel : ofBytes key content = .error fault) (hreported : fault.isReported = false) :
    Unforeseen s asked fault := by
  unfold ofBytes at hmodel
  split at hmodel
  next =>
    cases hmodel
    cases hreported
  next t ht =>
    split at hmodel
    next =>
      cases hmodel
      cases hreported
    next digits hdigits =>
      cases hmodel
      exact .digits hkey hget hread ht hdigits
    next hdeep =>
      cases hmodel
      exact .depth hkey hget hread ht hdeep
    next payload hpayload =>
      refine .asset hkey hget hread ht hpayload ?_ hmodel
      refine oversized_of_escapes ⟨fault, hmodel, ?_⟩
      rintro flaw rfl
      cases hreported

/-- A model is refused for a fault that no handler names exactly when one of these is the case. -/
theorem unforeseen_iff :
    Unforeseen s asked fault ↔
      ((shared asked).perform s).1 = .error fault ∧ fault.isReported = false := by
  refine ⟨Unforeseen.shared_eq_error, ?_⟩
  rintro ⟨hshared, hreported⟩
  cases hkey : keyOf s asked with
  | error found =>
      obtain ⟨t, hchosen, hhomeless⟩ := keyOf_eq_error.mp hkey
      rw [shared_of_keyOf_error hkey] at hshared
      cases hshared
      exact .home hchosen hhomeless
  | ok key =>
      obtain ⟨hget, hload⟩ := (shared_eq_error hkey).mp hshared
      rcases Outcome.bind_eq_error.mp hload with hread | ⟨content, hread, hmodel⟩
      · rcases read_eq_error hread with hcheck | hfile
        · exact .path hkey hget hcheck
        · exact absurd hfile (by rw [hreported]; exact Bool.false_ne_true)
      · exact unforeseen_of_ofBytes hkey hget hread hmodel hreported

end Asking

end Model

end Polyglot
