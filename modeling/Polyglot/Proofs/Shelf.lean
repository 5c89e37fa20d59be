import Polyglot.Model.Shelf
import Polyglot.Proofs.Asset
import Polyglot.Proofs.Entries
import Polyglot.Proofs.Loading
import Polyglot.Proofs.Path

/-! # The shelf over a course of events

Models are asked for and loaded, the shelf is emptied, and files and variables change, in any order.
What was served since the shelf was emptied last is what stands on it, each model under the path
that it came from. So a path that was served gives the same model again, whatever has become of its
file; any other path is loaded from the files as they are, and only then is something put on the
shelf.
-/

namespace Polyglot.Model

variable {s s' : Session} {asked : Option Text} {key : Text} {loaded : Loaded}

/-- What the shelf is searched for. -/
def keyOf (s : Session) (asked : Option Text) : Except Fault Text :=
  ((resolvePath asked).perform s).1.map Path.text

section Keys

/-- The path comes from the first choice that is not empty, and finding it changes nothing. -/
theorem resolvePath_perform (asked : Option Text) (s : Session) :
    (resolvePath asked).perform s =
      (match (nonempty? asked).or (nonempty? (s.getVariable pathVariable)) with
        | some t => (Path.ofText t).expandHome s.site.users (s.getVariable homeVariable)
        | none => .ok s.site.packaged,
      s) := by
  have hget : (resolvePath asked).perform s =
      Action.perform
        (match (nonempty? asked).or (nonempty? (s.getVariable pathVariable)) with
          | some t =>
            Action.lift ((Path.ofText t).expandHome s.site.users (s.getVariable homeVariable))
          | none => pure s.site.packaged) s := rfl
  rw [hget]
  split <;> rfl

theorem nonempty?_some {t : Text} (ht : t ≠ []) : nonempty? (some t) = some t := by
  simp [nonempty?, ht]

theorem keyOf_of_chosen {t : Text}
    (hchosen : (nonempty? asked).or (nonempty? (s.getVariable pathVariable)) = some t) :
    keyOf s asked =
      ((Path.ofText t).expandHome s.site.users (s.getVariable homeVariable)).map Path.text := by
  rw [keyOf, resolvePath_perform, hchosen]

theorem keyOf_of_none
    (hnone : (nonempty? asked).or (nonempty? (s.getVariable pathVariable)) = none) :
    keyOf s asked = .ok s.site.packaged.text := by
  rw [keyOf, resolvePath_perform, hnone]
  rfl

/-- What the shelf is searched for depends on the site and the environment alone. -/
theorem keyOf_congr (hsite : s'.site = s.site) (henvironment : s'.environment = s.environment) :
    keyOf s' asked = keyOf s asked := by
  simp only [keyOf, resolvePath_perform, Session.getVariable, hsite, henvironment]

/-- Different texts that are read as the same path are searched for in the same way. -/
theorem keyOf_eq_of_ofText {a b : Text} (ha : a ≠ []) (hb : b ≠ [])
    (hpath : Path.ofText a = Path.ofText b) : keyOf s (some a) = keyOf s (some b) := by
  rw [keyOf_of_chosen (by rw [nonempty?_some ha, Option.some_or]),
    keyOf_of_chosen (by rw [nonempty?_some hb, Option.some_or]), hpath]

theorem isPlain_of_resolvePath {p : Path} (hp : ((resolvePath asked).perform s).1 = .ok p) :
    p.IsPlain := by
  rw [resolvePath_perform] at hp
  dsimp only at hp
  split at hp
  next => exact (Path.expandHome_eq_ok.mp hp).isPlain (Path.isPlain_ofText _)
  next =>
    cases hp
    rw [← s.site.packaged_read]
    exact Path.isPlain_ofText _

/-- The path of a model is read again from what the shelf is searched for. -/
theorem resolvePath_of_keyOf (hkey : keyOf s asked = .ok key) :
    (resolvePath asked).perform s = (.ok (Path.ofText key), s) ∧ (Path.ofText key).text = key := by
  obtain ⟨p, hp, rfl⟩ := Outcome.map_eq_ok.mp hkey
  rw [Path.ofText_text (isPlain_of_resolvePath hp)]
  refine ⟨?_, rfl⟩
  rw [resolvePath_perform] at hp ⊢
  exact Prod.ext hp rfl

theorem resolvePath_of_keyOf_error {fault : Fault} (hkey : keyOf s asked = .error fault) :
    (resolvePath asked).perform s = (.error fault, s) := by
  rw [keyOf, Outcome.map_eq_error] at hkey
  rw [resolvePath_perform] at hkey ⊢
  exact Prod.ext hkey rfl

end Keys

/-- Relates a text that names a path to what the shelf is searched for: the path with a home for its
tilde, or the fault that tells which home is not there. -/
structure IsKeyOf (s : Session) (t : Text) (found : Except Fault Text) : Prop where
  ok_iff : ∀ key, found = .ok key ↔
    ∃ q, Path.Expands s.site.users (s.getVariable homeVariable) (.ofText t) q ∧ key = q.text
  error_iff : ∀ fault, found = .error fault ↔
    Path.Homeless s.site.users (s.getVariable homeVariable) (.ofText t) fault

theorem isKeyOf_of_chosen {t : Text}
    (hchosen : (nonempty? asked).or (nonempty? (s.getVariable pathVariable)) = some t) :
    IsKeyOf s t (keyOf s asked) := by
  rw [keyOf_of_chosen hchosen]
  refine ⟨fun key => ?_, fun fault => ?_⟩
  · simp only [Outcome.map_eq_ok, Path.expandHome_eq_ok, eq_comm (a := key)]
  · rw [Outcome.map_eq_error, Path.expandHome_eq_error]

section Asking

variable [Limits]

/-- The report that a model is about to be loaded. -/
def initializing (key : Text) : Log.Entry :=
  ⟨.debug, Log.modelLogger, "Initializing shared language model: " ++ key⟩

/-- Asking for a model gives the one on the shelf, or else loads one and puts it there. -/
theorem shared_perform (hkey : keyOf s asked = .ok key) :
    (shared asked).perform s =
      match Entries.get? key s.shelf with
      | some loaded => (.ok loaded, s)
      | none =>
        match (load (.ofText key)).perform (s.record (initializing key)) with
        | (.ok loaded, s') => (.ok loaded, { s' with shelf := Entries.put key loaded s'.shelf })
        | (.error fault, s') => (.error fault, s') := by
  obtain ⟨hresolve, htext⟩ := resolvePath_of_keyOf hkey
  rw [shared, Action.perform_bind_of_ok hresolve, htext]
  change Action.perform (match Entries.get? key s.shelf with | some loaded => _ | none => _) s = _
  cases Entries.get? key s.shelf with
  | some loaded => rfl
  | none =>
      have hlog : (Action.log .debug Log.modelLogger
          ("Initializing shared language model: " ++ key)).perform s =
            (.ok (), s.record (initializing key)) := rfl
      rw [Action.perform_bind_of_ok hlog]
      rcases hload : (load (.ofText key)).perform (s.record (initializing key)) with
        ⟨fault | loaded, s'⟩
      · exact Action.perform_bind_of_error hload
      · rw [Action.perform_bind_of_ok hload]
        rfl

theorem shared_of_get? (hkey : keyOf s asked = .ok key)
    (hget : Entries.get? key s.shelf = some loaded) :
    (shared asked).perform s = (.ok loaded, s) := by
  rw [shared_perform hkey, hget]

theorem shared_of_keyOf_error {fault : Fault} (hkey : keyOf s asked = .error fault) :
    (shared asked).perform s = (.error fault, s) := by
  exact Action.perform_bind_of_error (resolvePath_of_keyOf_error hkey)

/-- A model that was loaded bears the number of its loading and the text of its path. -/
theorem load_eq_ok {p : Path} (hload : ((load p).perform s).1 = .ok loaded) :
    loaded.serial = s.loadings ∧ loaded.model.source = p.text := by
  rw [load_perform] at hload
  split at hload
  next m hm =>
    cases hload
    obtain ⟨content, -, hm⟩ := Outcome.bind_eq_ok.mp hm
    refine ⟨rfl, ?_⟩
    unfold ofBytes at hm
    split at hm
    next => cases hm
    next =>
      split at hm
      next => cases hm
      next => cases hm
      next => cases hm
      next =>
        obtain ⟨-, -, -, -, -, -, hsource⟩ := ofJson_eq_ok.mp hm
        exact hsource
  next => cases hload

/-- What is not on the shelf is loaded and put there. -/
theorem shared_of_load_eq_ok (hkey : keyOf s asked = .ok key)
    (hget : Entries.get? key s.shelf = none)
    (hload : ((load (.ofText key)).perform s).1 = .ok loaded) :
    ∃ log, (shared asked).perform s =
      (.ok loaded,
        { s with shelf := Entries.put key loaded s.shelf, loadings := s.loadings + 1, log }) := by
  rw [load_perform] at hload
  split at hload
  next m hm =>
    cases hload
    have hfiles : (s.record (initializing key)).files = s.files := rfl
    rw [shared_perform hkey, hget]
    simp only [load_perform, hfiles, hm]
    exact ⟨_, rfl⟩
  next => cases hload

/-- What cannot be loaded leaves nothing behind but the log. -/
theorem shared_of_load_eq_error {fault : Fault} (hkey : keyOf s asked = .ok key)
    (hget : Entries.get? key s.shelf = none)
    (hload : ((load (.ofText key)).perform s).1 = .error fault) :
    ∃ log, (shared asked).perform s = (.error fault, { s with log }) := by
  rw [load_perform] at hload
  split at hload
  next => cases hload
  next found hfault =>
    cases hload
    have hfiles : (s.record (initializing key)).files = s.files := rfl
    rw [shared_perform hkey, hget]
    simp only [load_perform, hfiles, hfault]
    exact ⟨_, rfl⟩

/-- Every way in which asking for a model can turn out. -/
theorem shared_cases (asked : Option Text) (s : Session) :
    (∃ fault log, (shared asked).perform s = (.error fault, { s with log })) ∨
      ∃ key loaded, keyOf s asked = .ok key ∧
        (Entries.get? key s.shelf = some loaded ∧ (shared asked).perform s = (.ok loaded, s) ∨
          Entries.get? key s.shelf = none ∧ ((load (.ofText key)).perform s).1 = .ok loaded ∧
            ∃ log, (shared asked).perform s =
              (.ok loaded,
                { s with
                  shelf := Entries.put key loaded s.shelf, loadings := s.loadings + 1, log })) := by
  cases hkey : keyOf s asked with
  | error fault => exact .inl ⟨fault, s.log, shared_of_keyOf_error hkey⟩
  | ok key =>
      cases hget : Entries.get? key s.shelf with
      | some loaded => exact .inr ⟨key, loaded, rfl, .inl ⟨hget, shared_of_get? hkey hget⟩⟩
      | none =>
          cases hload : ((load (.ofText key)).perform s).1 with
          | error fault => exact .inl ⟨fault, shared_of_load_eq_error hkey hget hload⟩
          | ok loaded =>
              exact .inr ⟨key, loaded, rfl,
                .inr ⟨hget, hload, shared_of_load_eq_ok hkey hget hload⟩⟩

/-- What was served is served again at once for whatever is searched for in the same way. -/
theorem shared_again {other : Option Text} (hshared : (shared asked).perform s = (.ok loaded, s'))
    (hother : keyOf s other = keyOf s asked) : (shared other).perform s' = (.ok loaded, s') := by
  rcases shared_cases asked s with
    ⟨fault, log, hfailed⟩ | ⟨key, found, hkey, ⟨hget, hfound⟩ | ⟨-, -, log, hfound⟩⟩
  · cases hshared.symm.trans hfailed
  · cases hshared.symm.trans hfound
    exact shared_of_get? (hother.trans hkey) hget
  · cases hshared.symm.trans hfound
    refine shared_of_get? ?_ (Entries.get?_put_self key loaded s.shelf)
    rw [← hkey, ← hother]
    exact keyOf_congr rfl rfl

/-- Loading neither searches the shelf nor changes it. -/
theorem load_perform_shelf (p : Path) (s : Session) (shelf : List (Text × Loaded)) :
    (load p).perform { s with shelf } =
      (((load p).perform s).1, { ((load p).perform s).2 with shelf }) := by
  simp only [load_perform]
  split <;> rfl

end Asking

/-- Something that may happen to a session. -/
inductive Deed where
  /-- The shared model of a path is asked for. -/
  | share (asked : Option Text)
  /-- A file is loaded. -/
  | load (path : Text)
  /-- The shelf is emptied. -/
  | clear
  /-- Files are written or removed in any way. -/
  | changeFiles (change : FileStore → FileStore)
  /-- A variable of the environment is set or unset. -/
  | changeVariable (name : Text) (value : Option Text)

/-- What holds of the shelf at any time: what stands on it is what was served, and every model on it
comes from the path under which it stands and was loaded before. -/
structure Keeps (served : Text → Loaded → Prop) (s : Session) : Prop where
  get?_iff : ∀ key loaded, Entries.get? key s.shelf = some loaded ↔ served key loaded
  source_eq : ∀ key loaded, served key loaded → loaded.model.source = key
  serial_lt : ∀ key loaded, served key loaded → loaded.serial < s.loadings

namespace Keeps

variable {served served' : Text → Loaded → Prop}

theorem get?_eq_none (h : Keeps served s) (hnone : ∀ loaded, ¬served key loaded) :
    Entries.get? key s.shelf = none :=
  Option.eq_none_iff_forall_ne_some.mpr fun loaded hget =>
    hnone loaded ((h.get?_iff key loaded).mp hget)

/-- Whatever leaves the shelf as it is and takes back no loading keeps it right. -/
theorem of_shelf (h : Keeps served s)
    (hserved : ∀ key loaded, served' key loaded ↔ served key loaded)
    (hshelf : s'.shelf = s.shelf) (hloadings : s.loadings ≤ s'.loadings) : Keeps served' s' := by
  obtain rfl : served' = served := by
    funext key loaded
    exact propext (hserved key loaded)
  refine ⟨?_, h.source_eq, fun key loaded hkey => (h.serial_lt key loaded hkey).trans_le hloadings⟩
  rw [hshelf]
  exact h.get?_iff

/-- A model that was loaded for a path is put where nothing stood. -/
theorem put (h : Keeps served s) (hget : Entries.get? key s.shelf = none)
    (hserved : ∀ k l, served' k l ↔ k = key ∧ l = loaded ∨ served k l)
    (hserial : loaded.serial = s.loadings) (hsource : loaded.model.source = key)
    (hshelf : s'.shelf = Entries.put key loaded s.shelf)
    (hloadings : s'.loadings = s.loadings + 1) :
    Keeps served' s' where
  get?_iff k l := by
    rw [hserved, hshelf]
    by_cases hk : k = key
    · subst hk
      have hnone : ¬served k l := by
        rw [← h.get?_iff, hget]
        exact nofun
      simp [Entries.get?_put_self, hnone, eq_comm]
    · simpa [Entries.get?_put_of_ne hk, hk] using h.get?_iff k l
  source_eq k l hkl := by
    rcases (hserved k l).mp hkl with ⟨rfl, rfl⟩ | hold
    · exact hsource
    · exact h.source_eq k l hold
  serial_lt k l hkl := by
    rw [hloadings]
    rcases (hserved k l).mp hkl with ⟨rfl, rfl⟩ | hold
    · exact hserial ▸ Nat.lt_succ_self _
    · exact (h.serial_lt k l hold).trans (Nat.lt_succ_self _)

end Keeps

section Course

variable [Limits] {deeds : List Deed} {deed : Deed}

/-- The session after a deed. -/
def Deed.session (s : Session) : Deed → Session
  | .share asked => ((shared asked).perform s).2
  | .load path => ((Model.load (.ofText path)).perform s).2
  | .clear => (clearShelf.perform s).2
  | .changeFiles change => { s with files := change s.files }
  | .changeVariable name value => s.setVariable name value

/-- The session after some deeds. -/
def after (s : Session) (deeds : List Deed) : Session := deeds.foldl Deed.session s

/-- Holds of a model that was served since the shelf was emptied last, and of what the shelf was
searched for. -/
def Served (s : Session) (deeds : List Deed) (key : Text) (loaded : Loaded) : Prop :=
  ∃ before asked rest, deeds = before ++ .share asked :: rest ∧ Deed.clear ∉ rest ∧
    keyOf (after s before) asked = .ok key ∧
      ((shared asked).perform (after s before)).1 = .ok loaded

theorem after_concat (s : Session) (deeds : List Deed) (deed : Deed) :
    after s (deeds ++ [deed]) = deed.session (after s deeds) := by
  simp [after]

theorem not_served_nil : ¬Served s [] key loaded := by
  rintro ⟨before, asked, rest, h, -⟩
  simp at h

/-- One more deed serves a model itself, or it leaves what was served unless it empties the
shelf. -/
theorem served_concat :
    Served s (deeds ++ [deed]) key loaded ↔
      (∃ asked, deed = .share asked ∧ keyOf (after s deeds) asked = .ok key ∧
        ((shared asked).perform (after s deeds)).1 = .ok loaded) ∨
      deed ≠ .clear ∧ Served s deeds key loaded := by
  constructor
  · rintro ⟨before, asked, rest, hdeeds, hclear, hserved⟩
    rcases List.eq_nil_or_concat' rest with rfl | ⟨rest, last, rfl⟩
    · obtain ⟨rfl, hlast⟩ := List.append_inj' hdeeds rfl
      exact .inl ⟨asked, List.singleton_inj.mp hlast, hserved⟩
    · rw [← List.cons_append, ← List.append_assoc] at hdeeds
      obtain ⟨rfl, hlast⟩ := List.append_inj' hdeeds rfl
      rw [List.mem_append, List.mem_singleton, not_or] at hclear
      rw [List.singleton_inj.mp hlast]
      exact .inr ⟨hclear.2 ∘ Eq.symm, before, asked, rest, rfl, hclear.1, hserved⟩
  · rintro (⟨asked, rfl, hserved⟩ | ⟨hdeed, before, asked, rest, rfl, hclear, hserved⟩)
    · exact ⟨deeds, asked, [], rfl, List.not_mem_nil, hserved⟩
    · refine ⟨before, asked, rest ++ [deed], by simp, ?_, hserved⟩
      simp [hclear, hdeed.symm]

namespace Keeps

/-- Every deed keeps the shelf right. -/
theorem step (h : Keeps (Served s deeds) (after s deeds)) (deed : Deed) :
    Keeps (Served s (deeds ++ [deed])) (after s (deeds ++ [deed])) := by
  rw [after_concat]
  cases deed with
  | share asked =>
      have hserved : ∀ key loaded, Served s (deeds ++ [.share asked]) key loaded ↔
          keyOf (after s deeds) asked = .ok key ∧
              ((shared asked).perform (after s deeds)).1 = .ok loaded ∨
            Served s deeds key loaded := by
        intro key loaded
        simp [served_concat]
      rcases shared_cases asked (after s deeds) with
        ⟨fault, log, hshared⟩ | ⟨key, loaded, hkey, ⟨hget, hshared⟩ | ⟨hget, hload, log, hshared⟩⟩
      · rw [Deed.session, hshared]
        simp only [hshared, reduceCtorEq, and_false, false_or] at hserved
        exact h.of_shelf hserved rfl le_rfl
      · rw [Deed.session, hshared]
        -- What is served once more was served before.
        refine h.of_shelf (fun k l => ?_) rfl le_rfl
        rw [hserved, hkey, hshared]
        refine or_iff_right_of_imp ?_
        rintro ⟨hk, hl⟩
        cases hk
        cases hl
        exact (h.get?_iff key loaded).mp hget
      · rw [Deed.session, hshared]
        obtain ⟨hserial, hsource⟩ := load_eq_ok hload
        refine h.put hget (fun k l => ?_) hserial
          (hsource.trans (resolvePath_of_keyOf hkey).2) rfl rfl
        rw [hserved, hkey, hshared, Except.ok.injEq, Except.ok.injEq, eq_comm, eq_comm (b := l)]
  | load path =>
      have hserved : ∀ key loaded,
          Served s (deeds ++ [.load path]) key loaded ↔ Served s deeds key loaded := by
        simp [served_concat]
      rw [Deed.session, load_perform]
      split
      · exact h.of_shelf hserved rfl (Nat.le_succ _)
      · exact h.of_shelf hserved rfl le_rfl
  | clear =>
      have hnone : ∀ key loaded, ¬Served s (deeds ++ [.clear]) key loaded := by
        simp [served_concat]
      exact ⟨fun key loaded => ⟨nofun, fun hkey => absurd hkey (hnone key loaded)⟩,
        fun key loaded hkey => absurd hkey (hnone key loaded),
        fun key loaded hkey => absurd hkey (hnone key loaded)⟩
  | changeFiles change => exact h.of_shelf (by simp [served_concat]) rfl le_rfl
  | changeVariable name value =>
      cases value <;> exact h.of_shelf (by simp [served_concat]) rfl le_rfl

/-- The shelf is right after any deeds. -/
theorem of_course (site : Site) (files : FileStore) (deeds : List Deed) :
    Keeps (Served (.initial site files) deeds) (after (.initial site files) deeds) := by
  induction deeds using List.reverseRecOn with
  | nil =>
      exact ⟨fun _ _ => ⟨nofun, fun h => absurd h not_served_nil⟩,
        fun _ _ h => absurd h not_served_nil, fun _ _ h => absurd h not_served_nil⟩
  | append_singleton deeds deed ih => exact ih.step deed

end Keeps

end Course

/-- What asking for a model comes to in a session in which some models were served, and what becomes
of the shelf. -/
structure Answers [Limits] (served : Text → Loaded → Prop) (s : Session)
    (asked : Option Text) : Prop where
  /-- A path that is asked for decides, unless it is empty. -/
  key_of_asked : ∀ t, asked = some t → t ≠ [] → IsKeyOf s t (keyOf s asked)
  /-- Then the variable decides, unless it is empty. -/
  key_of_variable : asked = none ∨ asked = some [] →
    ∀ t, s.getVariable pathVariable = some t → t ≠ [] → IsKeyOf s t (keyOf s asked)
  /-- Else it is the packaged asset. -/
  key_of_neither : asked = none ∨ asked = some [] →
    s.getVariable pathVariable = none ∨ s.getVariable pathVariable = some [] →
      keyOf s asked = .ok s.site.packaged.text
  /-- A path for which there is no home is at fault, and nothing changes. -/
  unresolved : ∀ fault, keyOf s asked = .error fault → (shared asked).perform s = (.error fault, s)
  /-- A model that was served is served again, whatever the files are, and nothing changes. -/
  again : ∀ key loaded, keyOf s asked = .ok key → served key loaded →
    (shared asked).perform s = (.ok loaded, s)
  /-- Any other one is what loading gives from the files as they are. -/
  anew : ∀ key, keyOf s asked = .ok key → (∀ old, ¬served key old) →
    ((shared asked).perform s).1 = ((load (.ofText key)).perform s).1
  /-- A model that was loaded is none of those that were served, and it is put on the shelf. -/
  recorded : ∀ key loaded, keyOf s asked = .ok key → (∀ old, ¬served key old) →
    ((load (.ofText key)).perform s).1 = .ok loaded →
      (∀ k old, served k old → old.serial ≠ loaded.serial) ∧
        ((shared asked).perform s).2.shelf = Entries.put key loaded s.shelf
  /-- A failure changes nothing but the log. -/
  failed : ∀ fault, ((shared asked).perform s).1 = .error fault →
    ∃ log, ((shared asked).perform s).2 = { s with log }
  /-- Loading a file neither searches the shelf nor changes it. -/
  load_shelf : ∀ path shelf, (load path).perform { s with shelf } =
    (((load path).perform s).1, { ((load path).perform s).2 with shelf })
  /-- Spellings of one path share an entry: what was served for one is served for the other. -/
  spelled : ∀ a b loaded s', a ≠ [] → b ≠ [] → Path.ofText a = Path.ofText b →
    (shared (some a)).perform s = (.ok loaded, s') →
      (shared (some b)).perform s' = (.ok loaded, s')
  /-- Different paths do not share an entry. -/
  resolved_eq : ∀ other, keyOf s other = keyOf s asked →
    (resolvePath other).perform s = (resolvePath asked).perform s
  /-- On the shelf there is exactly what was served. -/
  shelved : ∀ key loaded, Entries.get? key s.shelf = some loaded ↔ served key loaded
  /-- Every model on the shelf comes from the path under which it stands. -/
  source_eq : ∀ key loaded, Entries.get? key s.shelf = some loaded → loaded.model.source = key

theorem nonempty?_of_empty {t : Option Text} (h : t = none ∨ t = some []) : nonempty? t = none := by
  rcases h with rfl | rfl <;> rfl

/-- After any course of events, asking for a model gives what it should. -/
theorem shared_answers [Limits] (site : Site) (files : FileStore) (deeds : List Deed)
    (asked : Option Text) :
    Answers (Served (.initial site files) deeds) (after (.initial site files) deeds) asked := by
  have hkeeps := Keeps.of_course site files deeds
  generalize hs : after (.initial site files) deeds = s at hkeeps ⊢
  constructor
  case key_of_asked =>
    rintro t rfl ht
    exact isKeyOf_of_chosen (by rw [nonempty?_some ht, Option.some_or])
  case key_of_variable =>
    intro hasked t hvariable ht
    refine isKeyOf_of_chosen ?_
    rw [nonempty?_of_empty hasked, hvariable, nonempty?_some ht, Option.none_or]
  case key_of_neither =>
    intro hasked hvariable
    exact keyOf_of_none (by
      rw [nonempty?_of_empty hasked, nonempty?_of_empty hvariable, Option.none_or])
  case unresolved => exact fun fault => shared_of_keyOf_error
  case again =>
    intro key loaded hkey hserved
    exact shared_of_get? hkey ((hkeeps.get?_iff key loaded).mpr hserved)
  case anew =>
    intro key hkey hnone
    have hget := hkeeps.get?_eq_none hnone
    cases hload : ((load (.ofText key)).perform s).1 with
    | error fault =>
        obtain ⟨log, hshared⟩ := shared_of_load_eq_error hkey hget hload
        rw [hshared]
    | ok loaded =>
        obtain ⟨log, hshared⟩ := shared_of_load_eq_ok hkey hget hload
        rw [hshared]
  case recorded =>
    intro key loaded hkey hnone hload
    obtain ⟨log, hshared⟩ := shared_of_load_eq_ok hkey (hkeeps.get?_eq_none hnone) hload
    refine ⟨fun k old hold => ?_, by rw [hshared]⟩
    rw [(load_eq_ok hload).1]
    exact (hkeeps.serial_lt k old hold).ne
  case failed =>
    intro fault hfault
    rcases shared_cases asked s with
      ⟨_, log, hshared⟩ | ⟨key, loaded, -, ⟨-, hshared⟩ | ⟨-, -, log, hshared⟩⟩
    · exact ⟨log, by rw [hshared]⟩
    · cases (congrArg Prod.fst hshared).symm.trans hfault
    · cases (congrArg Prod.fst hshared).symm.trans hfault
  case load_shelf => exact fun path shelf => load_perform_shelf path s shelf
  case spelled =>
    intro a b loaded s' ha hb hpath hshared
    exact shared_again hshared (keyOf_eq_of_ofText hb ha hpath.symm)
  case resolved_eq =>
    intro other hother
    cases hkey : keyOf s asked with
    | ok key => rw [(resolvePath_of_keyOf hkey).1, (resolvePath_of_keyOf (hother.trans hkey)).1]
    | error fault =>
        rw [resolvePath_of_keyOf_error hkey, resolvePath_of_keyOf_error (hother.trans hkey)]
  case shelved => exact hkeeps.get?_iff
  case source_eq =>
    exact fun key loaded hget => hkeeps.source_eq key loaded ((hkeeps.get?_iff key loaded).mp hget)

end Polyglot.Model
