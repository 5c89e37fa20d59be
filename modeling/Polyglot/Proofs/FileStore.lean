import Polyglot.FileStore
import Polyglot.Proofs.Outcome

/-! # Laws of file stores

Where a path leads to depends on the working directory and on the links alone, as long as it leads
anywhere. It leads there still when directories and files are made where nothing stood. Making
directories changes no file, and making a file changes that file alone; the path that it was made
for leads to it afterwards.
-/

namespace Polyglot.FileStore

variable {s s' s'' : FileStore} {place q : Place} {p : Path} {id : FileId}

/-! ## What stands at a place -/

section Nodes

theorem node?_addFile_of_ne (hne : q ≠ place) (content : Bytes) :
    (s.addFile place content).node? q = s.node? q := by
  have hat : (s.addFile place content).at? q = s.at? q := if_neg hne
  rw [node?, node?, hat]
  rfl

theorem node?_addFile_self (hfree : s.node? place = none) (content : Bytes) :
    (s.addFile place content).node? place = some (.file s.next) := by
  have hat : (s.addFile place content).at? place = some (.file s.next) := if_pos rfl
  unfold node? at hfree
  split at hfree
  next => cases hfree
  next habove =>
    rw [node?, hat]
    exact if_neg habove

theorem node?_addDirectory_of_ne (hne : q ≠ place) :
    (s.addDirectory place).node? q = s.node? q := by
  have hat : (s.addDirectory place).at? q = s.at? q := if_neg hne
  rw [node?, node?, hat]
  rfl

theorem node?_addDirectory_self : (s.addDirectory place).node? place = some .directory := by
  unfold node?
  split
  next => rfl
  next => exact if_pos rfl

theorem link?_eq_none_of_free (hfree : s.node? q = none) : s.link? q = none := by
  rw [link?, hfree]

end Nodes

/-! ## Where a path leads -/

section Ways

variable {name : Text} {names : List Text} {through : Bool} {stretch stretch' : Stretch}

theorem requireDirectory_eq_ok {u : Unit} :
    s.requireDirectory place = .ok u ↔ s.node? place = some .directory := by
  rw [requireDirectory]
  rcases s.node? place with _ | _ | _ | _ <;> simp

theorem require_eq_ok {right : Right} {u : Unit} :
    s.require right place = .ok u ↔ s.allows right place := by
  unfold require
  split <;> simp [*]

/-- A step needs a directory to start from, which a name makes use of only if it may be searched. -/
theorem enter_eq_ok :
    s.enter place name = .ok q ↔
      s.node? place = some .directory ∧
        (name = [] ∧ q = place ∨
          name ≠ [] ∧ s.allows .search place ∧ ¬nameLimit < Path.byteCount name ∧
            q = placeAfter place name) := by
  rw [enter, Outcome.bind_eq_ok]
  simp only [requireDirectory_eq_ok, exists_const]
  refine and_congr_right fun _ => ?_
  by_cases hname : name = []
  · simp [hname, eq_comm (a := q)]
  · rw [if_neg hname, Outcome.bind_eq_ok]
    simp only [require_eq_ok, exists_const]
    split
    next hlong => simp [hname, hlong]
    next hshort => simp [hname, hshort, eq_comm (a := q)]

theorem advance_cons (s : FileStore) (through : Bool) (place : Place) (name : Text)
    (rest : List Text) :
    s.advance through place (name :: rest) = (do
      let reached ← s.enter place name
      match s.link? reached with
      | some target =>
        if through ∨ rest ≠ [] then pure (.linked place target rest) else pure (.arrived reached)
      | none => s.advance through reached rest) := rfl

/-- Names lead equally far in stores with the same links, as long as they lead anywhere in both. -/
theorem advance_unique (hlink : ∀ q, s'.link? q = s.link? q)
    (h : s.advance through place names = .ok stretch)
    (h' : s'.advance through place names = .ok stretch') : stretch = stretch' := by
  induction names generalizing place with
  | nil => exact Except.ok.inj (h.symm.trans h')
  | cons name rest ih =>
      rw [advance_cons, Outcome.bind_eq_ok] at h h'
      obtain ⟨reached, henter, h⟩ := h
      obtain ⟨reached', henter', h'⟩ := h'
      obtain rfl : reached = reached' := by
        rcases (enter_eq_ok.mp henter).2 with ⟨hnone, rfl⟩ | ⟨hname, -, -, rfl⟩
        · rcases (enter_eq_ok.mp henter').2 with ⟨-, rfl⟩ | ⟨hname, -⟩
          · rfl
          · exact absurd hnone hname
        · rcases (enter_eq_ok.mp henter').2 with ⟨hnone, -⟩ | ⟨-, -, -, rfl⟩
          · exact absurd hnone hname
          · rfl
      rw [hlink] at h'
      cases hstands : s.link? reached with
      | none =>
          rw [hstands] at h h'
          exact ih h h'
      | some target =>
          rw [hstands] at h h'
          exact Except.ok.inj (h.symm.trans h')

theorem walk_succ (s : FileStore) (through : Bool) (links : Nat) (place : Place)
    (names : List Text) :
    s.walk through (links + 1) place names = (do
      match ← s.advance through place names with
      | .arrived reached => pure reached
      | .linked directory target rest =>
        s.walk through links (origin directory target.root) (target.names ++ rest)) := rfl

theorem walk_unique (hlink : ∀ q, s'.link? q = s.link? q) {links : Nat} {reached reached' : Place}
    (h : s.walk through links place names = .ok reached)
    (h' : s'.walk through links place names = .ok reached') : reached = reached' := by
  induction links generalizing place names with
  | zero =>
      obtain ⟨stretch, hstretch, h⟩ := Outcome.bind_eq_ok.mp h
      obtain ⟨stretch', hstretch', h'⟩ := Outcome.bind_eq_ok.mp h'
      cases advance_unique hlink hstretch hstretch'
      exact Except.ok.inj (h.symm.trans h')
  | succ links ih =>
      rw [walk_succ] at h h'
      obtain ⟨stretch, hstretch, h⟩ := Outcome.bind_eq_ok.mp h
      obtain ⟨stretch', hstretch', h'⟩ := Outcome.bind_eq_ok.mp h'
      cases advance_unique hlink hstretch hstretch'
      cases stretch with
      | arrived => exact Except.ok.inj (h.symm.trans h')
      | linked => exact ih h h'

/-- A path leads to one place at most, whatever the directories are. -/
theorem locate_unique (hworking : s'.working = s.working) (hlink : ∀ q, s'.link? q = s.link? q)
    (h : s.locate p = .ok place) (h' : s'.locate p = .ok q) : place = q := by
  obtain ⟨_, -, h⟩ := Outcome.bind_eq_ok.mp h
  obtain ⟨_, -, h'⟩ := Outcome.bind_eq_ok.mp h'
  rw [hworking] at h'
  exact walk_unique hlink h h'

/-! ### Stores that have grown -/

/-- Holds when a store has the directories of another one, and the same links, permissions and
working directory. -/
structure Extends (s s' : FileStore) : Prop where
  working : s'.working = s.working
  allows : s'.allows = s.allows
  directory : ∀ q, s.node? q = some .directory → s'.node? q = some .directory
  link : ∀ q, s'.link? q = s.link? q

namespace Extends

theorem enter (h : Extends s s') (henter : s.enter place name = .ok q) :
    s'.enter place name = .ok q := by
  obtain ⟨hdirectory, hname⟩ := enter_eq_ok.mp henter
  rw [← h.allows] at hname
  exact enter_eq_ok.mpr ⟨h.directory _ hdirectory, hname⟩

theorem advance (h : Extends s s') (hadvance : s.advance through place names = .ok stretch) :
    s'.advance through place names = .ok stretch := by
  induction names generalizing place with
  | nil => exact hadvance
  | cons name rest ih =>
      rw [advance_cons, Outcome.bind_eq_ok] at hadvance ⊢
      obtain ⟨reached, henter, hrest⟩ := hadvance
      refine ⟨reached, h.enter henter, ?_⟩
      rw [h.link]
      cases hstands : s.link? reached with
      | none =>
          rw [hstands] at hrest
          exact ih hrest
      | some target =>
          rw [hstands] at hrest
          exact hrest

theorem walk (h : Extends s s') {links : Nat} {reached : Place}
    (hwalk : s.walk through links place names = .ok reached) :
    s'.walk through links place names = .ok reached := by
  induction links generalizing place names with
  | zero =>
      obtain ⟨stretch, hstretch, hrest⟩ := Outcome.bind_eq_ok.mp hwalk
      exact Outcome.bind_eq_ok.mpr ⟨stretch, h.advance hstretch, hrest⟩
  | succ links ih =>
      rw [walk_succ] at hwalk ⊢
      obtain ⟨stretch, hstretch, hrest⟩ := Outcome.bind_eq_ok.mp hwalk
      refine Outcome.bind_eq_ok.mpr ⟨stretch, h.advance hstretch, ?_⟩
      cases stretch with
      | arrived => exact hrest
      | linked => exact ih hrest

/-- A path leads to the same place in a store that has grown. -/
theorem locate (h : Extends s s') (hlocate : s.locate p = .ok place) :
    s'.locate p = .ok place := by
  obtain ⟨u, hlength, hwalk⟩ := Outcome.bind_eq_ok.mp hlocate
  refine Outcome.bind_eq_ok.mpr ⟨u, hlength, ?_⟩
  rw [h.working]
  exact h.walk hwalk

end Extends

/-! ### Entries that are no links -/

/-- Where no link stands in the end, it makes no difference whether the last one is passed. -/
theorem advance_of_entry (h : s.advance false place names = .ok stretch)
    (hstretch : ∀ reached, stretch = .arrived reached → s.link? reached = none) :
    s.advance through place names = .ok stretch := by
  induction names generalizing place with
  | nil => exact h
  | cons name rest ih =>
      rw [advance_cons, Outcome.bind_eq_ok] at h ⊢
      obtain ⟨reached, henter, h⟩ := h
      refine ⟨reached, henter, ?_⟩
      cases hstands : s.link? reached with
      | none =>
          rw [hstands] at h
          exact ih h
      | some target =>
          rw [hstands] at h
          dsimp only at h ⊢
          by_cases hrest : rest = []
          · rw [if_neg (by simp [hrest])] at h
            cases (hstretch _ (Except.ok.inj h).symm).symm.trans hstands
          · rw [if_pos (.inr hrest)] at h ⊢
            exact h

theorem walk_of_entry {links : Nat} (h : s.walk false links place names = .ok q)
    (hfree : s.link? q = none) : s.walk through links place names = .ok q := by
  induction links generalizing place names with
  | zero =>
      obtain ⟨stretch, hstretch, hrest⟩ := Outcome.bind_eq_ok.mp h
      refine Outcome.bind_eq_ok.mpr ⟨stretch, advance_of_entry hstretch ?_, hrest⟩
      rintro reached rfl
      cases hrest
      exact hfree
  | succ links ih =>
      rw [walk_succ] at h ⊢
      obtain ⟨stretch, hstretch, hrest⟩ := Outcome.bind_eq_ok.mp h
      refine Outcome.bind_eq_ok.mpr ⟨stretch, advance_of_entry hstretch ?_, ?_⟩
      · rintro reached rfl
        cases hrest
        exact hfree
      · cases stretch with
        | arrived => exact hrest
        | linked => exact ih hrest

theorem locate_of_locateEntry (h : s.locateEntry p = .ok place) (hfree : s.node? place = none) :
    s.locate p = .ok place := by
  obtain ⟨u, hlength, hwalk⟩ := Outcome.bind_eq_ok.mp h
  exact Outcome.bind_eq_ok.mpr
    ⟨u, hlength, walk_of_entry hwalk (link?_eq_none_of_free hfree)⟩

end Ways

/-! ## Files -/

theorem refuse_eq_ok {α : Type} {r : Except FileRefusal α} {a : α} :
    refuse p r = .ok a ↔ p.check = .ok () ∧ r = .ok a := by
  rw [refuse, Outcome.bind_eq_ok]
  simp only [Outcome.mapError_eq_ok]
  constructor
  · rintro ⟨_, hcheck, h⟩
    exact ⟨hcheck, h⟩
  · rintro ⟨hcheck, h⟩
    exact ⟨(), hcheck, h⟩

theorem find?_eq_some {node : Node} :
    s.find? p = some node ↔ ∃ place, s.locate p = .ok place ∧ s.node? place = some node := by
  rw [find?]
  cases s.locate p <;> simp

theorem openFile_eq_ok :
    s.openFile p = .ok id ↔
      p.check = .ok () ∧ ∃ place, s.locate p = .ok place ∧ s.node? place = some (.file id) ∧
        s.allows .read place := by
  rw [openFile, refuse_eq_ok, Outcome.bind_eq_ok]
  refine and_congr_right fun _ => exists_congr fun place => and_congr_right fun _ => ?_
  split
  next hnode => simp [hnode]
  next found hnode =>
    rw [Outcome.bind_eq_ok]
    simp [require_eq_ok, hnode, and_comm]
  next node hfile hnode =>
    rw [Outcome.bind_eq_ok]
    simp only [reduceCtorEq, and_false, exists_false, false_iff, not_and]
    exact fun hsome => absurd (Option.some.inj (hnode.symm.trans hsome)) (hfile id)

/-- What is opened for a path is what the path leads to. -/
theorem find?_of_openFile (h : s.openFile p = .ok id) : s.find? p = some (.file id) := by
  obtain ⟨-, place, hlocate, hfile, -⟩ := openFile_eq_ok.mp h
  exact find?_eq_some.mpr ⟨place, hlocate, hfile⟩

/-- Holds of a path that leads to a file. -/
def HasFile (s : FileStore) (p : Path) : Prop :=
  p.check = .ok () ∧ ∃ id, s.find? p = some (.file id)

/-- A test that comes to its end tells whether there is a file. -/
theorem hasFile_iff_of_testFile {present : Bool} (h : s.testFile p = .ok present) :
    s.HasFile p ↔ present = true := by
  unfold testFile test at h
  split at h
  next hcheck =>
    cases h
    simp [HasFile, hcheck]
  next place hcheck hlocate =>
    cases h
    simp only [HasFile, hcheck, find?, hlocate, true_and]
    rcases s.node? place with _ | _ | _ | _ <;> simp [Node.isFile]
  next refusal hcheck hlocate =>
    split at h
    next =>
      cases h
      simp [HasFile, find?, hlocate]
    next => cases h

/-- A test comes to no end when the store refuses to tell. -/
theorem testFile_eq_error {fault : Fault} :
    s.testFile p = .error fault ↔
      p.check = .ok () ∧ ∃ refusal, s.locate p = .error refusal ∧ tellsNothing refusal = false ∧
        fault = .file refusal p.text := by
  unfold testFile test
  split
  next hcheck => simp [hcheck]
  next place hcheck hlocate => simp [hlocate]
  next refusal hcheck hlocate =>
    by_cases htells : tellsNothing refusal
    · simp [hlocate, htells]
    · simp [hcheck, hlocate, htells, eq_comm (b := fault)]

/-- Holds of two stores that differ in their directories and permissions at most. -/
structure SameFiles (s s' : FileStore) : Prop where
  working : s'.working = s.working
  content : s'.content = s.content
  link : ∀ q, s'.link? q = s.link? q
  file_iff : ∀ q id, s'.node? q = some (.file id) ↔ s.node? q = some (.file id)

namespace SameFiles

theorem refl (s : FileStore) : SameFiles s s := ⟨rfl, rfl, fun _ => rfl, fun _ _ => .rfl⟩

theorem symm (h : SameFiles s s') : SameFiles s' s :=
  ⟨h.working.symm, h.content.symm, fun q => (h.link q).symm, fun q id => (h.file_iff q id).symm⟩

theorem trans (h : SameFiles s s') (h' : SameFiles s' s'') : SameFiles s s'' :=
  ⟨h'.working.trans h.working, h'.content.trans h.content,
    fun q => (h'.link q).trans (h.link q), fun q id => (h'.file_iff q id).trans (h.file_iff q id)⟩

/-- A path leads to one file at most, whatever the directories are. -/
theorem openFile_unique (h : SameFiles s s') {id' : FileId} (hopen : s.openFile p = .ok id)
    (hopen' : s'.openFile p = .ok id') : id = id' := by
  obtain ⟨-, place, hlocate, hfile, -⟩ := openFile_eq_ok.mp hopen
  obtain ⟨-, place', hlocate', hfile', -⟩ := openFile_eq_ok.mp hopen'
  cases locate_unique h.working h.link hlocate hlocate'
  rw [h.file_iff, hfile] at hfile'
  exact Node.file.inj (Option.some.inj hfile')

theorem read_unique (h : SameFiles s s') {content content' : Bytes} (hread : s.read p = .ok content)
    (hread' : s'.read p = .ok content') : content = content' := by
  obtain ⟨id, hopen, rfl⟩ := Outcome.map_eq_ok.mp hread
  obtain ⟨id', hopen', rfl⟩ := Outcome.map_eq_ok.mp hread'
  rw [h.openFile_unique hopen hopen', h.content]

end SameFiles

/-! ## Making a file -/

/-- Holds when a store has come from another one by making directories where nothing stood, and by
making or writing one file. -/
structure Spares (id : FileId) (s s' : FileStore) : Prop where
  working : s'.working = s.working
  allows : s'.allows = s.allows
  content : ∀ i, i ≠ id → s'.content i = s.content i
  node : ∀ q, s'.node? q = s.node? q ∨
    s.node? q = none ∧ (s'.node? q = some .directory ∨ s'.node? q = some (.file id))

namespace Spares

theorem link (h : Spares id s s') (q : Place) : s'.link? q = s.link? q := by
  unfold link?
  rcases h.node q with hsame | ⟨hnone, hmade | hmade⟩
  · rw [hsame]
  · rw [hnone, hmade]
  · rw [hnone, hmade]

/-- What stood somewhere stands there still. -/
theorem keeps (h : Spares id s s') {node : Node} (hq : s.node? q = some node) :
    s'.node? q = some node := by
  rcases h.node q with hsame | ⟨hnone, -⟩
  · rw [hsame, hq]
  · cases hnone.symm.trans hq

theorem toExtends (h : Spares id s s') : Extends s s' :=
  ⟨h.working, h.allows, fun _ => h.keeps, h.link⟩

theorem trans (h : Spares id s s') (h' : Spares id s' s'') : Spares id s s'' where
  working := h'.working.trans h.working
  allows := h'.allows.trans h.allows
  content i hi := (h'.content i hi).trans (h.content i hi)
  node q := by
    rcases h.node q with hsame | ⟨hnone, hmade⟩
    · rw [← hsame]
      exact h'.node q
    · exact .inr ⟨hnone, hmade.imp h'.keeps h'.keeps⟩

theorem write (s : FileStore) (id : FileId) (content : Bytes) :
    Spares id s (s.write id content) :=
  ⟨rfl, rfl, fun _ hi => if_neg hi, fun _ => .inl rfl⟩

/-- A path that leads to something leads to it still. -/
theorem find? (h : Spares id s s') {node : Node} (hfind : s.find? p = some node) :
    s'.find? p = some node := by
  obtain ⟨place, hlocate, hnode⟩ := find?_eq_some.mp hfind
  exact find?_eq_some.mpr ⟨place, h.toExtends.locate hlocate, h.keeps hnode⟩

end Spares

@[simp] theorem content_write_self (s : FileStore) (id : FileId) (content : Bytes) :
    (s.write id content).content id = content := if_pos rfl

/-- What making a file comes to: a new one where nothing stood, or the one that stood there is
emptied. -/
theorem create_cases (h : s.create p = .ok (id, s')) :
    ∃ place, s.locate p = .ok place ∧
      (s.node? place = none ∧ id = s.next ∧ s' = s.addFile place [] ∨
        s.node? place = some (.file id) ∧ s' = s.write id []) := by
  obtain ⟨-, h⟩ := refuse_eq_ok.mp h
  obtain ⟨place, hlocate, h⟩ := Outcome.bind_eq_ok.mp h
  have hplace : s.locate p = .ok place := by
    unfold locateNew at hlocate
    split at hlocate
    next =>
      -- A path that ends with a slash is refused, whatever it leads to.
      obtain ⟨_, -, hnever⟩ := Outcome.bind_eq_ok.mp hlocate
      obtain ⟨_, -, hnever⟩ := Outcome.bind_eq_ok.mp hnever
      obtain ⟨_, -, hnever⟩ := Outcome.bind_eq_ok.mp hnever
      cases hnever
    next => exact hlocate
  refine ⟨place, hplace, ?_⟩
  split at h
  next hfree =>
    obtain ⟨_, -, h⟩ := Outcome.bind_eq_ok.mp h
    obtain ⟨_, -, h⟩ := Outcome.bind_eq_ok.mp h
    cases h
    exact .inl ⟨hfree, rfl, rfl⟩
  next found hfile =>
    obtain ⟨_, -, h⟩ := Outcome.bind_eq_ok.mp h
    cases h
    exact .inr ⟨hfile, rfl⟩
  next => cases h

/-- Nothing but the file is touched. -/
theorem spares_of_create (h : s.create p = .ok (id, s')) : Spares id s s' := by
  obtain ⟨place, -, ⟨hfree, rfl, rfl⟩ | ⟨-, rfl⟩⟩ := create_cases h
  · refine ⟨rfl, rfl, fun i hi => if_neg hi, fun q => ?_⟩
    by_cases hq : q = place
    · subst hq
      exact .inr ⟨hfree, .inr (node?_addFile_self hfree [])⟩
    · exact .inl (node?_addFile_of_ne hq [])
  · exact .write s id []

/-- The file is empty at first. -/
theorem content_of_create (h : s.create p = .ok (id, s')) : s'.content id = [] := by
  obtain ⟨place, -, ⟨-, rfl, rfl⟩ | ⟨-, rfl⟩⟩ := create_cases h
  · exact if_pos rfl
  · exact content_write_self s id []

/-- A path leads to the file that was made for it. -/
theorem find?_of_create (h : s.create p = .ok (id, s')) : s'.find? p = some (.file id) := by
  obtain ⟨place, hlocate, hmade⟩ := create_cases h
  refine find?_eq_some.mpr ⟨place, (spares_of_create h).toExtends.locate hlocate, ?_⟩
  rcases hmade with ⟨hfree, rfl, rfl⟩ | ⟨hfile, rfl⟩
  · exact node?_addFile_self hfree []
  · exact hfile

/-! ## Making directories -/

/-- Holds when a store has come from another one by making directories where nothing stood. -/
structure Furnishes (s s' : FileStore) : Prop where
  working : s'.working = s.working
  allows : s'.allows = s.allows
  content : s'.content = s.content
  node : ∀ q, s'.node? q = s.node? q ∨ s.node? q = none ∧ s'.node? q = some .directory

namespace Furnishes

theorem refl (s : FileStore) : Furnishes s s := ⟨rfl, rfl, rfl, fun _ => .inl rfl⟩

/-- What stood somewhere stands there still. -/
theorem keeps (h : Furnishes s s') {node : Node} (hq : s.node? q = some node) :
    s'.node? q = some node := by
  rcases h.node q with hsame | ⟨hnone, -⟩
  · rw [hsame, hq]
  · cases hnone.symm.trans hq

theorem trans (h : Furnishes s s') (h' : Furnishes s' s'') : Furnishes s s'' where
  working := h'.working.trans h.working
  allows := h'.allows.trans h.allows
  content := h'.content.trans h.content
  node q := by
    rcases h.node q with hsame | ⟨hnone, hmade⟩
    · rw [← hsame]
      exact h'.node q
    · exact .inr ⟨hnone, h'.keeps hmade⟩

theorem link (h : Furnishes s s') (q : Place) : s'.link? q = s.link? q := by
  unfold link?
  rcases h.node q with hsame | ⟨hnone, hmade⟩
  · rw [hsame]
  · rw [hnone, hmade]

theorem toExtends (h : Furnishes s s') : Extends s s' :=
  ⟨h.working, h.allows, fun _ => h.keeps, h.link⟩

theorem spares (h : Furnishes s s') (id : FileId) : Spares id s s' :=
  ⟨h.working, h.allows, fun i _ => congrFun h.content i,
    fun q => (h.node q).imp_right fun ⟨hnone, hmade⟩ => ⟨hnone, .inl hmade⟩⟩

theorem sameFiles (h : Furnishes s s') : SameFiles s s' := by
  refine ⟨h.working, h.content, h.link, fun q id => ?_⟩
  rcases h.node q with hsame | ⟨hnone, hmade⟩
  · rw [hsame]
  · rw [hnone, hmade]
    simp

end Furnishes

/-- Holds when a store has come from another one by making directories where nothing stood, and only
such as the path leads through or to. -/
structure Paves (p : Path) (s s' : FileStore) : Prop where
  furnishes : Furnishes s s'
  on_way : ∀ q, s'.node? q ≠ s.node? q →
    ∃ names, names <+: p.names ∧ s'.locate ⟨p.root, names⟩ = .ok q

namespace Paves

theorem refl (p : Path) (s : FileStore) : Paves p s s := ⟨.refl s, fun _ h => absurd rfl h⟩

theorem trans (h : Paves p s s') (h' : Paves p s' s'') : Paves p s s'' where
  furnishes := h.furnishes.trans h'.furnishes
  on_way q hq := by
    by_cases hlast : s''.node? q = s'.node? q
    · obtain ⟨names, hnames, hlocate⟩ := h.on_way q (hlast ▸ hq)
      exact ⟨names, hnames, h'.furnishes.toExtends.locate hlocate⟩
    · exact h'.on_way q hlast

theorem of_makeDirectory {names : List Text} (hnames : names <+: p.names)
    (h : s.makeDirectory ⟨p.root, names⟩ = .ok s') : Paves p s s' := by
  obtain ⟨place, hlocate, h⟩ := Outcome.bind_eq_ok.mp h
  split at h
  next => cases h
  next hfree =>
    obtain ⟨_, -, h⟩ := Outcome.bind_eq_ok.mp h
    obtain ⟨_, -, h⟩ := Outcome.bind_eq_ok.mp h
    cases h
    have hfurnishes : Furnishes s (s.addDirectory place) := by
      refine ⟨rfl, rfl, rfl, fun q => ?_⟩
      by_cases hq : q = place
      · subst hq
        exact .inr ⟨hfree, node?_addDirectory_self⟩
      · exact .inl (node?_addDirectory_of_ne hq)
    refine ⟨hfurnishes, fun q hq => ⟨names, hnames, ?_⟩⟩
    obtain rfl : q = place := by
      by_contra hne
      exact hq (node?_addDirectory_of_ne hne)
    exact hfurnishes.toExtends.locate (locate_of_locateEntry hlocate hfree)

/-- Only directories on the way are made, also when making them is refused in the end. -/
theorem of_makeDirectories (s : FileStore) {names : List Text} (hnames : names <+: p.names)
    (depth : Nat) : Paves p s (s.makeDirectories p.root names depth).2 := by
  induction depth generalizing names with
  | zero =>
      unfold makeDirectories
      dsimp only
      split
      next hmade => exact of_makeDirectory hnames hmade
      next => exact refl p s
  | succ depth ih =>
      unfold makeDirectories
      dsimp only
      split
      next hmade => exact of_makeDirectory hnames hmade
      next =>
        have habove := ih ((List.dropLast_prefix names).trans hnames)
        split
        next hmade =>
          rw [hmade] at habove
          split
          next hlast => exact habove.trans (of_makeDirectory hnames hlast)
          next => exact habove
        next => exact habove
      next => exact refl p s

theorem of_makeDirectoriesOf (s : FileStore) (p : Path) :
    Paves p s (s.makeDirectoriesOf p).2 := by
  unfold makeDirectoriesOf
  split
  next => exact of_makeDirectories s List.prefix_rfl _
  next => exact refl p s

end Paves

end Polyglot.FileStore
