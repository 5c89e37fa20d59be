import Mathlib.Data.List.DropRight
import Polyglot.Path
import Polyglot.Proofs.Outcome

/-! # Paths and their texts

The names of a path that was read are neither empty nor a single dot, and they hold no slash. Such a
path is read again from its text, so its text determines it. A tilde at the front of a relative path
is replaced by a home, with the names behind it kept, and any other path is left alone; that gives a
path of this kind again, or a fault that tells which home is not there.
-/

namespace Polyglot.Path

/-- Holds of a path whose names could all have been read. -/
def IsPlain (p : Path) : Prop :=
  ∀ name ∈ p.names, name ≠ [] ∧ name ≠ "." ∧ ('/' : CodePoint) ∉ name

/-- No part of a text holds the code point at which the text was cut. -/
theorem notMem_of_mem_cutAt {separator : CodePoint} {t part : Text}
    (hpart : part ∈ Text.cutAt separator t) : separator ∉ part := by
  unfold Text.cutAt List.splitOn at hpart
  induction t generalizing part with
  | nil =>
      rw [List.splitOnP_nil, List.mem_singleton] at hpart
      simp [hpart]
  | cons c t ih =>
      rw [List.splitOnP_cons_eq_if_modifyHead] at hpart
      split at hpart
      next =>
        rcases List.mem_cons.mp hpart with rfl | htail
        · exact List.not_mem_nil
        · exact ih htail
      next hc =>
        obtain ⟨first, rest, hparts⟩ :=
          List.exists_cons_of_ne_nil (List.splitOnP_ne_nil (· == separator) t)
        rw [hparts, List.modifyHead_cons] at hpart
        rw [hparts] at ih
        rcases List.mem_cons.mp hpart with rfl | htail
        · have hne : separator ≠ c := fun h => hc (by simp [h])
          exact List.not_mem_cons_of_ne_of_not_mem hne (ih List.mem_cons_self)
        · exact ih (List.mem_cons_of_mem _ htail)

theorem isPlain_ofText (t : Text) : (ofText t).IsPlain := by
  intro name hname
  obtain ⟨hpart, hkept⟩ := List.mem_filter.mp hname
  obtain ⟨hne, hdot⟩ := of_decide_eq_true hkept
  exact ⟨hne, hdot, notMem_of_mem_cutAt hpart⟩

/-! ## Homes -/

/-- Holds of a relative path that begins with a tilde. -/
def HasTilde (p : Path) : Prop :=
  p.root = .relative ∧ ∃ name rest, p.names = name :: rest ∧ name.head? = some ('~' : CodePoint)

/-- The home that a name after a tilde asks for: that of the environment, or else that of the user
who runs the program, or that of a user with a name, if the system knows one. -/
def homeText? (users : Users) (home : Option Text) (name : Text) : Option Text :=
  if name = [] then home.or users.own else users.named name

/-- Relates a path to what replacing a tilde gives. -/
inductive Expands (users : Users) (home : Option Text) : Path → Path → Prop where
  /-- Without a tilde, the path is left alone. -/
  | kept {p : Path} (plain : ¬p.HasTilde) : Expands users home p p
  /-- The home stands for the tilde with the name after it, and the other names follow. -/
  | home {name dir : Text} (rest : List Text) (askable : name = [] ∨ checkText name = .ok ())
      (known : homeText? users home name = some dir)
      (settled : dir.head? ≠ some ('~' : CodePoint)) :
      Expands users home ⟨.relative, (('~' : CodePoint) :: name) :: rest⟩
        ⟨(ofText (trimHome dir)).root, (ofText (trimHome dir)).names ++ rest⟩

/-- Relates a path with a tilde to why it has no home: there is none, or it begins with a tilde
again, or the name is a text that the system cannot be asked for. -/
inductive Homeless (users : Users) (home : Option Text) : Path → Fault → Prop where
  | unknown {name : Text} (rest : List Text) (askable : name = [] ∨ checkText name = .ok ())
      (none : ∀ dir, homeText? users home name = some dir → dir.head? = some ('~' : CodePoint)) :
      Homeless users home ⟨.relative, (('~' : CodePoint) :: name) :: rest⟩ .noHome
  | unaskable {name : Text} {fault : Fault} (rest : List Text) (named : name ≠ [])
      (refused : checkText name = .error fault) :
      Homeless users home ⟨.relative, (('~' : CodePoint) :: name) :: rest⟩ fault

section Homes

variable {users : Users} {home : Option Text} {p q : Path} {name : Text} {fault : Fault}

/-- Cutting off slashes at the end keeps a tilde at the front, and brings none there. -/
theorem head?_trimHome (dir : Text) :
    (trimHome dir).head? = some ('~' : CodePoint) ↔ dir.head? = some ('~' : CodePoint) := by
  obtain ⟨rest, hrest⟩ := List.rdropWhile_prefix (fun c : CodePoint => decide (c = '/')) dir
  have htrim : trimHome dir =
      if dir.rdropWhile (· = ('/' : CodePoint)) = [] then ("/" : Text)
      else dir.rdropWhile (· = ('/' : CodePoint)) := rfl
  rw [htrim]
  cases hkept : dir.rdropWhile (· = ('/' : CodePoint)) with
  | nil =>
      have hslashes := List.rdropWhile_eq_nil_iff.mp hkept
      refine ⟨fun h => absurd h (by decide), fun hhead => ?_⟩
      exact absurd (hslashes _ (List.mem_of_head? hhead)) (by decide)
  | cons c kept =>
      rw [hkept, List.cons_append] at hrest
      rw [if_neg (List.cons_ne_nil c kept), ← hrest, List.head?_cons, List.head?_cons]

theorem ofHome_some (dir : Text) :
    ofHome (some dir) =
      if dir.head? = some ('~' : CodePoint) then .error .noHome else .ok (ofText (trimHome dir)) := by
  simp only [ofHome, head?_trimHome]

theorem ofHome_eq_ok {found : Option Text} {base : Path} :
    ofHome found = .ok base ↔
      ∃ dir, found = some dir ∧ dir.head? ≠ some ('~' : CodePoint) ∧
        base = ofText (trimHome dir) := by
  cases found with
  | none => simp [ofHome]
  | some dir =>
      rw [ofHome_some]
      split
      next htilde => simp [htilde]
      next hsettled => simp [hsettled, eq_comm]

theorem ofHome_eq_error {found : Option Text} :
    ofHome found = .error fault ↔
      fault = .noHome ∧ ∀ dir, found = some dir → dir.head? = some ('~' : CodePoint) := by
  cases found with
  | none => simp [ofHome, eq_comm]
  | some dir =>
      rw [ofHome_some]
      split
      next htilde => simp [htilde, eq_comm]
      next hsettled => simp [hsettled]

theorem homeOf_eq (users : Users) (home : Option Text) (name : Text) :
    homeOf users home name =
      if name = [] then ofHome (homeText? users home name)
      else checkText name >>= fun _ => ofHome (homeText? users home name) := by
  unfold homeOf homeText?
  split <;> rfl

theorem homeOf_eq_ok {base : Path} :
    homeOf users home name = .ok base ↔
      (name = [] ∨ checkText name = .ok ()) ∧ ∃ dir, homeText? users home name = some dir ∧
        dir.head? ≠ some ('~' : CodePoint) ∧ base = ofText (trimHome dir) := by
  rw [homeOf_eq]
  split
  next hnone => simp [hnone, ofHome_eq_ok]
  next hname =>
    rw [Outcome.bind_eq_ok]
    simp only [hname, false_or, ofHome_eq_ok]
    exact ⟨fun ⟨(), hcheck, hhome⟩ => ⟨hcheck, hhome⟩, fun ⟨hcheck, hhome⟩ => ⟨(), hcheck, hhome⟩⟩

theorem homeOf_eq_error :
    homeOf users home name = .error fault ↔
      name ≠ [] ∧ checkText name = .error fault ∨
        (name = [] ∨ checkText name = .ok ()) ∧ fault = .noHome ∧
          ∀ dir, homeText? users home name = some dir → dir.head? = some ('~' : CodePoint) := by
  rw [homeOf_eq]
  split
  next hnone => simp [hnone, ofHome_eq_error]
  next hname =>
    rw [Outcome.bind_eq_error]
    simp only [hname, false_or, ne_eq, not_false_eq_true, true_and, ofHome_eq_error]
    exact or_congr_right
      ⟨fun ⟨(), hcheck, hhome⟩ => ⟨hcheck, hhome⟩, fun ⟨hcheck, hhome⟩ => ⟨(), hcheck, hhome⟩⟩

/-- A path without a tilde is left alone. -/
theorem expandHome_of_not_hasTilde (h : ¬p.HasTilde) : p.expandHome users home = .ok p := by
  unfold expandHome
  split
  next first rest hroot hnames =>
    rw [if_neg fun hhead => h ⟨hroot, first, rest, hnames, hhead⟩]
    rfl
  next => rfl

/-- A tilde is followed by a name, which may be empty, and by other names. -/
theorem HasTilde.exists_eq (h : p.HasTilde) :
    ∃ name rest, p = ⟨.relative, (('~' : CodePoint) :: name) :: rest⟩ := by
  obtain ⟨hroot, first, rest, hnames, hhead⟩ := h
  obtain ⟨name, rfl⟩ := List.head?_eq_some_iff.mp hhead
  exact ⟨name, rest, by rw [← hroot, ← hnames]⟩

theorem hasTilde_cons (name : Text) (rest : List Text) :
    HasTilde ⟨.relative, (('~' : CodePoint) :: name) :: rest⟩ := ⟨rfl, _, rest, rfl, rfl⟩

theorem expandHome_tilde (users : Users) (home : Option Text) (name : Text) (rest : List Text) :
    expandHome users home ⟨.relative, (('~' : CodePoint) :: name) :: rest⟩ =
      (homeOf users home name).map fun base => ⟨base.root, base.names ++ rest⟩ := by
  have hopen : expandHome users home ⟨.relative, (('~' : CodePoint) :: name) :: rest⟩ =
      homeOf users home name >>= fun base => .ok ⟨base.root, base.names ++ rest⟩ := rfl
  rw [hopen]
  cases homeOf users home name <;> rfl

/-- Replacing a tilde gives what it should. -/
theorem expandHome_eq_ok : p.expandHome users home = .ok q ↔ Expands users home p q := by
  by_cases htilde : p.HasTilde
  · obtain ⟨name, rest, rfl⟩ := htilde.exists_eq
    rw [expandHome_tilde, Outcome.map_eq_ok]
    constructor
    · rintro ⟨base, hbase, rfl⟩
      obtain ⟨haskable, dir, hknown, hsettled, rfl⟩ := homeOf_eq_ok.mp hbase
      exact .home rest haskable hknown hsettled
    · intro h
      cases h with
      | kept plain => exact absurd htilde plain
      | home rest askable known settled =>
          exact ⟨_, homeOf_eq_ok.mpr ⟨askable, _, known, settled, rfl⟩, rfl⟩
  · rw [expandHome_of_not_hasTilde htilde, Except.ok.injEq]
    constructor
    · rintro rfl
      exact .kept htilde
    · intro h
      cases h with
      | kept => rfl
      | home rest => exact absurd (hasTilde_cons _ rest) htilde

/-- There are no other reasons for a path to have no home. -/
theorem expandHome_eq_error :
    p.expandHome users home = .error fault ↔ Homeless users home p fault := by
  by_cases htilde : p.HasTilde
  · obtain ⟨name, rest, rfl⟩ := htilde.exists_eq
    rw [expandHome_tilde, Outcome.map_eq_error, homeOf_eq_error]
    constructor
    · rintro (⟨hnamed, hrefused⟩ | ⟨haskable, rfl, hnone⟩)
      · exact .unaskable rest hnamed hrefused
      · exact .unknown rest haskable hnone
    · intro h
      cases h with
      | unknown rest askable none => exact .inr ⟨askable, rfl, none⟩
      | unaskable rest named refused => exact .inl ⟨named, refused⟩
  · rw [expandHome_of_not_hasTilde htilde]
    refine ⟨nofun, fun h => ?_⟩
    cases h with
    | unknown rest => exact absurd (hasTilde_cons _ rest) htilde
    | unaskable rest => exact absurd (hasTilde_cons _ rest) htilde

theorem Expands.isPlain (hp : p.IsPlain) (h : Expands users home p q) : q.IsPlain := by
  cases h with
  | kept => exact hp
  | @home name dir rest askable known settled =>
      intro part hpart
      rcases List.mem_append.mp hpart with hbase | hrest
      · exact isPlain_ofText _ part hbase
      · exact hp part (List.mem_cons_of_mem _ hrest)

end Homes

section Text

variable {names : List Text}

theorem cutAt_slash_cons (t : Text) :
    Text.cutAt '/' (('/' : CodePoint) :: t) = [] :: Text.cutAt '/' t := by
  simp [Text.cutAt, List.splitOn, List.splitOnP_cons_eq_if_modifyHead]

/-- Cutting undoes joining. -/
theorem cutAt_join (hslash : ∀ name ∈ names, ('/' : CodePoint) ∉ name) (hne : names ≠ []) :
    Text.cutAt '/' (Text.join "/" names) = names :=
  List.splitOn_intercalate _ hslash hne

/-- A join does not begin with a slash when its first part does not. -/
theorem takeWhile_slash_join
    (hnames : ∀ name ∈ names, name ≠ [] ∧ ('/' : CodePoint) ∉ name) :
    (Text.join "/" names).takeWhile (· = ('/' : CodePoint)) = [] := by
  cases names with
  | nil => rfl
  | cons name others =>
      obtain ⟨hne, hslash⟩ := hnames name List.mem_cons_self
      obtain ⟨c, rest, rfl⟩ := List.exists_cons_of_ne_nil hne
      obtain ⟨hc, -⟩ := List.ne_and_not_mem_of_not_mem_cons hslash
      cases others <;> simp [Text.join, List.intersperse, Ne.symm hc]

theorem rootOf_append (root : Root) {t : Text}
    (hnone : t.takeWhile (· = ('/' : CodePoint)) = []) : rootOf (rootText root ++ t) = root := by
  cases root <;> simp [rootOf, rootText, Text.ofString, Text.ofChars, hnone]

theorem cutAt_rootText_append (root : Root) (t : Text) :
    (Text.cutAt '/' (rootText root ++ t)).filter (fun name => name ≠ [] ∧ name ≠ ".") =
      (Text.cutAt '/' t).filter fun name => name ≠ [] ∧ name ≠ "." := by
  cases root with
  | relative => rfl
  | slash => simp [rootText, Text.ofString, Text.ofChars, cutAt_slash_cons]
  | twoSlashes => simp [rootText, Text.ofString, Text.ofChars, cutAt_slash_cons]

end Text

/-- A plain path is read again from its text. -/
theorem ofText_text {p : Path} (hp : p.IsPlain) : ofText p.text = p := by
  obtain ⟨root, names⟩ := p
  by_cases hnone : names = []
  · subst hnone
    cases root <;> rfl
  have htext : text ⟨root, names⟩ = rootText root ++ Text.join "/" names :=
    if_neg fun h => hnone h.2
  have hhead := takeWhile_slash_join fun name hname => ⟨(hp name hname).1, (hp name hname).2.2⟩
  have hnames : names.filter (fun name => name ≠ [] ∧ name ≠ ".") = names :=
    List.filter_eq_self.mpr fun name hname =>
      decide_eq_true ⟨(hp name hname).1, (hp name hname).2.1⟩
  rw [htext, ofText, rootOf_append root hhead, cutAt_rootText_append,
    cutAt_join (fun name hname => (hp name hname).2.2) hnone, hnames]

end Polyglot.Path
