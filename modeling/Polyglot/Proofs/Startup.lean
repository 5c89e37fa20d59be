import Polyglot.Proofs.Asking
import Polyglot.Proofs.Console
import Polyglot.Proofs.Handles
import Polyglot.Proofs.Health

/-! # How commands start

A command that needs a classifier goes on with one or complains and ends with code two, and the
report on the model ends well, unless a fault escapes: one of asking for the model that no handler
names, or one of the complaint itself, whose message the console cannot show. The session and the
arguments tell when this happens.
-/

namespace Polyglot.CommandLine

open Console (IsBare IsHeading)
open Markup (IsLine IsQuiet)

variable {input : Text} {command : Command} {model : Option Text} {maxChars : Option ℤ}
  {s opened : Session} {c : Classifier} {fault : Fault}

/-! ## The complaint -/

/-- The words of the heading. -/
def heading : Text := "Could not load model:"

theorem loadFailure_eq (fault : Fault) :
    loadFailure fault = Markup.red heading ++ CodePoint.ofChar ' ' :: fault.message := by rfl

theorem isQuiet_blank {message : Text} (h : IsQuiet 0 message) :
    IsQuiet 0 (CodePoint.ofChar ' ' :: message) :=
  Markup.isQuiet_cons.mpr ⟨fun hopen => absurd hopen (by decide), by rwa [if_neg (by decide)]⟩

section Complaint

variable [Console]

theorem isHeading_heading : IsHeading heading := by
  have hcodes : Emoji.codes heading = [] := by rfl
  refine ⟨by decide, Markup.isLine_of_isPrintable (Text.isPrintable_of_ascii (by decide)),
    ⟨Markup.isQuiet_of_notMem (by decide) 0, fun body hbody => ?_⟩, by decide, by decide⟩
  rw [hcodes] at hbody
  cases hbody

theorem isBare_blank {message : Text} (h : IsBare message) :
    IsBare (CodePoint.ofChar ' ' :: message) := by
  have hcodes : Emoji.codes (CodePoint.ofChar ' ' :: message) = Emoji.codes message :=
    Emoji.codesFrom_of_none (if_neg (by decide))
  exact ⟨isQuiet_blank h.bracket, hcodes ▸ h.code⟩

/-- A command that complained about the model and ended with code two. -/
structure Complains (r : Result) : Prop where
  out : r.out = []
  err : heading <+: r.err
  code : r.code = 2
  escape : r.escape = none

theorem not_complains_of_escape {escape : Escape} : ¬Complains ⟨[], [], 1, some escape⟩ :=
  fun h => nomatch h.escape

theorem complain_of_ok {message err : Text} (h : Console.layout message = .ok err) (code : ℕ) :
    Result.complain code message = ⟨[], err, code, none⟩ := by
  rw [Result.complain, h]

theorem complain_of_error {message : Text} {flaw : Console.Flaw}
    (h : Console.layout message = .error flaw) (code : ℕ) :
    Result.complain code message = ⟨[], [], 1, some (.unshown flaw)⟩ := by
  rw [Result.complain, h]

theorem run_attempt_of_error {α : Type} {a : Action α} {s' : Session}
    (h : a.perform s = (.error fault, s')) (next : α → Program) :
    (attempt a next).run s = (Result.escaped fault, s') := by
  simp only [attempt, StateT.run_bind, StateT.run_get, pure_bind, h, StateT.run_set]
  rfl

variable [LawfulConsole]

/-- A complaint that is shown begins with its heading. -/
theorem heading_prefix {err : Text} (h : Console.layout (loadFailure fault) = .ok err) :
    heading <+: err := LawfulConsole.red_first isHeading_heading (loadFailure_eq fault ▸ h)

/-- Only brackets that mean something to the console spoil a complaint. -/
theorem exists_layout_loadFailure (hquiet : IsQuiet 0 fault.message) :
    ∃ err, Console.layout (loadFailure fault) = .ok err := by
  rw [loadFailure_eq]
  exact LawfulConsole.red_shown isHeading_heading (isQuiet_blank hquiet)

/-- A bare message on one line stands behind the heading as it is. -/
theorem layout_loadFailure (hline : IsLine fault.message) (hbare : IsBare fault.message) :
    Console.layout (loadFailure fault) =
      .ok (heading ++ CodePoint.ofChar ' ' :: fault.message ++ [CodePoint.lineFeed]) := by
  rw [loadFailure_eq]
  exact LawfulConsole.red_verbatim isHeading_heading
    (List.forall_mem_cons.mpr ⟨by decide, hline⟩) (isBare_blank hbare)

end Complaint

/-! ## The commands -/

section Commands

variable [Limits]

/-- A fault that no handler names comes from asking for the model. -/
theorem unforeseen_of_build
    (hfailed : (Classifier.build (draft model maxChars)).perform s = (.error fault, opened))
    (hreported : fault.isReported = false) :
    (∀ n ∈ maxChars, 1 ≤ n) ∧ Model.Unforeseen s (askedPath model) fault := by
  have hlimit : ∀ n ∈ maxChars, 1 ≤ n := by
    rintro n rfl
    by_contra hsmall
    cases hfailed.symm.trans (build_perform_of_small (Int.not_le.mp hsmall) model s)
    cases hreported
  obtain ⟨settings, -, hbuild⟩ := build_perform_of_limit hlimit model s
  rw [hbuild, Prod.mk.injEq, Outcome.map_eq_error] at hfailed
  exact ⟨hlimit, Model.unforeseen_iff.mpr ⟨hfailed.1, hreported⟩⟩

theorem exists_build_of_unforeseen (hlimit : ∀ n ∈ maxChars, 1 ≤ n)
    (h : Model.Unforeseen s (askedPath model) fault) :
    ∃ opened, (Classifier.build (draft model maxChars)).perform s = (.error fault, opened) ∧
      fault.isReported = false := by
  obtain ⟨hshared, hreported⟩ := Model.unforeseen_iff.mp h
  obtain ⟨settings, -, hbuild⟩ := build_perform_of_limit hlimit model s
  rw [hshared] at hbuild
  exact ⟨_, hbuild, hreported⟩

variable [Console] {next : Classifier → Program}

/-- The commands that detect a language and list the languages: their models and limits, and what
they do with a classifier. -/
inductive Starts (input : Text) :
    Command → Option Text → Option ℤ → (Classifier → Program) → Prop where
  | labels (model : Option Text) :
      Starts input (.labels model) model none fun c =>
        pure (Result.print c.model.labels.languages)
  | snippet (t : Text) (file model : Option Text) (maxChars : Option ℤ) (scores : Bool) :
      Starts input (.detect (some t) file model maxChars scores) model maxChars fun c =>
        pure (showLanguage c scores t)
  | file (path : Text) (model : Option Text) (maxChars : Option ℤ) (scores : Bool) :
      Starts input (.detect none (some path) model maxChars scores) model maxChars fun c =>
        attempt (Action.readFile (Path.ofText path)) fun content =>
          pure (showLanguage c scores (snippetOf content))
  | input (model : Option Text) (maxChars : Option ℤ) (scores : Bool) :
      Starts input (.detect none none model maxChars scores) model maxChars fun c =>
        pure (showLanguage c scores (Text.unifyNewlines input))

theorem Starts.perform_eq (h : Starts input command model maxChars next) (around : Surroundings) :
    perform around input command = withClassifier model maxChars next := by
  cases h <;> rfl

/-- A command that got a classifier and went on with it. -/
def GoesOn (s : Session) (model : Option Text) (maxChars : Option ℤ) (next : Classifier → Program)
    (run : Result × Session) : Prop :=
  ∃ c opened, (Classifier.build (draft model maxChars)).perform s = (.ok c, opened) ∧
    run = (next c).run opened

/-- What escapes from making a classifier. -/
inductive Breaks (s : Session) (model : Option Text) (maxChars : Option ℤ) : Escape → Prop where
  /-- The limit is in order, but asking for the model fails in a way that no handler names. -/
  | fault {fault : Fault} (limit : ∀ n ∈ maxChars, 1 ≤ n)
      (unforeseen : Model.Unforeseen s (askedPath model) fault) :
      Breaks s model maxChars (.fault fault)
  /-- The fault has a handler, but the console cannot show its message. -/
  | message {fault : Fault} {opened : Session} {flaw : Console.Flaw}
      (failed : (Classifier.build (draft model maxChars)).perform s = (.error fault, opened))
      (reported : fault.isReported) (unshown : Console.layout (loadFailure fault) = .error flaw) :
      Breaks s model maxChars (.unshown flaw)

theorem run_withClassifier_of_reported
    (hfailed : (Classifier.build (draft model maxChars)).perform s = (.error fault, opened))
    (hreported : fault.isReported) (next : Classifier → Program) :
    (withClassifier model maxChars next).run s =
      (Result.complain 2 (loadFailure fault), opened) := by
  simp only [withClassifier, StateT.run_bind, StateT.run_get, pure_bind, hfailed, StateT.run_set,
    if_pos hreported]
  rfl

theorem run_withClassifier_of_unreported
    (hfailed : (Classifier.build (draft model maxChars)).perform s = (.error fault, opened))
    (hreported : fault.isReported = false) (next : Classifier → Program) :
    (withClassifier model maxChars next).run s = (Result.escaped fault, opened) := by
  simp only [withClassifier, StateT.run_bind, StateT.run_get, pure_bind, hfailed, StateT.run_set,
    hreported]
  rfl

/-- What escapes is all that is left of the command. -/
theorem run_of_breaks {escape : Escape} (h : Breaks s model maxChars escape)
    (next : Classifier → Program) :
    ((withClassifier model maxChars next).run s).1 = ⟨[], [], 1, some escape⟩ := by
  cases h with
  | fault limit unforeseen =>
      obtain ⟨opened, hfailed, hreported⟩ := exists_build_of_unforeseen limit unforeseen
      rw [run_withClassifier_of_unreported hfailed hreported]
      rfl
  | message failed reported unshown =>
      rw [run_withClassifier_of_reported failed reported, complain_of_error unshown]

/-- A command that needs a classifier goes on, complains or breaks. -/
theorem start_cases [LawfulConsole] (s : Session) (model : Option Text) (maxChars : Option ℤ)
    (next : Classifier → Program) :
    GoesOn s model maxChars next ((withClassifier model maxChars next).run s) ∨
      Complains ((withClassifier model maxChars next).run s).1 ∨
        ∃ escape, Breaks s model maxChars escape := by
  rcases hbuild : (Classifier.build (draft model maxChars)).perform s with ⟨fault | c, opened⟩
  · cases hreported : fault.isReported with
    | false =>
        obtain ⟨hlimit, hunforeseen⟩ := unforeseen_of_build hbuild hreported
        exact .inr (.inr ⟨_, .fault hlimit hunforeseen⟩)
    | true =>
        cases hlayout : Console.layout (loadFailure fault) with
        | error flaw => exact .inr (.inr ⟨_, .message hbuild hreported hlayout⟩)
        | ok err =>
            rw [run_withClassifier_of_reported hbuild hreported, complain_of_ok hlayout]
            exact .inr (.inl ⟨rfl, heading_prefix hlayout, rfl, rfl⟩)
  · exact .inl ⟨c, opened, hbuild, run_withClassifier hbuild next⟩

theorem build_ne_ok_of_breaks {escape : Escape} (h : Breaks s model maxChars escape)
    (c : Classifier) (opened : Session) :
    (Classifier.build (draft model maxChars)).perform s ≠ (.ok c, opened) := by
  intro hmade
  cases h with
  | fault limit unforeseen =>
      obtain ⟨opened, hfailed, -⟩ := exists_build_of_unforeseen limit unforeseen
      cases hmade.symm.trans hfailed
  | message failed => cases hmade.symm.trans failed

/-- Only a message with brackets that mean something to the console breaks the complaint. -/
theorem Breaks.exists_loud [LawfulConsole] {flaw : Console.Flaw}
    (h : Breaks s model maxChars (.unshown flaw)) :
    ∃ fault opened, (Classifier.build (draft model maxChars)).perform s = (.error fault, opened) ∧
      ¬IsQuiet 0 fault.message := by
  cases h with
  | message failed reported unshown =>
      refine ⟨_, _, failed, fun hquiet => ?_⟩
      obtain ⟨err, hshown⟩ := exists_layout_loadFailure hquiet
      cases unshown.symm.trans hshown

/-! ## The report -/

/-- A command that wrote a report on the model of the environment and ended well. -/
def Reports (s : Session) (r : Result) : Prop :=
  ∃ p state report, ((Model.resolvePath none).perform s).1 = .ok p ∧
    Json.member? "model" report = some state ∧ Report.Tells s p state ∧
      r = Result.done (Json.encodeLines 0 report ++ [CodePoint.lineFeed])

theorem run_doctor_of_fails (h : Report.Fails s fault) (around : Surroundings) (input : Text) :
    ((perform around input .doctor).run s).1 = Result.escaped fault := by
  have hcollect := (Report.fails_iff around).mp h
  rcases hrun : (Report.collect around).perform s with ⟨outcome, s'⟩
  rw [hrun] at hcollect
  cases hcollect
  exact congrArg Prod.fst (run_attempt_of_error hrun _)

theorem reports_or_fails (around : Surroundings) (input : Text) (s : Session) :
    Reports s ((perform around input .doctor).run s).1 ∨ ∃ fault, Report.Fails s fault := by
  rcases hrun : (Report.collect around).perform s with ⟨fault | report, s'⟩
  · exact .inr ⟨fault, (Report.fails_iff around).mpr (congrArg Prod.fst hrun)⟩
  · obtain ⟨p, state, hpath, hstate, htells⟩ := Report.exists_tells (congrArg Prod.fst hrun)
    exact .inl ⟨p, state, report, hpath, hstate, htells, congrArg Prod.fst (run_attempt hrun _)⟩

/-- For all files, environments and arguments. A command that detects a language or lists the
languages gets a classifier and goes on with it, or complains about the model and ends with code
two, exactly when nothing breaks the making of the classifier; what breaks it escapes. A complaint
is broken only by brackets in its message that mean something to the console, and a bare message on
one line stands behind the heading as it is. The report is written and tells whether a model that is
there was served, exactly when nothing fails that no handler names, and otherwise this fault
escapes. -/
theorem startup_handled_iff [LawfulConsole] (around : Surroundings) (input : Text) (s : Session) :
    (∀ command model maxChars next, Starts input command model maxChars next →
        let run := (perform around input command).run s
        (GoesOn s model maxChars next run ∨ Complains run.1 ↔
            ∀ escape, ¬Breaks s model maxChars escape) ∧
          (∀ escape, Breaks s model maxChars escape → run.1 = ⟨[], [], 1, some escape⟩) ∧
          (∀ flaw, Breaks s model maxChars (.unshown flaw) → ∃ fault opened,
            (Classifier.build (draft model maxChars)).perform s = (.error fault, opened) ∧
              ¬IsQuiet 0 fault.message) ∧
          ∀ fault opened,
            (Classifier.build (draft model maxChars)).perform s = (.error fault, opened) →
            fault.isReported → IsLine fault.message → IsBare fault.message →
              run.1 = ⟨[], heading ++ CodePoint.ofChar ' ' :: fault.message ++
                [CodePoint.lineFeed], 2, none⟩) ∧
      let r := ((perform around input .doctor).run s).1
      (Reports s r ↔ ∀ fault, ¬Report.Fails s fault) ∧
        ∀ fault, Report.Fails s fault → r = Result.escaped fault := by
  refine ⟨fun command model maxChars next hstarts => ?_, ?_, ?_⟩
  · intro run
    have hrun : run = (withClassifier model maxChars next).run s :=
      congrArg (StateT.run · s) (hstarts.perform_eq around)
    rw [hrun]
    refine ⟨⟨fun h escape hbreaks => ?_, fun h => ?_⟩, fun escape hbreaks => ?_,
      fun flaw hbreaks => hbreaks.exists_loud, ?_⟩
    · rcases h with ⟨c, opened, hmade, -⟩ | hcomplains
      · exact build_ne_ok_of_breaks hbreaks c opened hmade
      · rw [run_of_breaks hbreaks] at hcomplains
        exact not_complains_of_escape hcomplains
    · rcases start_cases s model maxChars next with hgoes | hcomplains | ⟨escape, hbreaks⟩
      · exact .inl hgoes
      · exact .inr hcomplains
      · exact absurd hbreaks (h escape)
    · exact run_of_breaks hbreaks next
    · intro fault opened hfailed hreported hline hbare
      rw [run_withClassifier_of_reported hfailed hreported,
        complain_of_ok (layout_loadFailure hline hbare)]
  · refine ⟨fun h fault hfails => ?_, fun h => ?_⟩
    · obtain ⟨_, _, _, -, -, -, hdone⟩ := h
      have hcode := congrArg Result.code (hdone.symm.trans (run_doctor_of_fails hfails around input))
      cases hcode
    · exact (reports_or_fails around input s).resolve_right fun ⟨fault, hfails⟩ => h fault hfails
  · exact fun fault hfails => run_doctor_of_fails hfails around input

end Commands

section Usual

open scoped Limits.Usual Console.Usual

/-- A session in an empty store, where no user is known. -/
def emptySession : Session := .initial .plain (FileStore.empty ["work"])

theorem missingModel_complained :
    ((perform ⟨.null, .null, []⟩ [] (.labels (some "nope"))).run emptySession).1 =
      ⟨[], "Could not load model: [Errno 2] No such file or directory: 'nope'\n", 2, none⟩ := by
  have hfailed : ∃ opened, (Classifier.build (draft (some "nope") none)).perform
      emptySession = (.error (.file .missing "nope"), opened) := ⟨_, rfl⟩
  obtain ⟨opened, hfailed⟩ := hfailed
  have hline : IsLine (Fault.file .missing "nope").message :=
    Markup.isLine_of_isPrintable (Text.isPrintable_of_ascii (by decide +kernel))
  have hbare : IsBare (Fault.file .missing "nope").message := by
    have hmessage : (Fault.file .missing "nope").message =
        CodePoint.openBracket :: "Errno 2] No such file or directory: 'nope'" := by rfl
    have hcodes : Emoji.codes (Fault.file .missing "nope").message = [] := by rfl
    refine ⟨?_, fun body hbody => ?_⟩
    · rw [hmessage, Markup.isQuiet_cons]
      exact ⟨fun _ => ⟨by rfl, rfl⟩, Markup.isQuiet_of_notMem (by decide) _⟩
    · rw [hcodes] at hbody
      cases hbody
  have hstarts := (startup_handled_iff ⟨.null, .null, []⟩ [] emptySession).1
    _ _ _ _ (.labels (some "nope"))
  exact hstarts.2.2.2 _ opened hfailed rfl hline hbare

/-- A session whose environment names a model in the home of a user who has none. -/
def homelessSession : Session :=
  emptySession.setVariable Model.pathVariable (some "~ghost/model.json")

theorem homeless_ghost (home : Option Text) :
    Path.Homeless Site.plain.users home (.ofText "~ghost/model.json") .noHome := by
  have hghost : Path.ofText "~ghost/model.json" =
      ⟨.relative, [CodePoint.ofChar '~' :: "ghost", "model.json"]⟩ := rfl
  rw [hghost]
  exact .unknown ["model.json"] (.inr rfl) nofun

/-- Neither the commands nor the report handle a home that is not there. -/
theorem homelessSession_breaks :
    let run (command : Command) := ((perform ⟨.null, .null, []⟩ [] command).run homelessSession).1
    ¬(∃ c opened, (Classifier.build (draft none none)).perform homelessSession = (.ok c, opened)) ∧
      run (.labels none) = Result.escaped .noHome ∧
      run (.detect (some "end") none none none false) = Result.escaped .noHome ∧
      run .doctor = Result.escaped .noHome := by
  have hbreaks : Breaks homelessSession none none (.fault .noHome) :=
    .fault nofun (.home (by rfl) (homeless_ghost _))
  have hfails : Report.Fails homelessSession .noHome := .home (by rfl) (homeless_ghost _)
  refine ⟨?_, run_of_breaks hbreaks _, run_of_breaks hbreaks _,
    run_doctor_of_fails hfails _ _⟩
  rintro ⟨c, opened, hmade⟩
  exact build_ne_ok_of_breaks hbreaks c opened hmade

end Usual

end Polyglot.CommandLine
