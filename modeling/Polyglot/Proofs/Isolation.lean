import Polyglot.Proofs.Analysis
import Polyglot.Proofs.Asset
import Polyglot.Proofs.Drafting
import Polyglot.Proofs.Session
import Polyglot.Proofs.Settled
import Polyglot.Service.Reply

/-! # The model of the service

A request can tune how much of its text is looked at, and nothing else. The path in its settings is
read, by the code that elsewhere chooses the file of a model, and is then left behind: it makes no
difference to the reply, no file is read for it, and the shelf stays as it is. A path is at fault
only when it cannot be shown; one that came with a body can be, wherever settings may be nested as
deep as bodies.
-/

namespace Polyglot

/-! ## Making a classifier -/

namespace Classifier

variable [Limits]

/-- Makes a classifier with a model that is given, or else with the shared model of its path. -/
def make (own : Option Loaded) (draft : Settings.Draft) : Action Classifier := do
  let settings ← Action.lift draft.settle
  let loaded ← own.elim (Model.shared settings.modelPath) pure
  pure ⟨settings, loaded⟩

/-- A model that is given leaves the session alone, whatever the path is. -/
theorem perform_make_some (loaded : Loaded) (draft : Settings.Draft) (s : Session) :
    (make (some loaded) draft).perform s = (withModel loaded draft, s) := by
  rw [make, Action.perform_bind, Action.perform_lift, withModel]
  cases draft.settle <;> rfl

end Classifier

namespace Settings

/-- What members say apart from the path: the limit that they set, once their version is read. -/
def readTuning (members : List (Text × Json)) : Except Fault (Option ℕ) := do
  let _ ← readVersion (valueAt members "schema_version")
  let limit ← readLimit (valueAt members "max_input_chars")
  pure (limit.map Subtype.val)

/-- A path that can be shown makes no difference to the limit. -/
theorem map_maxInputChars_ofJson [Limits] {members : List (Text × Json)}
    (hshown : Json.obstacle? Limits.reading (valueAt members "model_path") = none) :
    (ofJson false (.object members)).map maxInputChars = readTuning members := by
  obtain ⟨path, hpath⟩ := exists_readPath hshown
  rw [ofJson_eq_assemble, hpath, Outcome.bind_ok, readTuning]
  cases readVersion (valueAt members "schema_version") with
  | error fault => rfl
  | ok version => cases readLimit (valueAt members "max_input_chars") <;> rfl

end Settings

namespace Service

/-! ## The endpoint in a session -/

/-- The classifier of a service with a model. -/
def host (loaded : Loaded) : Classifier := ⟨Settings.standard, loaded⟩

/-- The members of the settings of a query; without settings there are none. -/
def Query.members (q : Query) : List (Text × Json) := q.settings.getD []

/-- Holds of a query whose path can be shown where settings are read. -/
def Query.ShowsPath [Limits] (q : Query) : Prop :=
  Json.obstacle? Limits.reading (Settings.valueAt q.members "model_path") = none

/-- The draft with nothing but the limit of settings. -/
def limitDraft (s : Settings) : Settings.Draft :=
  { Settings.Draft.standard with maxInputChars := s.draft.maxInputChars }

section Endpoint

variable [Limits]

/-- Makes the classifier for a query: settings with members give one of its own, which has the model
of the service and their limit. -/
def attendant (c : Classifier) : Option (List (Text × Json)) → Action Classifier
  | none => pure c
  | some [] => pure c
  | some members => do
    let settings ← Action.lift (Settings.ofJson false (.object members))
    Classifier.make (some c.loaded) (limitDraft settings)

/-- The analysis that a query asks for, in a session. -/
def inspect (c : Classifier) (q : Query) : Action Analysis := do
  let own ← attendant c q.settings
  Action.lift (own.analyze q.text)

/-- Decides in a session what comes of a query. -/
def attend (c : Classifier) (q : Query) : Action Decision :=
  if version < q.version then pure (.refused 400 (versionMessage q.version))
  else
    tryCatch (do return .told (.ofAnalysis (← inspect c q) q.scores)) fun fault =>
      Action.lift (Decision.ofFault fault)

variable (c : Classifier) (s : Session)

theorem settle_limitDraft (settings : Settings) :
    (limitDraft settings).settle = .ok (onlyLimit settings) :=
  Settings.settle_draft (onlyLimit settings)

theorem withModel_limitDraft (loaded : Loaded) (settings : Settings) :
    Classifier.withModel loaded (limitDraft settings) = .ok ⟨onlyLimit settings, loaded⟩ := by
  rw [Classifier.withModel, settle_limitDraft]
  rfl

theorem attendant_cons (m : Text × Json) (members : List (Text × Json)) :
    attendant c (some (m :: members)) = (do
      let settings ← Action.lift (Settings.ofJson false (.object (m :: members)))
      Classifier.make (some c.loaded) (limitDraft settings)) := rfl

theorem classifierFor_cons (m : Text × Json) (members : List (Text × Json)) :
    classifierFor c (some (m :: members)) = (do
      let settings ← Settings.ofJson false (.object (m :: members))
      pure { c with settings := onlyLimit settings }) := rfl

theorem perform_attendant (settings : Option (List (Text × Json))) :
    (attendant c settings).perform s = (classifierFor c settings, s) := by
  rcases settings with _ | _ | ⟨m, members⟩
  · rfl
  · rfl
  · rw [attendant_cons, Action.perform_bind, Action.perform_lift, classifierFor_cons]
    cases Settings.ofJson false (.object (m :: members)) with
    | error fault => rfl
    | ok settings =>
        have hmake := Classifier.perform_make_some c.loaded (limitDraft settings) s
        rw [withModel_limitDraft] at hmake
        exact hmake

theorem perform_inspect (q : Query) : (inspect c q).perform s = (analyze c q, s) := by
  rw [inspect, Action.perform_bind, perform_attendant, analyze]
  cases classifierFor c q.settings <;> rfl

/-- The endpoint leaves the session as it is and needs nothing of it. -/
theorem perform_attend (q : Query) : (attend c q).perform s = (handle c q, s) := by
  rw [attend, handle]
  split
  next => rfl
  next =>
    rw [Action.perform_tryCatch, Action.perform_bind, perform_inspect]
    cases analyze c q <;> rfl

end Endpoint

/-! ## Requests for a classification -/

/-- What the service needs of its front: a query has no settings, or those that its value has under
their key. -/
class LawfulFront [Front] : Prop where
  settings_given : ∀ {value q}, Front.query value = .ok q →
    q.settings = none ∨ ∃ outer members, value = .object outer ∧
      Entries.get? ("config" : Text) outer = some (.object members) ∧ q.settings = some members

section Requests

variable [Limits] [Front] {body : Bytes} {q : Query}

/-- Holds of a body that makes a query. -/
def Carries (body : Bytes) (q : Query) : Prop :=
  ∃ t value, bodyText? body = some t ∧ Json.decode Limits.decoding t = .ok value ∧
    Front.query value = .ok q

/-- Holds of a request that takes a body to the place where texts are classified. -/
structure Posts (r : Request) (body : Bytes) : Prop where
  posted : Text.asciiCapitals r.method = "POST"
  addressed : Front.target r.target = .ok (.ok "/classify")
  encoded : Utf8.encodeError? r.body = none
  body_eq : Utf8.encode r.body = body

/-- The path of settings that came with a body can be shown where settings may be nested as deep as
bodies. -/
theorem Carries.showsPath [LawfulFront] (hroom : Limits.decoding ≤ Limits.reading)
    (h : Carries body q) : q.ShowsPath := by
  obtain ⟨t, value, -, hdecode, hquery⟩ := h
  rcases LawfulFront.settings_given hquery with hnone | ⟨outer, members, rfl, hconfig, hsome⟩
  · rw [Query.ShowsPath, Query.members, hnone]
    exact Json.obstacle?_null _
  · rw [Query.ShowsPath, Query.members, hsome, Option.getD_some, Settings.valueAt]
    cases hpath : Entries.get? ("model_path" : Text) members with
    | none => exact Json.obstacle?_null _
    | some path =>
        -- Surrogates may stand alone in a body, so that nothing is known of its strings.
        have hread := Json.isRead_of_decode Json.yields_any trivial hdecode
        exact (((hread.member hconfig).member hpath).mono hroom).shown

/-- A body that makes a query is answered as this query. -/
theorem Carries.classify_eq (h : Carries body q) (c : Classifier) :
    classify c body = answerQuery c q := by
  obtain ⟨t, value, htext, hdecode, hquery⟩ := h
  have hbody : body ≠ [] := by
    rintro rfl
    cases htext
    cases hdecode
  rw [classify, if_neg (by simpa using hbody), htext]
  dsimp only
  rw [classifyText, hdecode]
  dsimp only
  rw [hquery]

/-- A request is answered as the body that it takes there. -/
theorem Posts.respond_eq {r : Request} (h : Posts r body) (c : Classifier) :
    respond c r = classify c body := by
  rw [respond, h.addressed]
  dsimp only
  rw [h.encoded]
  dsimp only
  rw [respondAt, h.posted, replyAt, if_pos rfl, h.body_eq]
  cases classify c body <;> rfl

end Requests

/-! ## What a request cannot choose -/

/-- Holds of queries that differ at most in the path of their settings and in settings that are not
known. -/
structure Agree (q q' : Query) : Prop where
  version : q.version = q'.version
  text : q.text = q'.text
  scores : q.scores = q'.scores
  settings : ∀ key ∈ Settings.keys, key ≠ "model_path" →
    Entries.get? key q.members = Entries.get? key q'.members

/-- Relates the analysis of a text to what comes of a query for it. -/
inductive Answers (scores : Bool) : Except Fault Analysis → Except Fault Decision → Prop where
  | found (a : Analysis) :
      Answers scores (.ok a) (.ok (.told
        ⟨a.language, a.tokenCount, a.knownCount, if scores then some a.votes else none⟩))
  | empty : Answers scores (.error .emptyInput) (.ok (.refused 400 (Fault.message .emptyInput)))

/-- Settings with the same limit leave the same behind. -/
theorem onlyLimit_congr {s s' : Settings} (h : s.maxInputChars = s'.maxInputChars) :
    onlyLimit s = onlyLimit s' := Settings.ext rfl h rfl

section Isolation

variable [Limits] {loaded : Loaded} {q q' : Query}

theorem classifierFor_host (q : Query) : classifierFor (host loaded) q.settings =
    (Settings.ofJson false (.object q.members)).map fun s => ⟨onlyLimit s, loaded⟩ := by
  rcases hsettings : q.settings with _ | _ | ⟨m, members⟩
  · rw [Query.members, hsettings]
    rfl
  · rw [Query.members, hsettings]
    rfl
  · rw [Query.members, hsettings, classifierFor_cons, Option.getD_some]
    cases Settings.ofJson false (.object (m :: members)) <;> rfl

theorem classifierFor_eq_of_agree (hshown : q.ShowsPath) (hshown' : q'.ShowsPath)
    (h : Agree q q') :
    classifierFor (host loaded) q.settings = classifierFor (host loaded) q'.settings := by
  have hvalue : ∀ key ∈ Settings.keys, key ≠ "model_path" →
      Settings.valueAt q.members key = Settings.valueAt q'.members key := by
    intro key hkey hother
    rw [Settings.valueAt, Settings.valueAt, h.settings key hkey hother]
  have htuning : Settings.readTuning q.members = Settings.readTuning q'.members := by
    rw [Settings.readTuning, Settings.readTuning, hvalue _ (by decide) (by decide),
      hvalue _ (by decide) (by decide)]
  -- Neither path is at fault, so that the limit is all that is left of the settings.
  rw [← Settings.map_maxInputChars_ofJson hshown,
    ← Settings.map_maxInputChars_ofJson hshown'] at htuning
  rw [classifierFor_host, classifierFor_host]
  refine Outcome.map_congr_of_map htuning fun s s' hlimit => ?_
  rw [onlyLimit_congr hlimit]

/-- Whatever a query looks like, a path that can be shown makes no difference. -/
theorem handle_eq_of_agree (hshown : q.ShowsPath) (hshown' : q'.ShowsPath) (h : Agree q q') :
    handle (host loaded) q = handle (host loaded) q' := by
  rw [handle, handle, analyze, analyze, classifierFor_eq_of_agree hshown hshown' h, h.version,
    h.text, h.scores]

/-- A query that is supported and whose settings are accepted is answered with the analysis of the
classifier that has the model of the service and the limit of the settings. -/
theorem exists_tuned {s : Settings} (hversion : q.version ≤ version)
    (haccepted : Settings.ofJson false (.object q.members) = .ok s) :
    ∃ tuned, Classifier.withModel loaded (limitDraft s) = .ok tuned ∧
      Answers q.scores (tuned.analyze q.text) (handle (host loaded) q) := by
  refine ⟨_, withModel_limitDraft loaded s, ?_⟩
  have hanalyze : analyze (host loaded) q =
      Classifier.analyze ⟨onlyLimit s, loaded⟩ q.text := by
    rw [analyze, classifierFor_host, haccepted]
    rfl
  rw [handle, if_neg (not_lt.mpr hversion), hanalyze]
  rcases (Classifier.analyze_outcomes ⟨onlyLimit s, loaded⟩ q.text).2 with hempty | ⟨a, hfound, -⟩
  · rw [hempty]
    exact .empty
  · rw [hfound]
    exact .found a

/-- A body is decoded with more calls in progress than its settings are read with, so that there is
room for any path that came with it. Then the path in the settings of a request makes no difference,
and neither do settings that are not known: of two bodies whose queries differ in nothing else comes
the same, in every session, and no session is changed. Where the version is supported and the
settings are accepted, it is what the model of the service finds out with the limit of the settings.
-/
theorem classify_isolated [Front] [LawfulFront] {body body' : Bytes}
    (hroom : Limits.decoding ≤ Limits.reading) (loaded : Loaded) (hread : Carries body q)
    (hread' : Carries body' q') (hagree : Agree q q') :
    ∃ outcome,
      (∀ s, (attend (host loaded) q).perform s = (outcome, s) ∧
        (attend (host loaded) q').perform s = (outcome, s)) ∧
      classify (host loaded) body = (do (← outcome.mapError .fault).write) ∧
      classify (host loaded) body' = classify (host loaded) body ∧
      (∀ r, Posts r body ∨ Posts r body' → respond (host loaded) r = classify (host loaded) body) ∧
      ∀ settings, q.version ≤ version →
        Settings.ofJson false (.object q.members) = .ok settings →
        ∃ tuned, Classifier.withModel loaded (limitDraft settings) = .ok tuned ∧
          Answers q.scores (tuned.analyze q.text) outcome := by
  have hsame : handle (host loaded) q = handle (host loaded) q' :=
    handle_eq_of_agree (hread.showsPath hroom) (hread'.showsPath hroom) hagree
  have hclassify : classify (host loaded) body' = classify (host loaded) body := by
    rw [hread.classify_eq, hread'.classify_eq, answerQuery, answerQuery, hsame]
  refine ⟨handle (host loaded) q, fun s => ⟨perform_attend _ s q, ?_⟩, hread.classify_eq _,
    hclassify, ?_, fun settings => exists_tuned⟩
  · rw [perform_attend, hsame]
  · rintro r (hpost | hpost)
    · exact hpost.respond_eq _
    · exact (hpost.respond_eq _).trans hclassify

end Isolation

section Usual

open scoped Limits.Usual Front.Usual

/-- The settings of a query are the object under their key, if there is one. -/
theorem settings_of_ofJson {value : Json} {q : Query} (hquery : Query.ofJson value = .ok q) :
    q.settings = none ∨ ∃ outer members, value = .object outer ∧
      Entries.get? ("config" : Text) outer = some (.object members) ∧
      q.settings = some members := by
  cases value with
  | object outer =>
      unfold Query.ofJson at hquery
      dsimp only at hquery
      split at hquery
      next settings _ _ _ hsettings =>
        cases hquery
        unfold readSettings at hsettings
        split at hsettings
        next => exact .inl (Except.ok.inj hsettings).symm
        next => exact .inl (Except.ok.inj hsettings).symm
        next members hconfig =>
          exact .inr ⟨outer, members, rfl, hconfig, (Except.ok.inj hsettings).symm⟩
        next => cases hsettings
      next => cases hquery
  | _ => cases hquery

/-- The front that checks each field of a query obeys the law. -/
scoped instance Front.Usual.lawful : LawfulFront where
  settings_given := settings_of_ofJson

/-- The query with some settings for a text and its scores. -/
def endQuery (settings : List (Text × Json)) : Query := ⟨1, "end", true, some settings⟩

/-- The text of a body that makes this query. -/
def endBody (settings : List (Text × Json)) : Text :=
  Json.encode (.object
    [("text", .text "end"), ("scores", .bool true), ("config", .object settings)])

/-- Settings with a limit. -/
def plainSettings : List (Text × Json) := [("max_input_chars", .text "2")]

/-- Settings with the same limit, a path, and a key that is not known. -/
def temptingSettings : List (Text × Json) :=
  [("model_path", .text "other.json"), ("max_input_chars", .text "2"), ("labels", .null)]

theorem temptingSettings_isolated :
    ∃ m, Model.ofJson Model.inMemory Model.smallAsset = .ok m ∧
      Carries (Utf8.encode (endBody plainSettings)) (endQuery plainSettings) ∧
      Carries (Utf8.encode (endBody temptingSettings)) (endQuery temptingSettings) ∧
      Agree (endQuery temptingSettings) (endQuery plainSettings) ∧
      Posts ⟨"post", "/classify/", endBody temptingSettings⟩
        (Utf8.encode (endBody temptingSettings)) ∧
      respond (host ⟨m, 0⟩) ⟨"post", "/classify/", endBody temptingSettings⟩ =
        classify (host ⟨m, 0⟩) (Utf8.encode (endBody plainSettings)) ∧
      ∃ outcome tuned,
        (∀ s, (attend (host ⟨m, 0⟩) (endQuery temptingSettings)).perform s = (outcome, s)) ∧
        Answers true (Classifier.analyze tuned "end") outcome := by
  obtain ⟨m, hasset⟩ : ∃ m, Model.ofJson Model.inMemory Model.smallAsset = .ok m := ⟨_, rfl⟩
  have hplain : Carries (Utf8.encode (endBody plainSettings)) (endQuery plainSettings) :=
    ⟨endBody plainSettings, _, by decide +kernel, Json.decode_encode (by rfl), by rfl⟩
  have htempting : Carries (Utf8.encode (endBody temptingSettings)) (endQuery temptingSettings) :=
    ⟨endBody temptingSettings, _, by decide +kernel, Json.decode_encode (by rfl), by rfl⟩
  have hagree : Agree (endQuery temptingSettings) (endQuery plainSettings) := by
    refine ⟨rfl, rfl, rfl, fun key hkey hother => ?_⟩
    simp only [Settings.keys, List.mem_cons, List.not_mem_nil, or_false] at hkey
    rcases hkey with rfl | rfl | rfl
    · exact absurd rfl hother
    · rfl
    · rfl
  have hpost : Posts ⟨"post", "/classify/", endBody temptingSettings⟩
      (Utf8.encode (endBody temptingSettings)) :=
    ⟨by decide, by rfl, Option.isNone_iff_eq_none.mp (by decide +kernel), rfl⟩
  obtain ⟨settings, haccepted⟩ : ∃ settings,
      Settings.ofJson false (.object temptingSettings) = .ok settings := ⟨_, rfl⟩
  obtain ⟨outcome, hperform, -, hsame, hrespond, htuned⟩ :=
    classify_isolated (by decide) ⟨m, 0⟩ htempting hplain hagree
  obtain ⟨tuned, -, hanswers⟩ := htuned settings (le_refl _) haccepted
  exact ⟨m, hasset, hplain, htempting, hagree, hpost,
    (hrespond _ (.inl hpost)).trans hsame.symm, outcome, tuned, fun s => (hperform s).1, hanswers⟩

end Usual

end Service

end Polyglot
