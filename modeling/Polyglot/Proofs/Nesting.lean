import Mathlib.Logic.Relation
import Polyglot.Proofs.Encoding
import Polyglot.Source

/-! # Sources in sources

An object hands its reader on to the source that its value is or, when it cannot be asked for it, to
the one that reading it gives. Objects are nested finitely, so each source comes to one last one,
which decides what is read. Reading is refused exactly where an object can neither be asked for its
value nor be read, as long as no method fails. A text without surrogates is therefore read from its
encoding and from its buffers, however deep these are nested.
-/

namespace Polyglot

/-- What calling an attribute comes to; nothing when it cannot be called. -/
def Attribute.call? {α : Type} : Attribute α → Option (Except Fault α)
  | .method outcome => some outcome
  | _ => none

theorem Attribute.call?_eq_none {α : Type} {a : Attribute α} (hgives : ∀ x, a ≠ .method (.ok x))
    (hfails : ∀ fault, a ≠ .method (.error fault)) : a.call? = none := by
  rcases a with _ | _ | (fault | x)
  · rfl
  · rfl
  · exact absurd rfl (hfails fault)
  · exact absurd rfl (hgives x)

namespace Source

variable {source next final : Source} {outcome : Except Fault Text} {s : Text}

/-- What an object comes to when it is asked for its value or, if this cannot be done, when it is
read; nothing when neither can be done. -/
def call? : Source → Option (Except Fault Source)
  | object _ value reading => value.call?.or reading.call?
  | _ => none

theorem read_object (kind : Text) (value reading : Attribute Source) :
    (object kind value reading).read =
      match (object kind value reading).call? with
      | some (.ok next) => next.read
      | some (.error fault) => .error fault
      | none => .error (.unsupportedSource kind) := by
  rcases value with _ | _ | (_ | _)
  case method.ok => rfl
  case method.error => rfl
  -- Without a value, reading decides.
  all_goals
    rcases reading with _ | _ | (_ | _)
    all_goals rfl

/-! ## The last source -/

/-- One source hands its reader on to another. -/
def DelegatesTo (source next : Source) : Prop := source.call? = some (.ok next)

/-- One source comes to another in finitely many steps. -/
def LeadsTo : Source → Source → Prop := Relation.ReflTransGen DelegatesTo

/-- Holds of what reading a source comes to when the source hands its reader on to no other. -/
inductive Ends : Source → Except Fault Text → Prop where
  | text (t : Text) : Ends (.text t) (.ok t)
  | bytes (content : Bytes) : Ends (.bytes content) (.ok (Utf8.decodeLenient content))
  | failed {source : Source} {fault : Fault} (failed : source.call? = some (.error fault)) :
      Ends source (.error fault)
  | unsupported {kind : Text} {value reading : Attribute Source}
      (none_called : (object kind value reading).call? = none) :
      Ends (.object kind value reading) (.error (.unsupportedSource kind))

theorem DelegatesTo.eq (h : source.DelegatesTo next) (h' : source.DelegatesTo final) :
    next = final :=
  Except.ok.inj (Option.some.inj (h.symm.trans h'))

theorem DelegatesTo.read_eq (h : source.DelegatesTo next) : source.read = next.read := by
  rw [DelegatesTo] at h
  cases source with
  | object kind value reading => rw [read_object, h]
  | _ => cases h

theorem LeadsTo.read_eq (h : source.LeadsTo final) : source.read = final.read := by
  induction h with
  | refl => rfl
  | tail _ hstep ih => exact ih.trans hstep.read_eq

theorem Ends.read_eq (h : final.Ends outcome) : final.read = outcome := by
  cases h with
  | text t => rfl
  | bytes content => rfl
  | failed h =>
      cases final with
      | object kind value reading => rw [read_object, h]
      | _ => cases h
  | unsupported h => rw [read_object, h]

theorem Ends.not_delegatesTo (h : final.Ends outcome) : ¬final.DelegatesTo next := by
  rw [DelegatesTo]
  cases h with
  | text t => nofun
  | bytes content => nofun
  | failed h => simp [h]
  | unsupported h => simp [h]

/-- Objects are nested finitely, so there is a last one. -/
theorem exists_ends (source : Source) :
    ∃ final outcome, source.LeadsTo final ∧ final.Ends outcome := by
  fun_induction read source with
  | case1 t => exact ⟨_, _, .refl, .text t⟩
  | case2 content => exact ⟨_, _, .refl, .bytes content⟩
  | case3 kind next reading ih =>
      obtain ⟨final, outcome, hleads, hends⟩ := ih
      exact ⟨final, outcome, .head rfl hleads, hends⟩
  | case4 kind fault reading => exact ⟨_, _, .refl, .failed rfl⟩
  | case5 kind value next hgives hfails ih =>
      have hvalue := Attribute.call?_eq_none hgives hfails
      obtain ⟨final, outcome, hleads, hends⟩ := ih
      exact ⟨final, outcome, .head (by rw [DelegatesTo, call?, hvalue]; rfl) hleads, hends⟩
  | case6 kind value fault hgives hfails =>
      have hvalue := Attribute.call?_eq_none hgives hfails
      exact ⟨_, _, .refl, .failed (by rw [call?, hvalue]; rfl)⟩
  | case7 kind value reading hgives hfails hgives' hfails' =>
      have hvalue := Attribute.call?_eq_none hgives hfails
      have hreading := Attribute.call?_eq_none hgives' hfails'
      exact ⟨_, _, .refl, .unsupported (by rw [call?, hvalue, hreading]; rfl)⟩

/-- What is read is what the last source comes to. -/
theorem read_eq_iff :
    source.read = outcome ↔ ∃ final, source.LeadsTo final ∧ final.Ends outcome := by
  constructor
  · rintro rfl
    obtain ⟨final, outcome, hleads, hends⟩ := exists_ends source
    rw [hleads.read_eq, hends.read_eq]
    exact ⟨final, hleads, hends⟩
  · rintro ⟨final, hleads, hends⟩
    rw [hleads.read_eq, hends.read_eq]

/-- Each source comes to one last source. -/
theorem existsUnique_last (source : Source) :
    ∃! final, source.LeadsTo final ∧ ∀ next, ¬final.DelegatesTo next := by
  obtain ⟨final, outcome, hleads, hends⟩ := exists_ends source
  refine ⟨final, ⟨hleads, fun _ => hends.not_delegatesTo⟩, ?_⟩
  rintro other ⟨hleads', hlast⟩
  have hunique : Relator.RightUnique DelegatesTo := fun _ _ _ => DelegatesTo.eq
  -- Of two sources on the way, one comes after the other.
  rcases Relation.ReflTransGen.total_of_right_unique hunique hleads hleads' with h | h
  · rcases h.cases_head with heq | ⟨next, hstep, -⟩
    · exact heq.symm
    · exact absurd hstep hends.not_delegatesTo
  · rcases h.cases_head with heq | ⟨next, hstep, -⟩
    · exact heq
    · exact absurd hstep (hlast next)

/-! ## Texts in sources -/

/-- Holds of a source that a text can be read from: the text itself, its encoding, a buffer of
either at any position, and what hands its reader on to such a source. -/
inductive Carries (s : Text) : Source → Prop where
  | text : Carries s (.text s)
  | bytes : Carries s (.bytes (Utf8.encode s))
  | textBuffer (position : ℕ) : Carries s (.textBuffer s position)
  | byteBuffer (position : ℕ) : Carries s (.byteBuffer (Utf8.encode s) position)
  | nested {source next : Source} (delegates : source.DelegatesTo next) (carries : Carries s next) :
      Carries s source

theorem Carries.read_eq (h : Carries s source) (hs : Json.IsScalar s) : source.read = .ok s := by
  induction h with
  | text => rfl
  | bytes => rw [read, Utf8.decodeLenient_encode hs]
  | textBuffer position => rfl
  | byteBuffer position => rw [Source.byteBuffer, read, read, Utf8.decodeLenient_encode hs]
  | nested hstep _ ih => rw [hstep.read_eq, ih]

/-- Holds of a source on whose way no method fails. -/
def NeverFails (source : Source) : Prop :=
  ∀ final fault, source.LeadsTo final → final.call? ≠ some (.error fault)

/-- Without a method that fails, reading is refused exactly where the last source is an object that
can neither be asked for its value nor be read. -/
theorem read_eq_error_iff (hsource : source.NeverFails) {fault : Fault} :
    source.read = .error fault ↔ ∃ kind value reading, fault = .unsupportedSource kind ∧
      source.LeadsTo (.object kind value reading) ∧ value.call? = none ∧ reading.call? = none := by
  rw [read_eq_iff]
  constructor
  · rintro ⟨final, hleads, hends⟩
    cases hends with
    | failed h => exact absurd h (hsource final fault hleads)
    | unsupported h => exact ⟨_, _, _, rfl, hleads, Option.or_eq_none_iff.mp h⟩
  · rintro ⟨kind, value, reading, rfl, hleads, hcall⟩
    exact ⟨_, hleads, .unsupported (Option.or_eq_none_iff.mpr hcall)⟩

theorem classifySource_of_read (h : source.read = .ok s) (c : Classifier) :
    c.classifySource source = c.classify s := by
  rw [Classifier.classifySource, h]
  rfl

/-- Every source comes to one last source, which decides what is read; unless a method fails, this
is refused exactly where the last source is an object without a method to call. A text without
surrogates is read from its encoding, from its buffers, and from whatever hands its reader on to
one of these, and has the same outcome there as by itself, whatever the classifier. -/
theorem read_delegates :
    (∀ source : Source, ∃! final, source.LeadsTo final ∧ ∀ next, ¬final.DelegatesTo next) ∧
      (∀ (source : Source) outcome,
        source.read = outcome ↔ ∃ final, source.LeadsTo final ∧ final.Ends outcome) ∧
      (∀ source : Source, source.NeverFails → ∀ fault,
        source.read = .error fault ↔ ∃ kind value reading, fault = .unsupportedSource kind ∧
          source.LeadsTo (.object kind value reading) ∧
          value.call? = none ∧ reading.call? = none) ∧
      ∀ s, Json.IsScalar s → ∀ source, Carries s source →
        source.read = .ok s ∧ ∀ c : Classifier, c.classifySource source = c.classify s := by
  refine ⟨existsUnique_last, fun _ _ => read_eq_iff, fun _ h _ => read_eq_error_iff h, ?_⟩
  intro s hs source hcarries
  have hread := hcarries.read_eq hs
  exact ⟨hread, classifySource_of_read hread⟩

/-- An object that is no source by its value, and that is read from a buffer of two bytes that
encode one letter. -/
def wrappedLetter : Source :=
  .object "Wrapper" .plain (.method (.ok (.byteBuffer (Utf8.encode "é") 1)))

theorem wrappedLetter_delegates :
    wrappedLetter.read = .ok "é" ∧
      ∀ c : Classifier, c.classifySource wrappedLetter = c.classify "é" := by
  have hscalar : Json.IsScalar "é" := by
    intro c hc
    rw [List.mem_singleton.mp hc]
    rfl
  exact read_delegates.2.2.2 "é" hscalar wrappedLetter (.nested rfl (.byteBuffer 1))

example : (Source.value (.list [.text "end"])).read = .error (.unsupportedSource "list") := by rfl

end Source

end Polyglot
