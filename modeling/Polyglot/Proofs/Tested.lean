import Polyglot.Proofs.Asset
import Polyglot.Proofs.Decision
import Polyglot.Proofs.Walk

/-! # What a decision depends on

A token is tested if a tree asks for its feature. How often each tested token occurs and how many
tokens there are decides the language, the label and the votes. The order of the tokens has no
influence on them, nor has any token that is not tested.
-/

namespace Polyglot

namespace Model

/-- Holds of the tokens whose feature some tree asks for. -/
def Tests (m : Model) (token : Text) : Prop :=
  ∃ id : Nat, m.vocabulary.lookup token = some id ∧ ∃ t ∈ m.forest, t.Asks id

/-- Every feature that a tree asks for belongs to a tested token. -/
theorem exists_tests {m : Model} {t : FloatTree} (ht : t ∈ m.forest) {feature : Int}
    (hasks : t.Asks feature) :
    ∃ (token : Text) (id : Nat), m.Tests token ∧ m.vocabulary.lookup token = some id ∧
      feature = id := by
  obtain ⟨hnonneg, hlt⟩ := Tree.bounds_of_asks (m.fits t ht) hasks
  obtain ⟨id, rfl⟩ := Int.eq_ofNat_of_zero_le hnonneg
  obtain ⟨token, htoken⟩ := Vocabulary.exists_lookup (Int.ofNat_lt.mp hlt)
  exact ⟨token, id, ⟨id, htoken, t, ht, hasks⟩, htoken, rfl⟩

/-- Two texts reach the same leaves if the entries of all tested tokens are the same. -/
theorem leaves_congr {m : Model} {ts us : List Text} {f g : Frequency}
    (hf : Frequency.Counts m.vocabulary ts f) (hg : Frequency.Counts m.vocabulary us g)
    (hlevels : ∀ token, m.Tests token →
      Frequency.level ts.length (ts.count token) = Frequency.level us.length (us.count token)) :
    m.leaves f = m.leaves g := by
  apply List.map_congr_left
  intro t ht
  apply Tree.follow_congr
  intro feature hasks
  obtain ⟨token, id, htests, hid, rfl⟩ := exists_tests ht hasks
  have hlt := Vocabulary.lookup_lt hid
  rw [hf.get hlt, hg.get hlt, Frequency.occurrences_eq_count hid,
    Frequency.occurrences_eq_count hid]
  exact hlevels token htests

end Model

namespace Classifier

theorem agrees_of_levels {c : Classifier} {t u : Text} {a b : Analysis}
    (ha : c.analyze t = .ok a) (hb : c.analyze u = .ok b)
    (hlevels : ∀ token, c.model.Tests token →
      Frequency.level (tokens (c.cut t)).length ((tokens (c.cut t)).count token) =
        Frequency.level (tokens (c.cut u)).length ((tokens (c.cut u)).count token)) :
    a.Agrees b := by
  obtain ⟨f, hf, hdecides, -, -⟩ := analyze_eq_ok.mp ha
  obtain ⟨g, hg, hdecides', -, -⟩ := analyze_eq_ok.mp hb
  have hleaves := Model.leaves_congr (Frequency.counts_of_ofTokens hf)
    (Frequency.counts_of_ofTokens hg) hlevels
  rw [hleaves] at hdecides
  exact hdecides.agrees hdecides'

/-- Two texts with tokens are decided alike if they have as many tokens and every tested token
occurs equally often in both, and also if no tested token occurs in either. -/
theorem analyze_agrees_on_tested {c : Classifier} {t u : Text} (ht : tokens (c.cut t) ≠ [])
    (hu : tokens (c.cut u) ≠ []) :
    ∃ a b, c.analyze t = .ok a ∧ c.analyze u = .ok b ∧
      ((tokens (c.cut t)).length = (tokens (c.cut u)).length →
        (∀ token, c.model.Tests token →
          (tokens (c.cut t)).count token = (tokens (c.cut u)).count token) → a.Agrees b) ∧
      ((∀ token, c.model.Tests token → token ∉ tokens (c.cut t) ∧ token ∉ tokens (c.cut u)) →
        a.Agrees b) := by
  obtain ⟨a, ha⟩ := exists_analyze_of_tokens ht
  obtain ⟨b, hb⟩ := exists_analyze_of_tokens hu
  refine ⟨a, b, ha, hb, ?_, ?_⟩
  · intro hlength hcounts
    apply agrees_of_levels ha hb
    intro token htests
    rw [hlength, hcounts token htests]
  · intro hnone
    apply agrees_of_levels ha hb
    intro token htests
    obtain ⟨hleft, hright⟩ := hnone token htests
    rw [List.count_eq_zero.mpr hleft, List.count_eq_zero.mpr hright, Frequency.level_zero,
      Frequency.level_zero]

open scoped Limits.Usual in
theorem smallAsset_agrees_on_tested :
    ∃ m, Model.ofJson Model.inMemory Model.smallAsset = .ok m ∧
      (∃ a b, (Classifier.mk .standard ⟨m, 0⟩).analyze "end x y" = .ok a ∧
        (Classifier.mk .standard ⟨m, 0⟩).analyze "z z end" = .ok b ∧ a.Agrees b) ∧
      ∃ a b, (Classifier.mk .standard ⟨m, 0⟩).analyze "x" = .ok a ∧
        (Classifier.mk .standard ⟨m, 0⟩).analyze "y z" = .ok b ∧ a.Agrees b := by
  obtain ⟨m, hread, hentries⟩ : ∃ m, Model.ofJson Model.inMemory Model.smallAsset = .ok m ∧
      m.vocabulary.entries = [(Text.ofString "end", 0)] := ⟨_, rfl, rfl⟩
  have hcut : ∀ t, (Classifier.mk .standard ⟨m, 0⟩).cut t = t := fun _ => rfl
  have htested : ∀ token, m.Tests token → token = "end" := by
    rintro token ⟨id, hid, -⟩
    rw [Vocabulary.lookup_eq_some, hentries, List.mem_singleton] at hid
    exact (Prod.mk.inj hid).1
  refine ⟨m, hread, ?_, ?_⟩
  · have ht : tokens "end x y" ≠ [] := by decide
    have hu : tokens "z z end" ≠ [] := by decide
    have hlength : (tokens "end x y").length = (tokens "z z end").length := by decide
    have hcount : (tokens "end x y").count (Text.ofString "end") =
        (tokens "z z end").count (Text.ofString "end") := by decide
    rw [← hcut "end x y"] at ht hlength hcount
    rw [← hcut "z z end"] at hu hlength hcount
    obtain ⟨a, b, ha, hb, hagrees, -⟩ := analyze_agrees_on_tested ht hu
    refine ⟨a, b, ha, hb, hagrees hlength ?_⟩
    intro token htests
    rw [htested token htests]
    exact hcount
  · have ht : tokens "x" ≠ [] := by decide
    have hu : tokens "y z" ≠ [] := by decide
    have hnone : Text.ofString "end" ∉ tokens "x" ∧ Text.ofString "end" ∉ tokens "y z" := by
      decide
    rw [← hcut "x"] at ht hnone
    rw [← hcut "y z"] at hu hnone
    obtain ⟨a, b, ha, hb, -, hagrees⟩ := analyze_agrees_on_tested ht hu
    refine ⟨a, b, ha, hb, hagrees ?_⟩
    intro token htests
    rw [htested token htests]
    exact hnone

end Classifier

end Polyglot
