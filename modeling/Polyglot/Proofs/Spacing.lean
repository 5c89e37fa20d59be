import Polyglot.Proofs.Asset
import Polyglot.Proofs.Seam

/-! # What stands between singles

Singles that are joined by one blank each are found again. Therefore every text has a normal form,
its singles with one blank between neighbours, and two texts have the same tokens exactly when they
have the same normal form. Blanks at the ends, more blanks or other blanks where there are some, and
blanks between signs of two kinds leave the singles as they are, and with them the analysis.
-/

namespace Polyglot

namespace Token

open CodePoint (kind)

variable {a b s t u x : Text} {c : CodePoint}

/-- Holds of a text that may be a single: it is not empty, and it has word signs alone or symbols
alone. -/
def IsSingle (x : Text) : Prop := x ≠ [] ∧ (x.all CodePoint.isWord ∨ x.all CodePoint.isSymbol)

instance : DecidablePred IsSingle := fun x =>
  inferInstanceAs (Decidable (x ≠ [] ∧ (x.all CodePoint.isWord ∨ x.all CodePoint.isSymbol)))

theorem isSingle_iff : IsSingle x ↔ x ≠ [] ∧ ∃ k, k ≠ .blank ∧ ∀ c ∈ x, kind c = k := by
  simp only [IsSingle, List.all_eq_true, ← CodePoint.kind_eq_word_iff,
    ← CodePoint.kind_eq_symbol_iff]
  refine and_congr_right fun _ => ?_
  constructor
  · rintro (hword | hsymbol)
    · exact ⟨.word, by decide, hword⟩
    · exact ⟨.symbol, by decide, hsymbol⟩
  · rintro ⟨k, hk, hkind⟩
    cases k with
    | blank => exact absurd rfl hk
    | word => exact .inl hkind
    | symbol => exact .inr hkind

theorem singles_of_isSingle (hx : IsSingle x) : singles x = [x] := by
  obtain ⟨hne, k, hk, hkind⟩ := isSingle_iff.mp hx
  obtain ⟨c, t, rfl⟩ := List.exists_cons_of_ne_nil hne
  have hc : kind c = k := hkind c List.mem_cons_self
  apply singles_of_signs
  · rw [List.dropWhile_eq_nil_iff]
    intro d hd
    rw [isLike_iff, hc]
    exact hkind d (List.mem_cons_of_mem c hd)
  · rwa [hc]

theorem isSingle_of_mem_singles (hx : x ∈ singles t) : IsSingle x := by
  induction t using run_induction with
  | nil => cases hx
  | cons c t ih =>
      by_cases hblank : kind c = .blank
      · rw [singles_cons_of_blank hblank] at hx
        exact ih hx
      · rw [singles_cons_of_sign hblank] at hx
        rcases List.mem_cons.mp hx with rfl | hx
        · exact isSingle_iff.mpr ⟨List.cons_ne_nil _ _, kind c, hblank, fun _ => kind_of_mem_run⟩
        · exact ih hx

/-! ## Blanks between texts -/

theorem kind_of_mem_blanks (hs : Text.isBlank s) (hc : c ∈ s) : kind c = .blank :=
  CodePoint.kind_eq_blank_iff.mpr (List.all_eq_true.mp hs c hc)

theorem parted_blanks_right (hs : Text.isBlank s) (a : Text) : Parted a s :=
  fun _ _ _ hd => .inr (.inl (kind_of_mem_blanks hs (List.mem_of_mem_head? hd)))

theorem parted_blanks_left (hs : Text.isBlank s) (b : Text) : Parted s b :=
  fun _ hc _ _ => .inl (kind_of_mem_blanks hs (List.mem_of_mem_getLast? hc))

theorem parted_append_blanks (hs : Text.isBlank s) (hne : s ≠ []) (a b : Text) :
    Parted (a ++ s) b := by
  have hparted := parted_blanks_left hs b
  rwa [Parted, ← List.getLast?_append_of_ne_nil a hne] at hparted

/-- Blanks between two texts separate their singles, and nothing is left of them. -/
theorem singles_append_blanks (hs : Text.isBlank s) (hne : s ≠ []) (a b : Text) :
    singles (a ++ s ++ b) = singles a ++ singles b := by
  rw [singles_append_of_parted (parted_append_blanks hs hne a b),
    singles_append_of_parted (parted_blanks_right hs a), singles_eq_nil_iff.mpr hs,
    List.append_nil]

theorem singles_surrounded (hs : Text.isBlank s) (hu : Text.isBlank u) (t : Text) :
    singles (s ++ t ++ u) = singles t := by
  rw [singles_append_of_parted (parted_blanks_right hu _),
    singles_append_of_parted (parted_blanks_left hs t), singles_eq_nil_iff.mpr hs,
    singles_eq_nil_iff.mpr hu, List.nil_append, List.append_nil]

theorem singles_insert_blanks (hs : Text.isBlank s) (hparted : Parted a b) :
    singles (a ++ s ++ b) = singles (a ++ b) := by
  by_cases hne : s = []
  · rw [hne, List.append_nil]
  · rw [singles_append_blanks hs hne, singles_append_of_parted hparted]

/-! ## The normal form of a text -/

theorem join_cons_cons (separator x y : Text) (rest : List Text) :
    Text.join separator (x :: y :: rest) = x ++ separator ++ Text.join separator (y :: rest) := by
  simp [Text.join, List.intersperse_cons_cons]

/-- Joining singles is undone by cutting the text into its singles. -/
theorem singles_join {xs : List Text} (hxs : ∀ x ∈ xs, IsSingle x) :
    singles (Text.join " " xs) = xs := by
  induction xs with
  | nil => rfl
  | cons x rest ih =>
      have hx : singles x = [x] := singles_of_isSingle (hxs x List.mem_cons_self)
      cases rest with
      | nil => simpa [Text.join] using hx
      | cons y rest =>
          have hspace : Text.isBlank " " := by decide
          rw [join_cons_cons, singles_append_blanks hspace (by decide), hx,
            ih fun y hy => hxs y (List.mem_cons_of_mem x hy), List.singleton_append]

/-- The singles of a text with one blank between neighbours. -/
def normal (t : Text) : Text := Text.join " " (singles t)

theorem singles_normal (t : Text) : singles (normal t) = singles t :=
  singles_join fun _ => isSingle_of_mem_singles

theorem tokens_congr (h : singles t = singles u) : tokens t = tokens u := by
  rw [tokens, tokens, h]

/-- The tokens of a text determine its singles: they are in front, and the number of tokens says how
many they are. -/
theorem singles_eq_of_tokens_eq (h : tokens t = tokens u) : singles t = singles u := by
  have hlength := congrArg List.length h
  rw [length_tokens, length_tokens] at hlength
  exact (List.append_inj h (by omega)).1

theorem tokens_eq_iff_normal_eq : tokens t = tokens u ↔ normal t = normal u := by
  constructor
  · intro h
    rw [normal, normal, singles_eq_of_tokens_eq h]
  · intro h
    apply tokens_congr
    rw [← singles_normal t, h, singles_normal]

end Token

namespace Classifier

open Token

theorem analyze_congr {c : Classifier} (hlimit : c.settings.maxInputChars = none) {t u : Text}
    (h : singles t = singles u) : c.analyze t = c.analyze u := by
  have hcut (t : Text) : c.cut t = t := by rw [cut, hlimit]
  rw [analyze, analyze, hcut, hcut, tokens_congr h]

/-- Cutting into singles undoes joining them, so that the normal form of a text has its tokens and
tells it from all texts with other ones. Where the length of a text is not limited, its analysis
does not depend on which blanks stand between singles, at its ends, or at a seam where no single
goes on. -/
theorem analyze_spaced :
    (∀ xs, (∀ x ∈ xs, IsSingle x) → singles (Text.join " " xs) = xs) ∧
      (∀ t, tokens (normal t) = tokens t ∧ normal (normal t) = normal t) ∧
      (∀ t u, tokens t = tokens u ↔ normal t = normal u) ∧
      ∀ c : Classifier, c.settings.maxInputChars = none →
        (∀ a s s' b, Text.isBlank s → s ≠ [] → Text.isBlank s' → s' ≠ [] →
          c.analyze (a ++ s ++ b) = c.analyze (a ++ s' ++ b)) ∧
        (∀ s t s', Text.isBlank s → Text.isBlank s' → c.analyze (s ++ t ++ s') = c.analyze t) ∧
        ∀ a s b, Text.isBlank s → Parted a b → c.analyze (a ++ s ++ b) = c.analyze (a ++ b) := by
  refine ⟨fun _ => singles_join, fun t => ?_, fun _ _ => tokens_eq_iff_normal_eq,
    fun c hlimit => ⟨?_, ?_, ?_⟩⟩
  · have htokens : tokens (normal t) = tokens t := tokens_congr (singles_normal t)
    exact ⟨htokens, tokens_eq_iff_normal_eq.mp htokens⟩
  · intro a s s' b hs hne hs' hne'
    apply analyze_congr hlimit
    rw [singles_append_blanks hs hne, singles_append_blanks hs' hne']
  · intro s t s' hs hs'
    exact analyze_congr hlimit (singles_surrounded hs hs' t)
  · intro a s b hs hparted
    exact analyze_congr hlimit (singles_insert_blanks hs hparted)

open scoped Limits.Usual in
theorem endCall_spaced :
    singles (Text.join " " ["end", "(", "x"]) = ["end", "(", "x"] ∧
      ∃ m, Model.ofJson Model.inMemory Model.smallAsset = .ok m ∧
        (Classifier.mk .standard ⟨m, 0⟩).analyze ("end" ++ "\t\n" ++ "x") =
          (Classifier.mk .standard ⟨m, 0⟩).analyze ("end" ++ " " ++ "x") ∧
        (Classifier.mk .standard ⟨m, 0⟩).analyze (" " ++ "end" ++ "\n") =
          (Classifier.mk .standard ⟨m, 0⟩).analyze "end" ∧
        (Classifier.mk .standard ⟨m, 0⟩).analyze ("end" ++ " " ++ "(x") =
          (Classifier.mk .standard ⟨m, 0⟩).analyze ("end" ++ "(x") := by
  obtain ⟨hjoin, -, -, hanalyze⟩ := analyze_spaced
  obtain ⟨m, hread⟩ : ∃ m, Model.ofJson Model.inMemory Model.smallAsset = .ok m := ⟨_, rfl⟩
  obtain ⟨hreplace, hsurround, hinsert⟩ := hanalyze (.mk .standard ⟨m, 0⟩) rfl
  have hspace : Text.isBlank " " := by decide
  have hfeed : Text.isBlank "\n" := by decide
  have hboth : Text.isBlank "\t\n" := by decide
  refine ⟨hjoin _ (by decide), m, hread, hreplace _ _ _ _ hboth (by decide) hspace (by decide),
    hsurround _ _ _ hspace hfeed, hinsert _ _ _ hspace (by decide)⟩

end Classifier

end Polyglot
