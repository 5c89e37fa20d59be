import Polyglot.Classifier
import Polyglot.Proofs.Single

/-! # Where two texts meet

A single goes on from one text to the next exactly when the code points on both sides of the seam
are signs of one kind. At any other seam the singles of the whole are those of the first text,
followed by those of the second. A text that is cut off keeps its singles for this reason, and at
most the last of them is shortened.
-/

namespace Polyglot

namespace Token

open CodePoint (kind)

variable {a b t : Text} {c d : CodePoint}

/-- Holds if no single goes on from a text to the next one: one of them is empty, or a blank stands
at the seam, or the code points on its two sides are of different kinds. -/
def Parted (a b : Text) : Prop :=
  ∀ c ∈ a.getLast?, ∀ d ∈ b.head?, kind c = .blank ∨ kind d = .blank ∨ kind c ≠ kind d

instance : Decidable (Parted a b) :=
  -- Only the code points at the seam are looked at, not all there are.
  @Option.decidableForallMem _ _ (fun _ => @Option.decidableForallMem _ _ inferInstance _) _

theorem not_parted_iff : ¬Parted a b ↔
    ∃ c ∈ a.getLast?, ∃ d ∈ b.head?, kind d = kind c ∧ kind c ≠ .blank := by
  unfold Parted
  push Not
  constructor
  · rintro ⟨c, hc, d, hd, hsign, -, hkind⟩
    exact ⟨c, hc, d, hd, hkind.symm, hsign⟩
  · rintro ⟨c, hc, d, hd, hkind, hsign⟩
    exact ⟨c, hc, d, hd, hsign, hkind ▸ hsign, hkind.symm⟩

/-! ## The last run before a seam -/

theorem isLike_congr (h : kind d = kind c) : isLike d = isLike c := by
  unfold isLike
  rw [h]

theorem singles_dropWhile_of_blank (hblank : kind c = .blank) (t : Text) :
    singles (t.dropWhile (isLike c)) = singles t := by
  cases t with
  | nil => rfl
  | cons d t =>
      by_cases hlike : isLike c d
      · have hd := isLike_iff.mp hlike
        rw [List.dropWhile_cons_of_pos hlike, singles_cons_of_blank (hd.trans hblank),
          isLike_congr hd]
      · rw [List.dropWhile_cons_of_neg hlike]

/-- A run that ends before the seam knows nothing of what follows. -/
theorem exists_singles_append_of_rest (hrest : t.dropWhile (isLike c) ≠ []) :
    ∃ front, singles (c :: t) = front ++ singles (t.dropWhile (isLike c)) ∧
      ∀ b, singles (c :: t ++ b) = front ++ singles (t.dropWhile (isLike c) ++ b) := by
  have hdrop (b : Text) : (t ++ b).dropWhile (isLike c) = t.dropWhile (isLike c) ++ b := by
    rw [List.dropWhile_append, if_neg (by simpa using hrest)]
  have hshort : (t.takeWhile (isLike c)).length ≠ t.length := by
    have hsplit := congrArg List.length (List.takeWhile_append_dropWhile (p := isLike c) (l := t))
    have hpos := List.length_pos_of_ne_nil hrest
    rw [List.length_append] at hsplit
    omega
  have htake (b : Text) : (t ++ b).takeWhile (isLike c) = t.takeWhile (isLike c) := by
    rw [List.takeWhile_append, if_neg hshort]
  by_cases hblank : kind c = .blank
  · refine ⟨[], singles_cons_of_blank hblank, fun b => ?_⟩
    rw [List.cons_append, singles_cons_of_blank hblank, hdrop, List.nil_append]
  · refine ⟨[c :: t.takeWhile (isLike c)], singles_cons_of_sign hblank, fun b => ?_⟩
    rw [List.cons_append, singles_cons_of_sign hblank, hdrop, htake, List.singleton_append]

theorem parted_rest_iff (hrest : t.dropWhile (isLike c) ≠ []) :
    Parted (t.dropWhile (isLike c)) b ↔ Parted (c :: t) b := by
  have hlast : (c :: t).getLast? = (t.dropWhile (isLike c)).getLast? := by
    conv_lhs => rw [run_append c t]
    exact List.getLast?_append_of_ne_nil _ hrest
  rw [Parted, Parted, hlast]

section LastRun

variable (hlast : t.dropWhile (isLike c) = [])
include hlast

theorem kind_of_mem_last (hd : d ∈ (c :: t).getLast?) : kind d = kind c := by
  apply kind_of_mem_run (t := t)
  rw [List.takeWhile_eq_self_iff.mpr (List.dropWhile_eq_nil_iff.mp hlast)]
  exact List.mem_of_mem_getLast? hd

/-- Blanks before the seam are left out. -/
theorem singles_append_of_blanks (hblank : kind c = .blank) (b : Text) :
    singles (c :: t ++ b) = singles b := by
  rw [List.cons_append, singles_cons_of_blank hblank,
    List.dropWhile_append_of_pos (List.dropWhile_eq_nil_iff.mp hlast),
    singles_dropWhile_of_blank hblank]

/-- Signs before the seam go on with what is like them. -/
theorem singles_append_of_signs (hsign : kind c ≠ .blank) (b : Text) :
    singles (c :: t ++ b) =
      (c :: t ++ b.takeWhile (isLike c)) :: singles (b.dropWhile (isLike c)) := by
  have hlike := List.dropWhile_eq_nil_iff.mp hlast
  rw [List.cons_append, singles_cons_of_sign hsign, List.takeWhile_append_of_pos hlike,
    List.dropWhile_append_of_pos hlike, List.cons_append]

theorem singles_of_signs (hsign : kind c ≠ .blank) : singles (c :: t) = [c :: t] := by
  have h := singles_append_of_signs hlast hsign []
  rwa [List.append_nil, List.takeWhile_nil, List.append_nil] at h

end LastRun

/-! ## The two kinds of seams -/

theorem singles_append_of_parted (h : Parted a b) : singles (a ++ b) = singles a ++ singles b := by
  induction a using run_induction with
  | nil => rfl
  | cons c t ih =>
      by_cases hlast : t.dropWhile (isLike c) = []
      · by_cases hblank : kind c = .blank
        · have hnone := singles_append_of_blanks hlast hblank []
          rw [List.append_nil] at hnone
          rw [singles_append_of_blanks hlast hblank, hnone]
          rfl
        · -- The run before the seam is the last single, since what follows is not like it.
          have hunlike : ∀ d ∈ b.head?, ¬isLike c d := by
            intro d hd hlike
            have hkind : kind d = kind c := isLike_iff.mp hlike
            have hend := List.getLast?_eq_some_getLast (List.cons_ne_nil c t)
            have hpart := h _ hend d hd
            rw [kind_of_mem_last hlast hend, hkind] at hpart
            simp [hblank] at hpart
          rw [singles_append_of_signs hlast hblank, singles_of_signs hlast hblank,
            List.singleton_append]
          cases b with
          | nil => simp
          | cons d u =>
              have hd := hunlike d rfl
              rw [List.takeWhile_cons_of_neg hd, List.dropWhile_cons_of_neg hd, List.append_nil]
      · obtain ⟨front, hself, hfront⟩ := exists_singles_append_of_rest hlast
        rw [hfront, hself, ih ((parted_rest_iff hlast).mpr h), List.append_assoc]

/-- At a seam between signs of one kind the single before it and the single behind it are one. -/
theorem singles_append_of_not_parted (h : ¬Parted a b) :
    ∃ before x y after, singles a = before ++ [x] ∧ singles b = y :: after ∧
      singles (a ++ b) = before ++ (x ++ y) :: after := by
  induction a using run_induction with
  | nil => simp [Parted] at h
  | cons c t ih =>
      by_cases hlast : t.dropWhile (isLike c) = []
      · obtain ⟨e, he, d, hd, hkind, hsign⟩ := not_parted_iff.mp h
        rw [kind_of_mem_last hlast he] at hkind hsign
        obtain ⟨u, rfl⟩ : ∃ u, b = d :: u := ⟨b.tail, (List.cons_head?_tail hd).symm⟩
        refine ⟨[], c :: t, d :: u.takeWhile (isLike d), singles (u.dropWhile (isLike d)),
          singles_of_signs hlast hsign, singles_cons_of_sign (hkind ▸ hsign), ?_⟩
        have hlike : isLike c d := isLike_iff.mpr hkind
        rw [singles_append_of_signs hlast hsign, List.takeWhile_cons_of_pos hlike,
          List.dropWhile_cons_of_pos hlike, isLike_congr hkind, List.nil_append]
      · obtain ⟨front, hself, hfront⟩ := exists_singles_append_of_rest hlast
        obtain ⟨before, x, y, after, ha, hb, hwhole⟩ := ih (mt (parted_rest_iff hlast).mp h)
        refine ⟨front ++ before, x, y, after, ?_, hb, ?_⟩
        · rw [hself, ha, List.append_assoc]
        · rw [hfront, hwhole, List.append_assoc]

/-! ## Texts that are cut off -/

theorem ne_nil_of_mem_singles {x : Text} (hx : x ∈ singles t) : x ≠ [] := by
  rintro rfl
  exact List.nil_notMem_splitBy _ _ (List.mem_of_mem_filter hx)

/-- Holds of the singles of a text that was cut off, beside those of the whole text: each one is
found at its place in the whole, where only the last one may be longer. -/
def IsCutOff (part whole : List Text) : Prop :=
  ∀ i x, part[i]? = some x →
    x ≠ [] ∧ ∃ y, whole[i]? = some y ∧ x <+: y ∧ (i + 1 < part.length → x = y)

theorem isCutOff_of_parted (h : Parted a b) : IsCutOff (singles a) (singles (a ++ b)) := by
  intro i x hx
  obtain ⟨hlt, -⟩ := List.getElem?_eq_some_iff.mp hx
  refine ⟨ne_nil_of_mem_singles (List.mem_of_getElem? hx), x, ?_, List.prefix_rfl, fun _ => rfl⟩
  rw [singles_append_of_parted h, List.getElem?_append_left hlt, hx]

theorem isCutOff_of_not_parted (h : ¬Parted a b) : IsCutOff (singles a) (singles (a ++ b)) := by
  obtain ⟨before, x, y, after, ha, -, hwhole⟩ := singles_append_of_not_parted h
  intro i z hz
  refine ⟨ne_nil_of_mem_singles (List.mem_of_getElem? hz), ?_⟩
  rw [ha] at hz ⊢
  rw [hwhole]
  rcases Nat.lt_or_ge i before.length with hlt | hge
  · rw [List.getElem?_append_left hlt] at hz ⊢
    exact ⟨z, hz, List.prefix_rfl, fun _ => rfl⟩
  · -- The place behind the others is that of the shortened single.
    obtain ⟨hlt, -⟩ := List.getElem?_eq_some_iff.mp hz
    rw [List.length_append, List.length_singleton] at hlt
    obtain rfl : i = before.length := by omega
    rw [List.getElem?_concat_length, Option.some.injEq] at hz
    subst hz
    refine ⟨x ++ y, ?_, List.prefix_append x y, fun hmore => ?_⟩
    · simp
    · rw [List.length_append, List.length_singleton] at hmore
      omega

theorem isCutOff_singles_take (n : Nat) (t : Text) : IsCutOff (singles (t.take n)) (singles t) := by
  have hwhole := List.take_append_drop n t
  by_cases h : Parted (t.take n) (t.drop n)
  · have hcut := isCutOff_of_parted h
    rwa [hwhole] at hcut
  · have hcut := isCutOff_of_not_parted h
    rwa [hwhole] at hcut

theorem isCutOff_singles_cut (c : Classifier) (t : Text) :
    IsCutOff (singles (c.cut t)) (singles t) := by
  unfold Classifier.cut
  split
  next =>
    have hall := isCutOff_singles_take t.length t
    rwa [List.take_length] at hall
  next n _ => exact isCutOff_singles_take n t

/-- The singles of two texts as one are those of the first and those of the second, unless the seam
is in the middle of a single, where the last of the first and the first of the second are joined.
Therefore a text that is cut off keeps its singles, apart from the end of the last one. -/
theorem singles_at_seam :
    (∀ a b, Parted a b → singles (a ++ b) = singles a ++ singles b) ∧
      (∀ a b, ¬Parted a b → ∃ before x y after, singles a = before ++ [x] ∧
        singles b = y :: after ∧ singles (a ++ b) = before ++ (x ++ y) :: after) ∧
      (∀ n t, IsCutOff (singles (t.take n)) (singles t)) ∧
      ∀ (c : Classifier) t, IsCutOff (singles (c.cut t)) (singles t) :=
  ⟨fun _ _ => singles_append_of_parted, fun _ _ => singles_append_of_not_parted,
    isCutOff_singles_take, isCutOff_singles_cut⟩

theorem halvedWord_at_seam :
    Parted "x +" "1" ∧ singles ("x +" ++ "1") = singles "x +" ++ singles "1" ∧
      ¬Parted "x =en" "d;" ∧ ∃ before x y after, singles "x =en" = before ++ [x] ∧
        singles "d;" = y :: after ∧ singles ("x =en" ++ "d;") = before ++ (x ++ y) :: after := by
  have hparted : Parted "x +" "1" := by decide
  have hjoined : ¬Parted "x =en" "d;" := by decide
  obtain ⟨happend, hweld, -⟩ := singles_at_seam
  exact ⟨hparted, happend _ _ hparted, hjoined, hweld _ _ hjoined⟩

end Token

end Polyglot
