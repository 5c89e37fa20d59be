import Polyglot.Proofs.Settled
import Polyglot.Proofs.Text
import Polyglot.Records.Basic

/-! # Files hold no surrogates

No bytes encode a surrogate, whichever bytes they are: the range of the second byte of an encoding
leaves no number for one. So no row of a file holds a surrogate, and a value that was read from a
row is read back as it is.
-/

namespace Polyglot

namespace Utf8

/-- Holds of an encoding that has begun and that no continuation makes a surrogate of: the bytes
that are still due decide on the lower bits only. -/
@[mk_iff isSafe_iff]
structure Pending.IsSafe (p : Pending) : Prop where
  range : 0x80 ≤ p.low.toNat ∧ p.high.toNat ≤ 0xBF
  last : p.due = 1 → p.value < 0x360 ∨ 0x380 ≤ p.value
  middle : p.due = 2 → p.value < 0xD ∨ 0xE ≤ p.value ∨ p.high.toNat ≤ 0x9F
  first : p.due = 3 → 1 ≤ p.value ∨ 0x90 ≤ p.low.toNat
  due : 1 ≤ p.due ∧ p.due ≤ 3

instance (p : Pending) : Decidable p.IsSafe := decidable_of_iff _ (p.isSafe_iff).symm

/-- Holds of what a first byte begins when no surrogate can come of it. -/
def Start.IsSafe : Start → Prop
  | .whole c => c.isSurrogate = false
  | .opens p => p.IsSafe
  | .refused => True

instance (s : Start) : Decidable s.IsSafe := by
  cases s <;> unfold Start.IsSafe <;> infer_instance

theorem isSafe_start (b : UInt8) : (start b).IsSafe := by
  -- There are few enough bytes to try them all.
  have hall : ∀ n : Fin 256, (start (UInt8.ofNat n.val)).IsSafe := by decide +kernel
  have hb := hall ⟨b.toNat, b.toNat_lt⟩
  rwa [UInt8.ofNat_toNat] at hb

theorem isSurrogate_ofNat {n : ℕ} (h : n < 0xD800 ∨ 0xE000 ≤ n) :
    (CodePoint.ofNat n).isSurrogate = false := by
  rw [CodePoint.ofNat]
  split
  next => exact CodePoint.isSurrogate_eq_false_iff.mpr h
  next => rfl

theorem isSafe_push {p : Pending} {b : UInt8} (hp : p.IsSafe) (hlow : p.low ≤ b)
    (hhigh : b ≤ p.high) :
    if (p.push b).due = 0 then (CodePoint.ofNat (p.push b).value).isSurrogate = false
    else (p.push b).IsSafe := by
  obtain ⟨range, last, middle, first, due⟩ := hp
  rw [UInt8.le_iff_toNat_le] at hlow hhigh
  have hlowbyte : (0x80 : UInt8).toNat = 0x80 := rfl
  have hhighbyte : (0xBF : UInt8).toNat = 0xBF := rfl
  have hdue : (p.push b).due = p.due - 1 := rfl
  have hvalue : (p.push b).value = p.value * 64 + (b.toNat - 0x80) := rfl
  split
  next hdone =>
    have hlast := last (by omega)
    exact isSurrogate_ofNat (by omega)
  next hmore =>
    refine ⟨⟨hlowbyte.ge, hhighbyte.le⟩, ?_, ?_, ?_, ?_⟩
    · intro hone
      have hmiddle := middle (by omega)
      omega
    · intro htwo
      have hfirst := first (by omega)
      omega
    · intro hthree
      omega
    · omega

/-- What begins with a first byte has no surrogates, if what follows has none. -/
theorem isSurrogate_of_mem_andThen {st : Start} (hst : st.IsSafe) {b : UInt8}
    {decodeRest : Option Pending → List Piece} {c : CodePoint}
    (hrest : ∀ state : Option Pending, (∀ p ∈ state, p.IsSafe) → .scalar c ∈ decodeRest state →
      c.isSurrogate = false)
    (hc : .scalar c ∈ st.andThen b decodeRest) : c.isSurrogate = false := by
  cases st with
  | whole d =>
      rcases List.mem_cons.mp hc with heq | hc
      · cases heq
        exact hst
      · exact hrest none (by simp) hc
  | opens p => exact hrest (some p) (by rintro q ⟨⟩; exact hst) hc
  | refused =>
      rcases List.mem_cons.mp hc with heq | hc
      · cases heq
      · exact hrest none (by simp) hc

/-- No surrogate is decoded, whatever encoding has begun before, as long as none can come of it. -/
theorem isSurrogate_of_mem_piecesFrom {state : Option Pending} {bytes : Bytes}
    (hstate : ∀ p ∈ state, p.IsSafe) {c : CodePoint} (hc : .scalar c ∈ piecesFrom state bytes) :
    c.isSurrogate = false := by
  induction bytes generalizing state with
  | nil => cases state <;> simp [piecesFrom] at hc
  | cons b bytes ih =>
      have hrest (next : Option Pending) (hnext : ∀ p ∈ next, p.IsSafe)
          (hmem : .scalar c ∈ piecesFrom next bytes) : c.isSurrogate = false := ih hnext hmem
      cases state with
      | none => exact isSurrogate_of_mem_andThen (isSafe_start b) hrest hc
      | some p =>
          rw [piecesFrom] at hc
          split at hc
          next hrange =>
            have hpush := isSafe_push (hstate p rfl) hrange.1 hrange.2
            dsimp only at hc
            split at hc
            next hdone =>
              rw [if_pos hdone] at hpush
              rcases List.mem_cons.mp hc with heq | hc
              · rw [Piece.scalar.inj heq]
                exact hpush
              · exact ih (by simp) hc
            next hmore =>
              rw [if_neg hmore] at hpush
              exact ih (by rintro q ⟨⟩; exact hpush) hc
          next =>
            -- The encoding is broken off, and the byte begins another one.
            rcases List.mem_cons.mp hc with heq | hc
            · cases heq
            · exact isSurrogate_of_mem_andThen (isSafe_start b) hrest hc

theorem mem_of_scalars {position : ℕ} {ps : List Piece} {t : Text} (h : scalars position ps = .ok t)
    {c : CodePoint} (hc : c ∈ t) : .scalar c ∈ ps := by
  induction ps generalizing position t with
  | nil => cases h; cases hc
  | cons p ps ih =>
      cases p with
      | scalar d =>
          obtain ⟨u, hu, rfl⟩ := Outcome.map_eq_ok.mp h
          rcases List.mem_cons.mp hc with rfl | hc
          · exact List.mem_cons_self
          · exact List.mem_cons_of_mem _ (ih hu hc)
      | broken => cases h

/-- No surrogate is encoded. -/
theorem isScalar_decode {bytes : Bytes} {t : Text} (h : decode bytes = .ok t) : Json.IsScalar t :=
  fun _ hc => isSurrogate_of_mem_piecesFrom (by simp) (mem_of_scalars h hc)

end Utf8

namespace Records

theorem isScalar_of_mem_rows {t : Text} (ht : Json.IsScalar t) {row : Row}
    (hrow : row ∈ rows (Text.unifyNewlines t)) : Json.IsScalar row.content := by
  intro c hc
  obtain ⟨⟨line, number⟩, hline, hsome⟩ := List.mem_filterMap.mp hrow
  rw [row?] at hsome
  split at hsome
  next => cases hsome
  next =>
    cases hsome
    have hmem := Text.mem_of_mem_lines (List.fst_mem_of_mem_zipIdx hline) (Text.mem_of_mem_strip hc)
    rcases Text.mem_of_mem_unifyNewlines hmem with rfl | hmem
    · rfl
    · exact ht c hmem

/-- A value that was read from a row of a file is read back as it is. -/
theorem isSettled_of_mem_rows [Limits] {bytes : Bytes} {t : Text}
    (htext : Utf8.decode bytes = .ok t)
    {row : Row} (hrow : row ∈ rows (Text.unifyNewlines t)) {v : Json}
    (hread : Json.decode Limits.decoding row.content = .ok v) :
    Json.IsSettled Limits.decoding v :=
  Json.isSettled_of_decode (isScalar_of_mem_rows (Utf8.isScalar_decode htext) hrow) hread

end Records

end Polyglot
