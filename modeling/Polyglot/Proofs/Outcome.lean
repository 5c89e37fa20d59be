import Mathlib.Data.List.Forall2

/-! # Outcomes in sequence

An outcome is a result or a fault, and the first fault of a sequence ends it. Every law here says
what the parts of a sequence did when its outcome is known, so that no later proof opens the
sequencing itself.
-/

namespace Polyglot.Outcome

variable {ε δ α β : Type}

@[simp] theorem pure_eq_ok (a : α) : (pure a : Except ε α) = .ok a := rfl

@[simp] theorem bind_ok (a : α) (f : α → Except ε β) : (Except.ok a >>= f) = f a := rfl

@[simp] theorem bind_error (e : ε) (f : α → Except ε β) :
    (Except.error e >>= f) = .error e := rfl

theorem bind_eq_ok {x : Except ε α} {f : α → Except ε β} {b : β} :
    x >>= f = .ok b ↔ ∃ a, x = .ok a ∧ f a = .ok b := by
  cases x <;> simp

theorem bind_eq_error {x : Except ε α} {f : α → Except ε β} {e : ε} :
    x >>= f = .error e ↔ x = .error e ∨ ∃ a, x = .ok a ∧ f a = .error e := by
  cases x <;> simp

@[simp] theorem mapError_eq_ok {x : Except ε α} {g : ε → δ} {a : α} :
    x.mapError g = .ok a ↔ x = .ok a := by
  cases x <;> simp [Except.mapError]

@[simp] theorem mapError_eq_error {x : Except ε α} {g : ε → δ} {d : δ} :
    x.mapError g = .error d ↔ ∃ e, x = .error e ∧ g e = d := by
  cases x <;> simp [Except.mapError]

@[simp] theorem map_eq_ok {x : Except ε α} {f : α → β} {b : β} :
    x.map f = .ok b ↔ ∃ a, x = .ok a ∧ f a = b := by
  cases x <;> simp [Except.map]

@[simp] theorem map_eq_error {x : Except ε α} {f : α → β} {e : ε} :
    x.map f = .error e ↔ x = .error e := by
  cases x <;> simp [Except.map]

/-- What is told of two results alike can be found out from them alike. -/
theorem map_congr_of_map {γ : Type} {x y : Except ε α} {f : α → β} {g : α → γ}
    (hsame : x.map f = y.map f) (hg : ∀ a b, f a = f b → g a = g b) : x.map g = y.map g := by
  cases x with
  | error e =>
      cases y with
      | error e' => exact congrArg Except.error (Except.error.inj hsame)
      | ok b => cases hsame
  | ok a =>
      cases y with
      | error e' => cases hsame
      | ok b => exact congrArg Except.ok (hg a b (Except.ok.inj hsame))

/-- Handling a list gives results exactly when every item gives its own. -/
theorem mapM_eq_ok {f : α → Except ε β} {xs : List α} {ys : List β} :
    xs.mapM f = .ok ys ↔ List.Forall₂ (fun x y => f x = .ok y) xs ys := by
  induction xs generalizing ys with
  | nil => cases ys <;> simp
  | cons x xs ih =>
      rw [List.mapM_cons, bind_eq_ok]
      constructor
      · rintro ⟨y, hhead, hrest⟩
        obtain ⟨rest, htail, hys⟩ := bind_eq_ok.mp hrest
        cases hys
        exact .cons hhead (ih.mp htail)
      · intro h
        cases h with
        | cons hhead htail => exact ⟨_, hhead, by simp [ih.mpr htail]⟩

/-- Handling a list ends at the first item that is at fault. -/
theorem mapM_eq_error {f : α → Except ε β} {xs : List α} {e : ε} :
    xs.mapM f = .error e ↔
      ∃ before x after, xs = before ++ x :: after ∧
        (∀ y ∈ before, ∃ b, f y = .ok b) ∧ f x = .error e := by
  induction xs with
  | nil => simp
  | cons x xs ih =>
      rw [List.mapM_cons, bind_eq_error]
      constructor
      · rintro (hhead | ⟨b, hhead, hrest⟩)
        · exact ⟨[], x, xs, rfl, by simp, hhead⟩
        · rcases bind_eq_error.mp hrest with htail | ⟨_, _, hnever⟩
          · obtain ⟨before, y, after, rfl, hbefore, hy⟩ := ih.mp htail
            exact ⟨x :: before, y, after, rfl, by simpa using ⟨⟨b, hhead⟩, hbefore⟩, hy⟩
          · cases hnever
      · rintro ⟨before, y, after, hsplit, hbefore, hy⟩
        cases before with
        | nil =>
            obtain ⟨rfl, rfl⟩ := List.cons.inj hsplit
            exact .inl hy
        | cons first before =>
            obtain ⟨rfl, rfl⟩ := List.cons.inj hsplit
            obtain ⟨b, hb⟩ := hbefore x List.mem_cons_self
            have htail : (before ++ y :: after).mapM f = .error e :=
              ih.mpr ⟨before, y, after, rfl,
                fun z hz => hbefore z (List.mem_cons_of_mem _ hz), hy⟩
            exact .inr ⟨b, hb, bind_eq_error.mpr (.inl htail)⟩

/-- Where every item gives a result, handling the list gives one. -/
theorem exists_mapM {f : α → Except ε β} {xs : List α} (h : ∀ x ∈ xs, ∃ y, f x = .ok y) :
    ∃ ys, xs.mapM f = .ok ys := by
  cases hmap : xs.mapM f with
  | ok ys => exact ⟨ys, rfl⟩
  | error e =>
      obtain ⟨before, x, after, rfl, _, hx⟩ := mapM_eq_error.mp hmap
      obtain ⟨y, hy⟩ := h x (by simp)
      cases hx.symm.trans hy

/-- Going through numbered items ends at the first one that is at fault after those before it. -/
theorem foldlM_zipIdx_eq_error {f : α → β × ℕ → Except ε α} {xs : List β} {i : ℕ} {a : α} {e : ε} :
    (xs.zipIdx i).foldlM f a = .error e ↔
      ∃ before x after b, xs = before ++ x :: after ∧
        (before.zipIdx i).foldlM f a = .ok b ∧ f b (x, i + before.length) = .error e := by
  induction xs generalizing i a with
  | nil => simp
  | cons x xs ih =>
      rw [List.zipIdx_cons, List.foldlM_cons, bind_eq_error]
      constructor
      · rintro (hhead | ⟨b, hhead, hrest⟩)
        · exact ⟨[], x, xs, a, rfl, rfl, hhead⟩
        · obtain ⟨before, y, after, c, rfl, hbefore, hy⟩ := ih.mp hrest
          refine ⟨x :: before, y, after, c, rfl, ?_, ?_⟩
          · rwa [List.zipIdx_cons, List.foldlM_cons, hhead]
          · rwa [List.length_cons, Nat.add_comm before.length, ← Nat.add_assoc]
      · rintro ⟨before, y, after, c, hsplit, hbefore, hy⟩
        cases before with
        | nil =>
            cases hsplit
            cases hbefore
            exact .inl hy
        | cons first before =>
            cases hsplit
            rw [List.zipIdx_cons, List.foldlM_cons, bind_eq_ok] at hbefore
            obtain ⟨b, hhead, hrest⟩ := hbefore
            rw [List.length_cons, Nat.add_comm before.length, ← Nat.add_assoc] at hy
            exact .inr ⟨b, hhead, ih.mpr ⟨before, y, after, c, rfl, hrest, hy⟩⟩

end Polyglot.Outcome
