import Cestos.Core.Outcome

/-!
# Runs of requests

A run takes one step for each request; a request that raises leaves the state as it is. What each
step keeps whose request meets a condition, a run keeps whose requests all meet it.
-/

namespace Cestos.Core

variable {σ α ε : Type}

/-- The state after a request; one that raises leaves it as it is. -/
def settled (serve : σ → α → Except ε σ) (s : σ) (a : α) : σ := (serve s a).toOption.getD s

theorem settled_keeps {serve : σ → α → Except ε σ} {P : σ → Prop} {s : σ} {a : α} (hs : P s)
    (h : ∀ s', serve s a = .ok s' → P s') : P (settled serve s a) := by
  unfold settled
  cases hserve : serve s a with
  | error e => exact hs
  | ok s' => exact h s' hserve

/-- Each request meets the condition in the state that it finds. -/
def Meets (step : σ → α → σ) (cond : σ → α → Prop) : σ → List α → Prop
  | _, [] => True
  | s, a :: rest => cond s a ∧ Meets step cond (step s a) rest

instance Meets.decidable {step : σ → α → σ} {cond : σ → α → Prop}
    [∀ s a, Decidable (cond s a)] : (l : List α) → (s : σ) → Decidable (Meets step cond s l)
  | [], _ => .isTrue trivial
  | a :: rest, s =>
    have : Decidable (Meets step cond (step s a) rest) := Meets.decidable rest (step s a)
    inferInstanceAs (Decidable (cond s a ∧ Meets step cond (step s a) rest))

theorem Meets.keeps {step : σ → α → σ} {cond : σ → α → Prop} {inv : σ → Prop}
    (hstep : ∀ s a, inv s → cond s a → inv (step s a)) {s : σ} {l : List α}
    (h : Meets step cond s l) (hs : inv s) : inv (l.foldl step s) := by
  induction l generalizing s with
  | nil => exact hs
  | cons a rest ih =>
      obtain ⟨hcond, hrest⟩ := h
      exact ih hrest (hstep s a hs hcond)

/-- A loop whose state is what the elements so far make of it. -/
theorem foldl_along {R : List α → σ → Prop} {f : σ → α → σ}
    (keep : ∀ {before s} a, R before s → R (before ++ [a]) (f s a)) {before : List α} {s : σ}
    (hs : R before s) (l : List α) : R (before ++ l) (l.foldl f s) := by
  induction l generalizing before s with
  | nil =>
      rw [List.append_nil]
      exact hs
  | cons a l ih =>
      rw [List.append_cons]
      exact ih (keep a hs)

/-! ### Steps taken again -/

section Absorbs

variable {step : σ → α → σ}

/-- A step counts once, wherever it is taken again. -/
structure Absorbs (step : σ → α → σ) : Prop where
  again : ∀ s a, step (step s a) a = step s a
  between : ∀ s a b, step (step (step s a) b) a = step (step s b) a

theorem Absorbs.after (h : Absorbs step) (s : σ) (a : α) (l : List α) :
    step (l.foldl step (step s a)) a = step (l.foldl step s) a := by
  induction l generalizing s with
  | nil => exact h.again s a
  | cons b l ih =>
      rw [List.foldl_cons, List.foldl_cons, ← ih, h.between, ih]

theorem Absorbs.before {a : α} {l : List α} (h : Absorbs step) (s : σ) (ha : a ∈ l) :
    l.foldl step (step s a) = l.foldl step s := by
  obtain ⟨earlier, later, rfl⟩ := List.append_of_mem ha
  simp only [List.foldl_append, List.foldl_cons, h.after]

/-- A run over elements that a later run goes over too does not count. -/
theorem Absorbs.subset {l l' : List α} (h : Absorbs step) (s : σ) (hl : l' ⊆ l) :
    l.foldl step (l'.foldl step s) = l.foldl step s := by
  induction l' generalizing s with
  | nil => rfl
  | cons a l' ih =>
      rw [List.cons_subset] at hl
      rw [List.foldl_cons, ih _ hl.2, h.before s hl.1]

end Absorbs

/-! ### Two lists, element by element -/

theorem exists_right {β : Type} {R : α → β → Prop} {l : List α} {l' : List β}
    (h : List.Forall₂ R l l') : ∀ a ∈ l, ∃ b ∈ l', R a b := by
  induction h with
  | nil => exact fun _ ha => absurd ha List.not_mem_nil
  | cons hR _ ih =>
      refine List.forall_mem_cons.2 ⟨⟨_, List.mem_cons_self, hR⟩, fun a ha => ?_⟩
      obtain ⟨b, hb, hab⟩ := ih a ha
      exact ⟨b, List.mem_cons_of_mem _ hb, hab⟩

theorem exists_left {β : Type} {R : α → β → Prop} {l : List α} {l' : List β}
    (h : List.Forall₂ R l l') : ∀ b ∈ l', ∃ a ∈ l, R a b :=
  exists_right h.flip

theorem map_eq_of_forall₂ {β γ : Type} {f : α → γ} {g : β → γ} {R : α → β → Prop} {l : List α}
    {l' : List β} (h : List.Forall₂ R l l') (hR : ∀ a b, R a b → g b = f a) :
    l'.map g = l.map f := by
  induction h with
  | nil => rfl
  | cons hab _ ih => rw [List.map_cons, List.map_cons, hR _ _ hab, ih]

end Cestos.Core
