import Mathlib.Tactic.Common

/-!
# Handlers of requests

A handler returns or raises, and leaves the world as it is then: what was done before an exception
stays done. A handler may clean up after another that raises. A database session is such a world:
what it has flushed is seen by nobody else until it is committed.
-/

namespace Cestos.Core

variable {ω ε α β : Type}

def Handler (ω ε α : Type) : Type := ω → Except ε α × ω

namespace Handler

instance : Monad (Handler ω ε) where
  pure a w := (.ok a, w)
  bind p f w := match p w with
    | (.ok a, w) => f a w
    | (.error e, w) => (.error e, w)

/-- What is read from the world, or raised. -/
def reads (f : ω → Except ε α) : Handler ω ε α := fun w => (f w, w)

def writes (f : ω → ω) : Handler ω ε Unit := fun w => (.ok (), f w)

/-- An exception is raised again after the clean-up. -/
def cleaning (clean : ω → ω) (p : Handler ω ε α) : Handler ω ε α := fun w =>
  match p w with
  | (.ok a, w) => (.ok a, w)
  | (.error e, w) => (.error e, clean w)

/-- What holds of the world in the end, whether the handler has returned or raised. -/
def Leaves (p : Handler ω ε α) (w : ω) (ok : α → ω → Prop) (raised : ω → Prop) : Prop :=
  match p w with
  | (.ok a, w) => ok a w
  | (.error _, w) => raised w

variable {p : Handler ω ε α} {f : α → Handler ω ε β} {w : ω} {ok : α → ω → Prop}
  {okb : β → ω → Prop} {raised : ω → Prop}

theorem leaves_pure {a : α} : (pure a : Handler ω ε α).Leaves w ok raised ↔ ok a w := Iff.rfl

theorem leaves_bind : (p >>= f).Leaves w okb raised ↔
    p.Leaves w (fun a w => (f a).Leaves w okb raised) raised := by
  show (match (match p w with
      | (.ok a, w) => f a w
      | (.error e, w) => (.error e, w)) with
    | (.ok b, w) => okb b w
    | (.error _, w) => raised w) ↔ _
  unfold Leaves
  generalize p w = run
  obtain ⟨e | a, w⟩ := run <;> rfl

theorem leaves_writes {g : ω → ω} {ok : Unit → ω → Prop} :
    (writes g : Handler ω ε Unit).Leaves w ok raised ↔ ok () (g w) := Iff.rfl

theorem leaves_reads {g : ω → Except ε α} : (reads g).Leaves w ok raised ↔
    match g w with
    | .ok a => ok a w
    | .error _ => raised w := by
  unfold Leaves reads
  cases g w <;> rfl

/-- What is read without an exception, and what is left by one. -/
theorem leaves_of_reads {g : ω → Except ε α} (hok : ∀ a, g w = .ok a → ok a w)
    (hraised : ∀ e, g w = .error e → raised w) : (reads g).Leaves w ok raised := by
  rw [leaves_reads]
  split
  · next a hread => exact hok a hread
  · next e hread => exact hraised e hread

theorem leaves_cleaning {clean : ω → ω} : (cleaning clean p).Leaves w ok raised ↔
    p.Leaves w ok fun w => raised (clean w) := by
  unfold Leaves cleaning
  generalize p w = run
  obtain ⟨e | a, w⟩ := run <;> rfl

theorem Leaves.mono {ok' : α → ω → Prop} {raised' : ω → Prop} (h : p.Leaves w ok raised)
    (hok : ∀ a w, ok a w → ok' a w) (hraised : ∀ w, raised w → raised' w) :
    p.Leaves w ok' raised' := by
  unfold Leaves at h ⊢
  generalize p w = run at h
  obtain ⟨e | a, w'⟩ := run
  · exact hraised w' h
  · exact hok a w' h

/-- The run itself, beside what holds in its end. -/
theorem Leaves.run (h : p.Leaves w ok raised) :
    p.Leaves w (fun a w' => ok a w' ∧ p w = (.ok a, w')) raised := by
  unfold Leaves at h ⊢
  generalize p w = run at h
  obtain ⟨e | a, w'⟩ := run
  · exact h
  · exact ⟨h, rfl⟩

theorem bind_apply_ok {a : α} {w' : ω} (h : p w = (.ok a, w')) : (p >>= f) w = f a w' := by
  show (match p w with
    | (.ok a, w) => f a w
    | (.error e, w) => (.error e, w)) = _
  rw [h]

theorem leaves_bind_ok {a : α} {w' : ω} (h : p w = (.ok a, w')) :
    (p >>= f).Leaves w okb raised ↔ (f a).Leaves w' okb raised := by
  unfold Leaves
  rw [bind_apply_ok h]

/-- What is left whether the handler has returned or raised. -/
theorem leaves_iff {q : ω → Prop} : p.Leaves w (fun _ => q) q ↔ q (p w).2 := by
  unfold Leaves
  generalize p w = run
  obtain ⟨e | a, w⟩ := run <;> rfl

end Handler

/-! ## Sessions of a database -/

/-- What is committed, and what the session has flushed. -/
structure Pending (σ : Type) where
  committed : σ
  flushed : σ

namespace Pending

variable {σ : Type}

/-- A call of a service: what it writes is flushed. -/
def flushes (f : σ → Except ε (α × σ)) : Handler (Pending σ) ε α := do
  let (a, s) ← .reads fun w => f w.flushed
  .writes fun w => { w with flushed := s }
  pure a

def commit : Handler (Pending σ) ε Unit := .writes fun w => { w with committed := w.flushed }

/-- Under a savepoint: what a handler that raises has flushed is rolled back, and the exception is
the result. -/
def savepoint {δ : Type} (p : Handler (Pending σ) ε α) : Handler (Pending σ) δ (Except ε α) :=
  fun w => match p w with
  | (.ok a, w') => (.ok (.ok a), w')
  | (.error e, w') => (.ok (.error e), { w' with flushed := w.flushed })

/-- Under a savepoint that is rolled back in any case. -/
def undone (p : Handler (Pending σ) ε α) : Handler (Pending σ) ε α :=
  fun w => match p w with
  | (result, w') => (result, { w' with flushed := w.flushed })

def rollback (w : Pending σ) : Pending σ := { w with flushed := w.committed }

variable {ok : α → Pending σ → Prop} {raised : Pending σ → Prop}

theorem leaves_flushes {f : σ → Except ε (α × σ)} {w : Pending σ}
    (hok : ∀ a s, f w.flushed = .ok (a, s) → ok a ⟨w.committed, s⟩) (hraised : raised w) :
    (flushes f).Leaves w ok raised := by
  unfold flushes
  rw [Handler.leaves_bind]
  exact Handler.leaves_of_reads (fun (a, s) hread => hok a s hread) fun _ _ => hraised

theorem flushes_ok {f : σ → Except ε (α × σ)} {w : Pending σ} {a : α} {s : σ}
    (h : f w.flushed = .ok (a, s)) : flushes f w = (.ok a, ⟨w.committed, s⟩) := by
  have hread : (Handler.reads fun w : Pending σ => f w.flushed) w = (.ok (a, s), w) :=
    congrArg (·, w) h
  rw [flushes, Handler.bind_apply_ok hread]
  rfl

theorem leaves_savepoint {δ : Type} {p : Handler (Pending σ) ε α} {w : Pending σ}
    {ok : Except ε α → Pending σ → Prop}
    (h : p.Leaves w (fun a w' => ok (.ok a) w') fun w' => ∀ e, ok (.error e) ⟨w'.committed, w.flushed⟩) :
    (savepoint p : Handler (Pending σ) δ (Except ε α)).Leaves w ok raised := by
  unfold Handler.Leaves at h
  unfold Handler.Leaves savepoint
  generalize p w = run at h
  obtain ⟨e | a, w'⟩ := run
  · exact h e
  · exact h

theorem leaves_undone {p : Handler (Pending σ) ε α} {w : Pending σ} :
    (undone p).Leaves w ok raised ↔ p.Leaves w (fun a w' => ok a ⟨w'.committed, w.flushed⟩)
      (fun w' => raised ⟨w'.committed, w.flushed⟩) := by
  unfold Handler.Leaves undone
  generalize p w = run
  obtain ⟨e | a, w'⟩ := run <;> rfl

end Pending

end Cestos.Core
