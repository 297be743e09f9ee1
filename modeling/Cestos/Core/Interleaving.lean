import Mathlib.Data.List.Basic
import Mathlib.Logic.Relation
import Cestos.Core.Outcome

/-!
# Requests around a lock

A request begins, waits for a lock and then runs to its end while it holds the lock.
Beginning and running are separate steps, so requests may overtake each other between
them: the shared state is served in the order of the lock, while every request carries
the time at which it began.
-/

namespace Cestos.Core

/-- A shared state behind a lock. -/
structure Service (σ ρ : Type) where
  clock : Nat
  state : σ
  /-- Requests that have begun and do not hold the lock yet. -/
  waiting : List ρ

namespace Service

variable {σ ρ : Type} {began : ρ → Nat} {serve : σ → ρ → σ} {admits : σ → ρ → Prop}

/-- One step of the service; only requests that the state admits get the lock. -/
inductive Step (began : ρ → Nat) (serve : σ → ρ → σ) (admits : σ → ρ → Prop) :
    Service σ ρ → Service σ ρ → Prop
  | tick {clock state waiting} :
      Step began serve admits ⟨clock, state, waiting⟩ ⟨clock + 1, state, waiting⟩
  | begins {clock state waiting} (r : ρ) : began r = clock →
      Step began serve admits ⟨clock, state, waiting⟩ ⟨clock, state, r :: waiting⟩
  | serves {clock state before after} (r : ρ) : admits state r →
      Step began serve admits ⟨clock, state, before ++ r :: after⟩
        ⟨clock, serve state r, before ++ after⟩

/-- The services that some interleaving of requests leads to. -/
def Interleaved (began : ρ → Nat) (serve : σ → ρ → σ) (admits : σ → ρ → Prop) (init : σ) :
    Service σ ρ → Prop :=
  Relation.ReflTransGen (Step began serve admits) ⟨0, init, []⟩

/-- What holds of the first state and is kept by every request that is served holds in
every interleaving. -/
theorem Interleaved.invariant {init : σ} {s : Service σ ρ} {P : σ → Prop}
    (h : Interleaved began serve admits init s) (hinit : P init)
    (hserve : ∀ state r, P state → admits state r → P (serve state r)) : P s.state := by
  induction h with
  | refl => exact hinit
  | tail _ hstep ih =>
      cases hstep with
      | tick => exact ih
      | begins => exact ih
      | serves r hadmits => exact hserve _ r ih hadmits

section Schedules

variable {init state : σ} {clock : Nat} {waiting : List ρ}

theorem Interleaved.wait (h : Interleaved began serve admits init ⟨clock, state, waiting⟩)
    {later : Nat} (hlater : clock ≤ later) :
    Interleaved began serve admits init ⟨later, state, waiting⟩ := by
  induction hlater with
  | refl => exact h
  | step _ ih => exact ih.tail .tick

/-- A request begins at its time and waits. -/
theorem Interleaved.begins (h : Interleaved began serve admits init ⟨clock, state, waiting⟩)
    (r : ρ) (htime : clock ≤ began r) :
    Interleaved began serve admits init ⟨began r, state, r :: waiting⟩ :=
  (h.wait htime).tail (.begins r rfl)

/-- The request that began last overtakes those that wait. -/
theorem Interleaved.serves {r : ρ}
    (h : Interleaved began serve admits init ⟨clock, state, r :: waiting⟩)
    (hadmits : admits state r) :
    Interleaved began serve admits init ⟨clock, serve state r, waiting⟩ :=
  h.tail (@Step.serves σ ρ began serve admits clock state [] waiting r hadmits)

end Schedules

end Service

/-!
## Requests that are applied once

A request has a key, and is applied only where the key has not been used. Retries come with the
key of the first attempt, perhaps with another content. However the requests interleave, what they
have done is what some of them do one after the other, no two of these with the same key.
-/

variable {σ ρ κ ε : Type}

/-- What is served is applied, with a new key, or leaves the state as it is. -/
structure Once (key : ρ → κ) (used : σ → κ → Prop) (apply : σ → ρ → Except ε σ)
    (serve : σ → ρ → σ) : Prop where
  serves : ∀ s r, serve s r = s ∨ ¬ used s (key r) ∧ apply s r = .ok (serve s r)
  uses : ∀ s r s', apply s r = .ok s' → used s' (key r)
  keeps : ∀ s r s' k, apply s r = .ok s' → used s k → used s' k

/-- The state is what `applied` has made of `init`. -/
structure AppliedOnce (key : ρ → κ) (used : σ → κ → Prop) (apply : σ → ρ → Except ε σ)
    (init s : σ) (applied : List ρ) : Prop where
  once : (applied.map key).Nodup
  fresh : ∀ r ∈ applied, ¬ used init (key r)
  effect : applied.foldlM apply init = .ok s

namespace Once

variable {key : ρ → κ} {used : σ → κ → Prop} {apply : σ → ρ → Except ε σ} {serve : σ → ρ → σ}
  {init s s' : σ} {applied : List ρ}

/-- A key stays used. -/
theorem used_foldlM (h : Once key used apply serve) (heffect : applied.foldlM apply s = .ok s')
    {k : κ} (hused : used s k) : used s' k :=
  foldlM_inv (P := fun s => used s k) (fun s r s' _ hk happly => h.keeps s r s' k happly hk) hused
    heffect

theorem used_of_applied (h : Once key used apply serve)
    (heffect : applied.foldlM apply s = .ok s') : ∀ r ∈ applied, used s' (key r) := by
  induction applied generalizing s with
  | nil => simp
  | cons r rest ih =>
      rw [List.foldlM_cons, bind_eq_ok] at heffect
      obtain ⟨m, happly, hrest⟩ := heffect
      exact List.forall_mem_cons.2 ⟨h.used_foldlM hrest (h.uses s r m happly), ih hrest⟩

theorem step (h : Once key used apply serve) (happlied : AppliedOnce key used apply init s applied)
    (r : ρ) : ∃ applied', AppliedOnce key used apply init (serve s r) applied' := by
  rcases h.serves s r with hsame | ⟨hnew, happly⟩
  · exact ⟨applied, by rwa [hsame]⟩
  · refine ⟨applied ++ [r], ?_, ?_, ?_⟩
    · rw [List.map_append, List.map_singleton, List.nodup_append]
      refine ⟨happlied.once, by simp, fun k hk k' hk' heq => ?_⟩
      obtain ⟨r', hr', rfl⟩ := List.mem_map.1 hk
      rw [List.mem_singleton.1 hk'] at heq
      exact hnew (heq ▸ h.used_of_applied happlied.effect r' hr')
    · intro r' hr'
      rcases List.mem_append.1 hr' with hold | hlast
      · exact happlied.fresh r' hold
      · obtain rfl := List.mem_singleton.1 hlast
        exact fun hused => hnew (h.used_foldlM happlied.effect hused)
    · rw [List.foldlM_append, happlied.effect]
      simp [happly]

variable {began : ρ → Nat} {admits : σ → ρ → Prop} {service : Service σ ρ}

theorem interleaved (h : Once key used apply serve)
    (hrun : Service.Interleaved began serve admits init service) :
    ∃ applied, AppliedOnce key used apply init service.state applied :=
  hrun.invariant (P := fun s => ∃ applied, AppliedOnce key used apply init s applied)
    ⟨[], List.nodup_nil, by simp, rfl⟩ fun _ r ⟨_, happlied⟩ _ => h.step happlied r

end Once

end Cestos.Core
