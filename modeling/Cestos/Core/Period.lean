import Mathlib.Order.CompletePartialOrder
import Mathlib.Data.Set.Lattice

/-!
# Periods

A period has a first day, and a last one unless it is open. Two periods meet when neither has
ended before the other starts, which is the case exactly when they have a day in common.
-/

namespace Cestos.Core

structure Period (α : Type) [LE α] where
  start : α
  stop : Option α
  le : ∀ last ∈ stop, start ≤ last
  deriving DecidableEq

namespace Period

variable {α : Type} [LinearOrder α] {p q : Period α}

def days (p : Period α) : Set α := {day | p.start ≤ day ∧ ∀ last ∈ p.stop, day ≤ last}

/-- Neither has ended before the other starts. -/
def Meets (p q : Period α) : Prop :=
  (∀ last ∈ p.stop, q.start ≤ last) ∧ ∀ last ∈ q.stop, p.start ≤ last

instance (p q : Period α) : Decidable (p.Meets q) := inferInstanceAs (Decidable (_ ∧ _))

/-- An open period ends. -/
def close (p : Period α) (last : α) (h : p.start ≤ last) : Period α where
  start := p.start
  stop := some last
  le := fun _ hlast => Option.some.inj hlast ▸ h

theorem meets_iff : p.Meets q ↔ ∃ day, day ∈ p.days ∧ day ∈ q.days := by
  constructor
  · rintro ⟨hp, hq⟩
    refine ⟨max p.start q.start, ⟨le_max_left _ _, fun last hlast => ?_⟩,
      ⟨le_max_right _ _, fun last hlast => ?_⟩⟩
    · exact max_le (p.le last hlast) (hp last hlast)
    · exact max_le (hq last hlast) (q.le last hlast)
  · rintro ⟨day, hp, hq⟩
    exact ⟨fun last hlast => hq.1.trans (hp.2 last hlast),
      fun last hlast => hp.1.trans (hq.2 last hlast)⟩

theorem disjoint_days : Disjoint p.days q.days ↔ ¬ p.Meets q := by
  rw [Set.disjoint_left, meets_iff]
  exact ⟨fun h ⟨_, hp, hq⟩ => h hp hq, fun h day hp hq => h ⟨day, hp, hq⟩⟩

theorem days_close {last : α} (h : p.start ≤ last) (hopen : p.stop = none) :
    (p.close last h).days ⊆ p.days := by
  rintro day ⟨hstart, -⟩
  exact ⟨hstart, fun last hlast => absurd (hopen ▸ hlast) (Option.not_mem_none last)⟩

end Period

/-!
## Terms

A term runs from its first day up to the day at which it ends, which is not of it any more. One
without an end is unbounded; one that ends at its first day has no days.
-/

structure Term (α : Type) where
  start : α
  stop : Option α
  deriving DecidableEq

namespace Term

variable {α : Type} [LinearOrder α] {p q : Term α} {day : α}

def days (p : Term α) : Set α := {day | p.start ≤ day ∧ ∀ stop ∈ p.stop, day < stop}

/-- One of them has ended by the time that both have started. -/
def Apart (p q : Term α) : Prop :=
  (∃ stop ∈ p.stop, stop ≤ max p.start q.start) ∨ ∃ stop ∈ q.stop, stop ≤ max p.start q.start

instance (p q : Term α) : Decidable (p.Apart q) :=
  inferInstanceAs (Decidable ((∃ stop ∈ p.stop, _) ∨ ∃ stop ∈ q.stop, _))

/-- An unbounded term ends at the day. -/
def closeAt (p : Term α) (day : α) : Term α := ⟨p.start, p.stop.or (some day)⟩

theorem disjoint_days : Disjoint p.days q.days ↔ p.Apart q := by
  rw [Set.disjoint_left]
  constructor
  · intro h
    have hfirst : ¬ ((∀ stop ∈ p.stop, max p.start q.start < stop) ∧
        ∀ stop ∈ q.stop, max p.start q.start < stop) := by
      rintro ⟨hp, hq⟩
      exact h ⟨le_max_left _ _, hp⟩ ⟨le_max_right _ _, hq⟩
    simp only [not_and_or, not_forall, exists_prop, not_lt] at hfirst
    exact hfirst
  · rintro happart day ⟨hp, hpstop⟩ ⟨hq, hqstop⟩
    have hboth : max p.start q.start ≤ day := max_le hp hq
    rcases happart with ⟨stop, hstop, hle⟩ | ⟨stop, hstop, hle⟩
    · exact absurd (hpstop stop hstop) (not_lt_of_ge (hle.trans hboth))
    · exact absurd (hqstop stop hstop) (not_lt_of_ge (hle.trans hboth))

theorem days_closeAt : (p.closeAt day).days ⊆ p.days := by
  rintro d ⟨hstart, hstop⟩
  exact ⟨hstart, fun stop h => hstop stop (by simp [closeAt, Option.mem_def.1 h])⟩

/-- A new term follows the unbounded ones, which end at its start. -/
theorem pairwise_follow {terms : List (Term α)}
    (h : terms.Pairwise fun p q => Disjoint p.days q.days) (new : Term α) :
    (terms.map (·.closeAt new.start) ++ [new]).Pairwise (fun p q => Disjoint p.days q.days) ↔
      ∀ p ∈ terms, p.stop ≠ none → p.Apart new := by
  have hclosed : (terms.map (·.closeAt new.start)).Pairwise
      fun p q => Disjoint p.days q.days := by
    rw [List.pairwise_map]
    exact h.imp fun hpq => hpq.mono days_closeAt days_closeAt
  have hcross : ∀ p : Term α, (p.closeAt new.start).Apart new ↔ (p.stop ≠ none → p.Apart new) := by
    rintro ⟨start, _ | stop⟩
    · simp [closeAt, Apart]
    · simp [closeAt]
  rw [List.pairwise_append, and_iff_right hclosed, and_iff_right (List.pairwise_singleton _ _)]
  simp only [List.mem_singleton, forall_eq, List.forall_mem_map, disjoint_days, hcross]

end Term

end Cestos.Core
