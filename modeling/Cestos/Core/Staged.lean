import Mathlib.Data.List.Count
import Mathlib.Tactic.Common

/-!
# Stages told in order

A series has a stage for each day, and the stages go on with the days. What is told on a day is the
key of the stage of that day. Whoever is told no key twice hears of each stage at most once, and of
the stages in their order, however many days are left out.
-/

namespace Cestos.Core

/-! ## Keys of parts -/

section Parts

variable {α : Type} {separator : α} {a a' b b' : List α}

/-- A text is parted at its first separator. -/
theorem parted_first (ha : separator ∉ a) (ha' : separator ∉ a')
    (h : a ++ separator :: b = a' ++ separator :: b') : a = a' ∧ b = b' := by
  induction a generalizing a' with
  | nil =>
      cases a' with
      | nil => exact ⟨rfl, List.tail_eq_of_cons_eq h⟩
      | cons c a' => exact absurd (List.head_eq_of_cons_eq h ▸ List.mem_cons_self) ha'
  | cons c a ih =>
      cases a' with
      | nil => exact absurd (List.head_eq_of_cons_eq h ▸ List.mem_cons_self) ha
      | cons c' a' =>
          obtain ⟨hparts, hrest⟩ := ih (fun hc => ha (List.mem_cons_of_mem c hc))
            (fun hc => ha' (List.mem_cons_of_mem c' hc)) (List.tail_eq_of_cons_eq h)
          exact ⟨congrArg₂ List.cons (List.head_eq_of_cons_eq h) hparts, hrest⟩

/-- A text is parted at its last separator. -/
theorem parted_last (hb : separator ∉ b) (hb' : separator ∉ b')
    (h : a ++ separator :: b = a' ++ separator :: b') : a = a' ∧ b = b' := by
  have hreverse := congrArg List.reverse h
  simp only [List.reverse_append, List.reverse_cons, List.append_assoc, List.singleton_append]
    at hreverse
  obtain ⟨hlast, hfirst⟩ := parted_first (by simpa using hb) (by simpa using hb') hreverse
  exact ⟨List.reverse_inj.1 hfirst, List.reverse_inj.1 hlast⟩

end Parts

/-! ## Series -/

/-- The stages of a series, with their keys and the days on which they are current. -/
structure Series (κ δ σ : Type) [LE δ] where
  key : σ → κ
  rank : σ → Nat
  stageAt : δ → Option σ
  key_injective : Function.Injective key
  rank_injective : Function.Injective rank
  mono : ∀ {day day' stage stage'}, day ≤ day' → stageAt day = some stage →
    stageAt day' = some stage' → rank stage ≤ rank stage'

namespace Series

variable {κ δ σ : Type} [LE δ] (s : Series κ δ σ) {days : List δ} {day : δ} {log keys : List κ}

/-- Each stage is told at most once, and after those before it. -/
def InOrder (log : List κ) : Prop :=
  log.Pairwise fun earlier later => ∀ stage stage', earlier = s.key stage → later = s.key stage' →
    s.rank stage < s.rank stage'

/-- Of the series nothing is told but the stage of the day. -/
def Current (day : δ) (keys : List κ) : Prop :=
  ∀ stage, s.key stage ∈ keys → s.stageAt day = some stage

/-- What has been told on the days: their stages, none after a later one. -/
structure Told (days : List δ) (log : List κ) : Prop where
  current : ∀ stage, s.key stage ∈ log → ∃ day ∈ days, s.stageAt day = some stage
  ordered : log.Pairwise fun earlier later => ∀ stage stage', earlier = s.key stage →
    later = s.key stage' → s.rank stage ≤ s.rank stage'

variable {s}

theorem told_nil : s.Told [] [] := ⟨by simp, .nil⟩

/-- A day that is not before the others adds what is told on it. -/
theorem Told.next (h : s.Told days log) (hlast : ∀ d ∈ days, d ≤ day) (hnow : s.Current day keys)
    (hself : day ≤ day) : s.Told (days ++ [day]) (log ++ keys) where
  current stage hstage := by
    rcases List.mem_append.1 hstage with hold | hnew
    · obtain ⟨d, hd, hday⟩ := h.current stage hold
      exact ⟨d, List.mem_append_left _ hd, hday⟩
    · exact ⟨day, List.mem_append_right _ (List.mem_singleton_self day), hnow stage hnew⟩
  ordered := by
    refine List.pairwise_append.2 ⟨h.ordered, ?_, ?_⟩
    · refine List.pairwise_of_forall_mem_list fun a ha b hb stage stage' hstage hstage' => ?_
      exact s.mono hself (hnow stage (hstage ▸ ha)) (hnow stage' (hstage' ▸ hb))
    · intro a ha b hb stage stage' hstage hstage'
      obtain ⟨d, hd, hday⟩ := h.current stage (hstage ▸ ha)
      exact s.mono (hlast d hd) hday (hnow stage' (hstage' ▸ hb))

/-- What is told beside the series. -/
theorem Told.others (h : s.Told days log) (hother : ∀ stage, s.key stage ∉ keys) :
    s.Told days (log ++ keys) where
  current stage hstage :=
    h.current stage ((List.mem_append.1 hstage).resolve_right (hother stage))
  ordered := by
    refine List.pairwise_append.2 ⟨h.ordered, ?_, ?_⟩
    · exact List.pairwise_of_forall_mem_list fun a ha _ _ stage _ hstage _ =>
        absurd (hstage ▸ ha) (hother stage)
    · exact fun _ _ b hb _ stage' _ hstage' => absurd (hstage' ▸ hb) (hother stage')

/-- No stage is told twice if no key is. -/
theorem Told.inOrder [BEq κ] [LawfulBEq κ] (h : s.Told days log)
    (honce : ∀ stage, log.count (s.key stage) ≤ 1) : s.InOrder log := by
  have hordered := h.ordered
  clear h
  induction log with
  | nil => exact .nil
  | cons key log ih =>
      obtain ⟨hfirst, hrest⟩ := List.pairwise_cons.1 hordered
      have honce' : ∀ stage, log.count (s.key stage) ≤ 1 :=
        fun stage => Nat.le_trans List.count_le_count_cons (honce stage)
      refine List.pairwise_cons.2 ⟨fun later hlater stage stage' hstage hstage' => ?_,
        ih honce' hrest⟩
      refine Nat.lt_of_le_of_ne (hfirst later hlater stage stage' hstage hstage') fun hrank => ?_
      obtain rfl := s.rank_injective hrank
      subst hstage hstage'
      have htwice := honce stage
      rw [List.count_cons_self] at htwice
      exact absurd (List.count_pos_iff.2 hlater) (by omega)

end Series

end Cestos.Core
