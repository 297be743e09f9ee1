import Mathlib.Algebra.BigOperators.Group.List.Basic
import Mathlib.Algebra.Order.Group.Defs
import Mathlib.Data.Finset.Max
import Mathlib.Data.List.Dedup
import Mathlib.Data.List.Pairwise
import Mathlib.Tactic.Abel

/-!
# Bands that tile a range

Half-open bands `[lo i, hi i)` inside a range `[from, to)`. They tile the range when no two
of them overlap, one starts where the range starts, and each that ends inside the range
ends where another one starts. That is the case exactly when every point of the range is in
exactly one of them.
-/

namespace Cestos.Core

variable {ι α : Type} [LinearOrder α] {lo hi : ι → α} {l : List ι} {start stop : α}

/-- Bands of positive length inside a range. -/
def Within (lo hi : ι → α) (l : List ι) (start stop : α) : Prop :=
  ∀ i ∈ l, start ≤ lo i ∧ lo i < hi i ∧ hi i ≤ stop

structure Tiles (lo hi : ι → α) (l : List ι) (start stop : α) : Prop where
  apart : l.Pairwise fun i j => hi i ≤ lo j ∨ hi j ≤ lo i
  reach : start < stop → ∃ i ∈ l, lo i = start
  next : ∀ i ∈ l, hi i < stop → ∃ j ∈ l, lo j = hi i

instance (lo hi : ι → α) (l : List ι) (start stop : α) : Decidable (Tiles lo hi l start stop) :=
  decidable_of_iff (l.Pairwise (fun i j => hi i ≤ lo j ∨ hi j ≤ lo i) ∧
      (start < stop → ∃ i ∈ l, lo i = start) ∧ ∀ i ∈ l, hi i < stop → ∃ j ∈ l, lo j = hi i)
    ⟨fun h => ⟨h.1, h.2.1, h.2.2⟩, fun h => ⟨h.apart, h.reach, h.next⟩⟩

/-- How many of the bands a point is in. -/
def coverage (lo hi : ι → α) (l : List ι) (x : α) : Nat :=
  l.countP fun i => lo i ≤ x ∧ x < hi i

theorem coverage_pos {x : α} : 0 < coverage lo hi l x ↔ ∃ i ∈ l, lo i ≤ x ∧ x < hi i := by
  simp [coverage, List.countP_pos_iff]

theorem coverage_le_one (h : l.Pairwise fun i j => hi i ≤ lo j ∨ hi j ≤ lo i) (x : α) :
    coverage lo hi l x ≤ 1 := by
  unfold coverage
  induction l with
  | nil => simp
  | cons i l ih =>
      rw [List.pairwise_cons] at h
      by_cases hi' : lo i ≤ x ∧ x < hi i
      · have hrest : l.countP (fun j => lo j ≤ x ∧ x < hi j) = 0 := by
          refine List.countP_eq_zero.2 fun j hj => ?_
          rw [decide_eq_true_eq]
          rintro ⟨hlo, hhi⟩
          rcases h.1 j hj with hle | hle
          · exact absurd (hi'.2.trans_le (hle.trans hlo)) (lt_irrefl x)
          · exact absurd (hhi.trans_le (hle.trans hi'.1)) (lt_irrefl x)
        rw [List.countP_cons, hrest]
        split <;> omega
      · rw [List.countP_cons, if_neg (by simpa using hi'), add_zero]
        exact ih h.2

/-- Two bands that both count at every point they share do not overlap. -/
theorem pairwise_of_coverage (hwithin : Within lo hi l start stop)
    (h : ∀ x, start ≤ x → x < stop → coverage lo hi l x ≤ 1) :
    l.Pairwise fun i j => hi i ≤ lo j ∨ hi j ≤ lo i := by
  refine List.pairwise_iff_forall_sublist.2 fun {i j} hsub => ?_
  have hi' := hwithin i (hsub.subset (by simp))
  have hj := hwithin j (hsub.subset (by simp))
  by_contra hover
  push Not at hover
  have hboth : coverage lo hi [i, j] (max (lo i) (lo j)) = 2 := by
    simp [coverage, hi'.2.1, hj.2.1, hover.1, hover.2]
  have hcount : coverage lo hi [i, j] (max (lo i) (lo j)) ≤
      coverage lo hi l (max (lo i) (lo j)) := hsub.countP_le
  have hone := h (max (lo i) (lo j)) (hi'.1.trans (le_max_left _ _))
    (max_lt (hi'.2.1.trans_le hi'.2.2) (hj.2.1.trans_le hj.2.2))
  omega

namespace Tiles

/-- The last band that starts at or before a point of the range reaches beyond it. -/
theorem exists_covering (h : Tiles lo hi l start stop) (hwithin : Within lo hi l start stop)
    {x : α} (hx : start ≤ x) (hx' : x < stop) : ∃ i ∈ l, lo i ≤ x ∧ x < hi i := by
  have hne : ((l.map lo).toFinset.filter (· ≤ x)).Nonempty := by
    obtain ⟨i, hi', hlo⟩ := h.reach (hx.trans_lt hx')
    refine ⟨lo i, Finset.mem_filter.2 ⟨?_, hlo ▸ hx⟩⟩
    exact List.mem_toFinset.2 (List.mem_map_of_mem hi')
  have hmax := Finset.mem_filter.1 (Finset.max'_mem _ hne)
  obtain ⟨i, hi', hlo⟩ := List.mem_map.1 (List.mem_toFinset.1 hmax.1)
  refine ⟨i, hi', hlo ▸ hmax.2, ?_⟩
  by_contra hend
  rw [not_lt] at hend
  obtain ⟨j, hj, hstart⟩ := h.next i hi' (hend.trans_lt hx')
  have hlater : lo j ≤ lo i := by
    rw [hlo]
    refine Finset.le_max' _ _ (Finset.mem_filter.2 ⟨?_, hstart ▸ hend⟩)
    exact List.mem_toFinset.2 (List.mem_map_of_mem hj)
  exact absurd ((hwithin i hi').2.1.trans_le (hstart ▸ hlater)) (lt_irrefl _)

theorem coverage_eq_one (h : Tiles lo hi l start stop) (hwithin : Within lo hi l start stop)
    {x : α} (hx : start ≤ x) (hx' : x < stop) : coverage lo hi l x = 1 := by
  have hpos := coverage_pos.2 (h.exists_covering hwithin hx hx')
  have hle := coverage_le_one h.apart x
  omega

end Tiles

/-- Bands tile a range exactly when every point of it is in exactly one of them. -/
theorem tiles_iff (hwithin : Within lo hi l start stop) :
    Tiles lo hi l start stop ↔ ∀ x, start ≤ x → x < stop → coverage lo hi l x = 1 := by
  refine ⟨fun h x hx hx' => h.coverage_eq_one hwithin hx hx', fun h => ?_⟩
  have happart := pairwise_of_coverage hwithin fun x hx hx' => (h x hx hx').le
  refine ⟨happart, fun hlt => ?_, fun i hi' hend => ?_⟩
  · obtain ⟨i, hi', hlo, -⟩ := coverage_pos.1 ((h start le_rfl hlt).symm ▸ Nat.one_pos)
    exact ⟨i, hi', le_antisymm hlo (hwithin i hi').1⟩
  · have hin : start ≤ hi i := (hwithin i hi').1.trans (hwithin i hi').2.1.le
    obtain ⟨j, hj, hlo, hhi⟩ := coverage_pos.1 ((h (hi i) hin hend).symm ▸ Nat.one_pos)
    refine ⟨j, hj, le_antisymm hlo ?_⟩
    have hne : i ≠ j := fun heq => absurd (heq ▸ hhi) (lt_irrefl _)
    have hsymm : Std.Symm fun i j => hi i ≤ lo j ∨ hi j ≤ lo i := ⟨fun _ _ h => h.symm⟩
    rcases happart.forall hi' hj hne with hle | hle
    · exact hle
    · exact absurd (hhi.trans_le hle) (not_lt.2 (hwithin i hi').2.1.le)

section Sum

variable [AddCommGroup α]

/-- Bands that tile a range add up to its length. -/
theorem Tiles.sum (h : Tiles lo hi l start stop) (hwithin : Within lo hi l start stop)
    (hle : start ≤ stop) : (l.map fun i => hi i - lo i).sum = stop - start := by
  generalize hn : l.length = n
  induction n generalizing l start with
  | zero =>
      obtain rfl := List.length_eq_zero_iff.1 hn
      rcases hle.lt_or_eq with hlt | rfl
      · obtain ⟨i, hi', -⟩ := h.reach hlt
        cases hi'
      · simp
  | succ n ih =>
      have hlt : start < stop := by
        obtain ⟨i, hi'⟩ := List.exists_mem_of_length_pos (by omega : 0 < l.length)
        obtain ⟨h₁, h₂, h₃⟩ := hwithin i hi'
        exact h₁.trans_lt (h₂.trans_le h₃)
      obtain ⟨i, hi', hlo⟩ := h.reach hlt
      obtain ⟨before, after, rfl⟩ := List.append_of_mem hi'
      have hperm : (before ++ i :: after).Perm (i :: (before ++ after)) := List.perm_middle
      have happart := (hperm.pairwise_iff fun h => h.symm).1 h.apart
      rw [List.pairwise_cons] at happart
      have hmem : ∀ j ∈ before ++ after, j ∈ before ++ i :: after := fun j hj =>
        hperm.mem_iff.2 (List.mem_cons_of_mem i hj)
      have hafter : ∀ j ∈ before ++ after, hi i ≤ lo j := fun j hj => by
        obtain ⟨h₁, h₂, -⟩ := hwithin j (hmem j hj)
        exact (happart.1 j hj).resolve_right fun hle =>
          absurd (h₂.trans_le (hle.trans (hlo.le.trans h₁))) (lt_irrefl _)
      have hnext : ∀ j ∈ before ++ i :: after, hi j < stop → ∃ k ∈ before ++ after, lo k = hi j := by
        intro j hj hend
        obtain ⟨k, hk, hk'⟩ := h.next j hj hend
        refine ⟨k, (List.mem_cons.1 (hperm.mem_iff.1 hk)).resolve_left fun heq => ?_, hk'⟩
        obtain ⟨h₁, h₂, -⟩ := hwithin j hj
        rw [heq, hlo] at hk'
        exact absurd (h₁.trans_lt h₂) (hk' ▸ lt_irrefl _)
      have hrest := ih (l := before ++ after)
        ⟨happart.2, fun hend => hnext i hi' hend, fun j hj => hnext j (hmem j hj)⟩
        (fun j hj => ⟨hafter j hj, (hwithin j (hmem j hj)).2⟩) (hwithin i hi').2.2
        (by simp only [List.length_append, List.length_cons] at hn ⊢; omega)
      rw [(hperm.map _).sum_eq, List.map_cons, List.sum_cons, hrest, hlo]
      abel

end Sum

end Cestos.Core
