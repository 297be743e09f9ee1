import Mathlib.Data.List.Nodup
import Mathlib.Tactic.Common
import Mathlib.Algebra.BigOperators.Group.List.Basic
import Mathlib.Data.List.Dedup
import Mathlib.Logic.Function.Basic

/-!
# Lists of pairs

A key is looked up by its first pair; in a list with different keys that is its only one.
-/

namespace Cestos.Core

section Pairs

variable {α β γ : Type} [BEq α] [LawfulBEq α] {l : List (α × β)} {a : α} {b : β}

/-- In a list of pairs with different keys a key is looked up by its pair. -/
theorem lookup_eq_some_iff (h : (l.map Prod.fst).Nodup) : l.lookup a = some b ↔ (a, b) ∈ l := by
  induction l with
  | nil => simp
  | cons p l ih =>
      obtain ⟨a', b'⟩ := p
      rw [List.map_cons, List.nodup_cons] at h
      rw [List.lookup_cons]
      by_cases ha : a = a'
      · subst ha
        have hfirst : ∀ c, (a, c) ∉ l := fun c hc => h.1 (List.mem_map.2 ⟨(a, c), hc, rfl⟩)
        simp [hfirst, eq_comm]
      · have hne : (a == a') = false := beq_eq_false_iff_ne.2 ha
        simp [hne, ih h.2, ha]

theorem mem_of_lookup (h : l.lookup a = some b) : (a, b) ∈ l := by
  obtain ⟨before, after, rfl, -⟩ := List.lookup_eq_some_iff.1 h
  simp

theorem isSome_lookup : (l.lookup a).isSome = true ↔ a ∈ l.map Prod.fst := by
  rw [List.lookup_isSome_iff, List.mem_map]
  exact exists_congr fun p => and_congr_right' (beq_iff_eq.trans eq_comm)

theorem lookup_eq_none : l.lookup a = none ↔ a ∉ l.map Prod.fst := by
  rw [← isSome_lookup, Bool.not_eq_true, Option.isSome_eq_false_iff, Option.isNone_iff_eq_none]

omit [BEq α] [LawfulBEq α] in
theorem filterMap_eq_map_filter (p : α × β → Prop) [DecidablePred p] (g : α × β → γ) :
    (l.filterMap fun y => if p y then some (y.1, g y) else none) =
      (l.filter p).map fun y => (y.1, g y) := by
  induction l with
  | nil => rfl
  | cons y l ih => by_cases hp : p y <;> simp [hp, ih]

/-- What is made of the pairs that are kept is looked up by the same keys. -/
theorem lookup_filterMap (hnodup : (l.map Prod.fst).Nodup) (p : α × β → Prop) [DecidablePred p]
    (g : α × β → γ) {x : α × β} (hx : x ∈ l) :
    (l.filterMap fun y => if p y then some (y.1, g y) else none).lookup x.1 =
      if p x then some (g x) else none := by
  rw [filterMap_eq_map_filter]
  have hkeys : (((l.filter p).map fun y => (y.1, g y)).map Prod.fst).Nodup := by
    rw [List.map_map]
    exact hnodup.sublist (List.filter_sublist.map Prod.fst)
  refine Option.ext fun c => ?_
  rw [lookup_eq_some_iff hkeys, Option.ite_none_right_eq_some, Option.some.injEq]
  constructor
  · intro hmem
    obtain ⟨y, hy, heq⟩ := List.mem_map.1 hmem
    obtain ⟨hy, hp⟩ := List.mem_filter.1 hy
    obtain ⟨hkey, rfl⟩ := Prod.mk.inj heq
    obtain rfl := List.inj_on_of_nodup_map hnodup hy hx hkey
    exact ⟨of_decide_eq_true hp, rfl⟩
  · rintro ⟨hp, rfl⟩
    exact List.mem_map.2 ⟨x, List.mem_filter.2 ⟨hx, decide_eq_true hp⟩, rfl⟩

end Pairs

/-!
## Groups and their sums

What a query with `GROUP BY` and a sum returns, and what a loop makes of it that adds amounts up by
their keys.
-/

variable {κ α : Type} [DecidableEq κ] [AddCommMonoid α]

/-- The sum of the amounts of a key. -/
def sumOf (rows : List (κ × α)) (k : κ) : α := ((rows.filter (·.1 = k)).map (·.2)).sum

/-- One row for every key that there is, with its sum. -/
def groupSums (rows : List (κ × α)) : List (κ × α) :=
  (rows.map (·.1)).dedup.map fun k => (k, sumOf rows k)

/-- The loop that adds every amount to what its key has. -/
def addSums (totals : κ → α) (rows : List (κ × α)) : κ → α :=
  rows.foldl (fun totals row => Function.update totals row.1 (totals row.1 + row.2)) totals

@[simp] theorem sumOf_nil (k : κ) : sumOf ([] : List (κ × α)) k = 0 := rfl

theorem sumOf_cons (row : κ × α) (rows : List (κ × α)) (k : κ) :
    sumOf (row :: rows) k = (if row.1 = k then row.2 else 0) + sumOf rows k := by
  unfold sumOf
  by_cases hkey : row.1 = k
  · rw [List.filter_cons_of_pos (by simpa using hkey), if_pos hkey, List.map_cons, List.sum_cons]
  · rw [List.filter_cons_of_neg (by simpa using hkey), if_neg hkey, zero_add]

theorem sumOf_eq_zero {rows : List (κ × α)} {k : κ} (h : k ∉ rows.map (·.1)) :
    sumOf rows k = 0 := by
  have hnone : rows.filter (·.1 = k) = [] := by
    refine List.filter_eq_nil_iff.2 fun row hrow => ?_
    have hkey : row.1 ≠ k := fun hkey => h (hkey ▸ List.mem_map_of_mem hrow)
    simpa using hkey
  rw [sumOf, hnone]
  rfl

theorem addSums_apply (totals : κ → α) (rows : List (κ × α)) (k : κ) :
    addSums totals rows k = totals k + sumOf rows k := by
  induction rows generalizing totals with
  | nil => exact (add_zero _).symm
  | cons row rows ih =>
      rw [addSums, List.foldl_cons]
      refine (ih _).trans ?_
      rw [sumOf_cons, ← add_assoc]
      congr 1
      by_cases hkey : row.1 = k
      · subst hkey
        rw [Function.update_self, if_pos rfl]
      · rw [Function.update_of_ne (Ne.symm hkey), if_neg hkey, add_zero]

/-- Grouping changes no sum. -/
theorem sumOf_groupSums (rows : List (κ × α)) (k : κ) :
    sumOf (groupSums rows) k = sumOf rows k := by
  have hkeys : ∀ {keys : List κ}, keys.Nodup →
      sumOf (keys.map fun k => (k, sumOf rows k)) k = if k ∈ keys then sumOf rows k else 0 := by
    intro keys hnodup
    induction keys with
    | nil => rfl
    | cons first keys ih =>
        obtain ⟨hfirst, hnodup⟩ := List.nodup_cons.1 hnodup
        rw [List.map_cons, sumOf_cons, ih hnodup]
        by_cases hkey : first = k
        · subst hkey
          rw [if_pos rfl, if_neg hfirst, if_pos List.mem_cons_self, add_zero]
        · rw [if_neg hkey, zero_add]
          simp [Ne.symm hkey]
  rw [groupSums, hkeys (List.nodup_dedup _)]
  split
  · rfl
  · next hmem => exact (sumOf_eq_zero fun hkey => hmem (List.mem_dedup.2 hkey)).symm

theorem groupSums_keys (rows : List (κ × α)) :
    (groupSums rows).map Prod.fst = (rows.map (·.1)).dedup :=
  List.map_map.trans (List.map_id' _)

/-- What the groups have for a key, or zero. -/
theorem getD_lookup_groupSums (rows : List (κ × α)) (k : κ) :
    ((groupSums rows).lookup k).getD 0 = sumOf rows k := by
  have hnodup : ((groupSums rows).map Prod.fst).Nodup := by
    rw [groupSums_keys]
    exact List.nodup_dedup _
  by_cases hk : k ∈ rows.map (·.1)
  · have hmem : (k, sumOf rows k) ∈ groupSums rows :=
      List.mem_map.2 ⟨k, List.mem_dedup.2 hk, rfl⟩
    rw [(lookup_eq_some_iff hnodup).2 hmem, Option.getD_some]
  · have hnone : (groupSums rows).lookup k = none := by
      rw [lookup_eq_none, groupSums_keys, List.mem_dedup]
      exact hk
    rw [hnone, Option.getD_none, sumOf_eq_zero hk]

/-- The sums of some keys are the sum over the rows that have one of them. -/
theorem sum_sumOf {keys : List κ} (hnodup : keys.Nodup) (rows : List (κ × α)) :
    (keys.map (sumOf rows)).sum = ((rows.filter (·.1 ∈ keys)).map (·.2)).sum := by
  induction rows with
  | nil =>
      show (keys.map fun _ => (0 : α)).sum = 0
      simp
  | cons row rows ih =>
      have hone : (keys.map fun k => if row.1 = k then row.2 else 0).sum =
          if row.1 ∈ keys then row.2 else 0 := by
        clear ih
        induction keys with
        | nil => rfl
        | cons first keys ih =>
            obtain ⟨hfirst, hnodup⟩ := List.nodup_cons.1 hnodup
            rw [List.map_cons, List.sum_cons, ih hnodup]
            by_cases hkey : row.1 = first
            · rw [if_pos hkey, if_neg (hkey ▸ hfirst), add_zero, if_pos (by simp [hkey])]
            · rw [if_neg hkey, zero_add]
              simp [hkey]
      have hcons : (keys.map (sumOf (row :: rows))).sum =
          (keys.map fun k => if row.1 = k then row.2 else 0).sum + (keys.map (sumOf rows)).sum := by
        rw [← List.sum_map_add]
        exact congrArg List.sum (List.map_congr_left fun k _ => sumOf_cons row rows k)
      rw [hcons, hone, ih]
      by_cases hmem : row.1 ∈ keys
      · rw [List.filter_cons_of_pos (by simpa using hmem), if_pos hmem, List.map_cons,
          List.sum_cons]
      · rw [List.filter_cons_of_neg (by simpa using hmem), if_neg hmem, zero_add]

end Cestos.Core
