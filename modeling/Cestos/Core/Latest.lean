import Mathlib.Data.List.MinMax

/-!
# The last row

A query for one row in descending order of a key. Which of several rows with the greatest key it
returns is left to the database.
-/

namespace Cestos.Core

section Last

variable {ρ κ : Type} [LinearOrder κ]

structure LatestQuery (key : ρ → κ) where
  run : List ρ → Option ρ
  mem : ∀ {rows : List ρ} {row : ρ}, run rows = some row → row ∈ rows
  key_le : ∀ {rows : List ρ} {row other : ρ}, run rows = some row → other ∈ rows →
    key other ≤ key row
  eq_none_iff : ∀ {rows : List ρ}, run rows = none ↔ rows = []

namespace LatestQuery

/-- The first of the rows with the greatest key. -/
def first (key : ρ → κ) : LatestQuery key where
  run := List.argmax key
  mem := List.argmax_mem
  key_le h hother := List.le_of_mem_argmax hother h
  eq_none_iff := List.argmax_eq_none

variable {key : ρ → κ} {q : LatestQuery key} {rows : List ρ} {row : ρ}

/-- Of rows in ascending order, the last has the key of the one that is found. -/
theorem key_getLast (hsorted : rows.Pairwise fun r s => key r ≤ key s) {last : ρ}
    (hlast : rows.getLast? = some last) (h : q.run rows = some row) : key row = key last := by
  obtain ⟨init, rfl⟩ := List.getLast?_eq_some_iff.1 hlast
  refine le_antisymm ?_ (q.key_le h (List.mem_append_right _ List.mem_cons_self))
  rcases List.mem_append.1 (q.mem h) with hinit | hrow
  · exact (List.pairwise_append.1 hsorted).2.2 row hinit last List.mem_cons_self
  · rw [List.mem_singleton.1 hrow]

end LatestQuery

/-- Rows that are rewritten, but for what they are ordered by. -/
theorem argmax_map {key : ρ → κ} {f : ρ → ρ} (hf : ∀ row, key (f row) = key row) (rows : List ρ) :
    (rows.map f).argmax key = (rows.argmax key).map f := by
  induction rows with
  | nil => rfl
  | cons row rows ih =>
      rw [List.map_cons, List.argmax_cons, List.argmax_cons, ih]
      cases rows.argmax key with
      | none => rfl
      | some last =>
          simp only [Option.map_some, hf]
          split <;> rfl

end Last

/-!
## Successions

A list in which each element names the one before it. When what an element is ordered by grows
along the list, the greatest element is the last one.
-/

variable {α β κ : Type} {key : α → κ} {base : α → Option κ} {l : List α} {a : α}

/-- Each element names the key of the one before it; the first one names `before`. -/
def Succession (key : α → κ) (base : α → Option κ) : Option κ → List α → Prop
  | _, [] => True
  | before, a :: rest => base a = before ∧ Succession key base (some (key a)) rest

/-- What names the last element is next. -/
theorem Succession.append {before : Option κ} (h : Succession key base before l)
    (hbase : base a = (l.getLast?.map key).or before) :
    Succession key base before (l ++ [a]) := by
  induction l generalizing before with
  | nil => exact ⟨hbase, trivial⟩
  | cons b l ih =>
      obtain ⟨hfirst, hrest⟩ := h
      refine ⟨hfirst, ih hrest ?_⟩
      rw [hbase, List.getLast?_cons]
      cases l.getLast? <;> rfl

/-- Where no two elements are ordered alike, the greatest is what all others are at most. -/
theorem argmax_eq_some_of_injective [LinearOrder β] {f : α → β}
    (hf : ∀ a ∈ l, ∀ b ∈ l, f a = f b → a = b) {m : α} :
    l.argmax f = some m ↔ m ∈ l ∧ ∀ a ∈ l, f a ≤ f m := by
  refine ⟨fun h => ⟨List.argmax_mem h, fun a ha => List.le_of_mem_argmax ha h⟩, ?_⟩
  rintro ⟨hm, hmax⟩
  cases hargmax : l.argmax f with
  | none =>
      rw [List.argmax_eq_none.1 hargmax] at hm
      cases hm
  | some c =>
      have hc := List.argmax_mem hargmax
      have hle := List.le_of_mem_argmax hm hargmax
      exact congrArg some (hf c hc m hm (le_antisymm (hmax c hc) hle))

theorem argmax_of_increasing [LinearOrder β] {f : α → β}
    (h : l.Pairwise fun a b => f a < f b) : l.argmax f = l.getLast? := by
  induction l using List.reverseRecOn with
  | nil => rfl
  | append_singleton l a ih =>
      rw [List.pairwise_append] at h
      rw [List.argmax_concat, List.getLast?_concat]
      cases hmax : l.argmax f with
      | none => rfl
      | some c =>
          have hlt : f c < f a := h.2.2 c (List.argmax_mem hmax) a (List.mem_singleton_self a)
          exact if_pos hlt

end Cestos.Core
