import Mathlib.Algebra.BigOperators.Group.List.Basic
import Mathlib.Algebra.Group.Basic
import Mathlib.Algebra.BigOperators.Group.Finset.Piecewise
import Mathlib.Algebra.Order.BigOperators.Group.Finset
import Mathlib.Data.Nat.Cast.Basic
import Mathlib.Data.List.Nodup
import Mathlib.Tactic.Abel
import Cestos.Core.Outcome

/-!
# Keyed tables

A table is a list of rows no two of which have the same key, so a row is found
by its key and a total over the rows changes by exactly the row that was
written. Rows are appended, replaced in place, or removed by a condition.
-/

namespace Cestos.Core

/-- Rows in the order they were inserted, with pairwise different keys. -/
structure Table {ρ κ : Type} (key : ρ → κ) where
  rows : List ρ
  nodup : (rows.map key).Nodup

namespace Table

variable {ρ κ : Type} {key : ρ → κ}

/-- The table without rows. -/
def empty : Table key := ⟨[], List.nodup_nil⟩

/-- The table with one row. -/
def single (row : ρ) : Table key := ⟨[row], List.nodup_singleton _⟩

def size (t : Table key) : Nat := t.rows.length

/-- The total of `f` over the rows. -/
def sum {M : Type} [AddMonoid M] (t : Table key) (f : ρ → M) : M := (t.rows.map f).sum

@[simp] theorem empty_rows : (empty : Table key).rows = [] := rfl

@[simp] theorem single_rows (row : ρ) : (single row : Table key).rows = [row] := rfl

@[simp] theorem sum_empty {M : Type} [AddMonoid M] (f : ρ → M) :
    (empty : Table key).sum f = 0 := rfl

theorem sum_congr {M : Type} [AddMonoid M] {t : Table key} {f g : ρ → M}
    (h : ∀ r ∈ t.rows, f r = g r) : t.sum f = t.sum g :=
  congrArg List.sum (List.map_congr_left h)

/-- The number of rows in `p`. -/
def count (t : Table key) (p : ρ → Bool) : ℕ := t.rows.countP p

theorem count_eq_sum {M : Type} [AddCommMonoidWithOne M] (t : Table key) (p : ρ → Bool) :
    (t.count p : M) = t.sum fun r => if p r then 1 else 0 := by
  unfold count sum
  induction t.rows with
  | nil => exact Nat.cast_zero
  | cons r rows ih =>
      rw [List.countP_cons, Nat.cast_add, ih, List.map_cons, List.sum_cons, add_comm]
      split <;> simp

theorem sum_add {M : Type} [AddCommMonoid M] (t : Table key) (f g : ρ → M) :
    t.sum (fun r => f r + g r) = t.sum f + t.sum g :=
  List.sum_map_add

/-- A total is the total over the values of `g` of what counts for each. -/
theorem sum_fibers {M ι : Type} [AddCommMonoid M] [DecidableEq ι] (t : Table key) (g : ρ → ι)
    (f : ρ → M) :
    t.sum f = ∑ i ∈ (t.rows.map g).toFinset, t.sum (fun r => if g r = i then f r else 0) := by
  have hlist : ∀ (l : List ρ) (s : Finset ι), (∀ r ∈ l, g r ∈ s) →
      (l.map f).sum = ∑ i ∈ s, (l.map fun r => if g r = i then f r else 0).sum := by
    intro l s
    induction l with
    | nil => intro _; simp
    | cons r l ih =>
        intro hmem
        have hr : g r ∈ s := hmem r List.mem_cons_self
        simp only [List.map_cons, List.sum_cons, Finset.sum_add_distrib]
        rw [← ih fun u hu => hmem u (List.mem_cons_of_mem r hu), Finset.sum_ite_eq, if_pos hr]
  exact hlist t.rows _ fun r hr => List.mem_toFinset.2 (List.mem_map_of_mem hr)

/-- Totals that are ordered on every fiber are ordered. -/
theorem sum_le_of_fibers {M ι : Type} [AddCommMonoid M] [PartialOrder M] [IsOrderedAddMonoid M]
    [DecidableEq ι] {t : Table key} (g : ρ → ι) {f f' : ρ → M}
    (h : ∀ i, t.sum (fun r => if g r = i then f r else 0) ≤
      t.sum (fun r => if g r = i then f' r else 0)) : t.sum f ≤ t.sum f' := by
  rw [sum_fibers t g f, sum_fibers t g f']
  exact Finset.sum_le_sum fun i _ => h i

theorem key_injective (t : Table key) {r s : ρ} (hr : r ∈ t.rows) (hs : s ∈ t.rows)
    (h : key r = key s) : r = s :=
  List.inj_on_of_nodup_map t.nodup hr hs h

section Decidable

variable [DecidableEq κ]

/-- The row with key `k`. -/
def find? (t : Table key) (k : κ) : Option ρ := t.rows.find? (fun r => key r = k)

/-- Append a row whose key is not in use yet. -/
def insert? (t : Table key) (r : ρ) : Option (Table key) :=
  if h : key r ∈ t.rows.map key then none
  else some ⟨t.rows ++ [r], by
    rw [List.map_append, List.nodup_append]
    refine ⟨t.nodup, by simp, ?_⟩
    rintro a ha b hb rfl
    rw [List.map_singleton, List.mem_singleton] at hb
    exact h (hb ▸ ha)⟩

/-- Insert the rows from the last to the first; a row whose key is in use is left out. -/
def insertAll (t : Table key) (rows : List ρ) : Table key :=
  rows.foldr (fun r t => (t.insert? r).getD t) t

/-- Replace the row with the key of `r`; a table without such a row stays as it is. -/
def set (t : Table key) (r : ρ) : Table key :=
  ⟨t.rows.map (fun s => if key s = key r then r else s), by
    have hkeys : (t.rows.map (fun s => if key s = key r then r else s)).map key =
        t.rows.map key := by
      rw [List.map_map]
      refine List.map_congr_left fun s _ => ?_
      simp only [Function.comp]
      split <;> simp_all
    rw [hkeys]
    exact t.nodup⟩

/-- Insert the row, or replace the one with its key. -/
def upsert (t : Table key) (r : ρ) : Table key := (t.insert? r).getD (t.set r)

/-- Write the rows from the last to the first. -/
def upsertAll (t : Table key) (rows : List ρ) : Table key := rows.foldr (fun r t => t.upsert r) t

/-- Rewrite every row without changing its key. -/
def mapRows (t : Table key) (f : ρ → ρ) (hf : ∀ r, key (f r) = key r) : Table key :=
  ⟨t.rows.map f, by
    rw [List.map_map, show key ∘ f = key from funext hf]
    exact t.nodup⟩

/-- Remove the rows that satisfy `p`. -/
def removeIf (t : Table key) (p : ρ → Bool) : Table key :=
  ⟨t.rows.filter (fun r => !p r), t.nodup.sublist (List.filter_sublist.map key)⟩

theorem mem_of_find? {t : Table key} {k : κ} {r : ρ} (h : t.find? k = some r) : r ∈ t.rows :=
  List.mem_of_find?_eq_some h

theorem key_of_find? {t : Table key} {k : κ} {r : ρ} (h : t.find? k = some r) : key r = k := by
  have hk := List.find?_some h
  simpa using hk

theorem find?_eq_some {t : Table key} {k : κ} {r : ρ} :
    t.find? k = some r ↔ r ∈ t.rows ∧ key r = k := by
  refine ⟨fun h => ⟨mem_of_find? h, key_of_find? h⟩, ?_⟩
  rintro ⟨hr, hk⟩
  cases hf : t.find? k with
  | none =>
      have habsent := List.find?_eq_none.1 hf r hr
      simp [hk] at habsent
  | some s =>
      have hsame : key s = key r := (key_of_find? hf).trans hk.symm
      rw [t.key_injective (mem_of_find? hf) hr hsame]

theorem find?_of_mem {t : Table key} {r : ρ} (h : r ∈ t.rows) : t.find? (key r) = some r :=
  find?_eq_some.2 ⟨h, rfl⟩

theorem find?_eq_none {t : Table key} {k : κ} : t.find? k = none ↔ ∀ r ∈ t.rows, key r ≠ k := by
  simp [find?]

/-! ## Inserting -/

theorem insert?_eq_some {t t' : Table key} {r : ρ} :
    t.insert? r = some t' ↔ key r ∉ t.rows.map key ∧ t'.rows = t.rows ++ [r] := by
  unfold insert?
  split
  · simp_all
  · cases t'
    simp_all [eq_comm]

theorem insert?_rows {t t' : Table key} {r : ρ} (h : t.insert? r = some t') :
    t'.rows = t.rows ++ [r] := (insert?_eq_some.1 h).2

theorem mem_insert? {t t' : Table key} {r s : ρ} (h : t.insert? r = some t') :
    s ∈ t'.rows ↔ s ∈ t.rows ∨ s = r := by
  simp [insert?_rows h]

theorem insert?_fresh {t t' : Table key} {r s : ρ} (h : t.insert? r = some t')
    (hs : s ∈ t.rows) : key s ≠ key r := by
  intro heq
  exact (insert?_eq_some.1 h).1 (heq ▸ List.mem_map_of_mem hs)

theorem find?_insert? {t t' : Table key} {r : ρ} (h : t.insert? r = some t') (k : κ) :
    t'.find? k = if key r = k then some r else t.find? k := by
  split
  · next hk => exact find?_eq_some.2 ⟨(mem_insert? h).2 (.inr rfl), hk⟩
  · next hk =>
    refine Option.ext fun s => ?_
    rw [find?_eq_some, find?_eq_some, mem_insert? h]
    constructor
    · rintro ⟨hs | rfl, hks⟩
      · exact ⟨hs, hks⟩
      · exact absurd hks hk
    · rintro ⟨hs, hks⟩
      exact ⟨.inl hs, hks⟩

theorem find?_insert?_of_find? {t t' : Table key} {r s : ρ} {k : κ} (h : t.insert? r = some t')
    (hs : t.find? k = some s) : t'.find? k = some s :=
  find?_eq_some.2 ⟨(mem_insert? h).2 (.inl (mem_of_find? hs)), key_of_find? hs⟩

theorem sum_insert? {M : Type} [AddMonoid M] {t t' : Table key} {r : ρ} (f : ρ → M)
    (h : t.insert? r = some t') : t'.sum f = t.sum f + f r := by
  simp [sum, insert?_rows h]

/-- A total over the old rows that counts the new row as well. -/
theorem sum_insert?_congr {M : Type} [AddMonoid M] {t t' : Table key} {r : ρ} {f g : ρ → M}
    (h : t.insert? r = some t') (hfg : ∀ s ∈ t.rows, g s = f s) :
    t'.sum g = t.sum f + g r := by
  rw [sum_insert? g h, sum_congr hfg]

theorem insert?_of_fresh {t : Table key} {r : ρ} (h : key r ∉ t.rows.map key) :
    ∃ t', t.insert? r = some t' ∧ t'.rows = t.rows ++ [r] := by
  cases hinsert : t.insert? r with
  | none => simp [insert?, h] at hinsert
  | some t' => exact ⟨t', rfl, insert?_rows hinsert⟩

/-- Where no key is in use, all rows are inserted. -/
theorem insertAll_rows {t : Table key} {rows : List ρ} (hnodup : (rows.map key).Nodup)
    (hfresh : ∀ r ∈ rows, key r ∉ t.rows.map key) :
    (t.insertAll rows).rows = t.rows ++ rows.reverse := by
  induction rows with
  | nil => simp [insertAll]
  | cons r rows ih =>
      rw [List.map_cons, List.nodup_cons] at hnodup
      have hrest := ih hnodup.2 fun s hs => hfresh s (List.mem_cons_of_mem r hs)
      have hnew : key r ∉ (t.insertAll rows).rows.map key := by
        rw [hrest, List.map_append, List.mem_append, List.map_reverse, List.mem_reverse]
        exact fun h => h.elim (hfresh r List.mem_cons_self) hnodup.1
      obtain ⟨t', hinsert, hrows⟩ := insert?_of_fresh hnew
      show (((t.insertAll rows).insert? r).getD (t.insertAll rows)).rows = _
      rw [hinsert, Option.getD_some, hrows, hrest, List.reverse_cons, List.append_assoc]

/-! ## Replacing -/

theorem set_rows (t : Table key) (r : ρ) :
    (t.set r).rows = t.rows.map (fun s => if key s = key r then r else s) := rfl

theorem mem_set {t : Table key} {r s : ρ} :
    s ∈ (t.set r).rows ↔ (s ∈ t.rows ∧ key s ≠ key r) ∨ (s = r ∧ key r ∈ t.rows.map key) := by
  rw [set_rows, List.mem_map]
  constructor
  · rintro ⟨u, hu, rfl⟩
    by_cases hk : key u = key r
    · exact .inr ⟨by simp [hk], hk ▸ List.mem_map_of_mem hu⟩
    · exact .inl (by simpa [hk] using hu)
  · rintro (⟨hs, hk⟩ | ⟨rfl, hk⟩)
    · exact ⟨s, hs, by simp [hk]⟩
    · obtain ⟨u, hu, huk⟩ := List.mem_map.1 hk
      exact ⟨u, hu, by simp [huk]⟩

theorem find?_set (t : Table key) (r : ρ) (k : κ) :
    (t.set r).find? k = if key r = k then (t.find? k).map (fun _ => r) else t.find? k := by
  refine Option.ext fun s => ?_
  rw [find?_eq_some, mem_set]
  by_cases hk : key r = k
  · subst hk
    simp only [if_true, Option.map_eq_some_iff, find?_eq_some, List.mem_map]
    grind
  · simp only [if_neg hk, find?_eq_some]
    grind

theorem find?_set_self {t : Table key} {r s : ρ} (h : t.find? (key r) = some s) :
    (t.set r).find? (key r) = some r := by
  simp [find?_set, h]

theorem find?_set_ne {t : Table key} {r : ρ} {k : κ} (h : key r ≠ k) :
    (t.set r).find? k = t.find? k := by
  simp [find?_set, h]

theorem mem_set_of_find? {t : Table key} {r old s : ρ} (h : t.find? (key r) = some old) :
    s ∈ (t.set r).rows ↔ (s ∈ t.rows ∧ key s ≠ key r) ∨ s = r := by
  have hk : key r ∈ t.rows.map key := by
    rw [← key_of_find? h]
    exact List.mem_map_of_mem (mem_of_find? h)
  simp [mem_set, hk]

/-- Replacing a row by one that looks alike keeps what is seen of every row. -/
theorem map_find?_set {β : Type} {t : Table key} {r : ρ} {g : ρ → β}
    (h : ∀ old, t.find? (key r) = some old → g old = g r) (k : κ) :
    ((t.set r).find? k).map g = (t.find? k).map g := by
  rw [find?_set]
  split
  · next hk =>
    subst hk
    cases hf : t.find? (key r) with
    | none => rfl
    | some old => simp [h old hf]
  · rfl

theorem set_keys (t : Table key) (r : ρ) : (t.set r).rows.map key = t.rows.map key := by
  rw [set_rows, List.map_map]
  refine List.map_congr_left fun s _ => ?_
  simp only [Function.comp]
  split <;> simp_all

theorem find?_upsert (t : Table key) (r : ρ) (k : κ) :
    (t.upsert r).find? k = if key r = k then some r else t.find? k := by
  unfold upsert
  cases hinsert : t.insert? r with
  | some t' => exact find?_insert? hinsert k
  | none =>
      have hin : key r ∈ t.rows.map key := by
        by_contra hfresh
        simp [insert?, hfresh] at hinsert
      obtain ⟨old, hold, hkey⟩ := List.mem_map.1 hin
      show (t.set r).find? k = _
      by_cases hk : key r = k
      · rw [if_pos hk, ← hk]
        exact find?_set_self (hkey ▸ find?_of_mem hold)
      · rw [if_neg hk, find?_set_ne hk]

/-- The first of the rows with a key is the one that stays. -/
theorem find?_upsertAll (t : Table key) (rows : List ρ) (k : κ) :
    (t.upsertAll rows).find? k = (rows.find? fun r => key r = k).or (t.find? k) := by
  induction rows with
  | nil => rfl
  | cons r rows ih =>
      show ((t.upsertAll rows).upsert r).find? k = _
      rw [find?_upsert, List.find?_cons]
      by_cases hk : key r = k
      · simp [hk]
      · simp only [if_neg hk, decide_eq_false hk]
        exact ih

/-- A total in which one row counts differently. -/
theorem sum_change {M : Type} [AddCommGroup M] {t : Table key} {r : ρ} {f g : ρ → M}
    (hr : r ∈ t.rows) (hfg : ∀ s ∈ t.rows, key s ≠ key r → g s = f s) :
    t.sum g = t.sum f - f r + g r := by
  have hchanged : t.sum g = t.sum (fun s => if key s = key r then g r else f s) := by
    refine sum_congr fun s hs => ?_
    by_cases hk : key s = key r
    · rw [if_pos hk, t.key_injective hs hr hk]
    · rw [if_neg hk, hfg s hs hk]
  have hlist : ∀ l : List ρ, (l.map key).Nodup → r ∈ l →
      (l.map fun s => if key s = key r then g r else f s).sum = (l.map f).sum - f r + g r := by
    intro l
    induction l with
    | nil => intro _ hmem; simp at hmem
    | cons s l ih =>
        intro hnodup hmem
        rw [List.map_cons, List.nodup_cons] at hnodup
        by_cases hs : r = s
        · subst hs
          have hrest : (l.map fun s => if key s = key r then g r else f s) = l.map f := by
            refine List.map_congr_left fun u hu => if_neg fun hk => hnodup.1 ?_
            exact hk ▸ List.mem_map_of_mem hu
          simp only [List.map_cons, if_true, List.sum_cons, hrest]
          abel
        · have hin : r ∈ l := (List.mem_cons.1 hmem).resolve_left hs
          have hne : key s ≠ key r := fun hk => hnodup.1 (hk ▸ List.mem_map_of_mem hin)
          simp only [List.map_cons, if_neg hne, List.sum_cons, ih hnodup.2 hin]
          abel
  rw [hchanged]
  exact hlist t.rows t.nodup hr

/-- Replacing a row moves a total by the new row minus the replaced one. -/
theorem sum_set {M : Type} [AddCommGroup M] {t : Table key} {r old : ρ} (f : ρ → M)
    (h : t.find? (key r) = some old) : (t.set r).sum f = t.sum f - f old + f r := by
  obtain ⟨hold, hkey⟩ := find?_eq_some.1 h
  have hset : (t.set r).sum f = t.sum (fun s => f (if key s = key r then r else s)) := by
    rw [sum, sum, set_rows, List.map_map]
    rfl
  rw [hset, sum_change hold fun s _ hs => by rw [if_neg (hkey ▸ hs)], if_pos hkey]

theorem add_sum_set {t : Table key} {r old : ρ} (f : ρ → ℕ) (h : t.find? (key r) = some old) :
    (t.set r).sum f + f old = t.sum f + f r := by
  have hcast : ∀ u : Table key, ((u.sum f : ℕ) : ℤ) = u.sum fun s => (f s : ℤ) := fun u => by
    simpa [sum, Function.comp_def] using map_list_sum (Nat.castAddMonoidHom ℤ) (u.rows.map f)
  have hset := sum_set (fun s => (f s : ℤ)) h
  rw [← hcast, ← hcast] at hset
  omega

omit [DecidableEq κ] in
theorem sum_mapRows {M : Type} [AddMonoid M] {t : Table key} {f : ρ → ρ}
    {hf : ∀ r, key (f r) = key r} (g : ρ → M) :
    (t.mapRows f hf).sum g = t.sum fun r => g (f r) := by
  simp [sum, mapRows, Function.comp_def]

omit [DecidableEq κ] in
theorem sum_le_sum {t : Table key} {f g : ρ → ℕ} (h : ∀ r ∈ t.rows, f r ≤ g r) :
    t.sum f ≤ t.sum g :=
  List.sum_le_sum h

omit [DecidableEq κ] in
theorem mapRows_keys {t : Table key} {f : ρ → ρ} {hf : ∀ r, key (f r) = key r} :
    (t.mapRows f hf).rows.map key = t.rows.map key := by
  rw [mapRows, List.map_map]
  exact List.map_congr_left fun r _ => hf r

theorem find?_mapRows {t : Table key} {f : ρ → ρ} {hf : ∀ r, key (f r) = key r} (k : κ) :
    (t.mapRows f hf).find? k = (t.find? k).map f := by
  rw [find?, mapRows, List.find?_map, find?]
  simp only [Function.comp_def, hf]

/-! ## Removing -/

omit [DecidableEq κ] in
theorem mem_removeIf {t : Table key} {p : ρ → Bool} {r : ρ} :
    r ∈ (t.removeIf p).rows ↔ r ∈ t.rows ∧ p r = false := by
  simp [removeIf]

theorem find?_removeIf {t : Table key} {p : ρ → Bool} {k : κ} {r : ρ} :
    (t.removeIf p).find? k = some r ↔ t.find? k = some r ∧ p r = false := by
  rw [find?_eq_some, find?_eq_some, mem_removeIf]
  tauto

/-- A loop that inserts a row for each element. -/
theorem foldlM_insert? {α ε : Type} {make : α → Except ε ρ} {e : ε} {l : List α} {t t' : Table key}
    (h : l.foldlM (fun t a => do
      let row ← make a
      orError (t.insert? row) e) t = .ok t') :
    ∃ added, t'.rows = t.rows ++ added ∧ List.Forall₂ (fun a row => make a = .ok row) l added := by
  induction l generalizing t with
  | nil =>
      simp only [List.foldlM_nil, pure_eq_ok] at h
      exact ⟨[], by simp [h], .nil⟩
  | cons a l ih =>
      simp only [List.foldlM_cons, bind_eq_ok, orError_eq_ok] at h
      obtain ⟨next, ⟨row, hrow, hinsert⟩, hrest⟩ := h
      obtain ⟨added, hrows, hadded⟩ := ih hrest
      refine ⟨row :: added, ?_, .cons hrow hadded⟩
      rw [hrows, insert?_rows hinsert, List.append_assoc, List.singleton_append]

end Decidable

end Table

end Cestos.Core

/-!
## Unique indexes

An index over a column of a table, in which rows without a value do not take part. A row is
written only where no other row has its value, so a value belongs to one row.
-/

namespace Cestos.Core.Table

variable {ρ κ β : Type} {key : ρ → κ}

/-- No two rows have the same value of `f`. -/
def UniqueOn (t : Table key) (f : ρ → Option β) : Prop :=
  ∀ r ∈ t.rows, ∀ s ∈ t.rows, ∀ v ∈ f r, f s = some v → key r = key s

instance [DecidableEq κ] [DecidableEq β] (t : Table key) (f : ρ → Option β) :
    Decidable (t.UniqueOn f) :=
  inferInstanceAs (Decidable (∀ r ∈ t.rows, ∀ s ∈ t.rows, ∀ v ∈ f r, f s = some v → key r = key s))

variable {t t' : Table key} {f : ρ → Option β} {r : ρ}

/-- The other rows have other values than `r`. -/
def Apart (t : Table key) (f : ρ → Option β) (r : ρ) : Prop :=
  ∀ s ∈ t.rows, key s ≠ key r → ∀ v ∈ f r, f s ≠ some v

instance [DecidableEq κ] [DecidableEq β] (t : Table key) (f : ρ → Option β) (r : ρ) :
    Decidable (t.Apart f r) :=
  inferInstanceAs (Decidable (∀ s ∈ t.rows, key s ≠ key r → ∀ v ∈ f r, f s ≠ some v))

private theorem uniqueOn_of_apart (h : t.UniqueOn f) (hapart : t.Apart f r)
    (hrows : ∀ s ∈ t'.rows, s ∈ t.rows ∧ key s ≠ key r ∨ s = r) : t'.UniqueOn f := by
  intro s hs u hu v hv hfu
  rcases hrows s hs with ⟨hs, hne⟩ | rfl <;> rcases hrows u hu with ⟨hu, hne'⟩ | rfl
  · exact h s hs u hu v hv hfu
  · exact absurd hv (hapart s hs hne v hfu)
  · exact absurd hfu (hapart u hu hne' v hv)
  · rfl

/-- Rows that have their values from rows of before. -/
theorem UniqueOn.of_kept (h : t.UniqueOn f)
    (hrows : ∀ s ∈ t'.rows, ∀ v ∈ f s, ∃ r ∈ t.rows, key r = key s ∧ f r = some v) :
    t'.UniqueOn f := by
  intro s hs u hu v hv hfu
  obtain ⟨r, hr, hkey, hfr⟩ := hrows s hs v hv
  obtain ⟨r', hr', hkey', hfr'⟩ := hrows u hu v hfu
  rw [← hkey, ← hkey']
  exact h r hr r' hr' v hfr hfr'

/-- One row takes a value from all others. -/
theorem UniqueOn.of_taken (h : t.UniqueOn f) (k : κ) (value : β)
    (hrows : ∀ s ∈ t'.rows, ∀ v ∈ f s,
      v = value ∧ key s = k ∨ v ≠ value ∧ ∃ r ∈ t.rows, key r = key s ∧ f r = some v) :
    t'.UniqueOn f := by
  intro s hs u hu v hv hfu
  rcases hrows s hs v hv with ⟨rfl, hk⟩ | ⟨hne, r, hr, hkey, hfr⟩
  · rcases hrows u hu v hfu with ⟨-, hk'⟩ | ⟨hne, -⟩
    · exact hk.trans hk'.symm
    · exact absurd rfl hne
  · rcases hrows u hu v hfu with ⟨heq, -⟩ | ⟨-, r', hr', hkey', hfr'⟩
    · exact absurd heq hne
    · rw [← hkey, ← hkey']
      exact h r hr r' hr' v hfr hfr'

variable [DecidableEq κ]

theorem UniqueOn.set (h : t.UniqueOn f) (hapart : t.Apart f r) : (t.set r).UniqueOn f :=
  uniqueOn_of_apart h hapart fun s hs => by
    rcases mem_set.1 hs with hold | ⟨rfl, -⟩
    · exact .inl hold
    · exact .inr rfl

theorem UniqueOn.insert (h : t.UniqueOn f) (hapart : t.Apart f r) (hins : t.insert? r = some t') :
    t'.UniqueOn f :=
  uniqueOn_of_apart h hapart fun s hs => by
    rcases (mem_insert? hins).1 hs with hold | rfl
    · exact .inl ⟨hold, insert?_fresh hins hold⟩
    · exact .inr rfl

/-- One row is written, in the place of the one with its key or as a new one. -/
def Written (t t' : Table key) (r : ρ) : Prop :=
  ∀ s, s ∈ t'.rows ↔ s ∈ t.rows ∧ key s ≠ key r ∨ s = r

theorem written_set {old : ρ} (h : t.find? (key r) = some old) : t.Written (t.set r) r :=
  fun _ => mem_set_of_find? h

theorem written_insert (h : t.insert? r = some t') : t.Written t' r := by
  refine fun s => (mem_insert? h).trans (or_congr_left ?_)
  exact ⟨fun hs => ⟨hs, insert?_fresh h hs⟩, And.left⟩

omit [DecidableEq κ] in
/-- A row that is written keeps the values apart exactly if no other row has its value. -/
theorem UniqueOn.written_iff (h : t.UniqueOn f) (hwritten : t.Written t' r) :
    t'.UniqueOn f ↔ t.Apart f r := by
  constructor
  · intro h' s hs hne v hv hfs
    exact hne (h' r ((hwritten r).2 (.inr rfl)) s ((hwritten s).2 (.inl ⟨hs, hne⟩)) v hv hfs).symm
  · exact fun hapart => uniqueOn_of_apart h hapart fun s => (hwritten s).1

variable [DecidableEq β]

/-- The row with a value of an index. -/
def byIndex (t : Table key) (f : ρ → Option β) (v : β) : Option ρ :=
  t.rows.find? fun s => f s = some v

omit [DecidableEq κ] in
theorem byIndex_eq_some (h : t.UniqueOn f) {v : β} {s : ρ} :
    t.byIndex f v = some s ↔ s ∈ t.rows ∧ f s = some v := by
  constructor
  · intro hfind
    have hv := List.find?_some hfind
    exact ⟨List.mem_of_find?_eq_some hfind, by simpa using hv⟩
  · intro hs
    cases hfind : t.byIndex f v with
    | none =>
        have habsent := List.find?_eq_none.1 hfind s hs.1
        simp [hs.2] at habsent
    | some u =>
        have hu := List.find?_some hfind
        simp only [decide_eq_true_eq] at hu
        have hmem := List.mem_of_find?_eq_some hfind
        rw [t.key_injective hmem hs.1 (h u hmem s hs.1 v hu hs.2)]

/-- What an index shows after a row is written. -/
theorem byIndex_written (h : t.UniqueOn f) (h' : t'.UniqueOn f) (hwritten : t.Written t' r) (v : β) :
    t'.byIndex f v =
      if f r = some v then some r else (t.byIndex f v).filter fun s => key s ≠ key r := by
  refine Option.ext fun s => ?_
  rw [byIndex_eq_some h', hwritten]
  by_cases hv : f r = some v
  · rw [if_pos hv, Option.some.injEq]
    constructor
    · intro hs
      cases hs.1 with
      | inl hold =>
          have hkey := h' s ((hwritten s).2 hs.1) r ((hwritten r).2 (.inr rfl)) v hs.2 hv
          exact absurd hkey hold.2
      | inr heq => exact heq.symm
    · intro heq
      exact ⟨.inr heq.symm, heq ▸ hv⟩
  · rw [if_neg hv, Option.filter_eq_some_iff, byIndex_eq_some h, decide_eq_true_eq]
    constructor
    · intro hs
      cases hs.1 with
      | inl hold => exact ⟨⟨hold.1, hs.2⟩, hold.2⟩
      | inr heq => exact absurd (heq ▸ hs.2) hv
    · intro hs
      exact ⟨.inl ⟨hs.1.1, hs.2⟩, hs.1.2⟩

end Cestos.Core.Table
