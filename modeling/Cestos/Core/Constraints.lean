import Cestos.Core.Outcome

/-!
# Constraints of tables

A row gives values to columns; a column without a value is null. A row is inserted if its required
columns have values, what it refers to is there, and no row of the table has the same values under
a unique key. Rows with a null in a key are not the same under it.
-/

namespace Cestos.Core.Constraints

abbrev Row (κ ν : Type) := κ → Option ν

abbrev Tables (τ κ ν : Type) := τ → List (Row κ ν)

/-- A column with the table and column that its values are found in. -/
structure Reference (τ κ : Type) where
  column : κ
  table : τ
  target : κ

structure Rules (τ κ : Type) where
  required : List κ
  references : List (Reference τ κ)
  keys : List (List κ)

inductive Violation
  | notNull | foreignKey | unique
  deriving DecidableEq

variable {τ κ ν : Type}

/-- The rows have the same values under a key. -/
def Same (names : List κ) (r s : Row κ ν) : Prop :=
  ∀ name ∈ names, (r name).isSome = true ∧ s name = r name

instance [DecidableEq ν] (names : List κ) (r s : Row κ ν) : Decidable (Same names r s) :=
  inferInstanceAs (Decidable (∀ name ∈ names, _))

/-- What a row refers to is there. -/
def Reference.Resolved (tables : Tables τ κ ν) (ref : Reference τ κ) (row : Row κ ν) : Prop :=
  ∀ value ∈ row ref.column, ∃ r ∈ tables ref.table, r ref.target = some value

instance [DecidableEq ν] (tables : Tables τ κ ν) (ref : Reference τ κ) (row : Row κ ν) :
    Decidable (ref.Resolved tables row) :=
  inferInstanceAs (Decidable (∀ value ∈ row ref.column, _))

section Insertion

variable [DecidableEq τ]

def add (t : τ) (tables : Tables τ κ ν) (row : Row κ ν) : Tables τ κ ν :=
  fun u => if u = t then tables u ++ [row] else tables u

variable [DecidableEq ν]

/-- A row is inserted into a table; it may refer to itself. -/
def Rules.insert (rules : Rules τ κ) (t : τ) (tables : Tables τ κ ν) (row : Row κ ν) :
    Except Violation (Tables τ κ ν) := do
  ensure (∀ name ∈ rules.required, (row name).isSome = true) .notNull
  ensure (∀ ref ∈ rules.references, ref.Resolved (add t tables row) row) .foreignKey
  ensure (∀ names ∈ rules.keys, ∀ s ∈ tables t, ¬ Same names row s) .unique
  pure (add t tables row)

/-- Rows are inserted one after another. -/
def Rules.insertAll (rules : Rules τ κ) (t : τ) (tables : Tables τ κ ν) (rows : List (Row κ ν)) :
    Except Violation (Tables τ κ ν) :=
  rows.foldlM (rules.insert t) tables

end Insertion

/-! ## What is inserted -/

section Inserted

variable [DecidableEq τ] {t : τ} {tables tables' : Tables τ κ ν} {row : Row κ ν} {rules : Rules τ κ}

@[simp] theorem add_self : add t tables row t = tables t ++ [row] := if_pos rfl

theorem mem_add_of_mem {u : τ} {s : Row κ ν} (h : s ∈ tables u) : s ∈ add t tables row u := by
  unfold add
  split
  · exact List.mem_append_left _ h
  · exact h

/-- What a row refers to does not go away. -/
theorem Reference.Resolved.add {ref : Reference τ κ} {s : Row κ ν} (h : ref.Resolved tables s) :
    ref.Resolved (Constraints.add t tables row) s := by
  intro value hvalue
  obtain ⟨r, hr, htarget⟩ := h value hvalue
  exact ⟨r, mem_add_of_mem hr, htarget⟩

variable [DecidableEq ν]

theorem insert_eq_ok : rules.insert t tables row = .ok tables' ↔
    (∀ name ∈ rules.required, (row name).isSome = true) ∧
    (∀ ref ∈ rules.references, ref.Resolved (add t tables row) row) ∧
    (∀ names ∈ rules.keys, ∀ s ∈ tables t, ¬ Same names row s) ∧ add t tables row = tables' := by
  simp only [Rules.insert, ensure_bind_eq_ok, pure_eq_ok]

theorem insertAll_cons_isOk {rows : List (Row κ ν)}
    (href : ∀ ref ∈ rules.references, ref.Resolved tables row) :
    (rules.insertAll t tables (row :: rows)).isOk = true ↔
      (∀ name ∈ rules.required, (row name).isSome = true) ∧
      (∀ names ∈ rules.keys, ∀ s ∈ tables t, ¬ Same names row s) ∧
      (rules.insertAll t (add t tables row) rows).isOk = true := by
  simp only [isOk_iff, Rules.insertAll, List.foldlM_cons, bind_eq_ok, insert_eq_ok]
  constructor
  · rintro ⟨final, _, ⟨hreq, -, hkeys, rfl⟩, hrun⟩
    exact ⟨hreq, hkeys, final, hrun⟩
  · rintro ⟨hreq, hkeys, final, hrun⟩
    exact ⟨final, _, ⟨hreq, fun ref hmem => (href ref hmem).add, hkeys, rfl⟩, hrun⟩

/-- Rows that refer to what is there are inserted if their required columns have values and no two
rows are the same under a key. -/
theorem insertAll_isOk_iff {rows : List (Row κ ν)}
    (hrefs : ∀ row ∈ rows, ∀ ref ∈ rules.references, ref.Resolved tables row) :
    (rules.insertAll t tables rows).isOk = true ↔
      (∀ row ∈ rows, ∀ name ∈ rules.required, (row name).isSome = true) ∧
      (∀ row ∈ rows, ∀ names ∈ rules.keys, ∀ s ∈ tables t, ¬ Same names row s) ∧
      rows.Pairwise fun r s => ∀ names ∈ rules.keys, ¬ Same names s r := by
  induction rows generalizing tables with
  | nil => simp [Rules.insertAll, isOk_iff]
  | cons row rows ih =>
      obtain ⟨href, hrest⟩ := List.forall_mem_cons.1 hrefs
      have hadded := @ih (add t tables row) fun r hr ref hmem => (hrest r hr ref hmem).add
      -- a later row differs from the first one as it differs from those that were there
      have hlater : (∀ r ∈ rows, ∀ names ∈ rules.keys, ∀ s ∈ tables t ++ [row], ¬ Same names r s) ↔
          (∀ r ∈ rows, ∀ names ∈ rules.keys, ∀ s ∈ tables t, ¬ Same names r s) ∧
          ∀ r ∈ rows, ∀ names ∈ rules.keys, ¬ Same names r row := by
        simp only [List.forall_mem_append, List.forall_mem_singleton, forall_and]
      rw [insertAll_cons_isOk href, hadded, List.forall_mem_cons, List.forall_mem_cons,
        List.pairwise_cons, add_self, hlater]
      constructor
      · rintro ⟨hreq, hkeys, hreqs, ⟨hstored, hfirst⟩, hpairs⟩
        exact ⟨⟨hreq, hreqs⟩, ⟨hkeys, hstored⟩, hfirst, hpairs⟩
      · rintro ⟨⟨hreq, hreqs⟩, ⟨hkeys, hstored⟩, hfirst, hpairs⟩
        exact ⟨hreq, hkeys, hreqs, ⟨hstored, hfirst⟩, hpairs⟩

end Inserted

end Cestos.Core.Constraints
