import Cestos.Core.Decimal.Context
import Cestos.Inventory.Balances

/-!
# Values and the ledger

The two value columns are totalled twice: `effect` rounds every new balance half to
even, the ledger keeps every change rounded half away from zero. The balances are the
replay of the ledger with the first rounding; they are the sums of the ledger rows as
long as no balance is a tie that goes the other way.
-/

namespace Cestos.Inventory

open Cestos.Core Cestos.Core.Decimal

/-- A column of eight decimals. -/
abbrev BucketField.IsValue (f : BucketField) : Prop := f.scale = 8

theorem BucketField.isQuantity_or_isValue (f : BucketField) : f.IsQuantity ∨ f.IsValue := by
  cases f <;> simp [BucketField.IsQuantity, BucketField.IsValue, BucketField.scale]

/-! ## `reconciliation` -/

/-- The differences the report computes for a bucket. -/
def Database.differences (db : Database) (k : Bucket) : BucketFields :=
  fun f => db.ledgerSum k f - db.balances k f

/-- The report: the buckets some column of which differs. A balance without a ledger row
is zero and cannot differ. -/
def Database.reconciliation (db : Database) : List (Bucket × BucketFields) :=
  ((db.ledger.map (·.bucket)).dedup.map fun k => (k, db.differences k)).filter
    fun row => ∃ f ∈ bucketFields, row.2 f ≠ 0

theorem reconciliation_eq_nil {db : Database} (h : ∀ k f, db.balances k f = db.ledgerSum k f) :
    db.reconciliation = [] := by
  refine List.filter_eq_nil_iff.2 fun row hrow => ?_
  obtain ⟨k, _, rfl⟩ := List.mem_map.1 hrow
  simp [Database.differences, h]

/-! ## Replaying the ledger -/

/-- The balances that ledger rows lead to. -/
def replay (ctx : Context 28 12) (balances : Bucket → BucketFields) (rows : List LedgerEntry) :
    Bucket → BucketFields :=
  rows.foldl (applyEntry ctx) balances

/-- No value that the rows lead to is a tie that the balance and the ledger round apart. -/
def AllUntied (ctx : Context 28 12) :
    (Bucket → BucketFields) → List LedgerEntry → Prop
  | _, [] => True
  | balances, e :: rest =>
    (∀ f ∈ bucketFields, f.IsValue → Untied ctx 8 (balances e.bucket f) (e.changes f)) ∧
      AllUntied ctx (applyEntry ctx balances e) rest

instance decidableAllUntied (ctx : Context 28 12) :
    (balances : Bucket → BucketFields) → (rows : List LedgerEntry) →
      Decidable (AllUntied ctx balances rows)
  | _, [] => .isTrue trivial
  | balances, e :: rest =>
    have := decidableAllUntied ctx (applyEntry ctx balances e) rest
    inferInstanceAs (Decidable (_ ∧ _))

/-- The sums of the rows are what they add to the balances. -/
def Reconciled (ctx : Context 28 12) (balances : Bucket → BucketFields)
    (rows : List LedgerEntry) : Prop :=
  ∀ k f, BucketField.IsValue f →
    replay ctx balances rows k f = balances k f + storedSum rows k f

/-- Values of eight decimals. -/
def ValuesOnGrid (balances : Bucket → BucketFields) : Prop :=
  ∀ k f, BucketField.IsValue f → OnGrid 8 (balances k f)

section Rows

variable {ctx : Context 28 12} {balances balances' : Bucket → BucketFields}

theorem Moves.replay {entries : List LedgerEntry} (h : Moves ctx balances entries balances') :
    balances' = replay ctx balances entries := by
  induction h with
  | nil => rfl
  | cons _ _ ih => exact ih

theorem Moves.append {entries entries' : List LedgerEntry} {balances'' : Bucket → BucketFields}
    (h : Moves ctx balances entries balances') (h' : Moves ctx balances' entries' balances'') :
    Moves ctx balances (entries ++ entries') balances'' := by
  induction h with
  | nil => exact h'
  | cons hmovable _ ih => exact .cons hmovable (ih h')

theorem Moves.other {entries : List LedgerEntry} {k : Bucket}
    (h : Moves ctx balances entries balances') (hne : ∀ e ∈ entries, e.bucket ≠ k) :
    balances' k = balances k := by
  induction h with
  | nil => rfl
  | cons _ _ ih =>
      rw [ih fun e he => hne e (List.mem_cons_of_mem _ he)]
      exact applyEntry_ne (Ne.symm (hne _ List.mem_cons_self))

theorem ValuesOnGrid.applyEntry (h : ValuesOnGrid balances) (entry : LedgerEntry) :
    ValuesOnGrid (applyEntry ctx balances entry) := by
  intro k f hf
  by_cases hk : k = entry.bucket
  · subst hk
    rw [applyEntry_self, effectFields, hf]
    exact onGrid_quantize 8 _
  · rw [applyEntry_ne hk]
    exact h k f hf

theorem Moves.valuesOnGrid {entries : List LedgerEntry} (h : Moves ctx balances entries balances')
    (hgrid : ValuesOnGrid balances) : ValuesOnGrid balances' := by
  induction h with
  | nil => exact hgrid
  | cons _ _ ih => exact ih (hgrid.applyEntry _)

theorem Movable.value_bound {entry : LedgerEntry} (h : Movable ctx balances entry)
    {f : BucketField} (hf : f.IsValue) :
    |quantize 8 (ctx.add (balances entry.bucket f) (entry.changes f))| < 10 ^ 16 := by
  have hdigits : f.digits = 24 := by
    cases f <;> first | rfl | cases hf
  have hfits := h.storable f (mem_bucketFields f)
  rw [hdigits, hf, Fits, effectFields, hf, numeric_of_onGrid (onGrid_quantize 8 _)] at hfits
  exact hfits

/-- One row adds to the balance what the ledger keeps of it exactly when it is untied. -/
theorem Movable.value_iff {entry : LedgerEntry} (h : Movable ctx balances entry)
    (hgrid : ValuesOnGrid balances) {f : BucketField} (hf : f.IsValue) :
    applyEntry ctx balances entry entry.bucket f =
        balances entry.bucket f + entry.stored f ↔
      Untied ctx 8 (balances entry.bucket f) (entry.changes f) := by
  rw [applyEntry_self, effectFields, LedgerEntry.stored, hf]
  exact ctx.quantize_add_eq_iff (by norm_num) (hgrid _ f hf) (h.value_bound hf)

theorem Movable.value_exact {entry : LedgerEntry} (h : Movable ctx balances entry)
    (hgrid : ValuesOnGrid balances) {f : BucketField} (hf : f.IsValue)
    (hchange : OnGrid 8 (entry.changes f)) :
    applyEntry ctx balances entry entry.bucket f =
      balances entry.bucket f + entry.changes f := by
  have hsum : OnGrid 8 (balances entry.bucket f + entry.changes f) := (hgrid _ f hf).add hchange
  have hround : |ctx.round (balances entry.bucket f + entry.changes f)| < 10 ^ 16 :=
    Context.abs_lt_of_abs_quantize_lt (h.value_bound hf)
  have hlimit : OnGrid 12 ((10 : ℚ) ^ 16) := by
    have hint := OnGrid.intCast 12 ((10 : ℤ) ^ 16)
    push_cast at hint
    exact hint
  have habs := ctx.abs_lt_of_abs_round_lt hlimit (by norm_num) hround
  have hkeeps : ctx.add (balances entry.bucket f) (entry.changes f) = _ :=
    ctx.keeps _ (hsum.mono (by norm_num)) habs.le
  rw [applyEntry_self, effectFields, hf, hkeeps]
  exact quantize_of_onGrid hsum

theorem Movable.value_unchanged {entry : LedgerEntry} (h : Movable ctx balances entry)
    (hgrid : ValuesOnGrid balances) {f : BucketField} (hf : f.IsValue)
    (hzero : entry.changes f = 0) :
    applyEntry ctx balances entry entry.bucket f = balances entry.bucket f := by
  rw [h.value_exact hgrid hf (hzero ▸ OnGrid.zero 8), hzero, add_zero]

/-- What a row does to a value that it leaves alone or whose sum is untied. -/
theorem Movable.value {entry : LedgerEntry} (h : Movable ctx balances entry)
    (hgrid : ValuesOnGrid balances) {f : BucketField} (hf : f.IsValue)
    (hsafe : entry.changes f = 0 ∨ Untied ctx 8 (balances entry.bucket f) (entry.changes f))
    (k : Bucket) :
    Inventory.applyEntry ctx balances entry k f =
      balances k f + if entry.bucket = k then entry.stored f else 0 := by
  by_cases hk : k = entry.bucket
  · subst hk
    rw [if_pos rfl]
    rcases hsafe with hzero | huntied
    · have hstored : entry.stored f = 0 := by
        rw [LedgerEntry.stored, hzero, numeric_zero]
      rw [h.value_unchanged hgrid hf hzero, hstored, add_zero]
    · exact (h.value_iff hgrid hf).2 huntied
  · rw [applyEntry_ne hk, if_neg (Ne.symm hk), add_zero]

theorem Moves.value_unchanged {entries : List LedgerEntry}
    (h : Moves ctx balances entries balances') (hgrid : ValuesOnGrid balances) {f : BucketField}
    (hf : f.IsValue) (hzero : ∀ e ∈ entries, e.changes f = 0) (k : Bucket) :
    balances' k f = balances k f := by
  induction h with
  | nil => rfl
  | @cons balances _ entry entries hmovable _ ih =>
      have hfirst : entry.changes f = 0 := hzero entry (by simp)
      rw [ih (hgrid.applyEntry entry) fun e he => hzero e (List.mem_cons_of_mem _ he),
        hmovable.value hgrid hf (.inl hfirst) k, LedgerEntry.stored, hfirst, numeric_zero, ite_self,
        add_zero]

/-- The balances keep up with the sums of the rows all along exactly when all rows are
untied. -/
theorem Moves.allUntied_iff {entries : List LedgerEntry} (h : Moves ctx balances entries balances')
    (hgrid : ValuesOnGrid balances) :
    AllUntied ctx balances entries ↔ ∀ rows, rows <+: entries → Reconciled ctx balances rows := by
  induction h with
  | nil balances =>
      refine iff_of_true trivial fun rows hrows => ?_
      rw [List.prefix_nil.1 hrows]
      exact fun k f _ => (add_zero _).symm
  | @cons balances balances' entry entries hmovable _ ih =>
      have hstep : ∀ k f, BucketField.IsValue f →
          (∀ f, BucketField.IsValue f → Untied ctx 8 (balances entry.bucket f) (entry.changes f)) →
          applyEntry ctx balances entry k f =
            balances k f + if entry.bucket = k then entry.stored f else 0 :=
        fun k f hf hall => hmovable.value hgrid hf (.inr (hall f hf)) k
      rw [AllUntied, ih (hgrid.applyEntry entry)]
      constructor
      · rintro ⟨hfirst, hrest⟩ rows hrows
        cases rows with
        | nil => exact fun k f _ => (add_zero _).symm
        | cons row rows =>
            obtain ⟨rfl, htail⟩ := List.cons_prefix_cons.1 hrows
            intro k f hf
            have hlater : Inventory.replay ctx balances (row :: rows) k f = _ :=
              hrest rows htail k f hf
            rw [hlater, hstep k f hf fun f => hfirst f (mem_bucketFields f), storedSum_cons,
              add_assoc]
      · intro hall
        have hfirst : ∀ f, BucketField.IsValue f →
            Untied ctx 8 (balances entry.bucket f) (entry.changes f) := by
          intro f hf
          have hone := hall [entry] (by simp) entry.bucket f hf
          refine (hmovable.value_iff hgrid hf).1 ?_
          rw [storedSum_cons, if_pos rfl, storedSum_nil, add_zero] at hone
          exact hone
        refine ⟨fun f _ => hfirst f, fun rows hrows k f hf => ?_⟩
        have hlater : Inventory.replay ctx (Inventory.applyEntry ctx balances entry) rows k f = _ :=
          hall (entry :: rows) (List.cons_prefix_cons.2 ⟨rfl, hrows⟩) k f hf
        rw [hlater, hstep k f hf hfirst, storedSum_cons, add_assoc]

end Rows

/-! ## Throughout a run -/

theorem Passes.history {ctx : Context 28 12} {cond : CallCondition} {db : Database}
    (h : Passes ctx (· = .empty) cond db) : Moves ctx (fun _ _ => 0) db.ledger db.balances := by
  refine h.invariant (P := fun db => Moves ctx (fun _ _ => 0) db.ledger db.balances)
    (fun db (hdb : db = .empty) => ?_) fun env db db' hpasses hdb hturn => ?_
  · rw [hdb]
    exact .nil _
  · cases hturn with
    | bookkeeping hbook =>
        rw [hbook.stock.ledger, hbook.stock.balances]
        exact hdb
    | call hvalid _ hrun =>
        have hbalanced : Balanced db :=
          hpasses.balanced fun db (hdb : db = .empty) => hdb ▸ Balanced.empty
        obtain ⟨entries, hmoved, _⟩ :=
          (Call.posted hvalid hrun).onGrid hbalanced.steady hbalanced.reservations
        rw [hmoved.ledger]
        exact hdb.append hmoved.moves

theorem Passes.valuesOnGrid {ctx : Context 28 12} {cond : CallCondition} {db : Database}
    (h : Passes ctx (· = .empty) cond db) : ValuesOnGrid db.balances :=
  h.history.valuesOnGrid fun _ _ _ => OnGrid.zero 8

/-- While no effect of a run is a tie that the balance and the ledger round apart, the
balances of every column are the sums of the ledger and the report is empty; and only
then have they been so after every effect. -/
theorem values_reconciled {ctx : Context 28 12} {db : Database} (h : Reachable ctx db) :
    (AllUntied ctx (fun _ _ => 0) db.ledger →
      (∀ k f, db.balances k f = db.ledgerSum k f) ∧ db.reconciliation = []) ∧
    (AllUntied ctx (fun _ _ => 0) db.ledger ↔
      ∀ rows, rows <+: db.ledger → Reconciled ctx (fun _ _ => 0) rows) := by
  have hhistory := (Reachable.passes h).history
  have hiff := hhistory.allUntied_iff fun _ _ _ => OnGrid.zero 8
  refine ⟨fun huntied => ?_, hiff⟩
  have hsums : ∀ k f, db.balances k f = db.ledgerSum k f := by
    intro k f
    rcases f.isQuantity_or_isValue with hf | hf
    · exact (Reachable.balanced h).sums k f hf
    · have hall := hiff.1 huntied db.ledger (List.prefix_refl _) k f hf
      rw [← hhistory.replay, zero_add] at hall
      exact hall
  exact ⟨hsums, reconciliation_eq_nil hsums⟩

namespace Sample

/-- A receipt line of one hundredth of a hundredth at the given cost. -/
def tinyLine (cost : Amount) : LineBody := receiptLine ⟨1 / 10000, by decide +kernel⟩ cost

/-- Two receipts, one of them for nothing, leave an average cost of five decimals; issuing
half of the stock takes out a value exactly between two numbers of eight decimals. -/
def tied : List Request :=
  [setUp {},
    postNew 2 .receipts 1 (document (tinyLine ⟨3 / 10000, by decide +kernel⟩)),
    postNew 3 .receipts 2 (document (tinyLine free)),
    postNew 4 .issues 3 (document (line ⟨1 / 10000, by decide +kernel⟩))]

end Sample

/-- The receipt of five units at two is reconciled. -/
theorem values_reconciled_received :
    (serveAll pythonContext .empty Sample.received).reconciliation = [] :=
  (((values_reconciled (reachable_serveAll pythonContext Sample.received)).1)
    (by decide +kernel)).2

/-- After the issue at a tie the balance has twice the value that the ledger has. -/
theorem values_reconciled_fails :
    ¬ ∀ (db : Database) (k : Bucket), Reachable pythonContext db →
      db.balances k .inventoryValue = db.ledgerSum k .inventoryValue ∧
        db.balances k .transitValue = db.ledgerSum k .transitValue := by
  intro hclaim
  have hequal := hclaim _ Sample.bucket (reachable_serveAll pythonContext Sample.tied)
  exact absurd hequal (by decide +kernel)

end Cestos.Inventory
