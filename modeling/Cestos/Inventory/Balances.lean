import Cestos.Inventory.Turns

/-!
# Balances and the ledger

The four quantity columns have four decimals, and so has every quantity that is
posted. `effect` therefore adds without rounding, and the balances of a bucket are
the sums of its ledger rows.
-/

namespace Cestos.Inventory

open Cestos.Core Cestos.Core.Decimal

/-- What some ledger rows hold for a column of a bucket. -/
def storedSum (entries : List LedgerEntry) (k : Bucket) (f : BucketField) : ℚ :=
  ((entries.filter (·.bucket = k)).map (·.stored f)).sum

/-- What the ledger holds for a column of a bucket. -/
def Database.ledgerSum (db : Database) (k : Bucket) (f : BucketField) : ℚ :=
  storedSum db.ledger k f

/-- What some ledger rows change in a column of a bucket. -/
def entriesSum (entries : List LedgerEntry) (k : Bucket) (f : BucketField) : ℚ :=
  ((entries.filter (·.bucket = k)).map (·.changes f)).sum

/-- A column of four decimals. -/
abbrev BucketField.IsQuantity (f : BucketField) : Prop := f.scale = 4

/-- The quantities of a ledger row have four decimals. -/
def LedgerEntry.OnGrid (e : LedgerEntry) : Prop :=
  ∀ f : BucketField, f.IsQuantity → Decimal.OnGrid 4 (e.changes f)

/-- Balances whose quantities have four decimals and that `effect` would accept. -/
structure Steady (balances : Bucket → BucketFields) : Prop where
  grid : ∀ k f, BucketField.IsQuantity f → Decimal.OnGrid 4 (balances k f)
  bound : ∀ k f, BucketField.IsQuantity f → |balances k f| < 10 ^ 14
  enough : ∀ k, 0 ≤ lowest (balances k)

@[simp] theorem entriesSum_nil (k : Bucket) (f : BucketField) : entriesSum [] k f = 0 := rfl

theorem entriesSum_cons (e : LedgerEntry) (entries : List LedgerEntry) (k : Bucket)
    (f : BucketField) :
    entriesSum (e :: entries) k f =
      (if e.bucket = k then e.changes f else 0) + entriesSum entries k f := by
  by_cases hk : e.bucket = k <;> simp [entriesSum, hk]

@[simp] theorem storedSum_nil (k : Bucket) (f : BucketField) : storedSum [] k f = 0 := rfl

theorem storedSum_cons (e : LedgerEntry) (entries : List LedgerEntry) (k : Bucket)
    (f : BucketField) :
    storedSum (e :: entries) k f =
      (if e.bucket = k then e.stored f else 0) + storedSum entries k f := by
  by_cases hk : e.bucket = k <;> simp [storedSum, hk]

theorem ledgerSum_append {db db' : Database} {entries : List LedgerEntry}
    (h : db'.ledger = db.ledger ++ entries) (k : Bucket) (f : BucketField) :
    db'.ledgerSum k f = db.ledgerSum k f + storedSum entries k f := by
  simp [Database.ledgerSum, storedSum, h]

theorem LedgerEntry.OnGrid.stored {e : LedgerEntry} (h : e.OnGrid) {f : BucketField}
    (hf : f.IsQuantity) : e.stored f = e.changes f := by
  rw [LedgerEntry.stored, hf]
  exact numeric_of_onGrid (h f hf)

theorem stored_entriesSum {entries : List LedgerEntry} (h : ∀ e ∈ entries, e.OnGrid) (k : Bucket)
    {f : BucketField} (hf : f.IsQuantity) : storedSum entries k f = entriesSum entries k f := by
  refine congrArg List.sum (List.map_congr_left fun e he => ?_)
  exact (h e (List.mem_of_mem_filter he)).stored hf

/-! ## `effect` -/

theorem digits_of_isQuantity {f : BucketField} (hf : f.IsQuantity) : f.digits = 18 := by
  cases f <;> first | rfl | cases hf

theorem abs_lt_of_fits {x : ℚ} (hx : Decimal.OnGrid 4 x) (h : Fits 18 4 x) : |x| < 10 ^ 14 := by
  rw [Fits, numeric_of_onGrid hx] at h
  exact h

theorem effectFields_quantity (ctx : Context 28 12) {fields changes : BucketFields}
    {f : BucketField} (hf : f.IsQuantity) (hx : Decimal.OnGrid 4 (fields f))
    (hxb : |fields f| < 10 ^ 14) (hy : Decimal.OnGrid 4 (changes f))
    (hyb : |changes f| < 10 ^ 14) :
    effectFields ctx fields changes f = fields f + changes f := by
  have hsum : Decimal.OnGrid 4 (fields f + changes f) := hx.add hy
  have hbound : |fields f + changes f| ≤ 10 ^ (28 - 12) := by
    have := abs_add_le (fields f) (changes f)
    norm_num at hxb hyb ⊢
    linarith
  have hkeep : ctx.add (fields f) (changes f) = fields f + changes f :=
    ctx.keeps _ (hsum.mono (by norm_num)) hbound
  rw [effectFields, hkeep, hf]
  exact quantize_of_onGrid hsum

section Moves

variable {ctx : Context 28 12} {balances balances' : Bucket → BucketFields}

/-- One row: the balances stay steady and the bucket moves by what the row says. -/
theorem Movable.steady {entry : LedgerEntry} (h : Movable ctx balances entry)
    (hgrid : entry.OnGrid) (hsteady : Steady balances) :
    Steady (applyEntry ctx balances entry) ∧ ∀ k f, BucketField.IsQuantity f →
      applyEntry ctx balances entry k f =
        balances k f + if entry.bucket = k then entry.changes f else 0 := by
  have hchanged : ∀ f, BucketField.IsQuantity f →
      effectFields ctx (balances entry.bucket) entry.changes f =
        balances entry.bucket f + entry.changes f := by
    intro f hf
    have hfits := h.changes f (mem_bucketFields f)
    rw [digits_of_isQuantity hf, hf] at hfits
    exact effectFields_quantity ctx hf (hsteady.grid _ f hf) (hsteady.bound _ f hf) (hgrid f hf)
      (abs_lt_of_fits (hgrid f hf) hfits)
  have hsum : ∀ k f, BucketField.IsQuantity f → applyEntry ctx balances entry k f =
      balances k f + if entry.bucket = k then entry.changes f else 0 := by
    intro k f hf
    by_cases hk : k = entry.bucket
    · subst hk
      rw [applyEntry_self, if_pos rfl, hchanged f hf]
    · rw [applyEntry_ne hk, if_neg (Ne.symm hk), add_zero]
  have hgrid' : ∀ k f, BucketField.IsQuantity f →
      Decimal.OnGrid 4 (applyEntry ctx balances entry k f) := by
    intro k f hf
    rw [hsum k f hf]
    split
    · exact (hsteady.grid k f hf).add (hgrid f hf)
    · exact (hsteady.grid k f hf).add (OnGrid.zero 4)
  refine ⟨⟨hgrid', fun k f hf => ?_, fun k => ?_⟩, hsum⟩
  · by_cases hk : k = entry.bucket
    · subst hk
      have hfits := h.storable f (mem_bucketFields f)
      rw [digits_of_isQuantity hf, hf, ← applyEntry_self] at hfits
      exact abs_lt_of_fits (hgrid' _ f hf) hfits
    · rw [applyEntry_ne hk]
      exact hsteady.bound k f hf
  · by_cases hk : k = entry.bucket
    · subst hk
      rw [applyEntry_self]
      exact h.enough
    · rw [applyEntry_ne hk]
      exact hsteady.enough k

/-- A sequence of rows moves every bucket by the sum of its rows. -/
theorem Moves.steady {entries : List LedgerEntry} (h : Moves ctx balances entries balances')
    (hgrid : ∀ e ∈ entries, e.OnGrid) (hsteady : Steady balances) :
    Steady balances' ∧ ∀ k f, BucketField.IsQuantity f →
      balances' k f = balances k f + entriesSum entries k f := by
  induction h with
  | nil balances => exact ⟨hsteady, by simp⟩
  | cons hmovable _ ih =>
      obtain ⟨hone, hmoved⟩ := hmovable.steady (hgrid _ (by simp)) hsteady
      obtain ⟨hall, hrest⟩ := ih (fun e he => hgrid e (List.mem_cons_of_mem _ he)) hone
      refine ⟨hall, fun k f hf => ?_⟩
      rw [hrest k f hf, hmoved k f hf, entriesSum_cons, add_assoc]

end Moves

/-! ## The rows of every movement are on the grid -/

theorem Changes.onGrid {c : Changes} {tx : Id} {k : Bucket}
    (honHand : Decimal.OnGrid 4 c.quantityOnHand) (hreserved : Decimal.OnGrid 4 c.quantityReserved)
    (hquarantined : Decimal.OnGrid 4 c.quantityQuarantined)
    (hinTransit : Decimal.OnGrid 4 c.quantityInTransit) :
    LedgerEntry.OnGrid ⟨tx, k, c.fields⟩ := by
  intro f hf
  cases f with
  | quantityOnHand => exact honHand
  | quantityReserved => exact hreserved
  | quantityQuarantined => exact hquarantined
  | quantityInTransit => exact hinTransit
  | inventoryValue => cases hf
  | transitValue => cases hf

theorem reversalEntry_onGrid (tx : Id) (e : LedgerEntry) : (reversalEntry tx e).OnGrid := by
  intro f hf
  have hstored : Decimal.OnGrid 4 (e.stored f) := by
    rw [LedgerEntry.stored, hf]
    exact onGrid_numeric 4 _
  exact hstored.neg

theorem adjustmentChanges_onGrid {ctx : Context 28 12} {purpose : Purpose}
    {quarantined delta q cost : ℚ} {tx : Id} {k : Bucket} (hquarantined : Decimal.OnGrid 4 quarantined)
    (hdelta : Decimal.OnGrid 4 delta) (hq : Decimal.OnGrid 4 q) :
    LedgerEntry.OnGrid ⟨tx, k, adjustmentChanges ctx purpose quarantined delta q cost⟩ := by
  have hmin : Decimal.OnGrid 4 (-min q quarantined) := by
    rcases min_choice q quarantined with h | h <;> rw [h]
    · exact hq.neg
    · exact hquarantined.neg
  unfold adjustmentChanges
  split
  · exact Changes.onGrid (.zero 4) (.zero 4) hq (.zero 4)
  · exact Changes.onGrid (.zero 4) (.zero 4) hq.neg (.zero 4)
  · exact Changes.onGrid hdelta (.zero 4) hmin (.zero 4)
  · exact Changes.onGrid hdelta (.zero 4) hmin (.zero 4)
  · exact Changes.onGrid hdelta (.zero 4) (.zero 4) (.zero 4)

theorem onGrid_abs {s : ℕ} {x : ℚ} (h : Decimal.OnGrid s x) : Decimal.OnGrid s |x| := by
  rcases abs_choice x with hx | hx <;> rw [hx]
  · exact h
  · exact h.neg

theorem onGrid_ite {s : ℕ} {x : ℚ} {p : Prop} [Decidable p] (h : Decimal.OnGrid s x) :
    Decimal.OnGrid s (if p then x else 0) := by
  split
  · exact h
  · exact .zero s

/-- The balances after a turn, with the ledger rows that were written. -/
structure Moved (ctx : Context 28 12) (db : Database) (entries : List LedgerEntry)
    (db' : Database) : Prop where
  moves : Moves ctx db.balances entries db'.balances
  ledger : db'.ledger = db.ledger ++ entries

theorem Movement.moved {ctx : Context 28 12} {db mid db' : Database} {tx : Transaction}
    {entries : List LedgerEntry} (h : Movement ctx mid tx entries db')
    (hbalances : mid.balances = db.balances) (hledger : mid.ledger = db.ledger) :
    Moved ctx db entries db' :=
  ⟨hbalances ▸ h.moves, hledger ▸ h.ledger⟩

/-- The reserved quantities have four decimals. -/
def ReservationsOnGrid (db : Database) : Prop :=
  ∀ row ∈ db.reservations.rows, Decimal.OnGrid 4 row.quantity ∧
    Decimal.OnGrid 4 row.fulfilledQuantity

theorem MovePosted.onGrid {ctx : Context 28 12} {env : Env} {mid db' : Database} {m : Move}
    {kind : DocumentKind} {act : Action} (h : MovePosted ctx env mid m kind act db')
    (hq : Decimal.OnGrid 4 m.q) (hsteady : Steady mid.balances) :
    ∃ entries, Moved ctx mid entries db' ∧ ∀ e ∈ entries, e.OnGrid := by
  have hquarantined : Decimal.OnGrid 4 (mid.balances m.bucket .quantityQuarantined) :=
    hsteady.grid _ _ rfl
  cases h with
  | receipt h =>
      refine ⟨_, h.movement.moved rfl rfl, fun e he => ?_⟩
      rw [List.mem_singleton.1 he]
      exact Changes.onGrid hq (.zero 4) (.zero 4) (.zero 4)
  | issue h =>
      refine ⟨_, h.movement.moved rfl rfl, fun e he => ?_⟩
      rw [List.mem_singleton.1 he]
      exact Changes.onGrid hq.neg (onGrid_ite hq.neg) (.zero 4) (.zero 4)
  | returned h =>
      refine ⟨_, h.movement.moved rfl rfl, fun e he => ?_⟩
      rw [List.mem_singleton.1 he]
      exact Changes.onGrid hq (.zero 4) (onGrid_ite hq) (.zero 4)
  | dispatch h =>
      refine ⟨_, h.movement.moved rfl rfl, fun e he => ?_⟩
      rw [List.mem_singleton.1 he]
      exact Changes.onGrid hq.neg (.zero 4) (.zero 4) hq
  | receive h =>
      refine ⟨_, h.movement.moved rfl rfl, fun e he => ?_⟩
      rcases List.mem_pair.1 he with rfl | rfl
      · exact Changes.onGrid (.zero 4) (.zero 4) (.zero 4) hq.neg
      · exact Changes.onGrid hq (.zero 4) (.zero 4) (.zero 4)
  | adjustment _ hdelta h =>
      refine ⟨_, h.movement.moved rfl rfl, fun e he => ?_⟩
      rw [List.mem_singleton.1 he]
      refine adjustmentChanges_onGrid hquarantined ?_ hq
      rw [hdelta]
      split
      · exact hq
      · exact hq.neg
  | @count _ counted _ _ _ _ _ _ hdelta _ h =>
      refine ⟨_, h.movement.moved rfl rfl, fun e he => ?_⟩
      rw [List.mem_singleton.1 he]
      have hgrid := hdelta ▸ counted.2.sub (hsteady.grid m.bucket .quantityOnHand rfl)
      exact adjustmentChanges_onGrid hquarantined hgrid (onGrid_abs hgrid)
  | unchanged => exact ⟨[], ⟨.nil _, by simp⟩, by simp⟩

theorem CallPosted.onGrid {ctx : Context 28 12} {env : Env} {db db' : Database} {c : Call}
    (hsteady : Steady db.balances) (hreservations : ReservationsOnGrid db)
    (h : CallPosted ctx env db c db') :
    ∃ entries, Moved ctx db entries db' ∧ ∀ e ∈ entries, e.OnGrid := by
  cases h with
  | line _ _ _ hprepared hmove =>
      obtain ⟨lots, serials, rfl⟩ := hprepared.frame
      obtain ⟨entries, hmoved, hgrid⟩ := hmove.onGrid hprepared.grid hsteady
      exact ⟨entries, ⟨hmoved.moves, hmoved.ledger⟩, hgrid⟩
  | reserve h =>
      refine ⟨_, h.movement.moved rfl rfl, fun e he => ?_⟩
      rw [List.mem_singleton.1 he]
      exact Changes.onGrid (.zero 4) h.grid (.zero 4) (.zero 4)
  | release h =>
      refine ⟨_, h.movement.moved rfl rfl, fun e he => ?_⟩
      rw [List.mem_singleton.1 he]
      obtain ⟨hquantity, hfulfilled⟩ := hreservations _ (Table.mem_of_find? h.found)
      exact Changes.onGrid (.zero 4) (hquantity.sub hfulfilled).neg (.zero 4) (.zero 4)
  | reverse h =>
      refine ⟨_, h.movement.moved rfl rfl, fun e he => ?_⟩
      obtain ⟨entry, _, rfl⟩ := List.mem_map.1 he
      exact reversalEntry_onGrid _ entry
  | nothing => exact ⟨[], ⟨.nil _, by simp⟩, by simp⟩

/-- Every quantity moves by the ledger rows that were written. -/
theorem CallPosted.quantities {ctx : Context 28 12} {env : Env} {db db' : Database} {c : Call}
    {entries : List LedgerEntry} (hsteady : Steady db.balances)
    (hreservations : ReservationsOnGrid db) (h : CallPosted ctx env db c db')
    (hledger : db'.ledger = db.ledger ++ entries) (k : Bucket) {f : BucketField}
    (hf : f.IsQuantity) : db'.balances k f = db.balances k f + entriesSum entries k f := by
  obtain ⟨written, hmoved, hgrid⟩ := h.onGrid hsteady hreservations
  obtain rfl : written = entries := List.append_cancel_left (hmoved.ledger.symm.trans hledger)
  exact (hmoved.moves.steady hgrid hsteady).2 k f hf

/-! ## Throughout a run -/

/-- What holds between any two turns. -/
structure Balanced (db : Database) : Prop where
  steady : Steady db.balances
  reservations : ReservationsOnGrid db
  sums : ∀ k f, BucketField.IsQuantity f → db.balances k f = db.ledgerSum k f

theorem Balanced.empty : Balanced .empty where
  steady := {
    grid := fun _ _ _ => .zero 4
    bound := fun _ _ _ => by simp [Database.empty]
    enough := fun _ => by simp [lowest, Database.empty] }
  reservations := fun row hrow => by cases hrow
  sums := fun _ _ _ => by simp [Database.ledgerSum, Database.empty]

theorem Covered.onGrid {m : Move} {before after : Table Reservation.id}
    (hq : Decimal.OnGrid 4 m.q) (h : Covered m before after)
    (hgrid : ∀ row ∈ before.rows, Decimal.OnGrid 4 row.quantity ∧
      Decimal.OnGrid 4 row.fulfilledQuantity) :
    ∀ row ∈ after.rows, Decimal.OnGrid 4 row.quantity ∧
      Decimal.OnGrid 4 row.fulfilledQuantity := by
  cases h with
  | unreserved => exact hgrid
  | @reserved id old _ hfind _ =>
      intro row hrow
      rcases Table.mem_set.1 hrow with ⟨hold, _⟩ | ⟨rfl, _⟩
      · exact hgrid row hold
      · obtain ⟨hquantity, hfulfilled⟩ := hgrid old (Table.mem_of_find? hfind)
        exact ⟨hquantity, hfulfilled.add hq⟩

theorem CallPosted.reservationsOnGrid {ctx : Context 28 12} {env : Env} {db db' : Database}
    {c : Call} (hgrid : ReservationsOnGrid db) (h : CallPosted ctx env db c db') :
    ReservationsOnGrid db' := by
  cases h with
  | line _ _ _ hprepared hmove =>
      obtain ⟨lots, serials, rfl⟩ := hprepared.frame
      unfold ReservationsOnGrid
      cases hmove with
      | receipt h => rw [h.reservations]; exact hgrid
      | issue h => exact h.reservations.onGrid hprepared.grid hgrid
      | returned h => rw [h.reservations]; exact hgrid
      | dispatch h => rw [h.reservations]; exact hgrid
      | receive h => rw [h.reservations]; exact hgrid
      | adjustment _ _ h => rw [h.reservations]; exact hgrid
      | count _ _ _ _ h => rw [h.reservations]; exact hgrid
      | unchanged => exact hgrid
  | reserve h =>
      intro row hrow
      rcases (Table.mem_insert? h.inserted).1 hrow with hold | rfl
      · exact hgrid row hold
      · exact ⟨h.grid, h.fresh.2 ▸ .zero 4⟩
  | release h =>
      intro row hrow
      rw [h.reservations] at hrow
      rcases Table.mem_set.1 hrow with ⟨hold, _⟩ | ⟨rfl, _⟩
      · exact hgrid row hold
      · have hfound := hgrid _ (Table.mem_of_find? h.found)
        exact ⟨hfound.1, hfound.2⟩
  | reverse h =>
      intro row hrow
      rw [h.reservations] at hrow
      exact hgrid row hrow
  | nothing => exact hgrid

theorem Balanced.turn {ctx : Context 28 12} {env : Env} {cond : CallCondition} {db db' : Database}
    (h : Balanced db) (hturn : Turn ctx env cond db db') : Balanced db' := by
  cases hturn with
  | bookkeeping hbook =>
      obtain ⟨_, hbalances, hledger, _, hreservations, _⟩ := hbook.stock
      refine ⟨hbalances ▸ h.steady, ?_, fun k f hf => ?_⟩
      · unfold ReservationsOnGrid
        rw [hreservations]
        exact h.reservations
      · unfold Database.ledgerSum
        rw [hbalances, hledger]
        exact h.sums k f hf
  | call hvalid _ hrun =>
      have hposted := Call.posted hvalid hrun
      obtain ⟨entries, hmoved, hgrid⟩ := hposted.onGrid h.steady h.reservations
      obtain ⟨hsteady, hsums⟩ := hmoved.moves.steady hgrid h.steady
      refine ⟨hsteady, hposted.reservationsOnGrid h.reservations, fun k f hf => ?_⟩
      rw [hsums k f hf, ledgerSum_append hmoved.ledger, stored_entriesSum hgrid k hf, h.sums k f hf]

theorem Passes.balanced {ctx : Context 28 12} {init : Database → Prop} {cond : CallCondition}
    {db : Database} (hinit : ∀ db, init db → Balanced db) (h : Passes ctx init cond db) :
    Balanced db :=
  h.invariant hinit fun _ _ _ _ hdb hturn => hdb.turn hturn

theorem Reachable.balanced {ctx : Context 28 12} {cond : CallCondition} {db : Database}
    (h : ReachableWhere ctx (· = .empty) cond db) : Balanced db :=
  (Reachable.passes h).balanced fun db (hdb : db = .empty) => hdb ▸ Balanced.empty

theorem lowest_nonneg {fields : BucketFields} : 0 ≤ lowest fields ↔
    0 ≤ fields .quantityOnHand ∧ 0 ≤ fields .quantityReserved ∧
      0 ≤ fields .quantityQuarantined ∧ 0 ≤ fields .quantityInTransit ∧
      fields .quantityReserved + fields .quantityQuarantined ≤ fields .quantityOnHand := by
  simp only [lowest, le_min_iff, and_assoc, sub_sub, sub_nonneg]

/-- In every committed state the quantities of every bucket are sound and are the sums
of its ledger rows; a request that raises changes neither. -/
theorem quantities_sound {ctx : Context 28 12} {db : Database} (h : Reachable ctx db) :
    (∀ k : Bucket,
      0 ≤ db.balances k .quantityOnHand ∧ 0 ≤ db.balances k .quantityReserved ∧
      0 ≤ db.balances k .quantityQuarantined ∧ 0 ≤ db.balances k .quantityInTransit ∧
      db.balances k .quantityReserved + db.balances k .quantityQuarantined ≤
        db.balances k .quantityOnHand ∧
      ∀ f ∈ [BucketField.quantityOnHand, .quantityReserved, .quantityQuarantined,
        .quantityInTransit], db.balances k f = db.ledgerSum k f) ∧
    ∀ (r : Request) (e : ServiceError), r.exec ctx db = .error e →
      (r.serve ctx db).balances = db.balances ∧ (r.serve ctx db).ledger = db.ledger := by
  have hbalanced := Reachable.balanced h
  refine ⟨fun k => ?_, fun r e herror => ?_⟩
  · obtain ⟨honHand, hreserved, hquarantined, hinTransit, havailable⟩ :=
      lowest_nonneg.1 (hbalanced.steady.enough k)
    refine ⟨honHand, hreserved, hquarantined, hinTransit, havailable, fun f hf => ?_⟩
    refine hbalanced.sums k f ?_
    simp only [List.mem_cons, List.not_mem_nil, or_false] at hf
    rcases hf with rfl | rfl | rfl | rfl <;> rfl
  · rw [Request.serve_of_error herror]
    exact ⟨rfl, rfl⟩

/-- Five units have been received, and the bucket and its ledger agree on them. -/
theorem quantities_sound_received :
    (serveAll pythonContext .empty Sample.received).balances Sample.bucket .quantityOnHand = 5 ∧
    (serveAll pythonContext .empty Sample.received).ledgerSum Sample.bucket .quantityOnHand = 5 := by
  have hfive : (serveAll pythonContext .empty Sample.received).balances Sample.bucket
      .quantityOnHand = 5 := by decide +kernel
  have hsound := (quantities_sound (reachable_serveAll pythonContext Sample.received)).1
    Sample.bucket
  have hledger := hsound.2.2.2.2.2 .quantityOnHand (by simp)
  exact ⟨hfive, hledger ▸ hfive⟩

end Cestos.Inventory
