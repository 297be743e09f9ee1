import Cestos.Inventory.Values
import Cestos.Inventory.Journal

/-!
# What movements cost

In exact arithmetic a movement takes out of a bucket the same share of its value as of its
quantity, and what it brings in is worth something or nothing. So a bucket keeps a value that
is not negative, and an empty bucket is worth nothing.
-/

namespace Cestos.Inventory

open Cestos.Core Cestos.Core.Decimal

/-- The arithmetic of quotients and products that are not rounded. -/
def exactContext : Context 28 12 := Decimal.exact 28 12

/-- The value of a bucket is not negative, and an empty bucket has none. -/
structure Sound (fields : BucketFields) : Prop where
  nonneg : 0 ≤ fields .inventoryValue
  empty : fields .quantityOnHand = 0 → fields .inventoryValue = 0

/-- The row takes nothing out, and what brings no stock brings no value. -/
structure LedgerEntry.Gains (e : LedgerEntry) : Prop where
  quantity : 0 ≤ e.changes .quantityOnHand
  value : 0 ≤ e.changes .inventoryValue
  free : e.changes .quantityOnHand = 0 → e.changes .inventoryValue = 0

/-- The row, before rounding, leaves its bucket sound. -/
def LedgerEntry.Fair (balances : Bucket → BucketFields) (e : LedgerEntry) : Prop :=
  Sound fun f => balances e.bucket f + e.changes f

/-- The row of an issue. -/
structure LedgerEntry.Takes (e : LedgerEntry) : Prop where
  quantity : e.changes .quantityOnHand < 0
  grid : Decimal.OnGrid 4 (e.changes .quantityOnHand)
  value : e.changes .inventoryValue ≤ 0

/-- The row of a receipt. -/
structure LedgerEntry.Brings (e : LedgerEntry) : Prop where
  quantity : 0 < e.changes .quantityOnHand
  quantityGrid : Decimal.OnGrid 4 (e.changes .quantityOnHand)
  value : 0 ≤ e.changes .inventoryValue
  valueGrid : Decimal.OnGrid 8 (e.changes .inventoryValue)

/-- The types of the transactions of receipts. -/
def TransactionType.receives (t : TransactionType) : Bool :=
  t.reversible && t ≠ .issue

/-- Rows that leave a bucket sound: they only bring something, or they are one fair row. -/
def FairRows (balances : Bucket → BucketFields) (entries : List LedgerEntry) : Prop :=
  (∀ e ∈ entries, e.Gains) ∨ ∃ e, entries = [e] ∧ e.Fair balances

section Rows

variable {balances balances' : Bucket → BucketFields} {entries : List LedgerEntry}
  {e : LedgerEntry} {fields : BucketFields} {item : Item} {delta q cost : ℚ}

theorem LedgerEntry.Brings.gains (h : e.Brings) : e.Gains :=
  ⟨h.quantity.le, h.value, fun hzero => absurd hzero h.quantity.ne'⟩

theorem LedgerEntry.Gains.fair (h : e.Gains) (hsound : Sound (balances e.bucket))
    (honHand : 0 ≤ balances e.bucket .quantityOnHand) : e.Fair balances := by
  refine ⟨add_nonneg hsound.nonneg h.value, fun hzero => ?_⟩
  have hquantity : e.changes .quantityOnHand = 0 := by
    linarith [h.quantity]
  have hempty : balances e.bucket .quantityOnHand = 0 := by
    linarith
  show balances e.bucket .inventoryValue + e.changes .inventoryValue = 0
  rw [hsound.empty hempty, h.free hquantity, add_zero]

/-- What is left when a share of the quantity and the same share of the value leave. -/
theorem Sound.leave (h : Sound fields) (item : Item) (hneg : delta < 0)
    (henough : 0 ≤ fields .quantityOnHand + delta) :
    0 ≤ fields .inventoryValue + delta * averageCost exactContext fields item ∧
      (fields .quantityOnHand + delta = 0 →
        fields .inventoryValue + delta * averageCost exactContext fields item = 0) := by
  have hpos : 0 < fields .quantityOnHand := by linarith
  have haverage : averageCost exactContext fields item =
      fields .inventoryValue / fields .quantityOnHand := if_neg hpos.ne'
  have hleft : fields .inventoryValue + delta * averageCost exactContext fields item =
      fields .inventoryValue * (fields .quantityOnHand + delta) / fields .quantityOnHand := by
    rw [haverage]
    field_simp
  rw [hleft]
  refine ⟨div_nonneg (mul_nonneg h.nonneg henough) hpos.le, fun hzero => ?_⟩
  rw [hzero, mul_zero, zero_div]

theorem averageCost_nonneg (h : Sound fields) (honHand : 0 ≤ fields .quantityOnHand)
    (hstandard : ∀ cost ∈ item.standardUnitCost, 0 ≤ cost) :
    0 ≤ averageCost exactContext fields item := by
  unfold averageCost
  split
  · cases hcost : item.standardUnitCost with
    | none => exact le_rfl
    | some cost => exact hstandard cost hcost
  · exact div_nonneg h.nonneg honHand

theorem Steady.onHand_nonneg (h : Steady balances) (k : Bucket) :
    0 ≤ balances k .quantityOnHand :=
  (lowest_nonneg.1 (h.enough k)).1

/-- `effect` accepts a row only when there is enough in its bucket. -/
theorem Movable.onHand (h : Movable exactContext balances e) (hgrid : e.OnGrid)
    (hsteady : Steady balances) :
    applyEntry exactContext balances e e.bucket .quantityOnHand =
        balances e.bucket .quantityOnHand + e.changes .quantityOnHand ∧
      0 ≤ balances e.bucket .quantityOnHand + e.changes .quantityOnHand := by
  obtain ⟨hafter, hmoved⟩ := h.steady hgrid hsteady
  have hsum := hmoved e.bucket .quantityOnHand rfl
  rw [if_pos rfl] at hsum
  exact ⟨hsum, hsum ▸ hafter.onHand_nonneg e.bucket⟩

/-- The value of the bucket after the row, rounded half to even. -/
theorem applyEntry_value (balances : Bucket → BucketFields) (e : LedgerEntry) :
    applyEntry exactContext balances e e.bucket .inventoryValue =
      quantize 8 (balances e.bucket .inventoryValue + e.changes .inventoryValue) := by
  rw [applyEntry_self]
  rfl

theorem Movable.sound (h : Movable exactContext balances e) (hgrid : e.OnGrid)
    (hsteady : Steady balances) (hsound : ∀ k, Sound (balances k)) (hfair : e.Fair balances) :
    ∀ k, Sound (applyEntry exactContext balances e k) := by
  intro k
  by_cases hk : k = e.bucket
  · subst hk
    obtain ⟨hquantity, -⟩ := h.onHand hgrid hsteady
    refine ⟨?_, fun hempty => ?_⟩
    · rw [applyEntry_value]
      exact quantize_nonneg 8 hfair.nonneg
    · rw [hquantity] at hempty
      rw [applyEntry_value, hfair.empty hempty, quantize_zero]
  · rw [applyEntry_ne hk]
    exact hsound k

theorem Moves.sound_of_gains (h : Moves exactContext balances entries balances')
    (hgrid : ∀ e ∈ entries, e.OnGrid) (hsteady : Steady balances)
    (hsound : ∀ k, Sound (balances k)) (hgains : ∀ e ∈ entries, e.Gains) :
    ∀ k, Sound (balances' k) := by
  induction h with
  | nil => exact hsound
  | @cons balances _ entry entries hmovable _ ih =>
      have hfirst := hgrid entry List.mem_cons_self
      have hfair := (hgains entry List.mem_cons_self).fair (hsound entry.bucket)
        (hsteady.onHand_nonneg entry.bucket)
      exact ih (fun e he => hgrid e (List.mem_cons_of_mem _ he)) (hmovable.steady hfirst hsteady).1
        (hmovable.sound hfirst hsteady hsound hfair)
        fun e he => hgains e (List.mem_cons_of_mem _ he)

theorem Moves.sound (h : Moves exactContext balances entries balances')
    (hgrid : ∀ e ∈ entries, e.OnGrid) (hsteady : Steady balances)
    (hsound : ∀ k, Sound (balances k)) (hfair : FairRows balances entries) :
    ∀ k, Sound (balances' k) := by
  rcases hfair with hgains | ⟨e, rfl, hfair⟩
  · exact h.sound_of_gains hgrid hsteady hsound hgains
  · obtain ⟨hmovable, rfl⟩ := h.single_inv
    exact hmovable.sound (hgrid e List.mem_cons_self) hsteady hsound hfair

end Rows

/-! ## Lines and their costs -/

/-- The amounts of a line: a quantity and, where it is known, a cost of four decimals. -/
structure Priced (line : Line) : Prop where
  quantity : 0 ≤ line.quantity ∧ OnGrid 4 line.quantity
  unitCost : ∀ cost ∈ line.unitCost, 0 ≤ cost ∧ OnGrid 4 cost

def Database.Priced (db : Database) : Prop := ∀ line ∈ db.lines.rows, Inventory.Priced line

/-- What a branch of `post_line` finds when it starts. -/
structure Ready (db : Database) (m : Move) : Prop where
  steady : Steady db.balances
  sound : ∀ k, Sound (db.balances k)
  costs : ∀ tx ∈ db.transactions.rows, 0 ≤ tx.unitCost ∧ 0 < tx.quantity
  lines : db.Priced
  line : Inventory.Priced m.line
  positive : 0 < m.q
  grid : OnGrid 4 m.q
  normalized : m.line.normalizedQuantity = m.q
  item : m.item.id = m.line.itemId
  cost : m.cost = averageCost exactContext (db.balances m.bucket) m.item
  standard : ∀ cost ∈ m.item.standardUnitCost, 0 ≤ cost

/-- What a transaction and its rows are worth. -/
structure Valued (balances : Bucket → BucketFields) (tx : Transaction)
    (entries : List LedgerEntry) : Prop where
  cost : 0 ≤ tx.unitCost
  buckets : ∀ e ∈ entries, e.bucket.itemId = tx.itemId
  owned : ∀ e ∈ entries, e.transactionId = tx.id
  fair : FairRows balances entries
  issue : tx.type = .issue → ∀ e ∈ entries, e.Takes
  receipt : tx.type.receives → ∃ e, entries = [e] ∧ e.Brings

/-- A movement of a call, with what it is worth. -/
structure Worked (env : Env) (db : Database) (receiving : Bool) (tx : Transaction)
    (entries : List LedgerEntry) (db' : Database) : Prop where
  movement : Movement exactContext db tx entries db'
  valued : Valued db.balances tx entries
  createdAt : tx.createdAt = env.now
  receives : tx.type.receives = receiving
  lines : db'.Priced

section Branches

variable {env : Env} {db db' : Database} {m : Move}

theorem Database.Priced.set (h : db.Priced) {line : Line} (hline : Inventory.Priced line) :
    ∀ other ∈ (db.lines.set line).rows, Inventory.Priced other := by
  intro other hother
  rcases Table.mem_set.1 hother with ⟨hold, -⟩ | ⟨rfl, -⟩
  · exact h other hold
  · exact hline

theorem finishLine_priced {q cost : ℚ} (h : finishLine exactContext db m.line q cost = .ok db')
    (hlines : db.Priced) (hline : Inventory.Priced m.line) (hcost : 0 ≤ cost) :
    db'.Priced ∧ ∃ lines, db' = { db with lines } := by
  simp only [finishLine, bind_eq_ok, ensure_eq_ok, exists_const, Except.ok.injEq] at h
  obtain ⟨-, rfl⟩ := h
  refine ⟨hlines.set ⟨hline.quantity, fun written hwritten => ?_⟩, _, rfl⟩
  obtain rfl := Option.some.inj hwritten
  exact ⟨numeric_nonneg 4 hcost, onGrid_numeric 4 cost⟩

theorem Ready.cost_nonneg (h : Ready db m) : 0 ≤ m.cost := by
  rw [h.cost]
  exact averageCost_nonneg (h.sound m.bucket) (h.steady.onHand_nonneg m.bucket) h.standard

/-- A row that takes stock out of the bucket of the line at the average cost. -/
theorem Ready.fair_of_leaves (h : Ready db m) {e : LedgerEntry}
    (hmovable : Movable exactContext db.balances e) (hgrid : e.OnGrid) (hbucket : e.bucket = m.bucket)
    (hneg : e.changes .quantityOnHand < 0)
    (hvalue : e.changes .inventoryValue = e.changes .quantityOnHand * m.cost) :
    e.Fair db.balances := by
  have henough := (hmovable.onHand hgrid h.steady).2
  have hleave := (h.sound e.bucket).leave m.item hneg henough
  rw [hbucket, ← h.cost, ← hvalue, ← hbucket] at hleave
  exact ⟨hleave.1, hleave.2⟩

theorem Ready.valued (h : Ready db m) {origin : Origin} {txkind : TransactionType} {cost q : ℚ}
    {tx : Transaction} {entries : List LedgerEntry}
    (hrecords : Records exactContext env db.items origin m.line.entry txkind cost q tx)
    (hcost : 0 ≤ cost) (hbuckets : ∀ e ∈ entries, e.bucket.itemId = m.item.id)
    (howned : ∀ e ∈ entries, e.transactionId = tx.id) (hfair : FairRows db.balances entries)
    (hissue : txkind = .issue → ∀ e ∈ entries, e.Takes)
    (hreceipt : txkind.receives → ∃ e, entries = [e] ∧ e.Brings) : Valued db.balances tx entries where
  cost := by
    rw [hrecords.unitCost]
    exact numeric_nonneg 8 hcost
  buckets e he := (hbuckets e he).trans (h.item.trans hrecords.itemId.symm)
  owned := howned
  fair := hfair
  issue htype := hissue (hrecords.type.symm.trans htype)
  receipt htype := hreceipt (hrecords.type ▸ htype)

theorem receiptType_receives (purpose : Purpose) : (receiptType purpose).receives = true := by
  cases purpose <;> rfl

/-- A receipt brings the product of the unit cost and the quantity of its line. -/
theorem receiptChanges_value (unitCost quantity : ℚ) {q : ℚ} (hq : q ≠ 0) :
    receiptChanges exactContext q (exactContext.div (exactContext.mul unitCost quantity) q)
      .inventoryValue = unitCost * quantity := by
  show q * (unitCost * quantity / q) = unitCost * quantity
  field_simp

theorem postReceipt_worked (hready : Ready db m) (h : postReceipt exactContext env db m = .ok db') :
    ∃ tx entries, Worked env db true tx entries db' := by
  simp only [postReceipt, bind_eq_ok, orError_eq_ok, Prod.exists] at h
  obtain ⟨unitCost, hunit, tx, db₁, htx, db₂, heffect, hfinish⟩ := h
  obtain ⟨hrecords, transactions, hinserted, rfl⟩ := transaction_eq_ok htx
  obtain ⟨hmovable, rfl⟩ := effect_eq_ok.1 heffect
  obtain ⟨hunitCost, hunitGrid⟩ := hready.line.unitCost unitCost hunit
  obtain ⟨hquantity, hquantityGrid⟩ := hready.line.quantity
  have hcost : 0 ≤ exactContext.div (exactContext.mul unitCost m.line.quantity) m.q :=
    div_nonneg (mul_nonneg hunitCost hquantity) hready.positive.le
  obtain ⟨hlines, lines, rfl⟩ := finishLine_priced hfinish hready.lines hready.line hcost
  have hvalue := receiptChanges_value unitCost m.line.quantity hready.positive.ne'
  have hbrings : LedgerEntry.Brings ⟨tx.id, m.bucket, receiptChanges exactContext m.q
      (exactContext.div (exactContext.mul unitCost m.line.quantity) m.q)⟩ := by
    have hnonneg := mul_nonneg hunitCost hquantity
    have hgrid := hunitGrid.mul hquantityGrid
    rw [← hvalue] at hnonneg hgrid
    exact ⟨hready.positive, hready.grid, hnonneg, hgrid⟩
  exact ⟨tx, _, {
    movement := ⟨rfl, hinserted, Moves.single hmovable, rfl⟩
    valued := hready.valued hrecords hcost (by simp [Move.bucket]) (by simp)
      (.inl fun e he => List.mem_singleton.1 he ▸ hbrings.gains)
      (fun hissue => absurd hissue (receiptType_ne_issue _)) fun _ => ⟨_, rfl, hbrings⟩
    createdAt := hrecords.createdAt
    receives := by rw [hrecords.type, receiptType_receives]
    lines := hlines }⟩

theorem fulfilRequest_priced (hlines : db.Priced) (h : fulfilRequest db m = .ok db') :
    db'.Priced ∧ ∃ lines documents, db' = { db with lines, documents } := by
  unfold fulfilRequest at h
  split at h
  · obtain rfl := Except.ok.inj h
    exact ⟨hlines, db.lines, db.documents, rfl⟩
  · simp only [bind_eq_ok, found_eq_ok, orError_eq_ok, ensure_eq_ok, exists_const,
      Except.ok.injEq] at h
    obtain ⟨request, -, -, -, reqline, hreqline, -, rfl⟩ := h
    have hline := hlines reqline (Database.mem_linesOf.1 (List.mem_of_find?_eq_some hreqline)).1
    exact ⟨hlines.set ⟨hline.quantity, hline.unitCost⟩, _, _, rfl⟩

theorem issueChanges_onGrid {ctx : Context 28 12} {reserved : Bool} {q cost : ℚ} {tx : Id}
    {k : Bucket} (hq : Decimal.OnGrid 4 q) :
    LedgerEntry.OnGrid ⟨tx, k, issueChanges ctx reserved q cost⟩ :=
  Changes.onGrid hq.neg (onGrid_ite hq.neg) (.zero 4) (.zero 4)

theorem dispatchChanges_onGrid {ctx : Context 28 12} {q cost : ℚ} {tx : Id} {k : Bucket}
    (hq : Decimal.OnGrid 4 q) : LedgerEntry.OnGrid ⟨tx, k, dispatchChanges ctx q cost⟩ :=
  Changes.onGrid hq.neg (.zero 4) (.zero 4) hq

theorem postIssue_worked (hready : Ready db m) (h : postIssue exactContext env db m = .ok db') :
    ∃ tx entries, Worked env db false tx entries db' := by
  simp only [postIssue, bind_eq_ok, ensure_eq_ok, exists_const, Prod.exists] at h
  obtain ⟨-, db₁, hcover, db₂, hrequest, tx, db₃, htx, db₄, heffect, db₅, hcustody, hfinish⟩ := h
  obtain ⟨reservations, -, rfl⟩ := coverReservation_eq_ok hcover
  have hcovered : ({ db with reservations } : Database).Priced := hready.lines
  obtain ⟨hmid, lines, documents, rfl⟩ := fulfilRequest_priced hcovered hrequest
  obtain ⟨hrecords, transactions, hinserted, rfl⟩ := transaction_eq_ok htx
  obtain ⟨hmovable, rfl⟩ := effect_eq_ok.1 heffect
  obtain ⟨custody, -, rfl⟩ := recordCustody_eq_ok hcustody
  obtain ⟨hlines, last, rfl⟩ := finishLine_priced hfinish hmid hready.line hready.cost_nonneg
  have hneg : -m.q < 0 := by linarith [hready.positive]
  have hvalue : -m.q * m.cost ≤ 0 := mul_nonpos_of_nonpos_of_nonneg hneg.le hready.cost_nonneg
  exact ⟨tx, _, {
    movement := ⟨rfl, hinserted, Moves.single hmovable, rfl⟩
    valued := hready.valued hrecords hready.cost_nonneg (by simp [Move.bucket]) (by simp)
      (.inr ⟨_, rfl, hready.fair_of_leaves hmovable (issueChanges_onGrid hready.grid) rfl hneg rfl⟩)
      (fun _ e he => by
        rw [List.mem_singleton.1 he]
        exact ⟨hneg, hready.grid.neg, hvalue⟩)
      fun hreceives => by cases hreceives
    createdAt := hrecords.createdAt
    receives := by rw [hrecords.type]; rfl
    lines := hlines }⟩

theorem postDispatch_worked (hready : Ready db m)
    (h : postDispatch exactContext env db m = .ok db') :
    ∃ tx entries, Worked env db false tx entries db' := by
  simp only [postDispatch, bind_eq_ok, Prod.exists] at h
  obtain ⟨tx, db₁, htx, db₂, heffect, hfinish⟩ := h
  obtain ⟨hrecords, transactions, hinserted, rfl⟩ := transaction_eq_ok htx
  obtain ⟨hmovable, rfl⟩ := effect_eq_ok.1 heffect
  obtain ⟨hlines, lines, rfl⟩ :=
    finishLine_priced hfinish hready.lines hready.line hready.cost_nonneg
  have hneg : -m.q < 0 := by linarith [hready.positive]
  exact ⟨tx, _, {
    movement := ⟨rfl, hinserted, Moves.single hmovable, rfl⟩
    valued := hready.valued hrecords hready.cost_nonneg (by simp [Move.bucket]) (by simp)
      (.inr ⟨_, rfl,
        hready.fair_of_leaves hmovable (dispatchChanges_onGrid hready.grid) rfl hneg rfl⟩)
      (fun hissue => by cases hissue) fun hreceives => by cases hreceives
    createdAt := hrecords.createdAt
    receives := by rw [hrecords.type]; rfl
    lines := hlines }⟩

theorem issuedCost_nonneg (hready : Ready db m) (issueId itemId : Id) (lotId serialId : Option Id) :
    0 ≤ issuedCost exactContext db issueId itemId lotId serialId := by
  have hfold : ∀ (txs : List Transaction) (total : ℚ), (∀ tx ∈ txs, 0 ≤ tx.unitCost ∧ 0 < tx.quantity) →
      0 ≤ total → 0 ≤ txs.foldl (fun total tx =>
        exactContext.add total (exactContext.mul tx.quantity tx.unitCost)) total := by
    intro txs
    induction txs with
    | nil => exact fun _ _ htotal => htotal
    | cons tx txs ih =>
        intro total hall htotal
        obtain ⟨hcost, hquantity⟩ := hall tx List.mem_cons_self
        refine ih _ (fun other hother => hall other (List.mem_cons_of_mem _ hother)) ?_
        exact add_nonneg htotal (mul_nonneg hquantity.le hcost)
  exact hfold _ 0 (fun tx htx => hready.costs tx (List.mem_filter.1 htx).1) le_rfl

theorem issued_nonneg (hready : Ready db m) (issueId itemId : Id) (lotId serialId : Option Id) :
    0 ≤ db.issued issueId itemId lotId serialId := by
  refine List.sum_nonneg fun x hx => ?_
  obtain ⟨tx, htx, rfl⟩ := List.mem_map.1 hx
  split
  · exact (hready.costs tx htx).2.le
  · exact le_rfl

theorem postReturn_worked (hready : Ready db m) (h : postReturn exactContext env db m = .ok db') :
    ∃ tx entries, Worked env db false tx entries db' := by
  simp only [postReturn, bind_eq_ok, orError_eq_ok, found_eq_ok, ensure_eq_ok, exists_const,
    Prod.exists] at h
  obtain ⟨issueId, -, original, -, -, -, tx, db₁, htx, db₂, heffect, -, db₃, hcustody,
    hfinish⟩ := h
  obtain ⟨hrecords, transactions, hinserted, rfl⟩ := transaction_eq_ok htx
  obtain ⟨hmovable, rfl⟩ := effect_eq_ok.1 heffect
  obtain ⟨custody, -, rfl⟩ := returnCustody_eq_ok hcustody
  have hcost : 0 ≤ exactContext.div
      (issuedCost exactContext db original.id m.item.id m.line.lotId m.line.serialId)
      (db.issued original.id m.item.id m.line.lotId m.line.serialId) :=
    div_nonneg (issuedCost_nonneg hready _ _ _ _) (issued_nonneg hready _ _ _ _)
  obtain ⟨hlines, lines, rfl⟩ := finishLine_priced hfinish hready.lines hready.line hcost
  refine ⟨tx, _, {
    movement := ⟨rfl, hinserted, Moves.single hmovable, rfl⟩
    valued := hready.valued hrecords hcost (by simp [Move.bucket]) (by simp)
      (.inl fun e he => ?_) (fun hissue => by cases hissue) fun hreceives => by cases hreceives
    createdAt := hrecords.createdAt
    receives := by rw [hrecords.type]; rfl
    lines := hlines }⟩
  rw [List.mem_singleton.1 he]
  exact ⟨hready.positive.le, mul_nonneg hready.positive.le hcost,
    fun hzero => absurd hzero hready.positive.ne'⟩

theorem postReceive_worked (hready : Ready db m)
    (h : postReceive exactContext env db m = .ok db') :
    ∃ tx entries, Worked env db false tx entries db' := by
  simp only [postReceive, bind_eq_ok, orError_eq_ok, Prod.exists] at h
  obtain ⟨-, -, dispatched, hdispatched, tx, db₁, htx, store, -, db₂, hdepart, db₃, harrive,
    hfinish⟩ := h
  obtain ⟨hrecords, transactions, hinserted, rfl⟩ := transaction_eq_ok htx
  obtain ⟨hmovable, rfl⟩ := effect_eq_ok.1 hdepart
  obtain ⟨hmovable', rfl⟩ := effect_eq_ok.1 harrive
  have hcost : 0 ≤ dispatched.unitCost :=
    (hready.costs dispatched (List.mem_of_find?_eq_some hdispatched)).1
  obtain ⟨hlines, lines, rfl⟩ := finishLine_priced hfinish hready.lines hready.line hcost
  refine ⟨tx, _, {
    movement := ⟨rfl, hinserted, .cons hmovable (Moves.single hmovable'), List.append_assoc _ _ _⟩
    valued := hready.valued hrecords hcost (by simp [Move.bucket, Move.destination]) (by simp)
      (.inl fun e he => ?_) (fun hissue => by cases hissue) fun hreceives => by cases hreceives
    createdAt := hrecords.createdAt
    receives := by rw [hrecords.type]; rfl
    lines := hlines }⟩
  rcases List.mem_pair.1 he with rfl | rfl
  · exact ⟨le_rfl, le_rfl, fun _ => rfl⟩
  · exact ⟨hready.positive.le, mul_nonneg hready.positive.le hcost,
      fun hzero => absurd hzero hready.positive.ne'⟩

/-- The cost at which a difference is adjusted. -/
def Move.adjustedCost (ctx : Context 28 12) (m : Move) (delta : ℚ) : ℚ :=
  match m.line.unitCost with
  | some unitCost =>
    if 0 < delta then ctx.div (ctx.mul unitCost m.line.quantity) m.line.normalizedQuantity
    else m.cost
  | none => m.cost

theorem Ready.adjustedCost (h : Ready db m) (delta : ℚ) :
    0 ≤ m.adjustedCost exactContext delta ∧
      (delta < 0 → m.adjustedCost exactContext delta = m.cost) := by
  unfold Move.adjustedCost
  split
  · next unitCost hunit =>
    split
    · next hpos =>
      refine ⟨div_nonneg (mul_nonneg ?_ h.line.quantity.1) ?_, fun hneg => absurd hneg hpos.not_gt⟩
      · exact (h.line.unitCost unitCost hunit).1
      · exact h.normalized ▸ h.positive.le
    · exact ⟨h.cost_nonneg, fun _ => rfl⟩
  · exact ⟨h.cost_nonneg, fun _ => rfl⟩

/-- An adjustment moves the difference at its cost, or it moves no stock. -/
theorem adjustmentChanges_value (purpose : Purpose) (quarantined delta q cost : ℚ) :
    let changes := adjustmentChanges exactContext purpose quarantined delta q cost
    changes .quantityOnHand = 0 ∧ changes .inventoryValue = 0 ∨
      changes .quantityOnHand = delta ∧ changes .inventoryValue = delta * cost := by
  cases purpose
  case quarantine => exact .inl ⟨rfl, rfl⟩
  case releaseFromQuarantine => exact .inl ⟨rfl, rfl⟩
  all_goals exact .inr ⟨rfl, rfl⟩

theorem adjust_worked {txkind : TransactionType} {delta q : ℚ} (hready : Ready db m)
    (hissue : txkind ≠ .issue) (hreceives : txkind.receives = false)
    (hdelta : delta ≠ 0) (hgrid : OnGrid 4 delta) (hq : OnGrid 4 q)
    (h : adjust exactContext env db m txkind delta q = .ok db') :
    ∃ tx entries, Worked env db false tx entries db' := by
  obtain ⟨hcost, hleaves⟩ := hready.adjustedCost delta
  have hinverted : ∃ tx db₁ db₂,
      transaction exactContext env db m.doc.origin m.line.entry txkind
        (m.adjustedCost exactContext delta) q = .ok (tx, db₁) ∧
      effect exactContext db₁ tx.id m.bucket (adjustmentChanges exactContext m.doc.purpose
        (db₁.balances m.bucket .quantityQuarantined) delta q (m.adjustedCost exactContext delta)) =
          .ok db₂ ∧
      finishLine exactContext (m.updateSerial db₂ (adjustedSerial m.doc.purpose)) m.line q
        (m.adjustedCost exactContext delta) = .ok db' := by
    simp only [adjust, bind_eq_ok, ensure_eq_ok, exists_const, Prod.exists] at h
    obtain ⟨tx, db₁, htx, -, db₂, heffect, -, hfinish⟩ := h
    exact ⟨tx, db₁, db₂, htx, heffect, hfinish⟩
  obtain ⟨tx, db₁, db₂, htx, heffect, hfinish⟩ := hinverted
  obtain ⟨hrecords, transactions, hinserted, rfl⟩ := transaction_eq_ok htx
  obtain ⟨hmovable, rfl⟩ := effect_eq_ok.1 heffect
  obtain ⟨hlines, lines, rfl⟩ := finishLine_priced hfinish hready.lines hready.line hcost
  have hrowGrid : LedgerEntry.OnGrid ⟨tx.id, m.bucket, adjustmentChanges exactContext m.doc.purpose
      (db.balances m.bucket .quantityQuarantined) delta q (m.adjustedCost exactContext delta)⟩ :=
    adjustmentChanges_onGrid (hready.steady.grid _ _ rfl) hgrid hq
  refine ⟨tx, _, {
    movement := ⟨rfl, hinserted, Moves.single hmovable, rfl⟩
    valued := hready.valued hrecords hcost (by simp [Move.bucket]) (by simp) ?_
      (fun htype => absurd htype hissue) fun htype => by rw [hreceives] at htype; cases htype
    createdAt := hrecords.createdAt
    receives := by rw [hrecords.type, hreceives]
    lines := hlines }⟩
  rcases adjustmentChanges_value m.doc.purpose (db.balances m.bucket .quantityQuarantined) delta q
    (m.adjustedCost exactContext delta) with ⟨hquantity, hvalue⟩ | ⟨hquantity, hvalue⟩
  · refine .inl fun e he => ?_
    rw [List.mem_singleton.1 he]
    exact ⟨hquantity.ge, hvalue.ge, fun _ => hvalue⟩
  · rcases lt_or_gt_of_ne hdelta with hneg | hpos
    · refine .inr ⟨_, rfl, hready.fair_of_leaves hmovable hrowGrid rfl ?_ ?_⟩
      · exact hquantity.trans_lt hneg
      · show adjustmentChanges _ _ _ _ _ _ _ = adjustmentChanges _ _ _ _ _ _ _ * m.cost
        rw [hquantity, hvalue, hleaves hneg]
    · refine .inl fun e he => ?_
      rw [List.mem_singleton.1 he]
      exact ⟨hpos.le.trans_eq hquantity.symm, (mul_nonneg hpos.le hcost).trans_eq hvalue.symm,
        fun hzero => absurd (hquantity.symm.trans hzero) hpos.ne'⟩

theorem adjustmentType_receives {purpose : Purpose} {t : TransactionType}
    (h : adjustmentType purpose = some t) : t.receives = false := by
  cases purpose <;> cases h <;> decide

/-- A branch that returned did nothing, or it wrote a movement that is worth what it should. -/
theorem postMove_worked {kind : DocumentKind} {act : Action} (hready : Ready db m)
    (h : postMove exactContext env db kind act m = .ok db') :
    db' = db ∨ ∃ tx entries, Worked env db (kind = .receipts) tx entries db' := by
  cases kind with
  | receipts => exact .inr (postReceipt_worked hready h)
  | issues => exact .inr (postIssue_worked hready h)
  | returns => exact .inr (postReturn_worked hready h)
  | transfers =>
      cases act with
      | dispatch => exact .inr (postDispatch_worked hready h)
      | receive => exact .inr (postReceive_worked hready h)
      | _ => cases h
  | requests => cases h
  | adjustments =>
      simp only [postMove, postAdjustment, bind_eq_ok, orError_eq_ok, ensure_eq_ok,
        exists_const] at h
      obtain ⟨-, -, -, txkind, htxkind, hadjust⟩ := h
      have hissue := adjustmentType_ne_issue htxkind
      have hreceives := adjustmentType_receives htxkind
      have hpos := hready.positive
      refine .inr (adjust_worked hready hissue hreceives ?_ ?_ hready.grid hadjust)
      · split
        · exact hpos.ne'
        · exact (neg_neg_of_pos hpos).ne
      · split
        · exact hready.grid
        · exact hready.grid.neg
  | stockCounts =>
      simp only [postMove, postCount, bind_eq_ok, orError_eq_ok, ensure_eq_ok, exists_const] at h
      obtain ⟨-, -, -, counted, -, hrest⟩ := h
      split at hrest
      · exact .inl (Except.ok.inj hrest).symm
      · next hne =>
        have hgrid := counted.2.sub (hready.steady.grid m.bucket .quantityOnHand rfl)
        exact .inr (adjust_worked hready (by decide) rfl hne hgrid (onGrid_abs hgrid) hrest)

end Branches

end Cestos.Inventory
