import Mathlib.Logic.Function.Basic
import Cestos.Inventory.Database

/-!
# The ledger

`effect` moves one bucket and writes the movement to the ledger, `transaction`
inserts the transaction a movement belongs to.
-/

namespace Cestos.Inventory

open Cestos.Core Cestos.Core.Decimal

/-! ## Effects -/

/-- The columns of a bucket after `effect`. -/
def effectFields (ctx : Context 28 12) (fields changes : BucketFields) : BucketFields :=
  fun f => quantize f.scale (ctx.add (fields f) (changes f))

/-- What `effect` refuses to go below zero. -/
def lowest (fields : BucketFields) : ℚ :=
  min (min (min (min (fields .quantityOnHand) (fields .quantityReserved))
    (fields .quantityQuarantined)) (fields .quantityInTransit))
    (fields .quantityOnHand - fields .quantityReserved - fields .quantityQuarantined)

/-- Every column holds its number. -/
def Storable (fields : BucketFields) : Prop := ∀ f ∈ bucketFields, Fits f.digits f.scale (fields f)

instance (fields : BucketFields) : Decidable (Storable fields) :=
  inferInstanceAs (Decidable (∀ f ∈ bucketFields, Fits f.digits f.scale (fields f)))

/-- The balances after a ledger row. -/
def applyEntry (ctx : Context 28 12) (balances : Bucket → BucketFields) (entry : LedgerEntry) :
    Bucket → BucketFields :=
  Function.update balances entry.bucket (effectFields ctx (balances entry.bucket) entry.changes)

def Database.move (db : Database) (ctx : Context 28 12) (entry : LedgerEntry) : Database :=
  { db with
    balances := applyEntry ctx db.balances entry
    ledger := db.ledger ++ [entry] }

def effect (ctx : Context 28 12) (db : Database) (transactionId : Id) (bucket : Bucket)
    (changes : BucketFields) : Outcome Database := do
  let fields := effectFields ctx (db.balances bucket) changes
  ensure (¬ lowest fields < 0)
    (.conflict "Insufficient available stock in the selected store/bin/lot")
  ensure (Storable fields ∧ Storable changes) .overflow
  .ok (db.move ctx ⟨transactionId, bucket, changes⟩)

/-- The guards `effect` passed when it returned. -/
structure Movable (ctx : Context 28 12) (balances : Bucket → BucketFields) (entry : LedgerEntry) :
    Prop where
  enough : 0 ≤ lowest (effectFields ctx (balances entry.bucket) entry.changes)
  storable : Storable (effectFields ctx (balances entry.bucket) entry.changes)
  changes : Storable entry.changes

theorem effect_eq_ok {ctx : Context 28 12} {db db' : Database} {transactionId : Id}
    {bucket : Bucket} {changes : BucketFields} :
    effect ctx db transactionId bucket changes = .ok db' ↔
      Movable ctx db.balances ⟨transactionId, bucket, changes⟩ ∧
        db' = db.move ctx ⟨transactionId, bucket, changes⟩ := by
  simp only [effect, bind_eq_ok, ensure_eq_ok, exists_const, Except.ok.injEq, not_lt]
  constructor
  · rintro ⟨hlow, ⟨hnew, hchanges⟩, rfl⟩
    exact ⟨⟨hlow, hnew, hchanges⟩, rfl⟩
  · rintro ⟨⟨hlow, hnew, hchanges⟩, rfl⟩
    exact ⟨hlow, ⟨hnew, hchanges⟩, rfl⟩

@[simp] theorem applyEntry_self (ctx : Context 28 12) (balances : Bucket → BucketFields)
    (entry : LedgerEntry) :
    applyEntry ctx balances entry entry.bucket =
      effectFields ctx (balances entry.bucket) entry.changes := by
  simp [applyEntry]

theorem applyEntry_ne {ctx : Context 28 12} {balances : Bucket → BucketFields}
    {entry : LedgerEntry} {k : Bucket} (h : k ≠ entry.bucket) :
    applyEntry ctx balances entry k = balances k := by
  simp [applyEntry, h]

/-- Ledger rows written one after the other, each past the guards of `effect`. -/
inductive Moves (ctx : Context 28 12) :
    (Bucket → BucketFields) → List LedgerEntry → (Bucket → BucketFields) → Prop
  | nil (balances) : Moves ctx balances [] balances
  | cons {balances balances' entry entries} : Movable ctx balances entry →
      Moves ctx (applyEntry ctx balances entry) entries balances' →
      Moves ctx balances (entry :: entries) balances'

theorem Moves.single_inv {ctx : Context 28 12} {balances balances' : Bucket → BucketFields}
    {entry : LedgerEntry} (h : Moves ctx balances [entry] balances') :
    Movable ctx balances entry ∧ balances' = applyEntry ctx balances entry := by
  cases h with
  | cons hmovable hnil =>
      cases hnil with
      | nil => exact ⟨hmovable, rfl⟩

/-! ## Transactions -/

/-- What `transaction` reads off the document it is called with. -/
structure Origin where
  id : Id
  storeId : Option Id
  fromStoreId : Option Id
  toStoreId : Option Id
  projectId : Option Id
  assetId : Option Id
  employeeId : Option Id
  supplierId : Option Id
  /-- `none` where the row has no such attribute. -/
  transactionDate : Option Instant

/-- What `transaction` reads off the line it is called with. -/
structure Entry where
  id : Id
  itemId : Id
  binId : Option Id
  fromBinId : Option Id
  toBinId : Option Id
  lotId : Option Id
  serialId : Option Id

def Document.origin (doc : Document) : Origin where
  id := doc.id
  storeId := doc.storeId
  fromStoreId := doc.fromStoreId
  toStoreId := doc.toStoreId
  projectId := doc.projectId
  assetId := doc.assetId
  employeeId := doc.employeeId
  supplierId := doc.supplierId
  transactionDate := some doc.transactionDate

def Line.entry (line : Line) : Entry where
  id := line.id
  itemId := line.itemId
  binId := line.binId
  fromBinId := line.fromBinId
  toBinId := line.toBinId
  lotId := line.lotId
  serialId := line.serialId

/-- A reservation is its own document and its own line. -/
def Reservation.origin (env : Env) (row : Reservation) : Origin where
  id := row.id
  storeId := some row.storeId
  fromStoreId := none
  toStoreId := none
  projectId := row.projectId
  assetId := row.assetId
  employeeId := none
  supplierId := none
  transactionDate := env.reservationDate

def Reservation.entry (row : Reservation) : Entry where
  id := row.id
  itemId := row.itemId
  binId := row.binId
  fromBinId := none
  toBinId := none
  lotId := row.lotId
  serialId := row.serialId

/-- Movements into the store of their document. -/
def TransactionType.inbound : TransactionType → Bool
  | .openingBalance | .purchaseReceipt | .otherReceipt | .returnFromEmployee => true
  | _ => false

/-- The row `transaction` inserts. -/
def transactionRow (ctx : Context 28 12) (env : Env) (id : Id) (doc : Origin) (line : Entry)
    (kind : TransactionType) (cost q : ℚ) (item : Item) (date : Instant) : Transaction where
  id := id
  postingKey := .line doc.id line.id kind
  type := kind
  itemId := line.itemId
  quantity := q
  unitId := item.baseUnitId
  fromStoreId := doc.fromStoreId.or (if kind.inbound then none else doc.storeId)
  toStoreId := doc.toStoreId.or (if kind.inbound then doc.storeId else none)
  fromBinId := line.fromBinId.or line.binId
  toBinId := line.toBinId.or line.binId
  lotId := line.lotId
  serialId := line.serialId
  projectId := doc.projectId
  assetId := doc.assetId
  employeeId := doc.employeeId
  supplierId := doc.supplierId
  referenceId := doc.id
  reversalOfId := none
  unitCost := numeric 8 cost
  totalCost := quantize 4 (ctx.mul q cost)
  currency := item.defaultCurrency
  transactionDate := date
  createdAt := env.now

/-- Insert a transaction: its constraints and unique keys hold. -/
def insertTransaction (db : Database) (row : Transaction) : Outcome Database := do
  ensure (0 < row.quantity) (.integrity "transaction_positive")
  ensure (∀ other ∈ db.transactions.rows, other.postingKey ≠ row.postingKey)
    (.integrity "uq_inventory_posting_key")
  ensure (∀ other ∈ db.transactions.rows, ∀ id ∈ row.reversalOfId, other.reversalOfId ≠ some id)
    (.integrity "uq_inventory_transactions_reversal_of_id")
  ensure (Fits 18 4 row.quantity ∧ Fits 18 8 row.unitCost ∧ Fits 18 4 row.totalCost) .overflow
  let transactions ← orError (db.transactions.insert? row) (.integrity "pk_inventory_transactions")
  .ok { db with transactions }

/-- `transaction`: the new row and the database that has it. -/
def transaction (ctx : Context 28 12) (env : Env) (db : Database) (doc : Origin) (line : Entry)
    (kind : TransactionType) (cost q : ℚ) : Outcome (Transaction × Database) := do
  let item ← found (db.items.find? line.itemId)
  let date ← orError doc.transactionDate (.attribute "transaction_date")
  let id := env.uuid db.transactions.size
  let row := transactionRow ctx env id doc line kind cost q item date
  let db ← insertTransaction db row
  .ok (row, db)

/-- A row that `transaction` inserts for these arguments. -/
def Records (ctx : Context 28 12) (env : Env) (items : Table Item.id) (doc : Origin) (line : Entry)
    (kind : TransactionType) (cost q : ℚ) (tx : Transaction) : Prop :=
  ∃ id item date, items.find? line.itemId = some item ∧ doc.transactionDate = some date ∧
    tx = transactionRow ctx env id doc line kind cost q item date

/-- What `insertTransaction` checked and changed when it returned. -/
structure Inserted (before : Table Transaction.id) (tx : Transaction)
    (after : Table Transaction.id) : Prop where
  insert : before.insert? tx = some after
  positive : 0 < tx.quantity
  postingKey : ∀ other ∈ before.rows, other.postingKey ≠ tx.postingKey
  reversalOf : ∀ other ∈ before.rows, ∀ id ∈ tx.reversalOfId, other.reversalOfId ≠ some id
  quantity : Fits 18 4 tx.quantity
  unitCost : Fits 18 8 tx.unitCost

theorem insertTransaction_eq_ok {db db' : Database} {tx : Transaction}
    (h : insertTransaction db tx = .ok db') :
    ∃ transactions, Inserted db.transactions tx transactions ∧
      db' = { db with transactions } := by
  simp only [insertTransaction, bind_eq_ok, ensure_eq_ok, orError_eq_ok, exists_const,
    Except.ok.injEq] at h
  obtain ⟨hpos, hkey, hrev, ⟨hquantity, hcost, _⟩, transactions, hins, rfl⟩ := h
  exact ⟨transactions, ⟨hins, hpos, hkey, hrev, hquantity, hcost⟩, rfl⟩

theorem transaction_eq_ok {ctx : Context 28 12} {env : Env} {db db' : Database} {doc : Origin}
    {line : Entry} {kind : TransactionType} {cost q : ℚ} {tx : Transaction}
    (h : transaction ctx env db doc line kind cost q = .ok (tx, db')) :
    Records ctx env db.items doc line kind cost q tx ∧
      ∃ transactions, Inserted db.transactions tx transactions ∧
        db' = { db with transactions } := by
  simp only [transaction, bind_eq_ok, found_eq_ok, orError_eq_ok, Except.ok.injEq,
    Prod.mk.injEq] at h
  obtain ⟨item, hitem, date, hdate, mid, hins, rfl, rfl⟩ := h
  exact ⟨⟨_, item, date, hitem, hdate, rfl⟩, insertTransaction_eq_ok hins⟩

namespace Records

variable {ctx : Context 28 12} {env : Env} {items : Table Item.id} {doc : Origin} {line : Entry}
  {kind : TransactionType} {cost q : ℚ} {tx : Transaction}
  (h : Records ctx env items doc line kind cost q tx)

include h

theorem type : tx.type = kind := by
  obtain ⟨_, _, _, _, _, rfl⟩ := h
  rfl

theorem itemId : tx.itemId = line.itemId := by
  obtain ⟨_, _, _, _, _, rfl⟩ := h
  rfl

theorem quantity : tx.quantity = q := by
  obtain ⟨_, _, _, _, _, rfl⟩ := h
  rfl

theorem lotId : tx.lotId = line.lotId := by
  obtain ⟨_, _, _, _, _, rfl⟩ := h
  rfl

theorem serialId : tx.serialId = line.serialId := by
  obtain ⟨_, _, _, _, _, rfl⟩ := h
  rfl

theorem referenceId : tx.referenceId = doc.id := by
  obtain ⟨_, _, _, _, _, rfl⟩ := h
  rfl

theorem reversalOfId : tx.reversalOfId = none := by
  obtain ⟨_, _, _, _, _, rfl⟩ := h
  rfl

theorem postingKey : tx.postingKey = .line doc.id line.id kind := by
  obtain ⟨_, _, _, _, _, rfl⟩ := h
  rfl

theorem unitCost : tx.unitCost = numeric 8 cost := by
  obtain ⟨_, _, _, _, _, rfl⟩ := h
  rfl

theorem createdAt : tx.createdAt = env.now := by
  obtain ⟨_, _, _, _, _, rfl⟩ := h
  rfl

theorem source : tx.fromStoreId = doc.fromStoreId.or (if kind.inbound then none else doc.storeId) ∧
    tx.fromBinId = line.fromBinId.or line.binId := by
  obtain ⟨_, _, _, _, _, rfl⟩ := h
  exact ⟨rfl, rfl⟩

end Records

/-!
## Lots and serials

`tracked` checks the lot and the serial of a line. For a receipt it first creates
them and writes their identifiers to the line.
-/

/-- Neither `None` nor the empty string. -/
def given (text : Option String) : Bool := text.any (· ≠ "")

def newLot (env : Env) (db : Database) (item : Item) (line : Line) : Lot where
  id := env.uuid db.lots.size
  itemId := item.id
  lotNumber := line.lotNumber
  manufactureDate := line.manufactureDate
  expiryDate := line.expiryDate
  status := .active

def insertLot (db : Database) (lot : Lot) : Outcome Database := do
  ensure (∀ made ∈ lot.manufactureDate, ∀ expiry ∈ lot.expiryDate, made ≤ expiry)
    (.integrity "lot_dates")
  let lots ← orError (db.lots.insert? lot) (.integrity "pk_inventory_lots")
  .ok { db with lots }

/-- The lot a receipt line without `lot_id` names by its number. -/
def receiveLotNumber (env : Env) (db : Database) (item : Item) (line : Line) :
    Outcome (Id × Database) :=
  match db.lots.rows.find? (fun lot => lot.itemId = item.id ∧ lot.lotNumber = line.lotNumber) with
  | some lot => do
    ensure (line.expiryDate = none ∨ lot.expiryDate = line.expiryDate)
      (.conflict "Lot expiry conflicts with existing batch")
    .ok (lot.id, db)
  | none => do
    let lot := newLot env db item line
    let db ← insertLot db lot
    .ok (lot.id, db)

def receiveLot (env : Env) (db : Database) (item : Item) (line : Line) :
    Outcome (Line × Database) :=
  if item.batched then
    match line.lotId with
    | some _ => .ok (line, db)
    | none => do
      ensure (given line.lotNumber) (.validation "A lot is required")
      let (lotId, db) ← receiveLotNumber env db item line
      .ok ({ line with lotId := some lotId }, db)
  else .ok (line, db)

def newSerial (env : Env) (db : Database) (item : Item) (doc : Document) (line : Line) :
    Serial where
  id := env.uuid db.serials.size
  itemId := item.id
  serialNumber := line.serialNumber
  lotId := line.lotId
  currentStoreId := doc.storeId
  currentBinId := line.binId
  status := .inStock
  assignedAssetId := none

def receiveSerial (env : Env) (db : Database) (item : Item) (doc : Document) (line : Line) :
    Outcome (Line × Database) :=
  if item.serialized then do
    ensure (given line.serialNumber) (.validation "Serial number is required for receipt")
    ensure (∀ serial ∈ db.serials.rows,
        ¬ (serial.itemId = item.id ∧ serial.serialNumber = line.serialNumber))
      (.conflict "Serial has already been received")
    let serial := newSerial env db item doc line
    let serials ← orError (db.serials.insert? serial) (.integrity "pk_inventory_serials")
    .ok ({ line with serialId := some serial.id }, { db with serials })
  else .ok (line, db)

/-- The lot of a line, as `tracked` checks it. -/
def checkLot (env : Env) (db : Database) (item : Item) (lotId : Option Id)
    (allowUnavailable : Bool) : Outcome Unit := do
  ensure (item.batched → lotId.isSome) (.validation "Select a lot for this item")
  match lotId with
  | none => .ok ()
  | some lotId => do
    let lot ← found (db.lots.find? lotId)
    ensure (lot.itemId = item.id) (.validation "Lot belongs to another item")
    ensure (item.requiresExpiryTracking → lot.expiryDate.isSome)
      (.validation "Expiry date is required")
    ensure (allowUnavailable ∨ (∀ day ∈ lot.expiryDate, env.today ≤ day) ∧ lot.status = .active)
      (.conflict "Lot is expired or unavailable")

/-- The serial of a line, as `tracked` checks it; `reserved` says that the document
carries a `reservation_id`. -/
def checkSerial (db : Database) (item : Item) (lotId serialId : Option Id)
    (reserved receipt allowUnavailable : Bool) : Outcome Unit :=
  if item.serialized then do
    let serialId ← orError serialId (.validation "Select a serial number")
    let serial ← found (db.serials.find? serialId)
    ensure (serial.itemId = item.id ∧ serial.lotId = lotId)
      (.validation "Serial item or lot does not match")
    ensure (receipt ∨ allowUnavailable ∨ serial.status = .inStock ∨
        reserved ∧ serial.status = .reserved)
      (.conflict "Serial is not available")
  else .ok ()

/-- `tracked` for a line of a document. -/
def tracked (env : Env) (db : Database) (item : Item) (line : Line) (doc : Document)
    (receipt allowUnavailable : Bool) : Outcome (Line × Database) := do
  let (line, db) ← if receipt then receiveLot env db item line else .ok (line, db)
  let (line, db) ← if receipt then receiveSerial env db item doc line else .ok (line, db)
  checkLot env db item line.lotId allowUnavailable
  checkSerial db item line.lotId line.serialId doc.reservationId.isSome receipt allowUnavailable
  .ok (line, db)

/-- `tracked` for a reservation, which is its own line and names no reservation. -/
def trackedReservation (env : Env) (db : Database) (item : Item) (row : Reservation) :
    Outcome Unit := do
  checkLot env db item row.lotId false
  checkSerial db item row.lotId row.serialId false false false

/-! ### What a tracked line is known to be -/

theorem checkSerial_spec {db : Database} {item : Item} {lotId serialId : Option Id}
    {reserved receipt allowUnavailable : Bool} {u : Unit}
    (h : checkSerial db item lotId serialId reserved receipt allowUnavailable = .ok u)
    (hitem : item.serialized) :
    ∃ id serial, serialId = some id ∧ db.serials.find? id = some serial ∧
      serial.itemId = item.id ∧ serial.lotId = lotId ∧
      (receipt ∨ allowUnavailable ∨ serial.status = .inStock ∨
        reserved ∧ serial.status = .reserved) := by
  simp only [checkSerial, hitem, if_true, bind_eq_ok, orError_eq_ok, found_eq_ok, ensure_eq_ok,
    exists_const] at h
  obtain ⟨id, hid, serial, hserial, ⟨hown, hlot⟩, hstatus⟩ := h
  exact ⟨id, serial, hid, hserial, hown, hlot, hstatus⟩

theorem tracked_plain {env : Env} {db db' : Database} {item : Item} {line line' : Line}
    {doc : Document} {allowUnavailable : Bool}
    (h : tracked env db item line doc false allowUnavailable = .ok (line', db')) :
    line' = line ∧ db' = db ∧
      checkSerial db item line.lotId line.serialId doc.reservationId.isSome false
        allowUnavailable = .ok () := by
  simp only [tracked, Bool.false_eq_true, if_false, bind_eq_ok, Except.ok.injEq, Prod.mk.injEq,
    Prod.exists] at h
  obtain ⟨_, _, ⟨rfl, rfl⟩, _, _, ⟨rfl, rfl⟩, _, _, _, hserial, rfl, rfl⟩ := h
  exact ⟨rfl, rfl, hserial⟩

/-- What a receipt line has become: its lot and serial are known, and the serial of a
serialized item is a new one in the bucket of the line. -/
structure Received (env : Env) (db : Database) (item : Item) (doc : Document)
    (line line' : Line) (db' : Database) : Prop where
  database : ∃ lots serials, db' = { db with lots, serials }
  entry : ∃ lotId serialId, line' = { line with lotId, serialId }
  serialized : item.serialized → line'.serialId = some (newSerial env db item doc line').id ∧
    db.serials.insert? (newSerial env db item doc line') = some db'.serials
  unserialized : item.serialized = false → line'.serialId = line.serialId ∧
    db'.serials = db.serials

theorem receiveLotNumber_eq_ok {env : Env} {db db' : Database} {item : Item} {line : Line}
    {lotId : Id} (h : receiveLotNumber env db item line = .ok (lotId, db')) :
    ∃ lots, db' = { db with lots } := by
  unfold receiveLotNumber at h
  split at h
  · simp only [bind_eq_ok, Except.ok.injEq, Prod.mk.injEq] at h
    obtain ⟨_, _, _, rfl⟩ := h
    exact ⟨db.lots, rfl⟩
  · simp only [insertLot, bind_eq_ok, Except.ok.injEq, Prod.mk.injEq] at h
    obtain ⟨_, ⟨_, _, lots, _, rfl⟩, _, rfl⟩ := h
    exact ⟨lots, rfl⟩

theorem receiveLot_eq_ok {env : Env} {db db' : Database} {item : Item} {line line' : Line}
    (h : receiveLot env db item line = .ok (line', db')) :
    ∃ lots lotId, db' = { db with lots } ∧ line' = { line with lotId } := by
  unfold receiveLot at h
  split at h
  · split at h
    · simp only [Except.ok.injEq, Prod.mk.injEq] at h
      obtain ⟨rfl, rfl⟩ := h
      exact ⟨db.lots, line.lotId, rfl, rfl⟩
    · simp only [bind_eq_ok, Prod.exists, Except.ok.injEq, Prod.mk.injEq] at h
      obtain ⟨_, _, lotId, _, hlot, rfl, rfl⟩ := h
      obtain ⟨lots, rfl⟩ := receiveLotNumber_eq_ok hlot
      exact ⟨lots, some lotId, rfl, rfl⟩
  · simp only [Except.ok.injEq, Prod.mk.injEq] at h
    obtain ⟨rfl, rfl⟩ := h
    exact ⟨db.lots, line.lotId, rfl, rfl⟩

theorem tracked_receipt {env : Env} {db db' : Database} {item : Item} {line line' : Line}
    {doc : Document} {allowUnavailable : Bool}
    (h : tracked env db item line doc true allowUnavailable = .ok (line', db')) :
    Received env db item doc line line' db' := by
  simp only [tracked, if_true, bind_eq_ok, Prod.exists, Except.ok.injEq, Prod.mk.injEq] at h
  obtain ⟨lotLine, lotDb, hlot, _, _, hserial, _, _, _, _, rfl, rfl⟩ := h
  obtain ⟨lots, lotId, rfl, rfl⟩ := receiveLot_eq_ok hlot
  unfold receiveSerial at hserial
  split at hserial
  · next hitem =>
    simp only [bind_eq_ok, orError_eq_ok, ensure_eq_ok, exists_const, Except.ok.injEq,
      Prod.mk.injEq] at hserial
    obtain ⟨_, _, serials, hins, rfl, rfl⟩ := hserial
    exact ⟨⟨lots, serials, rfl⟩, ⟨lotId, _, rfl⟩, fun _ => ⟨rfl, hins⟩, fun hno => by simp_all⟩
  · next hitem =>
    simp only [Except.ok.injEq, Prod.mk.injEq] at hserial
    obtain ⟨rfl, rfl⟩ := hserial
    exact ⟨⟨lots, db.serials, rfl⟩, ⟨lotId, line.serialId, rfl⟩, fun hyes => absurd hyes hitem,
      fun _ => ⟨rfl, rfl⟩⟩

end Cestos.Inventory
