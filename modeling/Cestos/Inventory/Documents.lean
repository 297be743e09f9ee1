import Mathlib.Data.List.ReduceOption
import Cestos.Inventory.Posting

/-!
# Documents

`document_save`, `action` and `request_issue`, and the part of the item catalogue
that posting depends on.
-/

namespace Cestos.Inventory

open Cestos.Core Cestos.Core.Decimal

/-! ## Request bodies -/

/-- `Decimal` fields with `ge=0, max_digits=18, decimal_places=4`. -/
def IsAmount (x : ℚ) : Prop := 0 ≤ x ∧ OnGrid 4 x ∧ x < 10 ^ 14

instance (x : ℚ) : Decidable (IsAmount x) := inferInstanceAs (Decidable (_ ∧ _))

abbrev Amount := { x : ℚ // IsAmount x }

/-- The same with `gt=0`. -/
abbrev PositiveAmount := { x : ℚ // 0 < x ∧ IsAmount x }

def Amount.quantity (x : Amount) : Quantity := ⟨x.1, x.2.2.1⟩

/-- `InventoryLine`. -/
structure LineBody where
  itemId : Id
  unitId : Id
  quantity : PositiveAmount
  binId : Option Id := none
  fromBinId : Option Id := none
  toBinId : Option Id := none
  lotId : Option Id := none
  serialId : Option Id := none
  lotNumber : Option String := none
  serialNumber : Option String := none
  expiryDate : Option Day := none
  manufactureDate : Option Day := none
  unitCost : Option Amount := none
  currency : String := "USD"
  countedQuantity : Option Amount := none

/-- `InventoryDocumentCreate`. -/
structure DocumentBody where
  storeId : Option Id := none
  fromStoreId : Option Id := none
  toStoreId : Option Id := none
  supplierId : Option Id := none
  projectId : Option Id := none
  assetId : Option Id := none
  employeeId : Option Id := none
  originalIssueId : Option Id := none
  requestId : Option Id := none
  reservationId : Option Id := none
  transactionDate : Option Timestamp := none
  expectedReturnAt : Option Timestamp := none
  purpose : Purpose := .other
  condition : Condition := .good
  reason : Option String := none
  items : List LineBody
  items_valid : 1 ≤ items.length ∧ items.length ≤ 200

/-- `InventoryAction`. -/
structure ActionBody where
  reason : Option String := none
  quantities : Id → Option ℚ := fun _ => none

/-! ## `document_save` -/

def DocumentBody.refData (body : DocumentBody) : RefData where
  storeId := body.storeId
  fromStoreId := body.fromStoreId
  toStoreId := body.toStoreId
  supplierId := body.supplierId
  projectId := body.projectId
  assetId := body.assetId
  employeeId := body.employeeId
  originalIssueId := body.originalIssueId
  requestId := body.requestId
  reservationId := body.reservationId
  transactionDate := body.transactionDate
  expectedReturnAt := body.expectedReturnAt

/-- `{**data, **line_data}`. -/
def LineBody.refData (line : LineBody) (data : RefData) : RefData :=
  { data with
    itemId := some line.itemId
    unitId := some line.unitId
    binId := line.binId
    fromBinId := line.fromBinId
    toBinId := line.toBinId
    lotId := line.lotId
    serialId := line.serialId }

/-- Write the entries of the body that are not `None` to the row. -/
def DocumentBody.assign (body : DocumentBody) (row : Document) : Document :=
  { row with
    storeId := body.storeId.or row.storeId
    fromStoreId := body.fromStoreId.or row.fromStoreId
    toStoreId := body.toStoreId.or row.toStoreId
    supplierId := body.supplierId.or row.supplierId
    projectId := body.projectId.or row.projectId
    assetId := body.assetId.or row.assetId
    employeeId := body.employeeId.or row.employeeId
    originalIssueId := body.originalIssueId.or row.originalIssueId
    requestId := body.requestId.or row.requestId
    reservationId := body.reservationId.or row.reservationId
    transactionDate := (body.transactionDate.map (·.instant)).getD row.transactionDate
    purpose := body.purpose
    condition := body.condition
    reason := body.reason.or row.reason }

def newDocument (env : Env) (db : Database) (kind : DocumentKind) : Document where
  id := env.uuid db.documents.size
  kind := kind
  status := .draft
  purpose := .other
  condition := .good
  storeId := none
  fromStoreId := none
  toStoreId := none
  supplierId := none
  projectId := none
  assetId := none
  employeeId := none
  originalIssueId := none
  requestId := none
  reservationId := none
  approvedById := none
  reason := none
  transactionDate := env.clock

/-- The new or edited document without lines. -/
def saveHeader (env : Env) (db : Database) (kind : DocumentKind) (body : DocumentBody) :
    Option Id → Outcome (Document × Database)
  | none => do
    let row := body.assign (newDocument env db kind)
    let documents ← orError (db.documents.insert? row) (.integrity "pk_inventory_documents")
    .ok (row, { db with documents })
  | some id => do
    let old ← found (db.document kind id)
    ensure (old.status = .draft) (.conflict "Only draft documents can be edited")
    let row := body.assign old
    .ok (row, { db with
      documents := db.documents.set row
      lines := db.lines.removeIf (·.documentId = row.id) })

/-- What must not occur twice among the lines of a request or a count. -/
def LineBody.key (kind : DocumentKind) (line : LineBody) : Id × Option Id × Option Id × Option Id :=
  if kind = .requests then (line.itemId, none, none, none)
  else (line.itemId, line.binId, line.lotId, line.serialId)

def newLine (env : Env) (db : Database) (documentId : Id) (incoming : LineBody) (q : ℚ) :
    Line where
  id := env.uuid db.lines.size
  documentId := documentId
  itemId := incoming.itemId
  unitId := incoming.unitId
  quantity := incoming.quantity.1
  normalizedQuantity := q
  binId := incoming.binId
  fromBinId := incoming.fromBinId
  toBinId := incoming.toBinId
  lotId := incoming.lotId
  serialId := incoming.serialId
  lotNumber := incoming.lotNumber
  serialNumber := incoming.serialNumber
  expiryDate := incoming.expiryDate
  manufactureDate := incoming.manufactureDate
  unitCost := incoming.unitCost.map (·.1)
  totalCost := none
  systemQuantity := none
  countedQuantity := incoming.countedQuantity.map Amount.quantity
  quantityApproved := none
  quantityIssued := 0

def saveLine (ctx : Context 28 12) (env : Env) (body : DocumentBody) (documentId : Id)
    (db : Database) (incoming : LineBody) : Outcome Database := do
  validateRefs env db (incoming.refData body.refData)
  let item ← found (db.items.find? incoming.itemId)
  let q ← quantity ctx db item incoming.unitId incoming.quantity.1
  ensure (incoming.currency = item.defaultCurrency)
    (.validation "Currency must match the item valuation currency")
  ensure (item.serialized → q = 1)
    (.validation "Serialized lines must contain exactly one base unit")
  ensure (Fits 18 4 q) .overflow
  let lines ← orError (db.lines.insert? (newLine env db documentId incoming q))
    (.integrity "pk_inventory_lines")
  .ok { db with lines }

/-- The loop over `body.items`, with the keys seen so far. -/
def saveLines (ctx : Context 28 12) (env : Env) (kind : DocumentKind) (body : DocumentBody)
    (documentId : Id) :
    List LineBody → List (Id × Option Id × Option Id × Option Id) → Database → Outcome Database
  | [], _, db => .ok db
  | incoming :: rest, seen, db => do
    ensure ((kind = .requests ∨ kind = .stockCounts) → incoming.key kind ∉ seen)
      (.validation "Duplicate request item or count bucket")
    let db ← saveLine ctx env body documentId db incoming
    saveLines ctx env kind body documentId rest (incoming.key kind :: seen) db

/-- `document_save`: the identifier of the saved document and the database. -/
def documentSave (ctx : Context 28 12) (env : Env) (db : Database) (kind : DocumentKind)
    (body : DocumentBody) (identifier : Option Id) : Outcome (Id × Database) := do
  validateRefs env db body.refData
  ensure (kind = .requests ∨ kind = .transfers ∨ body.storeId.isSome)
    (.validation "Store is required")
  ensure (kind = .transfers → body.fromStoreId.isSome ∧ body.toStoreId.isSome ∧
      body.fromStoreId ≠ body.toStoreId)
    (.validation "Transfer requires two different stores")
  ensure (kind = .adjustments → given body.reason) (.validation "Adjustment reason is required")
  let (row, db) ← saveHeader env db kind body identifier
  let db ← saveLines ctx env kind body row.id body.items [] db
  .ok (row.id, db)

/-! ## `action` -/

/-- The status an action leads to; a document that has it already is left alone. -/
def terminal : Action → Option DocumentStatus
  | .post => some .posted
  | .dispatch => some .inTransit
  | .receive => some .received
  | .approve => some .approved
  | .cancel => some .cancelled
  | .submit => some .submitted
  | .start => some .inProgress
  | .reject => some .rejected
  | .restart => none

def setDocument (db : Database) (doc : Document) : Database :=
  { db with documents := db.documents.set doc }

def setLine (db : Database) (line : Line) : Database :=
  { db with lines := db.lines.set line }

def cancelDocument (db : Database) (doc : Document) : Outcome Database := do
  ensure (doc.status ∉ [.posted, .inTransit, .received, .partiallyIssued, .fulfilled])
    (.conflict "Posted movements require a reversal or return")
  .ok (setDocument db { doc with status := .cancelled })

def rejectDocument (db : Database) (kind : DocumentKind) (doc : Document) : Outcome Database := do
  ensure (kind = .requests ∧ doc.status ∈ [.submitted, .pendingApproval])
    (.conflict "Request is not awaiting approval")
  .ok (setDocument db { doc with status := .rejected })

/-- A count that is not negative and has at most four decimals. -/
def checkCount (value : ℚ) : Outcome Quantity :=
  if h : 0 ≤ value ∧ value = quantize 4 value then .ok ⟨value, eq_quantize_iff.1 h.2⟩
  else .error (.validation "Provide a nonnegative count for every line")

def submitLine (body : ActionBody) (db : Database) (line : Line) : Outcome Database := do
  let value ← orError ((body.quantities line.id).or (line.countedQuantity.map (·.1)))
    (.validation "Provide a nonnegative count for every line")
  let count ← checkCount value
  ensure (Fits 18 4 count.1) .overflow
  .ok (setLine db { line with countedQuantity := some count })

def submitDocument (db : Database) (kind : DocumentKind) (doc : Document) (body : ActionBody) :
    Outcome Database := do
  ensure (doc.status = if kind = .stockCounts then .inProgress else .draft)
    (.conflict "Document is not ready for submission")
  let counted := if kind = .stockCounts then db.linesOf doc.id else []
  let db ← counted.foldlM (submitLine body) db
  .ok (setDocument db { doc with status := .submitted })

def startLine (doc : Document) (restart : Bool) (db : Database) (line : Line) :
    Outcome Database := do
  let store ← orError doc.storeId (.integrity "inventory_balances_store_id")
  let system := db.balances ⟨line.itemId, store, line.binId, line.lotId⟩ .quantityOnHand
  .ok (setLine db { line with
    systemQuantity := some system
    countedQuantity := if restart then none else line.countedQuantity })

def startDocument (db : Database) (kind : DocumentKind) (doc : Document) (restart : Bool)
    (body : ActionBody) : Outcome Database := do
  ensure (kind = .stockCounts ∧ doc.status ∉ [.posted, .cancelled] ∧
      (restart = false → doc.status = .draft))
    (.conflict "Count cannot be started in its current state")
  ensure (restart → given body.reason) (.validation "Explain why the count is being restarted")
  let db ← (db.linesOf doc.id).foldlM (startLine doc restart) db
  .ok (setDocument db { doc with approvedById := none, status := .inProgress })

def approvedQuantity (ctx : Context 28 12) (db : Database) (line : Line) (q : ℚ) : Outcome ℚ :=
  if q = 0 then .ok 0
  else do
    let item ← found (db.items.find? line.itemId)
    quantity ctx db item line.unitId q

def approveLine (ctx : Context 28 12) (body : ActionBody) (db : Database) (line : Line) :
    Outcome Database := do
  let q := (body.quantities line.id).getD line.quantity
  ensure (0 ≤ q ∧ q ≤ line.quantity)
    (.validation "Approved quantity must be within requested quantity")
  let approved ← approvedQuantity ctx db line q
  ensure (Fits 18 4 approved) .overflow
  .ok (setLine db { line with quantityApproved := some approved })

/-- The statuses from which documents of a kind are approved. -/
def awaitingApproval : DocumentKind → List DocumentStatus
  | .requests => [.submitted, .pendingApproval]
  | .stockCounts => [.submitted]
  | _ => [.draft, .pendingApproval]

def approveDocument (ctx : Context 28 12) (env : Env) (db : Database) (kind : DocumentKind)
    (doc : Document) (body : ActionBody) : Outcome Database := do
  ensure (doc.status ∈ awaitingApproval kind) (.conflict "Document is not awaiting approval")
  let requested := if kind = .requests then db.linesOf doc.id else []
  let db ← requested.foldlM (approveLine ctx body) db
  .ok (setDocument db { doc with approvedById := some env.actorId, status := .approved })

def Document.refData (doc : Document) : RefData where
  storeId := doc.storeId
  fromStoreId := doc.fromStoreId
  toStoreId := doc.toStoreId
  supplierId := doc.supplierId
  projectId := doc.projectId
  assetId := doc.assetId
  employeeId := doc.employeeId
  originalIssueId := doc.originalIssueId
  requestId := doc.requestId
  reservationId := doc.reservationId
  transactionDate := some ⟨doc.transactionDate, true⟩

/-- The statuses a posting action starts from, and the error where they are missed. -/
def checkPostable (kind : DocumentKind) (doc : Document) (act : Action) : Outcome Unit :=
  if act = .receive then
    ensure (kind = .transfers ∧ doc.status = .inTransit) (.conflict "Transfer is not in transit")
  else if kind = .adjustments ∨ kind = .stockCounts ∨ kind = .transfers then
    ensure (doc.status = .approved) (.conflict "Approval is required before posting")
  else
    ensure (doc.status = .draft ∨ doc.status = .approved)
      (.conflict "Document cannot be posted in its current state")

/-- The status of a document all of whose lines have been posted. -/
def postedStatus : Action → DocumentStatus
  | .dispatch => .inTransit
  | .receive => .received
  | _ => .posted

def postLines (ctx : Context 28 12) (env : Env) (kind : DocumentKind) (doc : Document)
    (act : Action) (lines : List Line) (db : Database) : Outcome Database :=
  lines.foldlM (fun db line => postLine ctx env db kind doc line act) db

def postDocument (ctx : Context 28 12) (env : Env) (db : Database) (kind : DocumentKind)
    (doc : Document) (act : Action) : Outcome Database := do
  ensure (kind ≠ .requests) (.validation "Create an issue from an approved request")
  checkPostable kind doc act
  validateRefs env db doc.refData
  ensure (db.linesOf doc.id ≠ []) (.validation "Document has no lines")
  let db ← postLines ctx env kind doc act (db.linesOf doc.id) db
  let posted ← found (db.document kind doc.id)
  .ok (setDocument db { posted with status := postedStatus act })

/-- `action`. -/
def action (ctx : Context 28 12) (env : Env) (db : Database) (kind : DocumentKind) (id : Id)
    (act : Action) (body : ActionBody) : Outcome Database := do
  let doc ← found (db.document kind id)
  if terminal act = some doc.status then .ok db
  else
    match act with
    | .cancel => cancelDocument db doc
    | .reject => rejectDocument db kind doc
    | .submit => submitDocument db kind doc body
    | .start => startDocument db kind doc false body
    | .restart => startDocument db kind doc true body
    | .approve => approveDocument ctx env db kind doc body
    | .post => postDocument ctx env db kind doc .post
    | .dispatch => postDocument ctx env db kind doc .dispatch
    | .receive => postDocument ctx env db kind doc .receive

/-! ## `request_issue` -/

/-- The issue line for what is still due of a request line. -/
def issueLine (db : Database) (line : Line) : Outcome (Option LineBody) :=
  let q := line.quantityApproved.getD 0 - line.quantityIssued
  if 0 < q then do
    let item ← found (db.items.find? line.itemId)
    if h : 0 < q ∧ IsAmount q then
      .ok (some {
        itemId := item.id
        unitId := item.baseUnitId
        quantity := ⟨q, h⟩
        currency := item.defaultCurrency
        lotId := line.lotId
        serialId := line.serialId
        binId := line.binId })
    else .error (.validation "quantity")
  else .ok none

def requestIssue (ctx : Context 28 12) (env : Env) (db : Database) (id storeId : Id) :
    Outcome (Id × Database) := do
  let request ← found (db.document .requests id)
  ensure (request.status = .approved ∨ request.status = .partiallyIssued)
    (.conflict "Request must be approved")
  match env.first (db.documents.rows.filter (fun doc => doc.kind = .issues ∧
      doc.requestId = some id ∧ (doc.status = .draft ∨ doc.status = .approved))) with
  | some existing => .ok (existing.id, db)
  | none => do
    let due ← (db.lines.rows.filter (·.documentId = id)).mapM (issueLine db)
    let items := due.reduceOption
    ensure (1 ≤ items.length) (.conflict "Request has already been fulfilled")
    if h : 1 ≤ items.length ∧ items.length ≤ 200 then
      documentSave ctx env db .issues
        { storeId := some storeId
          requestId := some request.id
          projectId := request.projectId
          assetId := request.assetId
          employeeId := request.employeeId
          purpose := request.purpose
          items := items
          items_valid := h } none
    else .error (.validation "items")

/-! ## The item catalogue -/

/-- `InventoryItemCreate` and `InventoryItemUpdate`; `none` is an entry that is not set. -/
structure ItemBody where
  baseUnitId : Option Id := none
  trackingMethod : Option TrackingMethod := none
  requiresBatchTracking : Option Bool := none
  requiresSerialTracking : Option Bool := none
  requiresExpiryTracking : Option Bool := none
  requiresApprovalToIssue : Option Bool := none
  isReturnable : Option Bool := none
  standardUnitCost : Option (Option ℚ) := none
  defaultCurrency : Option String := none
  isActive : Option Bool := none

def ItemBody.assign (body : ItemBody) (row : Item) : Item where
  id := row.id
  isActive := body.isActive.getD row.isActive
  baseUnitId := body.baseUnitId.getD row.baseUnitId
  trackingMethod := body.trackingMethod.getD row.trackingMethod
  requiresBatchTracking := body.requiresBatchTracking.getD row.requiresBatchTracking
  requiresSerialTracking := body.requiresSerialTracking.getD row.requiresSerialTracking
  requiresExpiryTracking := body.requiresExpiryTracking.getD row.requiresExpiryTracking
  requiresApprovalToIssue := body.requiresApprovalToIssue.getD row.requiresApprovalToIssue
  isReturnable := body.isReturnable.getD row.isReturnable
  standardUnitCost := (body.standardUnitCost.getD row.standardUnitCost).map (numeric 4)
  defaultCurrency := body.defaultCurrency.getD row.defaultCurrency

/-- The columns that are frozen once the item has a transaction. -/
def Item.rules (item : Item) : Id × TrackingMethod × Bool × Bool × Bool × String :=
  (item.baseUnitId, item.trackingMethod, item.requiresBatchTracking,
    item.requiresSerialTracking, item.requiresExpiryTracking, item.defaultCurrency)

def newItem (env : Env) (db : Database) (baseUnitId : Id) : Item where
  id := env.uuid db.items.size
  isActive := true
  baseUnitId := baseUnitId
  trackingMethod := .quantity
  requiresBatchTracking := false
  requiresSerialTracking := false
  requiresExpiryTracking := false
  requiresApprovalToIssue := false
  isReturnable := false
  standardUnitCost := none
  defaultCurrency := "USD"

/-- The constraints of the item table. -/
def checkItem (row : Item) : Outcome Unit := do
  ensure (∀ cost ∈ row.standardUnitCost, 0 ≤ cost) (.integrity "item_nonnegative")
  ensure (∀ cost ∈ row.standardUnitCost, Fits 18 4 cost) .overflow

/-- `master_save` for items. -/
def itemSave (env : Env) (db : Database) (body : ItemBody) : Option Id → Outcome Database
  | none => do
    validateRefs env db { baseUnitId := body.baseUnitId }
    let baseUnitId ← orError body.baseUnitId (.validation "base_unit_id")
    let row := body.assign (newItem env db baseUnitId)
    checkItem row
    let items ← orError (db.items.insert? row) (.integrity "pk_inventory_items")
    .ok { db with items }
  | some id => do
    let old ← found (db.items.find? id)
    ensure (∀ active ∈ body.isActive, active = old.isActive)
      (.validation "Use archive or restore to change item activity")
    validateRefs env db { baseUnitId := body.baseUnitId }
    let row := body.assign old
    ensure (row.rules = old.rules ∨ ∀ tx ∈ db.transactions.rows, tx.itemId ≠ id)
      (.conflict "Stocked item units, currency and tracking rules cannot be changed")
    checkItem row
    .ok { db with items := db.items.set row }

/-- The stock of an item on hand and in transit, over the buckets of the ledger. -/
def Database.stockOf (db : Database) (itemId : Id) : ℚ :=
  (((db.ledger.map (·.bucket)).dedup.filter (·.itemId = itemId)).map fun k =>
    db.balances k .quantityOnHand + db.balances k .quantityInTransit).sum

/-- `archive` for items, and `restore`. -/
def archive (db : Database) (id : Id) (restore : Bool) : Outcome Database := do
  let row ← found (db.items.find? id)
  ensure (restore = true ∨ db.stockOf id = 0)
    (.conflict "Cannot archive an item with stock on hand or in transit")
  .ok { db with items := db.items.set { row with isActive := restore } }

/-!
## Reservations

`reserve` and `release`. Both post a transaction against the reservation itself.
-/

/-- `InventoryReservationCreate`. -/
structure ReservationBody where
  itemId : Id
  storeId : Id
  binId : Option Id := none
  lotId : Option Id := none
  serialId : Option Id := none
  projectId : Option Id := none
  assetId : Option Id := none
  quantity : PositiveAmount
  expiresAt : Option Timestamp := none

def ReservationBody.refData (body : ReservationBody) : RefData where
  itemId := some body.itemId
  storeId := some body.storeId
  binId := body.binId
  lotId := body.lotId
  serialId := body.serialId
  projectId := body.projectId
  assetId := body.assetId
  expiresAt := body.expiresAt

def newReservation (env : Env) (db : Database) (body : ReservationBody) : Reservation where
  id := env.uuid db.reservations.size
  itemId := body.itemId
  storeId := body.storeId
  binId := body.binId
  lotId := body.lotId
  serialId := body.serialId
  projectId := body.projectId
  assetId := body.assetId
  quantity := body.quantity.1
  fulfilledQuantity := 0
  expiresAt := body.expiresAt.map (·.instant)
  status := .active

def Reservation.bucket (row : Reservation) : Bucket :=
  ⟨row.itemId, row.storeId, row.binId, row.lotId⟩

/-- The serial of a new reservation becomes `RESERVED`. -/
def reserveSerial (db : Database) (row : Reservation) (q : ℚ) : Outcome Database :=
  match row.serialId with
  | none => .ok db
  | some id => do
    let serial ← found (db.serials.find? id)
    ensure (q = 1 ∧ serial.currentStoreId = some row.storeId ∧ serial.currentBinId = row.binId)
      (.validation "Serial does not match reservation location or quantity")
    .ok { db with serials := db.serials.set { serial with status := .reserved } }

def reserve (ctx : Context 28 12) (env : Env) (db : Database) (body : ReservationBody) :
    Outcome Database := do
  validateRefs env db body.refData
  let item ← found (db.items.find? body.itemId)
  ensure (∀ t ∈ body.expiresAt, env.clock < t.instant)
    (.validation "Reservation expiry must be in the future")
  let q ← quantity ctx db item item.baseUnitId body.quantity.1
  let row := newReservation env db body
  let reservations ← orError (db.reservations.insert? row)
    (.integrity "pk_inventory_reservations")
  let db := { db with reservations }
  trackedReservation env db item row
  let (tx, db) ← transaction ctx env db (row.origin env) row.entry .reservation 0 q
  let db ← effect ctx db tx.id row.bucket (Changes.fields { quantityReserved := q })
  reserveSerial db row q

/-- The status of a reservation that ends before it is fulfilled. -/
def releasedStatus (env : Env) (row : Reservation) (cancel : Bool) : ReservationStatus :=
  if cancel then .cancelled
  else if row.expiresAt.any (· ≤ env.clock) then .expired
  else .released

def releaseSerial (db : Database) (row : Reservation) : Outcome Database :=
  match row.serialId with
  | none => .ok db
  | some id => do
    let serial ← found (db.serials.find? id)
    .ok { db with serials := db.serials.set { serial with status := .inStock } }

def release (ctx : Context 28 12) (env : Env) (db : Database) (id : Id) (cancel : Bool) :
    Outcome Database := do
  let row ← found (db.reservations.find? id)
  if row.status ≠ .active then .ok db
  else do
    let remaining := row.quantity - row.fulfilledQuantity
    let (tx, db) ← transaction ctx env db (row.origin env) row.entry .reservationRelease 0 remaining
    let db ← effect ctx db tx.id row.bucket (Changes.fields { quantityReserved := -remaining })
    let db := { db with
      reservations := db.reservations.set { row with status := releasedStatus env row cancel } }
    releaseSerial db row

/-!
## Reversal

`reverse` undoes an issue or a receipt by the negated ledger rows of its
transaction.
-/

/-- The types `reverse` accepts. -/
def TransactionType.reversible : TransactionType → Bool
  | .issue | .openingBalance | .purchaseReceipt | .otherReceipt => true
  | _ => false

/-- A transaction of the item whose `created_at` is later. -/
def Database.laterMovement (db : Database) (original : Transaction) : Prop :=
  ∃ tx ∈ db.transactions.rows, tx.itemId = original.itemId ∧ original.createdAt < tx.createdAt

instance (db : Database) (original : Transaction) : Decidable (db.laterMovement original) :=
  inferInstanceAs (Decidable (∃ tx ∈ db.transactions.rows, _))

/-- The guard for issues: requested, reserved and returnable ones are returned instead. -/
def checkReversible (db : Database) (original : Transaction) : Outcome Unit :=
  if original.type = .issue then do
    let issue ← found (db.document .issues original.referenceId)
    let item ← found (db.items.find? original.itemId)
    ensure (issue.reservationId = none ∧ issue.requestId = none ∧ item.isReturnable = false)
      (.conflict "Use a return for requested, reserved or returnable issues")
  else .ok ()

def reversalRow (env : Env) (db : Database) (original : Transaction) : Transaction :=
  { original with
    id := env.uuid db.transactions.size
    postingKey := .reversal original.id
    type := .reversal
    reversalOfId := some original.id
    transactionDate := env.clock
    createdAt := env.now }

/-- Write the negation of a ledger row, as the database keeps it. -/
def reverseEntry (ctx : Context 28 12) (transactionId : Id) (db : Database) (entry : LedgerEntry) :
    Outcome Database :=
  effect ctx db transactionId entry.bucket (fun f => -entry.stored f)

/-- An issued serial goes back to where the transaction took it from, a received one
is cancelled. -/
def restoredSerial (original : Transaction) (serial : Serial) : Serial :=
  if original.type = .issue then
    { serial with
      status := .inStock
      currentStoreId := original.fromStoreId, currentBinId := original.fromBinId }
  else { serial with status := .cancelled, currentStoreId := none, currentBinId := none }

def restoreSerial (db : Database) (original : Transaction) : Outcome Database :=
  match original.serialId with
  | none => .ok db
  | some id => do
    let serial ← found (db.serials.find? id)
    .ok { db with serials := db.serials.set (restoredSerial original serial) }

def reverse (ctx : Context 28 12) (env : Env) (db : Database) (id : Id) : Outcome Database := do
  let original ← found (db.transactions.find? id)
  if ∃ tx ∈ db.transactions.rows, tx.reversalOfId = some id then .ok db
  else do
    ensure original.type.reversible
      (.conflict "Use a return, transfer back or approved adjustment for this movement")
    ensure (¬ db.laterMovement original)
      (.conflict "Later movements exist; use a traceable return or approved adjustment")
    checkReversible db original
    let row := reversalRow env db original
    let db ← insertTransaction db row
    let db ← (db.ledger.filter (·.transactionId = id)).foldlM (reverseEntry ctx row.id) db
    restoreSerial db original

end Cestos.Inventory
