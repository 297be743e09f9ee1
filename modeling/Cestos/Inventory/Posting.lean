import Mathlib.Algebra.Order.Ring.Abs
import Cestos.Inventory.Ledger

/-!
# Posting a line

`post_line` and its branches, one function for each kind of movement.
-/

namespace Cestos.Inventory

open Cestos.Core Cestos.Core.Decimal

/-- What `post_line` has looked up when it branches. -/
structure Move where
  doc : Document
  line : Line
  item : Item
  source : Id
  binId : Option Id
  q : ℚ
  cost : ℚ
  serial : Option Serial

/-- The bucket of the line. -/
def Move.bucket (m : Move) : Bucket := ⟨m.item.id, m.source, m.binId, m.line.lotId⟩

/-- The end of `post_line`: the costs go to the line. -/
def finishLine (ctx : Context 28 12) (db : Database) (line : Line) (q cost : ℚ) :
    Outcome Database := do
  let unitCost := numeric 4 cost
  let totalCost := quantize 4 (ctx.mul q cost)
  ensure (Fits 18 4 unitCost ∧ Fits 18 4 totalCost) .overflow
  .ok { db with
    lines := db.lines.set { line with unitCost := some unitCost, totalCost := some totalCost } }

/-- The serials after the serial of the line, if it has one, has changed. -/
def Move.serialsAfter (m : Move) (serials : Table Serial.id) (f : Serial → Serial) :
    Table Serial.id :=
  match m.serial with
  | none => serials
  | some serial => serials.set (f serial)

def Move.updateSerial (m : Move) (db : Database) (f : Serial → Serial) : Database :=
  { db with serials := m.serialsAfter db.serials f }

/-! ## Receipts -/

def receiptType : Purpose → TransactionType
  | .openingBalance => .openingBalance
  | .purchaseReceipt => .purchaseReceipt
  | _ => .otherReceipt

def receiptChanges (ctx : Context 28 12) (q cost : ℚ) : BucketFields :=
  Changes.fields { quantityOnHand := q, inventoryValue := ctx.mul q cost }

def postReceipt (ctx : Context 28 12) (env : Env) (db : Database) (m : Move) :
    Outcome Database := do
  let unitCost ← orError m.line.unitCost (.validation "Receipt unit cost is required")
  let cost := ctx.div (ctx.mul unitCost m.line.quantity) m.q
  let (tx, db) ← transaction ctx env db m.doc.origin m.line.entry (receiptType m.doc.purpose)
    cost m.q
  let db ← effect ctx db tx.id m.bucket (receiptChanges ctx m.q cost)
  finishLine ctx db m.line m.q cost

/-! ## Issues -/

/-- A reservation after `q` of it has been issued. -/
def Reservation.fulfil (row : Reservation) (q : ℚ) : Reservation :=
  { row with
    fulfilledQuantity := row.fulfilledQuantity + q
    status := if row.fulfilledQuantity + q = row.quantity then .fulfilled else row.status }

/-- The reservation is for this bucket and serial and has `q` left. -/
def Move.coveredBy (m : Move) (row : Reservation) : Prop :=
  row.status = .active ∧
    (row.itemId = m.item.id ∧ row.storeId = m.source ∧ row.binId = m.binId ∧
      row.lotId = m.line.lotId ∧ row.serialId = m.line.serialId) ∧
    m.q ≤ row.quantity - row.fulfilledQuantity

instance (m : Move) (row : Reservation) : Decidable (m.coveredBy row) :=
  inferInstanceAs (Decidable (_ ∧ _))

/-- The issue draws on the reservation its document names. -/
def coverReservation (env : Env) (db : Database) (m : Move) : Outcome Database :=
  match m.doc.reservationId with
  | none => .ok db
  | some id => do
    let reservation ← found (db.reservations.find? id)
    ensure (m.coveredBy reservation) (.conflict "Reservation does not cover this issue")
    ensure (∀ t ∈ reservation.expiresAt, env.clock < t)
      (.conflict "Reservation has expired; release it first")
    ensure ((∀ p ∈ reservation.projectId, m.doc.projectId = some p) ∧
        ∀ a ∈ reservation.assetId, m.doc.assetId = some a)
      (.validation "Reservation recipient does not match issue")
    .ok { db with reservations := db.reservations.set (reservation.fulfil m.q) }

/-- The status of a request some of whose quantity has been issued. -/
def requestStatus (lines : List Line) : DocumentStatus :=
  if lines.any (fun l => l.quantityApproved.any (l.quantityIssued < ·)) then .partiallyIssued
  else .fulfilled

/-- The issue counts towards the request its document names. -/
def fulfilRequest (db : Database) (m : Move) : Outcome Database :=
  match m.doc.requestId with
  | none => .ok db
  | some id => do
    let request ← found (db.document .requests id)
    ensure (request.status = .approved ∨ request.status = .partiallyIssued)
      (.conflict "Request is not approved")
    ensure (request.projectId = m.doc.projectId ∧ request.assetId = m.doc.assetId ∧
        request.employeeId = m.doc.employeeId)
      (.validation "Issue recipient must match the approved request")
    let reqline ← orError ((db.linesOf request.id).find? (·.itemId = m.item.id))
      (.conflict "Issue exceeds approved request quantity")
    ensure (reqline.quantityIssued + m.q ≤ reqline.quantityApproved.getD 0)
      (.conflict "Issue exceeds approved request quantity")
    let db := { db with
      lines := db.lines.set { reqline with quantityIssued := reqline.quantityIssued + m.q } }
    .ok { db with
      documents := db.documents.set { request with
        status := requestStatus (db.linesOf request.id) } }

def newCustody (id : Id) (m : Move) : Custody where
  id := id
  itemId := m.item.id
  serialId := m.line.serialId
  employeeId := m.doc.employeeId
  projectId := m.doc.projectId
  assetId := m.doc.assetId
  issueId := m.doc.id
  quantity := m.q
  returnedQuantity := 0
  conditionAtReturn := none
  status := .issued

def recordCustody (env : Env) (db : Database) (m : Move) : Outcome Database :=
  if m.item.isReturnable then do
    let custody ← orError (db.custody.insert? (newCustody (env.uuid db.custody.size) m))
      (.integrity "pk_inventory_custody")
    .ok { db with custody }
  else .ok db

/-- The serial of a posted issue line. -/
def issuedSerial (m : Move) (serial : Serial) : Serial :=
  { serial with
    status := .issued, currentStoreId := none, currentBinId := none
    assignedAssetId := m.doc.assetId }

def issueChanges (ctx : Context 28 12) (reserved : Bool) (q cost : ℚ) : BucketFields :=
  Changes.fields {
    quantityOnHand := -q
    quantityReserved := if reserved then -q else 0
    inventoryValue := ctx.mul (-q) cost }

def postIssue (ctx : Context 28 12) (env : Env) (db : Database) (m : Move) :
    Outcome Database := do
  ensure (m.item.requiresApprovalToIssue → m.doc.approvedById.isSome)
    (.conflict "This item requires issue approval")
  let db ← coverReservation env db m
  let db ← fulfilRequest db m
  let (tx, db) ← transaction ctx env db m.doc.origin m.line.entry .issue m.cost m.q
  let db ← effect ctx db tx.id m.bucket
    (issueChanges ctx m.doc.reservationId.isSome m.q m.cost)
  let db ← recordCustody env (m.updateSerial db (issuedSerial m)) m
  finishLine ctx db m.line m.q m.cost

/-! ## Returns -/

/-- The transactions a return line can refer to. -/
def Transaction.isIssueOf (tx : Transaction) (issueId itemId : Id) (lotId serialId : Option Id) :
    Prop :=
  tx.referenceId = issueId ∧ tx.itemId = itemId ∧ tx.lotId = lotId ∧ tx.serialId = serialId ∧
    tx.type = .issue

/-- The transactions of earlier returns of an issue. -/
def Database.isReturnOf (db : Database) (tx : Transaction) (issueId itemId : Id)
    (lotId serialId : Option Id) : Prop :=
  (db.document .returns tx.referenceId).any (·.originalIssueId = some issueId) = true ∧
    tx.itemId = itemId ∧ tx.lotId = lotId ∧ tx.serialId = serialId ∧
    tx.type = .returnFromEmployee

instance (tx : Transaction) (issueId itemId : Id) (lotId serialId : Option Id) :
    Decidable (tx.isIssueOf issueId itemId lotId serialId) :=
  inferInstanceAs (Decidable (_ ∧ _))

instance (db : Database) (tx : Transaction) (issueId itemId : Id) (lotId serialId : Option Id) :
    Decidable (db.isReturnOf tx issueId itemId lotId serialId) :=
  inferInstanceAs (Decidable (_ ∧ _))

/-- The quantity an issue took out of a lot or serial. -/
def Database.issued (db : Database) (issueId itemId : Id) (lotId serialId : Option Id) : ℚ :=
  db.transactions.sum fun tx =>
    if tx.isIssueOf issueId itemId lotId serialId then tx.quantity else 0

/-- The quantity that has been returned of it. -/
def Database.returned (db : Database) (issueId itemId : Id) (lotId serialId : Option Id) : ℚ :=
  db.transactions.sum fun tx =>
    if db.isReturnOf tx issueId itemId lotId serialId then tx.quantity else 0

/-- The total cost of the issued quantity, summed in the arithmetic context. -/
def issuedCost (ctx : Context 28 12) (db : Database) (issueId itemId : Id)
    (lotId serialId : Option Id) : ℚ :=
  (db.transactions.rows.filter (·.isIssueOf issueId itemId lotId serialId)).foldl
    (fun total tx => ctx.add total (ctx.mul tx.quantity tx.unitCost)) 0

def Condition.damages : Condition → Bool
  | .good | .usedServiceable => false
  | _ => true

/-- The return goes to the recipient of the original issue. -/
def Document.recipientOf (doc original : Document) : Document :=
  { doc with
    projectId := original.projectId, assetId := original.assetId
    employeeId := original.employeeId }

def returnedSerial (m : Move) (serial : Serial) : Serial :=
  { serial with
    status := if m.doc.condition.damages then .quarantined else .inStock
    currentStoreId := some m.source, currentBinId := m.binId, assignedAssetId := none }

/-- The custody rows a return line could update. -/
def custodyOf (custody : Table Custody.id) (issueId itemId : Id) (serialId : Option Id) :
    List Custody :=
  custody.rows.filter (fun c => c.issueId = issueId ∧ c.itemId = itemId ∧ c.serialId = serialId)

/-- A custody row after `q` of it has come back. -/
def Custody.giveBack (row : Custody) (q : ℚ) (condition : Condition) : Custody :=
  { row with
    returnedQuantity := row.returnedQuantity + q
    conditionAtReturn := some condition
    status := if row.returnedQuantity + q = row.quantity then .returned else row.status }

def returnCustody (env : Env) (db : Database) (m : Move) (issueId : Id) : Outcome Database :=
  match env.first (custodyOf db.custody issueId m.item.id m.line.serialId) with
  | none => .ok db
  | some custody => do
    ensure (custody.returnedQuantity + m.q ≤ custody.quantity) (.integrity "custody_quantity")
    .ok { db with custody := db.custody.set (custody.giveBack m.q m.doc.condition) }

def returnChanges (ctx : Context 28 12) (damaged : Bool) (q cost : ℚ) : BucketFields :=
  Changes.fields {
    quantityOnHand := q
    quantityQuarantined := if damaged then q else 0
    inventoryValue := ctx.mul q cost }

def postReturn (ctx : Context 28 12) (env : Env) (db : Database) (m : Move) :
    Outcome Database := do
  let issueId ← orError m.doc.originalIssueId
    (.validation "Return must reference an original issue")
  let original ← found (db.document .issues issueId)
  ensure (original.status = .posted) (.conflict "Original issue is not posted")
  let issued := db.issued original.id m.item.id m.line.lotId m.line.serialId
  let prior := db.returned original.id m.item.id m.line.lotId m.line.serialId
  ensure (¬ (issued = 0 ∨ issued < m.q + prior)) (.conflict "Return exceeds quantity issued")
  let cost := ctx.div (issuedCost ctx db original.id m.item.id m.line.lotId m.line.serialId) issued
  let doc := m.doc.recipientOf original
  let db := { db with documents := db.documents.set doc }
  let (tx, db) ← transaction ctx env db doc.origin m.line.entry .returnFromEmployee cost m.q
  let db ← effect ctx db tx.id m.bucket (returnChanges ctx m.doc.condition.damages m.q cost)
  ensure (∀ serial ∈ m.serial, serial.status = .issued ∨ serial.status = .installed)
    (.conflict "Serial has already been returned")
  let db ← returnCustody env (m.updateSerial db (returnedSerial m)) m original.id
  finishLine ctx db m.line m.q cost

/-! ## Transfers -/

def dispatchedSerial (serial : Serial) : Serial :=
  { serial with status := .inTransit, currentStoreId := none, currentBinId := none }

def dispatchChanges (ctx : Context 28 12) (q cost : ℚ) : BucketFields :=
  Changes.fields {
    quantityOnHand := -q
    quantityInTransit := q
    inventoryValue := ctx.mul (-q) cost
    transitValue := ctx.mul q cost }

def postDispatch (ctx : Context 28 12) (env : Env) (db : Database) (m : Move) :
    Outcome Database := do
  let (tx, db) ← transaction ctx env db m.doc.origin m.line.entry .transferOut m.cost m.q
  let db ← effect ctx db tx.id m.bucket (dispatchChanges ctx m.q m.cost)
  finishLine ctx (m.updateSerial db dispatchedSerial) m.line m.q m.cost

/-- The transaction of the dispatch, found by its posting key. -/
def Database.dispatchOf (db : Database) (doc line : Id) : Option Transaction :=
  db.transactions.rows.find? (·.postingKey = .line doc line .transferOut)

/-- Where a transfer line arrives. -/
def Move.destination (m : Move) (store : Id) : Bucket :=
  ⟨m.item.id, store, m.line.toBinId, m.line.lotId⟩

def receivedSerial (m : Move) (serial : Serial) : Serial :=
  { serial with
    status := .inStock, currentStoreId := m.doc.toStoreId, currentBinId := m.line.toBinId }

/-- What a receive takes out of the transit of the source. -/
def departureChanges (ctx : Context 28 12) (q cost : ℚ) : BucketFields :=
  Changes.fields { quantityInTransit := -q, transitValue := ctx.mul (-q) cost }

/-- What a receive adds to the stock of the destination. -/
def arrivalChanges (ctx : Context 28 12) (q cost : ℚ) : BucketFields :=
  Changes.fields { quantityOnHand := q, inventoryValue := ctx.mul q cost }

def postReceive (ctx : Context 28 12) (env : Env) (db : Database) (m : Move) :
    Outcome Database := do
  validateRefs env db { storeId := m.doc.toStoreId, binId := m.line.toBinId }
  let dispatched ← orError (db.dispatchOf m.doc.id m.line.id)
    (.conflict "Transfer dispatch ledger is missing")
  let cost := dispatched.unitCost
  let (tx, db) ← transaction ctx env db m.doc.origin m.line.entry .transferIn cost m.q
  let store ← orError m.doc.toStoreId (.integrity "inventory_balances_store_id")
  let db ← effect ctx db tx.id m.bucket (departureChanges ctx m.q cost)
  let db ← effect ctx db tx.id (m.destination store) (arrivalChanges ctx m.q cost)
  finishLine ctx (m.updateSerial db (receivedSerial m)) m.line m.q cost

/-! ## Adjustments and stock counts -/

/-- The purposes an adjustment may have, with the type of its transaction. -/
def adjustmentType : Purpose → Option TransactionType
  | .positiveAdjustment => some .positiveAdjustment
  | .negativeAdjustment => some .negativeAdjustment
  | .damage => some .damage
  | .loss => some .loss
  | .writeOff => some .writeOff
  | .quarantine => some .quarantine
  | .releaseFromQuarantine => some .releaseFromQuarantine
  | _ => none

/-- What an adjustment changes in its bucket. -/
def adjustmentChanges (ctx : Context 28 12) (purpose : Purpose) (quarantined delta q cost : ℚ) :
    BucketFields :=
  match purpose with
  | .quarantine => Changes.fields { quantityQuarantined := q }
  | .releaseFromQuarantine => Changes.fields { quantityQuarantined := -q }
  | .writeOff | .damage =>
    Changes.fields {
      quantityOnHand := delta
      quantityQuarantined := -min q quarantined
      inventoryValue := ctx.mul delta cost }
  | _ => Changes.fields { quantityOnHand := delta, inventoryValue := ctx.mul delta cost }

def adjustedSerial (purpose : Purpose) (serial : Serial) : Serial :=
  match purpose with
  | .quarantine => { serial with status := .quarantined }
  | .releaseFromQuarantine => { serial with status := .inStock }
  | _ => { serial with status := .scrapped, currentStoreId := none }

/-- Post a difference `delta` whose absolute value is `q`. -/
def adjust (ctx : Context 28 12) (env : Env) (db : Database) (m : Move) (txkind : TransactionType)
    (delta q : ℚ) : Outcome Database := do
  let purpose := m.doc.purpose
  let cost :=
    match m.line.unitCost with
    | some unitCost =>
      if 0 < delta then ctx.div (ctx.mul unitCost m.line.quantity) m.line.normalizedQuantity
      else m.cost
    | none => m.cost
  let (tx, db) ← transaction ctx env db m.doc.origin m.line.entry txkind cost q
  ensure (purpose = .releaseFromQuarantine → ∀ lotId ∈ m.line.lotId,
      ∀ lot ∈ db.lots.find? lotId, ∀ day ∈ lot.expiryDate, env.today ≤ day)
    (.conflict "Expired stock cannot be released")
  let db ← effect ctx db tx.id m.bucket
    (adjustmentChanges ctx purpose (db.balances m.bucket .quantityQuarantined) delta q cost)
  ensure (m.serial = none ∨ purpose = .quarantine ∨ purpose = .releaseFromQuarantine ∨ delta < 0)
    (.validation "Receive or return serialized items instead of positive adjustments")
  finishLine ctx (m.updateSerial db (adjustedSerial purpose)) m.line q cost

/-- A serial that is adjusted is held in the bucket and fits the purpose. -/
def checkAdjusted (m : Move) : Outcome Unit := do
  ensure (∀ serial ∈ m.serial, serial.currentStoreId = some m.source ∧
      serial.currentBinId = m.binId ∧
      (serial.status = .inStock ∨ serial.status = .quarantined))
    (.conflict "Serial is not held in this stock bucket")
  ensure (∀ serial ∈ m.serial, m.doc.purpose = .releaseFromQuarantine →
      serial.status = .quarantined)
    (.conflict "Selected serial is not quarantined")
  ensure (∀ serial ∈ m.serial, m.doc.purpose = .quarantine → serial.status = .inStock)
    (.conflict "Selected serial is not available for quarantine")

def postAdjustment (ctx : Context 28 12) (env : Env) (db : Database) (m : Move) :
    Outcome Database := do
  checkAdjusted m
  ensure (given m.doc.reason) (.validation "Adjustment reason is required")
  let txkind ← orError (adjustmentType m.doc.purpose)
    (.validation "Select a valid adjustment purpose")
  let delta := if m.doc.purpose = .positiveAdjustment then m.q else -m.q
  adjust ctx env db m txkind delta m.q

def postCount (ctx : Context 28 12) (env : Env) (db : Database) (m : Move) :
    Outcome Database := do
  checkAdjusted m
  let system := db.balances m.bucket .quantityOnHand
  ensure (m.line.systemQuantity = some system)
    (.conflict "Stock changed since count started; restart the count")
  let counted ← orError m.line.countedQuantity (.validation "Count quantity missing")
  let delta := counted.1 - system
  if delta = 0 then .ok db
  else adjust ctx env db m .stockCountAdjustment delta |delta|

/-! ## The whole line -/

/-- The average cost of a bucket, the standard cost of the item when it is empty. -/
def averageCost (ctx : Context 28 12) (fields : BucketFields) (item : Item) : ℚ :=
  if fields .quantityOnHand = 0 then item.standardUnitCost.getD 0
  else ctx.div (fields .inventoryValue) (fields .quantityOnHand)

/-- The branches of `post_line`. -/
def postMove (ctx : Context 28 12) (env : Env) (db : Database) (kind : DocumentKind)
    (action : Action) (m : Move) : Outcome Database :=
  match kind with
  | .receipts => postReceipt ctx env db m
  | .issues => postIssue ctx env db m
  | .returns => postReturn ctx env db m
  | .transfers =>
    match action with
    | .dispatch => postDispatch ctx env db m
    | .receive => postReceive ctx env db m
    | _ => .error (.validation "Use dispatch and receive for transfers")
  | .adjustments => postAdjustment ctx env db m
  | .stockCounts => postCount ctx env db m
  -- no branch of its own: the audit entry then reads a variable without a value
  | .requests => .error (.attribute "tx")

/-- The row of the line's serial. -/
def lineSerial (db : Database) : Option Id → Outcome (Option Serial)
  | none => .ok none
  | some id => do
    let serial ← found (db.serials.find? id)
    .ok (some serial)

/-- Kinds and actions for which expired lots and serials out of stock are allowed. -/
def allowsUnavailable (kind : DocumentKind) (action : Action) : Bool :=
  kind = .returns || kind = .adjustments || kind = .stockCounts || action = .receive

/-- Where the stock of a line is: transfers name it by `from_store_id` and `from_bin_id`. -/
def sourceStore (kind : DocumentKind) (doc : Document) : Option Id :=
  if kind = .transfers then doc.fromStoreId else doc.storeId

def sourceBin (kind : DocumentKind) (line : Line) : Option Id :=
  if kind = .transfers then line.fromBinId else line.binId

/-- Kinds and actions that take a serial from the place where it is. -/
def takesSerial (kind : DocumentKind) (action : Action) : Bool :=
  (kind = .issues || kind = .transfers) && action ≠ .receive

def postLine (ctx : Context 28 12) (env : Env) (db : Database) (kind : DocumentKind)
    (doc : Document) (line : Line) (action : Action) : Outcome Database := do
  let item ← found (db.items.find? line.itemId)
  ensure item.isActive (.conflict "Item is archived")
  let q ← quantity ctx db item line.unitId line.quantity
  ensure (q = line.normalizedQuantity)
    (.conflict "Unit conversion changed; revise the draft before posting")
  validateRefs env db {
    itemId := some item.id
    storeId := sourceStore kind doc
    binId := sourceBin kind line
    lotId := line.lotId
    serialId := line.serialId }
  let (line, db) ← tracked env db item line doc (kind = .receipts) (allowsUnavailable kind action)
  let source ← orError (sourceStore kind doc) (.integrity "inventory_balances_store_id")
  let binId := sourceBin kind line
  let cost := averageCost ctx (db.balances ⟨item.id, source, binId, line.lotId⟩) item
  let serial ← lineSerial db line.serialId
  ensure (takesSerial kind action → ∀ s ∈ serial,
      s.currentStoreId = some source ∧ s.currentBinId = binId)
    (.conflict "Serial is in another stock location")
  postMove ctx env db kind action { doc, line, item, source, binId, q, cost, serial }

end Cestos.Inventory
