import Cestos.Core.Decimal.Column
import Cestos.Core.Outcome
import Cestos.Core.Sessions
import Cestos.Core.Table

/-!
# Goods receipts

Purchase orders, their lines, and the receipts that clients record on them. A receipt
reads the order and its lines without a lock, computes the new quantities in memory and
writes them back when it commits.
-/

namespace Cestos.Procurement

open Cestos.Core Cestos.Core.Decimal

abbrev Id := Nat

inductive PoStatus
  | draft | waitingApproval | approved | sentToSupplier | partiallyReceived | received | closed
  | cancelled
  deriving DecidableEq, Repr

structure PurchaseOrder where
  id : Id
  status : PoStatus
  /-- Whether `archived_at` is set. -/
  archived : Bool
  deriving DecidableEq, Repr

structure PurchaseOrderItem where
  id : Id
  purchaseOrderId : Id
  description : Option String
  quantityOrdered : Column 14 2
  quantityReceived : ℚ
  deriving DecidableEq

structure Database where
  orders : Table PurchaseOrder.id
  items : Table PurchaseOrderItem.id
  /-- The receipts that clients were told are recorded: the line and the quantity. -/
  accepted : List (Id × ℚ)

/-- `ReceiveGoodsRequest.item_receipts`. -/
abbrev ItemReceipts := List (Id × ℚ)

/-- An order line in memory, with the `quantity_received` it has there. -/
structure LoadedItem where
  item : PurchaseOrderItem
  quantityReceived : ℚ
  deriving DecidableEq

/-- One turn of the loop over `po.items`. -/
def receiveItem (ctx : Context 28 12) (receipts : ItemReceipts) (item : PurchaseOrderItem) :
    Except String LoadedItem :=
  match receipts.lookup item.id with
  | none => .ok ⟨item, item.quantityReceived⟩
  | some qtyAdd => do
    ensure (¬ (qtyAdd < 0 ∨ item.quantityOrdered < ctx.add item.quantityReceived qtyAdd))
      ("Receipt quantity for " ++ item.description.getD "None" ++
        " exceeds the outstanding quantity")
    .ok ⟨item, ctx.add item.quantityReceived qtyAdd⟩

/-- The status after a receipt. -/
def receivedStatus (status : PoStatus) (lines : List LoadedItem) : PoStatus :=
  if ∀ l ∈ lines, l.item.quantityOrdered ≤ l.quantityReceived then .received
  else if ∃ l ∈ lines, 0 < l.quantityReceived then .partiallyReceived
  else status

/-- What a receipt has in memory when it flushes. -/
structure Flush where
  order : PurchaseOrder
  receipts : ItemReceipts
  lines : List LoadedItem
  deriving DecidableEq

/-- `receive_goods` once the order and its lines are loaded. -/
def receiveGoods (ctx : Context 28 12) (po : PurchaseOrder) (items : List PurchaseOrderItem)
    (receipts : ItemReceipts) : Except String Flush := do
  ensure (po.status ∉ [.draft, .waitingApproval])
    "The purchase order must be approved before goods can be received"
  ensure (po.status ∉ [.received, .closed, .cancelled])
    "This purchase order is no longer accepting goods"
  let lines ← items.mapM (receiveItem ctx receipts)
  .ok ⟨po, receipts, lines⟩

/-- The loaded line with an identifier. -/
def Flush.loaded (f : Flush) (id : Id) : Option LoadedItem :=
  f.lines.find? (fun l => l.item.id = id)

/-- What an `UPDATE` of the flush sets on a line; only changed columns are written. -/
def Flush.written (f : Flush) (id : Id) : Option ℚ :=
  match f.loaded id with
  | none => none
  | some l => if l.quantityReceived = l.item.quantityReceived then none
    else some l.quantityReceived

def Flush.updateItem (f : Flush) (row : PurchaseOrderItem) : PurchaseOrderItem :=
  match f.written row.id with
  | some v => { row with quantityReceived := numeric 2 v }
  | none => row

def Flush.updateOrder (f : Flush) (row : PurchaseOrder) : PurchaseOrder :=
  if row.id = f.order.id ∧ receivedStatus f.order.status f.lines ≠ f.order.status then
    { row with status := receivedStatus f.order.status f.lines }
  else row

/-- The receipts of the request that are for lines of the order. -/
def Flush.recorded (f : Flush) : List (Id × ℚ) :=
  f.lines.filterMap fun l => (f.receipts.lookup l.item.id).map fun qtyAdd => (l.item.id, qtyAdd)

@[simp] theorem Flush.updateItem_id (f : Flush) (row : PurchaseOrderItem) :
    (f.updateItem row).id = row.id := by
  unfold updateItem
  split <;> rfl

@[simp] theorem Flush.updateItem_ordered (f : Flush) (row : PurchaseOrderItem) :
    (f.updateItem row).quantityOrdered = row.quantityOrdered := by
  unfold updateItem
  split <;> rfl

@[simp] theorem Flush.updateOrder_id (f : Flush) (row : PurchaseOrder) :
    (f.updateOrder row).id = row.id := by
  unfold updateOrder
  split <;> rfl

/-- The flush and the commit. The row locks of the updates only delay the commit. -/
def Database.commit (db : Database) (f : Flush) : Database where
  orders := db.orders.mapRows f.updateOrder f.updateOrder_id
  items := db.items.mapRows f.updateItem f.updateItem_id
  accepted := db.accepted ++ f.recorded

/-- A call of `receive_goods` under way. -/
inductive Receiving
  | called (poId : Id) (receipts : ItemReceipts)
  /-- The order is read, its lines are not yet. -/
  | orderRead (po : PurchaseOrder) (receipts : ItemReceipts)
  | flushing (f : Flush)
  deriving DecidableEq

/-- The statements of `receive_goods`. A request that raises ends without effect. -/
def receiving (ctx : Context 28 12) : Statement Database Receiving := fun _ db session =>
  match session with
  | .called poId receipts =>
    match db.orders.find? poId with
    | none => some (db, none)
    | some po => some (db, if po.archived then none else some (.orderRead po receipts))
  | .orderRead po receipts =>
    match receiveGoods ctx po (db.items.rows.filter (·.purchaseOrderId = po.id)) receipts with
    | .error _ => some (db, none)
    | .ok f => some (db, some (.flushing f))
  | .flushing f => some (db.commit f, none)

def Receiving.IsCall : Receiving → Prop
  | .called _ _ => True
  | _ => False

instance : DecidablePred Receiving.IsCall
  | .called _ _ => .isTrue trivial
  | .orderRead _ _ | .flushing _ => .isFalse id

/-- Orders of which nothing has been received. -/
structure Database.Untouched (db : Database) : Prop where
  ordered : ∀ row ∈ db.items.rows, 0 ≤ row.quantityOrdered
  received : ∀ row ∈ db.items.rows, row.quantityReceived = 0
  accepted : db.accepted = []

/-- The databases, with the receipts under way, that some interleaving leads to when every
statement meets `admits`. -/
abbrev Receipts (ctx : Context 28 12) (admits : List Receiving → Database → Receiving → Prop) :
    Sessions Database Receiving → Prop :=
  Sessions.Interleaved Receiving.IsCall (receiving ctx) admits Database.Untouched

/-- What receipts add up to for a line. -/
def totalFor (receipts : List (Id × ℚ)) (id : Id) : ℚ :=
  (receipts.map fun r => if r.1 = id then r.2 else 0).sum

/-- Every line has received what was accepted for it, and no more than was ordered. -/
def Database.ReceiptsKept (db : Database) : Prop :=
  ∀ row ∈ db.items.rows, row.quantityReceived = totalFor db.accepted row.id ∧
    row.quantityReceived ≤ row.quantityOrdered

instance (db : Database) : Decidable db.ReceiptsKept :=
  inferInstanceAs (Decidable (∀ _ ∈ _, _))

/-!
## Requests on purchase orders

Editing, submitting and approving a purchase order and receiving its goods, as the endpoints
do it, one request after the other. The vendor master that an edit also fills, notifications
and attachments are left out.
-/

abbrev Instant := Nat

/-! ### Rows -/

/-- A row of `purchase_orders`. -/
structure OrderRow extends PurchaseOrder where
  supplierId : Id
  projectId : Option Id
  category : Option String
  currency : String
  notes : Option String
  totalAmount : Column 14 2
  createdById : Option Id
  approvedById : Option Id
  approvedAt : Option Instant

/-- A row of `purchase_order_items`. -/
structure OrderLine extends PurchaseOrderItem where
  inventoryItemId : Option Id
  itemName : Option String
  unitPrice : Column 14 2
  totalPrice : Column 14 2
  received_onGrid : OnGrid 2 quantityReceived
  deriving DecidableEq

theorem OrderLine.none_received : OnGrid 2 0 := OnGrid.zero 2

structure FuelSupplier where
  id : Id
  name : String
  deriving DecidableEq, Repr

structure OrderBook where
  suppliers : Table FuelSupplier.id
  orders : Table fun row : OrderRow => row.id
  lines : Table fun line : OrderLine => line.id

/-- Who makes a request. -/
structure Actor where
  id : Id
  isSuperuser : Bool
  portalType : Option String
  /-- Whether one of the roles is named supervisor or field supervisor. -/
  supervisor : Bool
  /-- The projects that `require_project` lets pass. -/
  projects : List Id

/-- Time, new identifiers, and Python's functions of texts. -/
structure Env where
  now : Instant
  uuid : Nat → Id
  upper : String → String
  lower : String → String
  strip : String → String

inductive OrderError
  | http (status : Nat) (detail : String)
  /-- "Purchase Order {po_id} not found." -/
  | orderNotFound (status : Nat) (poId : Id)
  /-- A number is too large for its column. -/
  | data
  | integrity (constraint : String)
  deriving DecidableEq, Repr

abbrev Outcome := Except OrderError

/-! ### Rights -/

/-- `str(current_user.portal_type or "").upper()`. -/
def portal (env : Env) (actor : Actor) : String := env.upper (actor.portalType.getD "")

def financeOrExecutive (env : Env) (actor : Actor) : Bool :=
  actor.isSuperuser || portal env actor ∈ ["FINANCE", "EXECUTIVE"]

def isFieldSupervisor (env : Env) (actor : Actor) : Bool :=
  portal env actor = "FIELD_ADMIN" || actor.supervisor

/-- `require_project`. -/
def requireProject (actor : Actor) (projectId : Id) : Outcome Unit :=
  ensure (projectId ∈ actor.projects) (.http 404 "Assigned project not found")

/-! ### Editing -/

/-- `PurchaseOrderItemCreate`. -/
structure ItemCreate where
  inventoryItemId : Option Id := none
  itemName : Option String := none
  description : Option String := none
  quantityOrdered : {x : ℚ // 0 ≤ x} := ⟨0, le_rfl⟩
  unitPrice : {x : ℚ // 0 ≤ x} := ⟨0, le_rfl⟩

/-- `PurchaseOrderUpdate`. -/
structure OrderUpdate where
  supplierName : String
  projectId : Option Id := none
  category : Option String := none
  totalAmount : Option {x : ℚ // 0 ≤ x} := none
  currency : String := "USD"
  notes : Option String := none
  items : List ItemCreate := []

namespace OrderBook

/-- `get_purchase_order`. -/
def order? (book : OrderBook) (poId : Id) : Option OrderRow :=
  (book.orders.find? poId).filter fun row => ¬ row.archived

/-- The lines of an order. -/
def linesOf (book : OrderBook) (poId : Id) : List OrderLine :=
  book.lines.rows.filter fun line => line.purchaseOrderId = poId

/-- The supplier of a name, up to case, after it is created if there is none. -/
def supplierNamed (book : OrderBook) (env : Env) (name : String) :
    Outcome (FuelSupplier × Table FuelSupplier.id) :=
  match book.suppliers.rows.find? (fun s => env.lower s.name = env.lower name) with
  | some supplier => .ok (supplier, book.suppliers)
  | none => do
    let supplier := ⟨env.uuid 0, name⟩
    let suppliers ← orError (book.suppliers.insert? supplier) (.integrity "fuel_suppliers_pkey")
    .ok (supplier, suppliers)

end OrderBook

/-- The line that an item of the payload becomes. -/
def newLine (ctx : Context 28 12) (id poId : Id) (item : ItemCreate) : Outcome OrderLine := do
  let quantityOrdered ← orError (Column.store 14 2 item.quantityOrdered) .data
  let unitPrice ← orError (Column.store 14 2 item.unitPrice) .data
  let totalPrice ←
    orError (Column.store 14 2 (ctx.mul item.quantityOrdered item.unitPrice)) .data
  .ok {
    id := id
    purchaseOrderId := poId
    description := item.description
    quantityOrdered := quantityOrdered
    quantityReceived := 0
    inventoryItemId := item.inventoryItemId
    itemName := item.itemName
    unitPrice := unitPrice
    totalPrice := totalPrice
    received_onGrid := OrderLine.none_received }

/-- One turn of the loop over the items: the line is added to the order. -/
def addLine (ctx : Context 28 12) (env : Env) (poId : Id)
    (lines : Table fun line : OrderLine => line.id) (item : ItemCreate × Nat) :
    Outcome (Table fun line : OrderLine => line.id) := do
  let line ← newLine ctx (env.uuid (item.2 + 1)) poId item.1
  orError (lines.insert? line) (.integrity "purchase_order_items_pkey")

/-- The sum of the lines, or the total of the payload where that is not positive. -/
def orderTotal (ctx : Context 28 12) (payload : OrderUpdate) : ℚ :=
  let total := payload.items.foldl
    (fun sum item => ctx.add sum (ctx.mul item.quantityOrdered item.unitPrice)) 0
  if 0 < total then total else payload.totalAmount.elim 0 (·.1)

/-- `update_purchase_order` of the service. -/
def updatePurchaseOrder (ctx : Context 28 12) (env : Env) (book : OrderBook) (poId : Id)
    (payload : OrderUpdate) : Outcome OrderBook := do
  let po ← orError (book.order? poId) (.orderNotFound 400 poId)
  ensure (¬ ∃ line ∈ book.linesOf poId, 0 < line.quantityReceived)
    (.http 400 "A purchase order cannot be edited after goods have been received")
  ensure (env.strip payload.supplierName ≠ "") (.http 400 "Supplier name is required")
  let (supplier, suppliers) ← book.supplierNamed env (env.strip payload.supplierName)
  let lines ← payload.items.zipIdx.foldlM (addLine ctx env poId)
    (book.lines.removeIf fun line => line.purchaseOrderId = poId)
  let totalAmount ← orError (Column.store 14 2 (orderTotal ctx payload)) .data
  .ok {
    suppliers := suppliers
    orders := book.orders.set { po with
      supplierId := supplier.id
      projectId := payload.projectId
      category := (payload.category.map env.strip).filter (· ≠ "")
      currency := payload.currency
      notes := payload.notes
      totalAmount := totalAmount }
    lines := lines }

/-- Whether the order may be moved to the project of the payload. -/
def requireMovedTo (env : Env) (actor : Actor) (projectId : Option Id) : Outcome Unit :=
  match projectId with
  | some projectId =>
    if financeOrExecutive env actor then .ok () else requireProject actor projectId
  | none => .ok ()

/-- The endpoint in front of it. -/
def update (ctx : Context 28 12) (env : Env) (book : OrderBook) (actor : Actor) (poId : Id)
    (payload : OrderUpdate) : Outcome OrderBook := do
  ensure (financeOrExecutive env actor || isFieldSupervisor env actor) (.http 403
    "Only Finance, Executive, or the submitting field supervisor can edit purchase orders")
  let existing ← orError (book.order? poId) (.http 404 "Purchase order not found")
  ensure (financeOrExecutive env actor ∨ existing.createdById = some actor.id ∧
    existing.status ∈ [.draft, .waitingApproval])
    (.http 409 "Only your drafts or purchase orders awaiting approval can be edited")
  requireMovedTo env actor payload.projectId
  updatePurchaseOrder ctx env book poId payload

/-! ### Submitting and approving -/

def submit (env : Env) (book : OrderBook) (actor : Actor) (poId : Id) : Outcome OrderBook := do
  let po ← orError (book.order? poId) (.http 404 "Purchase order not found")
  ensure (financeOrExecutive env actor ∨ po.createdById = some actor.id)
    (.http 404 "Purchase order not found")
  ensure (po.status = .draft) (.http 409 "Only a draft purchase order can be submitted")
  .ok { book with orders := book.orders.set { po with status := .waitingApproval } }

def approve (env : Env) (book : OrderBook) (actor : Actor) (poId : Id) : Outcome OrderBook := do
  ensure (actor.isSuperuser || portal env actor = "EXECUTIVE")
    (.http 403 "Only an executive can approve purchase orders")
  let po ← orError (book.order? poId) (.orderNotFound 400 poId)
  ensure (po.status = .waitingApproval)
    (.http 400 "Only purchase orders waiting for approval can be approved")
  .ok { book with orders := book.orders.set { po with
    status := .approved
    approvedById := some actor.id
    approvedAt := some env.now } }

/-! ### Receiving -/

/-- A line after the flush of a receipt. -/
def Flush.updateLine (f : Flush) (line : OrderLine) : OrderLine where
  toPurchaseOrderItem := f.updateItem line.toPurchaseOrderItem
  inventoryItemId := line.inventoryItemId
  itemName := line.itemName
  unitPrice := line.unitPrice
  totalPrice := line.totalPrice
  received_onGrid := by
    unfold updateItem
    split
    · exact onGrid_numeric 2 _
    · exact line.received_onGrid

def Flush.updateRow (f : Flush) (row : OrderRow) : OrderRow :=
  { row with toPurchaseOrder := f.updateOrder row.toPurchaseOrder }

@[simp] theorem Flush.updateLine_id (f : Flush) (line : OrderLine) :
    (f.updateLine line).id = line.id :=
  f.updateItem_id line.toPurchaseOrderItem

@[simp] theorem Flush.updateRow_id (f : Flush) (row : OrderRow) : (f.updateRow row).id = row.id :=
  f.updateOrder_id row.toPurchaseOrder

/-- Whether a field supervisor may receive the goods of an order. -/
def requireReceiver (env : Env) (book : OrderBook) (actor : Actor) (poId : Id) : Outcome Unit :=
  if financeOrExecutive env actor then .ok () else do
    let existing ← orError (book.order? poId) (.http 404 "Purchase order not found")
    match existing.projectId with
    | some projectId => requireProject actor projectId
    | none => ensure (existing.createdById = some actor.id) (.http 404 "Purchase order not found")

def receive (ctx : Context 28 12) (env : Env) (book : OrderBook) (actor : Actor) (poId : Id)
    (receipts : ItemReceipts) : Outcome OrderBook := do
  ensure (financeOrExecutive env actor || isFieldSupervisor env actor) (.http 403
    ("Only Finance, Executive, or assigned field supervisors can receive purchase order " ++
      "goods"))
  requireReceiver env book actor poId
  let po ← orError (book.order? poId) (.orderNotFound 400 poId)
  match receiveGoods ctx po.toPurchaseOrder
      ((book.linesOf poId).map (·.toPurchaseOrderItem)) receipts with
  | .error detail => .error (.http 400 detail)
  | .ok f => .ok { book with
      orders := book.orders.mapRows f.updateRow f.updateRow_id
      lines := book.lines.mapRows f.updateLine f.updateLine_id }

/-! ### Requests -/

inductive Operation
  | update (poId : Id) (payload : OrderUpdate)
  | submit (poId : Id)
  | approve (poId : Id)
  | receive (poId : Id) (receipts : ItemReceipts)

structure Request where
  env : Env
  actor : Actor
  operation : Operation

def Request.exec (ctx : Context 28 12) (book : OrderBook) (r : Request) : Outcome OrderBook :=
  match r.operation with
  | .update poId payload => Procurement.update ctx r.env book r.actor poId payload
  | .submit poId => Procurement.submit r.env book r.actor poId
  | .approve poId => Procurement.approve r.env book r.actor poId
  | .receive poId receipts => Procurement.receive ctx r.env book r.actor poId receipts

/-- A request that fails is rolled back. -/
def Request.serve (ctx : Context 28 12) (book : OrderBook) (r : Request) : OrderBook :=
  match r.exec ctx book with
  | .ok book' => book'
  | .error _ => book

def serveAll (ctx : Context 28 12) (book : OrderBook) (requests : List Request) : OrderBook :=
  requests.foldl (Request.serve ctx) book

end Cestos.Procurement
