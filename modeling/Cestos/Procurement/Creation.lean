import Cestos.Core.Runs
import Cestos.Procurement.Approved

/-!
# Creating purchase orders

A new order takes its supplier by identifier or by name and its lines from the payload. With it,
the requests that an order is made, edited, approved and received by are complete. Business
numbers, notifications and the request that an order may come from are left out.
-/

namespace Cestos.Procurement

open Cestos.Core Cestos.Core.Decimal

/-- `PurchaseOrderCreate`. -/
structure OrderCreate where
  supplierId : Option Id := none
  supplierName : Option String := none
  projectId : Option Id := none
  category : Option String := none
  totalAmount : Option {x : ℚ // 0 ≤ x} := none
  currency : String := "USD"
  notes : Option String := none
  items : List ItemCreate := []
  saveAsDraft : Bool := false

/-- `require_supplier`. -/
def requireSupplier (env : Env) (payload : OrderCreate) : Outcome Unit :=
  ensure (payload.supplierId ≠ none ∨ ∃ name ∈ payload.supplierName, env.strip name ≠ "")
    (.http 422 "Select or enter a supplier")

def OrderBook.supplierOf (book : OrderBook) (env : Env) (payload : OrderCreate) :
    Outcome (FuelSupplier × Table FuelSupplier.id) :=
  match payload.supplierId with
  | some supplierId => do
    let supplier ← orError (book.suppliers.find? supplierId)
      (.http 400 "Supplier not found in this organization")
    .ok (supplier, book.suppliers)
  | none => book.supplierNamed env (env.strip (payload.supplierName.getD ""))

/-- The sum of the lines, or the given total where that is not positive. -/
def itemsTotal (ctx : Context 28 12) (items : List ItemCreate)
    (given : Option {x : ℚ // 0 ≤ x}) : ℚ :=
  let total := items.foldl
    (fun sum item => ctx.add sum (ctx.mul item.quantityOrdered item.unitPrice)) 0
  if 0 < total then total else given.elim 0 (·.1)

/-- `create_purchase_order` of the service. -/
def createPurchaseOrder (ctx : Context 28 12) (env : Env) (book : OrderBook) (actorId : Id)
    (payload : OrderCreate) : Outcome OrderBook := do
  let (supplier, suppliers) ← book.supplierOf env payload
  let totalAmount ←
    orError (Column.store 14 2 (itemsTotal ctx payload.items payload.totalAmount)) .data
  -- the identifiers before this one are those of the supplier and the lines
  let poId := env.uuid (payload.items.length + 1)
  let orders ← orError (book.orders.insert? {
    id := poId
    status := if payload.saveAsDraft then .draft else .waitingApproval
    archived := false
    supplierId := supplier.id
    projectId := payload.projectId
    category := (payload.category.map env.strip).filter (· ≠ "")
    currency := payload.currency
    notes := payload.notes
    totalAmount := totalAmount
    createdById := some actorId
    approvedById := none
    approvedAt := none }) (.integrity "purchase_orders_pkey")
  let lines ← payload.items.zipIdx.foldlM (addLine ctx env poId) book.lines
  .ok { suppliers := suppliers, orders := orders, lines := lines }

/-- A field supervisor orders for a project of theirs. -/
def requireAssigned (env : Env) (actor : Actor) (projectId : Option Id) : Outcome Unit :=
  if financeOrExecutive env actor then .ok () else
    match projectId with
    | none => .error (.http 422 "Select an assigned project for the purchase order")
    | some projectId => requireProject actor projectId

/-- The endpoint in front of it. -/
def create (ctx : Context 28 12) (env : Env) (book : OrderBook) (actor : Actor)
    (payload : OrderCreate) : Outcome OrderBook := do
  requireSupplier env payload
  ensure (financeOrExecutive env actor || isFieldSupervisor env actor) (.http 403
    "Purchase orders can only be created by Finance, Executive, or field supervisors")
  requireAssigned env actor payload.projectId
  createPurchaseOrder ctx env book actor.id payload

/-- A request about a new order or an old one. -/
inductive Call
  | create (env : Env) (actor : Actor) (payload : OrderCreate)
  | request (r : Request)

def Call.exec (ctx : Context 28 12) (book : OrderBook) : Call → Outcome OrderBook
  | .create env actor payload => Procurement.create ctx env book actor payload
  | .request r => r.exec ctx book

/-- One call; what it raises leaves the book as it is. -/
abbrev OrderBook.after (ctx : Context 28 12) : OrderBook → Call → OrderBook :=
  settled (Call.exec ctx)

/-! ## What is written -/

variable {ctx : Context 28 12} {env : Env} {actor : Actor} {book book' : OrderBook} {poId : Id}

theorem orderTotal_eq (payload : OrderUpdate) :
    orderTotal ctx payload = itemsTotal ctx payload.items payload.totalAmount := rfl

/-- The item became the line. -/
def BecameLine (ctx : Context 28 12) (env : Env) (poId : Id) (item : ItemCreate × Nat)
    (line : OrderLine) : Prop :=
  newLine ctx (env.uuid (item.2 + 1)) poId item.1 = .ok line

theorem newLine_spec {item : ItemCreate} {lineId : Id} {line : OrderLine}
    (h : newLine ctx lineId poId item = .ok line) :
    line.id = lineId ∧ line.purchaseOrderId = poId ∧ line.quantityReceived = 0 ∧
      line.quantityOrdered.1 = numeric 2 item.quantityOrdered ∧
      line.totalPrice.1 = numeric 2 (ctx.mul item.quantityOrdered item.unitPrice) := by
  simp only [newLine, orError_bind_eq_ok, Except.ok.injEq] at h
  obtain ⟨_, hordered, _, -, _, htotal, rfl⟩ := h
  exact ⟨rfl, rfl, rfl, Column.store_val hordered, Column.store_val htotal⟩

theorem createPurchaseOrder_spec {actorId : Id} {payload : OrderCreate}
    (h : createPurchaseOrder ctx env book actorId payload = .ok book') :
    ∃ row added, row.id = env.uuid (payload.items.length + 1) ∧
      row.status ∈ [.draft, .waitingApproval] ∧
      row.totalAmount.1 = numeric 2 (itemsTotal ctx payload.items payload.totalAmount) ∧
      book.orders.insert? row = some book'.orders ∧
      book'.lines.rows = book.lines.rows ++ added ∧
      List.Forall₂ (BecameLine ctx env row.id) payload.items.zipIdx added := by
  simp only [createPurchaseOrder, bind_eq_ok, orError_eq_ok, Except.ok.injEq] at h
  obtain ⟨⟨supplier, suppliers⟩, -, totalAmount, htotal, orders, horders, lines, hlines, rfl⟩ := h
  obtain ⟨added, hrows, hadded⟩ := Table.foldlM_insert? hlines
  refine ⟨_, added, rfl, ?_, Column.store_val htotal, horders, hrows, hadded⟩
  dsimp only
  split <;> simp

theorem create_spec {payload : OrderCreate} (h : create ctx env book actor payload = .ok book') :
    createPurchaseOrder ctx env book actor.id payload = .ok book' := by
  simp only [create, bind_eq_ok] at h
  obtain ⟨-, -, -, -, -, -, hservice⟩ := h
  exact hservice

theorem updatePurchaseOrder_writes {payload : OrderUpdate}
    (h : updatePurchaseOrder ctx env book poId payload = .ok book') :
    ∃ po row added, book.order? poId = some po ∧ row.id = po.id ∧ row.status = po.status ∧
      row.totalAmount.1 = numeric 2 (itemsTotal ctx payload.items payload.totalAmount) ∧
      book'.orders = book.orders.set row ∧
      book'.lines.rows = (book.lines.rows.filter (·.purchaseOrderId ≠ poId)) ++ added ∧
      List.Forall₂ (BecameLine ctx env poId) payload.items.zipIdx added := by
  simp only [updatePurchaseOrder, bind_eq_ok, orError_eq_ok, ensure_eq_ok, Except.ok.injEq] at h
  obtain ⟨po, hpo, -, -, -, -, supplier, -, lines, hlines, totalAmount, htotal, rfl⟩ := h
  obtain ⟨added, hrows, hadded⟩ := Table.foldlM_insert? hlines
  refine ⟨po, _, added, hpo, ?_, ?_, ?_, rfl, ?_, hadded⟩
  · rfl
  · rfl
  · rw [← orderTotal_eq]
    exact Column.store_val htotal
  · simpa [Table.removeIf] using hrows

/-- What an accepted call does to the orders and the lines. -/
inductive Effect (ctx : Context 28 12) (book : OrderBook) (c : Call) (book' : OrderBook) : Prop
  | created (env : Env) (items : List (ItemCreate × Nat)) (row : OrderRow) (added : List OrderLine)
      (status : row.status ∈ [.draft, .waitingApproval])
      (orders : book.orders.insert? row = some book'.orders)
      (lines : book'.lines.rows = book.lines.rows ++ added)
      (items_added : List.Forall₂ (BecameLine ctx env row.id) items added)
  | edited (env : Env) (items : List (ItemCreate × Nat)) (po row : OrderRow)
      (added : List OrderLine) (found : book.order? po.id = some po)
      (unreceived : ¬ book.Received po.id) (same : row.id = po.id ∧ row.status = po.status)
      (orders : book'.orders = book.orders.set row)
      (lines : book'.lines.rows = book.lines.rows.filter (·.purchaseOrderId ≠ po.id) ++ added)
      (items_added : List.Forall₂ (BecameLine ctx env po.id) items added)
  | moved (po row : OrderRow) (found : book.order? po.id = some po)
      (before : po.status ∈ [.draft, .waitingApproval]) (same : row.id = po.id)
      (status : row.status ∈ [.waitingApproval, .approved])
      (orders : book'.orders = book.orders.set row) (lines : book'.lines = book.lines)
  | received (r : Request) (poId : Id) (receipts : ItemReceipts) (called : c = .request r)
      (operation : r.operation = .receive poId receipts)
      (accepted : receive ctx r.env book r.actor poId receipts = .ok book')

theorem Request.effect {r : Request} (h : r.exec ctx book = .ok book') :
    Effect ctx book (.request r) book' := by
  unfold Request.exec at h
  cases hop : r.operation with
  | update poId payload =>
      rw [hop] at h
      have hservice := (update_spec h).1
      obtain ⟨-, -, -, hunreceived, -⟩ := updatePurchaseOrder_spec hservice
      obtain ⟨po, row, added, hpo, hid, hstatus, -, horders, hlines, hadded⟩ :=
        updatePurchaseOrder_writes hservice
      obtain rfl := OrderBook.id_of_order? hpo
      exact .edited r.env payload.items.zipIdx po row added hpo hunreceived ⟨hid, hstatus⟩ horders
        hlines hadded
  | submit poId =>
      rw [hop] at h
      simp only [submit, bind_eq_ok, orError_eq_ok, ensure_eq_ok, Except.ok.injEq] at h
      obtain ⟨po, hpo, -, -, -, hdraft, rfl⟩ := h
      obtain rfl := OrderBook.id_of_order? hpo
      exact .moved po { po with status := .waitingApproval } hpo (by simp [hdraft]) rfl (by simp)
        rfl rfl
  | approve poId =>
      rw [hop] at h
      simp only [approve, bind_eq_ok, orError_eq_ok, ensure_eq_ok, Except.ok.injEq] at h
      obtain ⟨-, -, po, hpo, -, hwaiting, rfl⟩ := h
      obtain rfl := OrderBook.id_of_order? hpo
      exact .moved po
        { po with
          status := .approved
          approvedById := some r.actor.id
          approvedAt := some r.env.now }
        hpo (by simp [hwaiting]) rfl (by simp) rfl rfl
  | receive poId receipts =>
      rw [hop] at h
      exact .received r poId receipts rfl hop h

theorem Call.effect {c : Call} (h : c.exec ctx book = .ok book') : Effect ctx book c book' := by
  cases c with
  | create env actor payload =>
      obtain ⟨row, added, -, hstatus, -, horders, hlines, hadded⟩ :=
        createPurchaseOrder_spec (create_spec h)
      exact .created env payload.items.zipIdx row added hstatus horders hlines hadded
  | request r => exact Request.effect h

end Cestos.Procurement
