import Cestos.Procurement.Creation

/-!
# Expenses for purchase orders

An expense that is submitted for an approved purchase order brings the order up to date: its items
are matched with the lines of the order, matched lines are rewritten, the others are replaced unless
goods of them have been received, and the total of the expense becomes that of the order. The
payee, the invoice and the row of the expense itself are left out.
-/

namespace Cestos.Procurement

open Cestos.Core Cestos.Core.Decimal

/-- `ExpenseItem`. -/
structure ExpenseItem where
  inventoryItemId : Option Id := none
  name : String
  description : Option String := none
  quantity : {x : Column 14 3 // 0 < x.1}
  unitCost : {x : Column 14 2 // 0 ≤ x.1}
  total : Option {x : Column 18 2 // 0 ≤ x.1} := none

/-- What `OperationalExpenseCreate` says of an order and its goods. -/
structure ExpenseCreate where
  purchaseOrderId : Option Id := none
  items : List ExpenseItem := []
  totalCost : Option {x : Column 18 2 // 0 ≤ x.1} := none
  manualTotal : Bool := false

structure ExpenseEnv extends Env where
  casefold : String → String
  /-- The format `g` of a number. -/
  general : ℚ → String
  /-- The inventory items of the organization. -/
  inventoryItems : List Id
  /-- Whether a user has the role finance, accountant or accounts payable. -/
  financeRole : Id → Bool

def isFinance (env : ExpenseEnv) (actor : Actor) : Bool :=
  actor.isSuperuser || actor.portalType = some "FINANCE" || env.financeRole actor.id

/-! ## Totals -/

/-- `(item.quantity * item.unit_cost).quantize(Decimal("0.01"))`. -/
def ExpenseItem.price (ctx : Context 28 12) (item : ExpenseItem) : ℚ :=
  quantize 2 (ctx.mul item.quantity.1 item.unitCost.1)

def ExpenseItem.lineTotal (ctx : Context 28 12) (item : ExpenseItem) : ℚ :=
  item.total.elim (item.price ctx) fun total => total.1.1

def ExpenseCreate.calculated (ctx : Context 28 12) (body : ExpenseCreate) : ℚ :=
  body.items.foldl (fun sum item => ctx.add sum (item.lineTotal ctx)) 0

/-- The total that is given by hand. -/
def ExpenseCreate.byHand (body : ExpenseCreate) : Option ℚ :=
  if body.manualTotal then body.totalCost.map fun total => total.1.1 else none

def ExpenseCreate.total (ctx : Context 28 12) (body : ExpenseCreate) : ℚ :=
  body.byHand.getD (body.calculated ctx)

/-! ## Matching -/

/-- `line.item_name or line.description or ""`. -/
def OrderLine.label (line : OrderLine) : String :=
  ((line.itemName.filter (· ≠ "")).or line.description).getD ""

/-- The unused line of the item's inventory item, or else of its name up to case. -/
def matching (env : ExpenseEnv) (available : List OrderLine) (used : List Id)
    (item : ExpenseItem) : Option OrderLine :=
  (available.find? fun line => line.id ∉ used ∧ item.inventoryItemId ≠ none ∧
    line.inventoryItemId = item.inventoryItemId).or
  (available.find? fun line => line.id ∉ used ∧
    env.casefold (env.strip line.label) = env.casefold (env.strip item.name))

/-- An item and the line that it is matched with. -/
structure Pairing where
  item : ExpenseItem
  line : Option OrderLine

/-- `used_ids`. -/
def usedIds (paired : List Pairing) : List Id :=
  paired.filterMap fun p => p.line.map (·.id)

/-- One turn of the loop over the items. -/
def pairItem (env : ExpenseEnv) (invoiced : Bool) (available : List OrderLine)
    (paired : List Pairing) (item : ExpenseItem) : Outcome (List Pairing) :=
  match matching env available (usedIds paired) item with
  | none => .ok (paired ++ [⟨item, none⟩])
  | some line => do
    -- without an invoice the deletion of the stored file raises instead
    ensure (line.quantityReceived ≤ item.quantity.1)
      (if invoiced then .http 409 ("Expense quantity for '" ++ item.name ++
        "' cannot be less than the " ++ env.general line.quantityReceived ++
        " units already received against this purchase order")
      else .http 500 "An unexpected error occurred")
    .ok (paired ++ [⟨item, some line⟩])

/-- What is received of a line that an item takes over. -/
def Pairing.received (p : Pairing) : ℚ := p.line.elim 0 (·.quantityReceived)

theorem Pairing.received_onGrid (p : Pairing) : OnGrid 2 p.received := by
  unfold received
  cases p.line with
  | none => exact OnGrid.zero 2
  | some line => exact line.received_onGrid

/-- The row that a pairing becomes; `id` is for a line that is new. -/
def Pairing.row (ctx : Context 28 12) (env : ExpenseEnv) (id poId : Id) (p : Pairing) :
    Outcome OrderLine := do
  let quantityOrdered ← orError (Column.store 14 2 p.item.quantity.1) .data
  let unitPrice ← orError (Column.store 14 2 p.item.unitCost.1) .data
  let totalPrice ← orError (Column.store 14 2 (p.item.price ctx)) .data
  .ok {
    id := p.line.elim id (·.id)
    purchaseOrderId := poId
    description := (p.item.description.filter (· ≠ "")).map env.strip
    quantityOrdered := quantityOrdered
    quantityReceived := p.received
    inventoryItemId := p.item.inventoryItemId
    itemName := some (env.strip p.item.name)
    unitPrice := unitPrice
    totalPrice := totalPrice
    received_onGrid := p.received_onGrid }

def writeRow (ctx : Context 28 12) (env : ExpenseEnv) (poId : Id)
    (lines : Table fun line : OrderLine => line.id) (p : Pairing × Nat) :
    Outcome (Table fun line : OrderLine => line.id) := do
  let row ← p.1.row ctx env (env.uuid p.2) poId
  orError (lines.insert? row) (.integrity "purchase_order_items_pkey")

/-- The lines of the order after the items are written; an expense without items leaves them. -/
def syncLines (ctx : Context 28 12) (env : ExpenseEnv) (invoiced : Bool) (book : OrderBook)
    (poId : Id) (items : List ExpenseItem) :
    Outcome (Table fun line : OrderLine => line.id) :=
  if items = [] then .ok book.lines else do
    let paired ← items.foldlM (pairItem env invoiced (book.linesOf poId)) []
    paired.zipIdx.foldlM (writeRow ctx env poId) (book.lines.removeIf fun line =>
      line.purchaseOrderId = poId ∧ ¬ (line.id ∉ usedIds paired ∧ 0 < line.quantityReceived))

/-! ## The request -/

/-- The order that an expense is to be linked to. -/
def linkedOrder (env : ExpenseEnv) (book : OrderBook) (actor : Actor) (poId : Id) :
    Outcome OrderRow := do
  let po ← orError (book.order? poId) (.http 404 "Purchase order not found")
  ensure (po.status = .approved)
    (.http 409 "Only an approved purchase order can be linked to an expense")
  ensure (isFinance env actor ∨ po.createdById = some actor.id)
    (.http 403 "Only the purchase order submitter can link it to an expense")
  .ok po

def requireItems (env : ExpenseEnv) (items : List ExpenseItem) : Outcome Unit :=
  ensure (∀ item ∈ items, ∀ id ∈ item.inventoryItemId, id ∈ env.inventoryItems)
    (.http 422 "An inventory item was not found in this organization")

/-- `create_expense`, as far as it concerns the orders. -/
def createExpense (ctx : Context 28 12) (env : ExpenseEnv) (book : OrderBook) (actor : Actor)
    (invoiced : Bool) (body : ExpenseCreate) : Outcome OrderBook :=
  match body.purchaseOrderId with
  | none => do
    requireItems env body.items
    .ok book
  | some poId => do
    let po ← linkedOrder env book actor poId
    requireItems env body.items
    let lines ← syncLines ctx env invoiced book poId body.items
    let totalAmount ← orError (Column.store 14 2 (body.total ctx)) .data
    .ok { book with
      orders := book.orders.set { po with totalAmount := totalAmount }
      lines := lines }

/-! ## What is written -/

variable {ctx : Context 28 12} {env : ExpenseEnv} {actor : Actor} {book book' : OrderBook}
  {poId : Id}

/-- Every item is paired, with a line of the order or with none. -/
theorem pairItem_spec {invoiced : Bool} {available : List OrderLine} {items : List ExpenseItem}
    {before paired : List Pairing}
    (h : items.foldlM (pairItem env invoiced available) before = .ok paired)
    (hbefore : ∀ p ∈ before, ∀ line ∈ p.line, line ∈ available) :
    paired.map (·.item) = before.map (·.item) ++ items ∧
      ∀ p ∈ paired, ∀ line ∈ p.line, line ∈ available := by
  induction items generalizing before with
  | nil =>
      simp only [List.foldlM_nil, pure_eq_ok] at h
      subst h
      exact ⟨by simp, hbefore⟩
  | cons item items ih =>
      simp only [List.foldlM_cons, bind_eq_ok] at h
      obtain ⟨next, hturn, hrest⟩ := h
      have hnext : ∃ line?, next = before ++ [⟨item, line?⟩] ∧
          ∀ line ∈ line?, line ∈ available := by
        unfold pairItem at hturn
        split at hturn
        · exact ⟨none, (Except.ok.inj hturn).symm, by simp⟩
        · next line hmatching =>
            simp only [ensure_bind_eq_ok, Except.ok.injEq] at hturn
            refine ⟨some line, hturn.2.symm, ?_⟩
            rintro _ ⟨⟩
            rcases Option.or_eq_some_iff.1 hmatching with hfound | ⟨-, hfound⟩
            · exact List.mem_of_find?_eq_some hfound
            · exact List.mem_of_find?_eq_some hfound
      obtain ⟨line?, rfl, hline⟩ := hnext
      obtain ⟨hitems, havailable⟩ := ih hrest (by
        intro p hp line hmem
        rcases List.mem_append.1 hp with hold | hnew
        · exact hbefore p hold line hmem
        · obtain rfl := List.mem_singleton.1 hnew
          exact hline line hmem)
      exact ⟨by simp [hitems], havailable⟩

theorem ExpenseItem.price_onGrid (item : ExpenseItem) : OnGrid 2 (item.price ctx) :=
  onGrid_quantize 2 _

theorem Pairing.row_spec {p : Pairing} {id : Id} {row : OrderLine}
    (h : p.row ctx env id poId = .ok row) :
    row.purchaseOrderId = poId ∧ row.quantityReceived = p.received ∧
      Column.store 14 2 (p.item.price ctx) = some row.totalPrice := by
  simp only [Pairing.row, orError_bind_eq_ok, Except.ok.injEq] at h
  obtain ⟨_, -, _, -, _, htotal, rfl⟩ := h
  exact ⟨rfl, rfl, htotal⟩

theorem prices_of_rows {paired : List (Pairing × Nat)} {added : List OrderLine}
    (h : List.Forall₂ (fun p row => p.1.row ctx env (env.uuid p.2) poId = .ok row) paired added) :
    added.map (fun line => line.totalPrice.1) = paired.map fun p => p.1.item.price ctx := by
  induction h with
  | nil => rfl
  | cons hrow _ ih =>
      obtain ⟨-, -, htotal⟩ := Pairing.row_spec hrow
      rw [List.map_cons, List.map_cons, ih, Column.store_val htotal,
        numeric_of_onGrid (ExpenseItem.price_onGrid _)]

theorem order_of_rows {paired : List (Pairing × Nat)} {added : List OrderLine}
    (h : List.Forall₂ (fun p row => p.1.row ctx env (env.uuid p.2) poId = .ok row) paired added)
    (hunreceived : ∀ p ∈ paired, p.1.received ≤ 0) :
    ∀ line ∈ added, line.purchaseOrderId = poId ∧ line.quantityReceived ≤ 0 := by
  induction h with
  | nil => simp
  | cons hrow _ ih =>
      obtain ⟨horder, hreceived, -⟩ := Pairing.row_spec hrow
      obtain ⟨hfirst, hrest⟩ := List.forall_mem_cons.1 hunreceived
      exact List.forall_mem_cons.2 ⟨⟨horder, hreceived ▸ hfirst⟩, ih hrest⟩

/-- Where nothing of the order is received, its lines become the items. -/
theorem syncLines_spec {invoiced : Bool} {items : List ExpenseItem}
    {lines : Table fun line : OrderLine => line.id} (hitems : items ≠ [])
    (hunreceived : ¬ book.Received poId)
    (h : syncLines ctx env invoiced book poId items = .ok lines) :
    ∃ added, lines.rows = book.lines.rows.filter (·.purchaseOrderId ≠ poId) ++ added ∧
      (∀ line ∈ added, line.purchaseOrderId = poId ∧ line.quantityReceived ≤ 0) ∧
      added.map (fun line => line.totalPrice.1) = items.map (·.price ctx) := by
  rw [syncLines, if_neg hitems, bind_eq_ok] at h
  obtain ⟨paired, hpaired, hwritten⟩ := h
  obtain ⟨hsame, hlines⟩ := pairItem_spec hpaired (by simp)
  obtain ⟨added, hrows, hadded⟩ := Table.foldlM_insert? hwritten
  have hnone : ∀ line ∈ book.linesOf poId, line.quantityReceived ≤ 0 :=
    fun line hline => not_lt.1 fun hpos => hunreceived ⟨line, hline, hpos⟩
  refine ⟨added, ?_, order_of_rows hadded fun p hp => ?_, ?_⟩
  · rw [hrows]
    congr 1
    refine List.filter_congr fun line hline => ?_
    by_cases horder : line.purchaseOrderId = poId
    · have hreceived := hnone line (List.mem_filter.2 ⟨hline, decide_eq_true horder⟩)
      simp [horder, not_lt.2 hreceived]
    · simp [horder]
  · have hmem : p.1 ∈ paired := by
      have hfirst := List.mem_map_of_mem (f := Prod.fst) hp
      rwa [List.zipIdx_map_fst] at hfirst
    unfold Pairing.received
    cases hline : p.1.line with
    | none => exact le_rfl
    | some line => exact hnone line (hlines p.1 hmem line hline)
  · have hfirst : (paired.zipIdx.map fun p => p.1.item.price ctx) =
        (paired.map (·.item)).map (·.price ctx) := by
      conv_rhs => rw [← List.zipIdx_map_fst 0 paired, List.map_map, List.map_map]
      rfl
    rw [prices_of_rows hadded, hfirst, hsame]
    rfl

theorem createExpense_spec {invoiced : Bool} {body : ExpenseCreate}
    (horder : body.purchaseOrderId = some poId)
    (h : createExpense ctx env book actor invoiced body = .ok book') :
    ∃ po row, book.order? poId = some po ∧ po.status = .approved ∧ row.id = po.id ∧
      row.status = po.status ∧ Column.store 14 2 (body.total ctx) = some row.totalAmount ∧
      book'.orders = book.orders.set row ∧
      syncLines ctx env invoiced book poId body.items = .ok book'.lines := by
  unfold createExpense at h
  rw [horder] at h
  simp only [linkedOrder, bind_eq_ok, orError_eq_ok, ensure_eq_ok, Except.ok.injEq] at h
  obtain ⟨po, ⟨found, hpo, -, hstatus, -, -, hfound⟩, -, -, lines, hlines, totalAmount, htotal,
    rfl⟩ := h
  subst hfound
  exact ⟨found, { found with totalAmount := totalAmount }, hpo, hstatus, rfl, rfl, htotal, rfl,
    hlines⟩

end Cestos.Procurement
