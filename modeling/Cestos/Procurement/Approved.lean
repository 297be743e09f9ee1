import Cestos.Core.Decimal.Context
import Cestos.Procurement.Accepted
import Cestos.Procurement.Orders

/-!
# Approved orders

What was approved of an order are its supplier, its lines and its total. No request sends an
approved order back, and only an edit changes these: one by a superuser, Finance or an
Executive, before any goods are received.
-/

namespace Cestos.Procurement

open Cestos.Core Cestos.Core.Decimal

/-- A line as it was ordered. -/
def OrderLine.ordered (line : OrderLine) : OrderLine :=
  { line with quantityReceived := 0, received_onGrid := none_received }

/-- What is approved of an order. -/
structure Terms where
  supplierId : Id
  totalAmount : Column 14 2
  lines : List OrderLine
  deriving DecidableEq

namespace OrderBook

def terms (book : OrderBook) (id : Id) : Option Terms :=
  (book.orders.find? id).map fun row =>
    ⟨row.supplierId, row.totalAmount, (book.linesOf id).map OrderLine.ordered⟩

/-- The order has been approved and not been sent back since. -/
def Approved (book : OrderBook) (id : Id) : Prop :=
  ∃ row ∈ book.orders.find? id, row.status ∉ [.draft, .waitingApproval]

/-- Goods of the order have been received. -/
def Received (book : OrderBook) (id : Id) : Prop :=
  ∃ line ∈ book.linesOf id, 0 < line.quantityReceived

instance (book : OrderBook) (id : Id) : Decidable (book.Approved id) :=
  inferInstanceAs (Decidable (∃ row ∈ book.orders.find? id, _))

instance (book : OrderBook) (id : Id) : Decidable (book.Received id) :=
  inferInstanceAs (Decidable (∃ line ∈ book.linesOf id, _))

end OrderBook

/-- What a request that does not edit the order leaves of it. -/
structure Kept (book book' : OrderBook) (id : Id) : Prop where
  terms : book'.terms id = book.terms id
  approved : book.Approved id → book'.Approved id
  received : book.Received id → book'.Received id

/-- The request is an edit of the order, and it is accepted. -/
def Request.Edits (ctx : Context 28 12) (book : OrderBook) (r : Request) (id : Id) : Prop :=
  (∃ payload, r.operation = .update id payload) ∧ ∃ book', r.exec ctx book = .ok book'

variable {ctx : Context 28 12} {env : Env} {actor : Actor} {book book' : OrderBook} {id poId : Id}
  {po : OrderRow}

theorem Kept.refl (book : OrderBook) (id : Id) : Kept book book id := ⟨rfl, fun h => h, fun h => h⟩

theorem Kept.trans {book'' : OrderBook} (h : Kept book book' id) (h' : Kept book' book'' id) :
    Kept book book'' id :=
  ⟨h'.terms.trans h.terms, fun ha => h'.approved (h.approved ha),
    fun hr => h'.received (h.received hr)⟩

theorem OrderBook.order?_eq_some :
    book.order? poId = some po ↔ book.orders.find? poId = some po ∧ po.archived = false := by
  simp [order?, Option.filter_eq_some_iff]

theorem OrderBook.id_of_order? (h : book.order? poId = some po) : po.id = poId := by
  obtain ⟨hfind, -⟩ := OrderBook.order?_eq_some.1 h
  have hid := Table.key_of_find? hfind
  exact hid

/-! ## Requests on other orders -/

theorem Kept.of_same (hrow : book'.orders.find? id = book.orders.find? id)
    (hlines : book'.linesOf id = book.linesOf id) : Kept book book' id := by
  refine ⟨?_, ?_, ?_⟩
  · unfold OrderBook.terms
    rw [hrow, hlines]
  · rintro ⟨row, hfind, hstatus⟩
    exact ⟨row, hrow ▸ hfind, hstatus⟩
  · rintro ⟨line, hline, hpos⟩
    exact ⟨line, hlines ▸ hline, hpos⟩

theorem Kept.of_set (hid : poId ≠ id) {row : OrderRow} (hrow : row.id = poId) :
    Kept book { book with orders := book.orders.set row } id :=
  .of_same (Table.find?_set_ne (by rw [hrow]; exact hid)) rfl

theorem newLine_order {item : ItemCreate} {lineId : Id} {line : OrderLine}
    (h : newLine ctx lineId poId item = .ok line) : line.purchaseOrderId = poId := by
  simp only [newLine, orError_bind_eq_ok, Except.ok.injEq] at h
  obtain ⟨_, -, _, -, _, -, rfl⟩ := h
  rfl

theorem addLine_linesOf {items : List (ItemCreate × Nat)}
    {lines lines' : Table fun line : OrderLine => line.id} (hid : poId ≠ id)
    (h : items.foldlM (addLine ctx env poId) lines = .ok lines') :
    lines'.rows.filter (·.purchaseOrderId = id) = lines.rows.filter (·.purchaseOrderId = id) := by
  refine foldlM_rel (R := fun a b : Table fun line : OrderLine => line.id =>
    b.rows.filter (·.purchaseOrderId = id) = a.rows.filter (·.purchaseOrderId = id))
    (fun _ => rfl) (fun h₁ h₂ => h₂.trans h₁) (fun a item b _ hturn => ?_) h
  simp only [addLine, bind_eq_ok, orError_eq_ok] at hturn
  obtain ⟨line, hline, hinsert⟩ := hturn
  have hother : line.purchaseOrderId ≠ id := newLine_order hline ▸ hid
  simp [Table.insert?_rows hinsert, List.filter_append, hother]

theorem updatePurchaseOrder_spec {payload : OrderUpdate}
    (h : updatePurchaseOrder ctx env book poId payload = .ok book') :
    ∃ po row, book.order? poId = some po ∧ ¬ book.Received poId ∧ row.id = po.id ∧
      row.status = po.status ∧ book'.orders = book.orders.set row ∧
      ∀ id, poId ≠ id → book'.linesOf id = book.linesOf id := by
  simp only [updatePurchaseOrder, bind_eq_ok, orError_eq_ok, ensure_eq_ok, Except.ok.injEq] at h
  obtain ⟨po, hpo, -, hunreceived, -, -, supplier, -, lines, hlines, totalAmount, -, rfl⟩ := h
  refine ⟨po, _, hpo, hunreceived, ?_, ?_, rfl, fun id hid => ?_⟩
  · rfl
  · rfl
  unfold OrderBook.linesOf
  rw [addLine_linesOf hid hlines]
  simp only [Table.removeIf, List.filter_filter]
  refine List.filter_congr fun line _ => ?_
  by_cases hline : line.purchaseOrderId = id
  · simp [hline, hid.symm]
  · simp [hline]

/-! ## Receipts -/

theorem updateLine_ordered (f : Flush) (line : OrderLine) :
    (f.updateLine line).ordered = line.ordered := by
  have hitem : (f.updateItem line.toPurchaseOrderItem).description = line.description ∧
      (f.updateItem line.toPurchaseOrderItem).purchaseOrderId = line.purchaseOrderId := by
    unfold Flush.updateItem
    split <;> exact ⟨rfl, rfl⟩
  simp only [OrderLine.ordered, Flush.updateLine, Flush.updateItem_id, Flush.updateItem_ordered,
    hitem]

theorem updateItem_order (f : Flush) (item : PurchaseOrderItem) :
    (f.updateItem item).purchaseOrderId = item.purchaseOrderId := by
  unfold Flush.updateItem
  split <;> rfl

/-- The status after a receipt is not one before the approval. -/
theorem receivedStatus_approved {status : PoStatus} (h : status ∉ [.draft, .waitingApproval])
    (lines : List LoadedItem) : receivedStatus status lines ∉ [.draft, .waitingApproval] := by
  unfold receivedStatus
  split
  · decide
  · split
    · decide
    · exact h

theorem updateRow_approved {f : Flush} {row : OrderRow}
    (hflush : f.order.status ∉ [.draft, .waitingApproval])
    (h : row.status ∉ [.draft, .waitingApproval]) :
    (f.updateRow row).status ∉ [.draft, .waitingApproval] := by
  unfold Flush.updateRow Flush.updateOrder
  dsimp only
  split
  · exact receivedStatus_approved hflush f.lines
  · exact h

/-- A hundredth that was received stays received when something is added. -/
theorem numeric_add_pos {q added : ℚ} (hgrid : OnGrid 2 q) (hpos : 0 < q) (hadded : 0 ≤ added) :
    0 < numeric 2 (ctx.add q added) := by
  obtain ⟨n, hn⟩ := onGrid_iff.1 hgrid
  have hcent : (1 : ℚ) / 10 ^ 2 ≤ q := by
    have hnpos : (0 : ℚ) < n := by
      rw [← hn]
      positivity
    have hone : (1 : ℚ) ≤ n := by exact_mod_cast hnpos
    rw [div_le_iff₀ (by norm_num), hn]
    exact hone
  have hkeep : ctx.round (1 / 10 ^ 2) = 1 / 10 ^ 2 := by
    refine ctx.keeps _ ((onGrid_div 2 1).mono (by omega)) ?_ |>.trans ?_ <;> norm_num
  have hsum : (1 : ℚ) / 10 ^ 2 ≤ ctx.add q added := by
    rw [← hkeep]
    exact ctx.mono (by linarith)
  have hone : (1 : ℚ) ≤ ctx.add q added * 10 ^ 2 := by linarith
  have hround : (0 : ℚ) < roundHalfAway (ctx.add q added * 10 ^ 2) := by
    have hnear := (roundHalfAway_bounds (ctx.add q added * 10 ^ 2)).2
    revert hone hnear
    generalize ctx.add q added * 10 ^ 2 = x
    intro hone hnear
    linarith
  unfold numeric
  positivity

/-- What a receipt has in memory when the service accepts it. -/
theorem receiveGoods_spec {po : PurchaseOrder} {items : List PurchaseOrderItem}
    {receipts : ItemReceipts} {f : Flush} (h : receiveGoods ctx po items receipts = .ok f) :
    f.order.status ∉ [.draft, .waitingApproval] ∧
      ∀ l ∈ f.lines, l.item ∈ items ∧ l.Computed ctx receipts ∧ f.receipts = receipts := by
  simp only [receiveGoods, bind_eq_ok, ensure_eq_ok, Except.ok.injEq] at h
  obtain ⟨-, hstatus, -, -, lines, hlines, rfl⟩ := h
  have hitems : lines.map (·.item) = items :=
    map_of_mapM hlines fun _ _ hl => (receiveItem_spec hl).1
  have hcomputed : ∀ l ∈ lines, l.Computed ctx receipts :=
    forall_of_mapM hlines fun _ _ _ hl => (receiveItem_spec hl).2
  exact ⟨hstatus, fun l hl =>
    ⟨hitems ▸ List.mem_map_of_mem hl, hcomputed l hl, rfl⟩⟩

theorem updateLine_received {po : PurchaseOrder} {receipts : ItemReceipts} {f : Flush}
    {line : OrderLine}
    (h : receiveGoods ctx po ((book.linesOf poId).map (·.toPurchaseOrderItem)) receipts = .ok f)
    (hline : line ∈ book.lines.rows) (hpos : 0 < line.quantityReceived) :
    0 < (f.updateLine line).quantityReceived := by
  show 0 < (f.updateItem line.toPurchaseOrderItem).quantityReceived
  unfold Flush.updateItem Flush.written
  cases hloaded : f.loaded line.id with
  | none => exact hpos
  | some l =>
      obtain ⟨hl, hid⟩ := Flush.mem_of_loaded hloaded
      obtain ⟨hitem, hcomputed, hreceipts⟩ := (receiveGoods_spec h).2 l hl
      obtain ⟨loaded, hmem, hread⟩ := List.mem_map.1 hitem
      have hsame : loaded = line :=
        book.lines.key_injective (List.mem_of_mem_filter hmem) hline
          (by rw [← hid, ← hread])
      subst hsame
      unfold LoadedItem.Computed at hcomputed
      cases hlookup : receipts.lookup l.item.id with
      | none =>
          rw [hlookup] at hcomputed
          simpa [hcomputed] using hpos
      | some qtyAdd =>
          rw [hlookup] at hcomputed
          obtain ⟨hadd, -, hnew⟩ := hcomputed
          by_cases hchanged : l.quantityReceived = l.item.quantityReceived
          · simpa [hchanged] using hpos
          · simp only [if_neg hchanged]
            rw [hnew, ← hread]
            exact numeric_add_pos loaded.received_onGrid hpos hadd

theorem linesOf_flush (suppliers : Table FuelSupplier.id)
    (orders : Table fun row : OrderRow => row.id) (f : Flush) :
    OrderBook.linesOf ⟨suppliers, orders, book.lines.mapRows f.updateLine f.updateLine_id⟩ id =
      (book.linesOf id).map f.updateLine := by
  unfold OrderBook.linesOf Table.mapRows
  rw [List.filter_map]
  have hfilter : ((fun line : OrderLine => decide (line.purchaseOrderId = id)) ∘ f.updateLine) =
      fun line => decide (line.purchaseOrderId = id) :=
    funext fun line => congrArg (fun k => decide (k = id)) (updateItem_order f _)
  rw [hfilter]

theorem receive_spec {receipts : ItemReceipts}
    (h : receive ctx env book actor poId receipts = .ok book') :
    ∃ po f, book.order? poId = some po ∧
      receiveGoods ctx po.toPurchaseOrder ((book.linesOf poId).map (·.toPurchaseOrderItem))
        receipts = .ok f ∧
      book' = { book with
        orders := book.orders.mapRows f.updateRow f.updateRow_id
        lines := book.lines.mapRows f.updateLine f.updateLine_id } := by
  unfold Procurement.receive at h
  simp only [bind_eq_ok, orError_eq_ok] at h
  obtain ⟨-, -, -, -, po, hpo, h⟩ := h
  split at h
  · cases h
  · next f hf => exact ⟨po, f, hpo, hf, (Except.ok.inj h).symm⟩

theorem Kept.receive {receipts : ItemReceipts}
    (h : receive ctx env book actor poId receipts = .ok book') (id : Id) :
    Kept book book' id := by
  obtain ⟨po, f, -, hf, rfl⟩ := receive_spec h
  have hstatus := (receiveGoods_spec hf).1
  refine ⟨?_, ?_, ?_⟩
  · unfold OrderBook.terms
    rw [linesOf_flush, Table.find?_mapRows, List.map_map]
    cases book.orders.find? id with
    | none => rfl
    | some row =>
        simp only [Option.map_some, Option.some.injEq, Terms.mk.injEq]
        exact ⟨rfl, rfl, List.map_congr_left fun line _ => updateLine_ordered f line⟩
  · rintro ⟨row, hrow, happroved⟩
    refine ⟨f.updateRow row, ?_, updateRow_approved hstatus happroved⟩
    simp [Table.find?_mapRows, Option.mem_def.1 hrow]
  · rintro ⟨line, hline, hpos⟩
    refine ⟨f.updateLine line, ?_, updateLine_received hf (List.mem_of_mem_filter hline) hpos⟩
    rw [linesOf_flush]
    exact List.mem_map_of_mem hline

/-! ## Submissions and approvals -/

theorem Kept.set_status {status : PoStatus} {row : OrderRow} (hpo : book.order? poId = some po)
    (hstatus : po.status = status) (hbefore : status ∈ [.draft, .waitingApproval])
    (hrow : row.id = po.id) (happroved : book.Approved id) :
    Kept book { book with orders := book.orders.set row } id := by
  obtain ⟨hfind, -⟩ := OrderBook.order?_eq_some.1 hpo
  have hid := OrderBook.id_of_order? hpo
  by_cases hsame : poId = id
  · obtain ⟨row', hrow', hlater⟩ := happroved
    subst hsame
    obtain rfl : po = row' := Option.some.inj (hfind.symm.trans hrow')
    exact absurd (hstatus ▸ hbefore) hlater
  · exact .of_set hsame (hrow.trans hid)

theorem Kept.submit (h : submit env book actor poId = .ok book') (happroved : book.Approved id) :
    Kept book book' id := by
  simp only [Procurement.submit, bind_eq_ok, orError_eq_ok, ensure_eq_ok, Except.ok.injEq] at h
  obtain ⟨po, hpo, -, -, -, hdraft, rfl⟩ := h
  exact .set_status hpo hdraft (by decide) rfl happroved

theorem Kept.approve (h : approve env book actor poId = .ok book')
    (happroved : book.Approved id) : Kept book book' id := by
  simp only [Procurement.approve, bind_eq_ok, orError_eq_ok, ensure_eq_ok, Except.ok.injEq] at h
  obtain ⟨-, -, po, hpo, -, hwaiting, rfl⟩ := h
  exact .set_status hpo hwaiting (by decide) rfl happroved

/-! ## Edits -/

/-- An edit that the endpoint accepts is one that the service accepts; an approved order is
edited by those alone who may edit every order. -/
theorem update_spec {payload : OrderUpdate}
    (h : update ctx env book actor poId payload = .ok book') :
    updatePurchaseOrder ctx env book poId payload = .ok book' ∧
      (book.Approved poId → financeOrExecutive env actor = true) := by
  simp only [update, bind_eq_ok, orError_eq_ok, ensure_eq_ok] at h
  obtain ⟨-, -, po, hpo, -, hright, -, -, hservice⟩ := h
  refine ⟨hservice, ?_⟩
  rintro ⟨row, hrow, hlater⟩
  obtain ⟨hfind, -⟩ := OrderBook.order?_eq_some.1 hpo
  obtain rfl : po = row := Option.some.inj (hfind.symm.trans hrow)
  rcases hright with hprivileged | ⟨-, hbefore⟩
  · exact hprivileged
  · exact absurd hbefore hlater

theorem Kept.update {payload : OrderUpdate} (hid : poId ≠ id)
    (h : update ctx env book actor poId payload = .ok book') : Kept book book' id := by
  obtain ⟨po, row, hpo, -, hrow, -, horders, hlines⟩ := updatePurchaseOrder_spec (update_spec h).1
  refine .of_same ?_ (hlines id hid)
  rw [horders]
  apply Table.find?_set_ne
  show row.id ≠ id
  rw [hrow, OrderBook.id_of_order? hpo]
  exact hid

theorem OrderBook.Approved.update {payload : OrderUpdate} (happroved : book.Approved poId)
    (h : update ctx env book actor poId payload = .ok book') : book'.Approved poId := by
  obtain ⟨po, row, hpo, -, hrow, hstatus, horders, -⟩ :=
    updatePurchaseOrder_spec (update_spec h).1
  obtain ⟨hfind, -⟩ := OrderBook.order?_eq_some.1 hpo
  have hid : row.id = poId := hrow.trans (OrderBook.id_of_order? hpo)
  obtain ⟨row', hrow', hlater⟩ := happroved
  obtain rfl : po = row' := Option.some.inj (hfind.symm.trans hrow')
  refine ⟨row, ?_, hstatus ▸ hlater⟩
  rw [horders, ← hid]
  exact Table.find?_set_self (hid.symm ▸ hfind)

/-- An approved order is edited only by those who may edit every order, and only before goods
are received. -/
theorem Request.Edits.privileged {r : Request} (happroved : book.Approved id)
    (h : r.Edits ctx book id) :
    financeOrExecutive r.env r.actor = true ∧ ¬ book.Received id := by
  obtain ⟨⟨payload, hupdate⟩, book', h⟩ := h
  unfold Request.exec at h
  rw [hupdate] at h
  obtain ⟨hservice, hright⟩ := update_spec h
  obtain ⟨-, -, -, hunreceived, -⟩ := updatePurchaseOrder_spec hservice
  exact ⟨hright happroved, hunreceived⟩

/-! ## Runs -/

variable (ctx) in
/-- One request leaves an approved order as it is, or is an accepted edit of it. -/
theorem Request.serve_approved (r : Request) (happroved : book.Approved id) :
    (r.serve ctx book).Approved id ∧ (Kept book (r.serve ctx book) id ∨ r.Edits ctx book id) := by
  unfold Request.serve
  cases hexec : r.exec ctx book with
  | error e => exact ⟨happroved, .inl (.refl book id)⟩
  | ok book' =>
      have hkept : Kept book book' id ∨ r.Edits ctx book id ∧ book'.Approved id := by
        have hexec' := hexec
        unfold Request.exec at hexec'
        cases hop : r.operation with
        | update poId payload =>
            rw [hop] at hexec'
            by_cases hid : poId = id
            · subst hid
              exact .inr ⟨⟨⟨payload, hop⟩, book', hexec⟩, happroved.update hexec'⟩
            · exact .inl (.update hid hexec')
        | submit poId =>
            rw [hop] at hexec'
            exact .inl (.submit hexec' happroved)
        | approve poId =>
            rw [hop] at hexec'
            exact .inl (.approve hexec' happroved)
        | receive poId receipts =>
            rw [hop] at hexec'
            exact .inl (.receive hexec' id)
      rcases hkept with hkept | ⟨hedits, hlater⟩
      · exact ⟨hkept.approved happroved, .inl hkept⟩
      · exact ⟨hlater, .inr hedits⟩

variable (ctx) in
/-- What a run leaves of an approved order: what it was, or the last accepted edit. -/
theorem serveAll_approved (requests : List Request) (happroved : book.Approved id) :
    (serveAll ctx book requests).Approved id ∧
      (Kept book (serveAll ctx book requests) id ∨
        ¬ book.Received id ∧ ∃ before r after, requests = before ++ r :: after ∧
          r.Edits ctx (serveAll ctx book before) id) := by
  induction requests generalizing book with
  | nil => exact ⟨happroved, .inl (.refl book id)⟩
  | cons r requests ih =>
      obtain ⟨hserved, hstep⟩ := r.serve_approved ctx happroved
      obtain ⟨hrun, hrest⟩ := ih hserved
      refine ⟨hrun, ?_⟩
      rcases hstep with hkept | hedits
      · rcases hrest with hkept' | ⟨hunreceived, before, r', after, rfl, hedits⟩
        · exact .inl (hkept.trans hkept')
        · exact .inr ⟨fun h => hunreceived (hkept.received h), r :: before, r', after, rfl, hedits⟩
      · exact .inr ⟨(hedits.privileged happroved).2, [], r, requests, rfl, hedits⟩

/-- Supplier, lines and total of an approved order stay as they were approved unless the order
is edited, and once goods are received they stay for good; no request sends the order back. It
is edited by a superuser, Finance or an Executive only, and only while nothing is received. -/
theorem approved_terms (happroved : book.Approved id) (requests : List Request) :
    (serveAll ctx book requests).Approved id ∧
      ((serveAll ctx book requests).terms id = book.terms id ∨
        ∃ before r after, requests = before ++ r :: after ∧
          r.Edits ctx (serveAll ctx book before) id) ∧
      (book.Received id → (serveAll ctx book requests).Received id ∧
        (serveAll ctx book requests).terms id = book.terms id) ∧
      ∀ r : Request, r.Edits ctx (serveAll ctx book requests) id →
        financeOrExecutive r.env r.actor = true ∧ ¬ (serveAll ctx book requests).Received id := by
  obtain ⟨hrun, hkept⟩ := serveAll_approved ctx requests happroved
  refine ⟨hrun, ?_, fun hreceived => ?_, fun r hedits => hedits.privileged hrun⟩
  · rcases hkept with hkept | ⟨-, hedits⟩
    · exact .inl hkept.terms
    · exact .inr hedits
  · rcases hkept with hkept | ⟨hunreceived, -⟩
    · exact ⟨hkept.received hreceived, hkept.terms⟩
    · exact absurd hreceived hunreceived

/-! ## One order of two units -/

namespace Sample

def python : Env where
  now := 0
  uuid := fun n => 100 + n
  upper := fun s => s
  lower := fun s => s
  strip := fun s => s

def executive : Actor := ⟨1, false, some "EXECUTIVE", false, []⟩

def finance : Actor := ⟨2, false, some "FINANCE", false, []⟩

/-- An order of status `status`: two units at three dollars each. -/
def orderBook (status : PoStatus) : OrderBook where
  suppliers := ⟨[⟨5, "Total"⟩], by simp⟩
  orders := ⟨[⟨⟨1, status, false⟩, 5, none, none, "USD", none, ⟨6, by decide +kernel⟩, some 3, none,
    none⟩], by simp⟩
  lines := ⟨[⟨⟨7, 1, none, ⟨2, by decide +kernel⟩, 0⟩, none, none, ⟨3, by decide +kernel⟩,
    ⟨6, by decide +kernel⟩, OrderLine.none_received⟩], by simp⟩

/-- Finance orders one unit instead. -/
def reduced : Request :=
  ⟨python, finance, .update 1
    ⟨"Total", none, none, none, "USD", none, [⟨none, none, none, ⟨1, by simp⟩, ⟨3, by simp⟩⟩]⟩⟩

end Sample

/-- The order is submitted again, and two units are received. -/
theorem approved_terms_received :
    (Sample.orderBook .approved).Approved 1 ∧
      (serveAll .python (Sample.orderBook .approved) [⟨Sample.python, Sample.finance, .submit 1⟩,
        ⟨Sample.python, Sample.finance, .receive 1 [(7, 2)]⟩]).Approved 1 :=
  ⟨by decide +kernel, (approved_terms (by decide +kernel) _).1⟩

/-- After the approval Finance may still change what was approved. -/
theorem approved_terms_edited :
    ¬ ∀ (book : OrderBook) (approval : Request) (requests : List Request),
      approval.operation = .approve 1 → (approval.exec .python book).isOk = true →
      (serveAll .python (approval.serve .python book) requests).terms 1 =
        (approval.serve .python book).terms 1 := by
  intro hall
  have hterms := hall (Sample.orderBook .waitingApproval)
    ⟨Sample.python, Sample.executive, .approve 1⟩ [Sample.reduced] rfl (by decide +kernel)
  revert hterms
  decide +kernel

end Cestos.Procurement
