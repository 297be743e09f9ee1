import Cestos.Procurement.Goods
import Cestos.Procurement.Linking

/-!
# Totals of orders

An order stores the total that its lines add up to before they are rounded, or that of the expense
that is linked to it. It agrees with the lines as they are stored if what the rounding of the lines
loses or gains is less than half a cent in all, and if the totals that an expense gives for its
items are those of quantity and unit cost.
-/

namespace Cestos.Procurement

open Cestos.Core Cestos.Core.Decimal

variable {ctx : Context 28 12} {book book' : OrderBook} {poId : Id}

/-- The stored total of the order is the sum of the stored totals of its lines. -/
def OrderBook.Totalled (book : OrderBook) (poId : Id) : Prop :=
  ∃ row ∈ book.orders.find? poId,
    row.totalAmount.1 = ((book.linesOf poId).map fun line => line.totalPrice.1).sum

/-- The value of a line before it is rounded. -/
def ItemCreate.value (ctx : Context 28 12) (item : ItemCreate) : ℚ :=
  ctx.mul item.quantityOrdered item.unitPrice

/-- The sum of the values of the lines in cents. -/
def inCents (ctx : Context 28 12) (items : List ItemCreate) : ℚ :=
  (items.map fun item => numeric 2 (item.value ctx)).sum

/-- The lines add up to within half a cent of what they add up to in cents. -/
def NearCents (ctx : Context 28 12) (items : List ItemCreate) (given : Option {x : ℚ // 0 ≤ x}) :
    Prop :=
  inCents ctx items - 1 / 200 ≤ itemsTotal ctx items given ∧
    itemsTotal ctx items given < inCents ctx items + 1 / 200

/-- What the items add up to is what their quantities and unit costs do; where there are no items,
the lines of the order add up to nothing. -/
def Agrees (ctx : Context 28 12) (book : OrderBook) (poId : Id) (items : List ExpenseItem) : Prop :=
  if items = [] then ((book.linesOf poId).map fun line => line.totalPrice.1).sum = 0
  else (items.map (·.lineTotal ctx)).sum = (items.map (·.price ctx)).sum

/-! ## Sums of rounded values -/

theorem itemsTotal_nonneg (items : List ItemCreate) (given : Option {x : ℚ // 0 ≤ x}) :
    0 ≤ itemsTotal ctx items given := by
  unfold itemsTotal
  dsimp only
  split
  · next hpos => exact hpos.le
  · cases given with
    | none => exact le_rfl
    | some total => exact total.2

/-- The total is stored as what the lines are in cents exactly if it is that near. -/
theorem numeric_itemsTotal {items : List ItemCreate} {given : Option {x : ℚ // 0 ≤ x}} :
    numeric 2 (itemsTotal ctx items given) = inCents ctx items ↔ NearCents ctx items given := by
  have hgrid : OnGrid 2 (inCents ctx items) := Column.onGrid_sum fun item _ => onGrid_numeric 2 _
  rw [numeric_eq_iff (itemsTotal_nonneg items given) hgrid]
  unfold NearCents
  constructor
  · rintro ⟨hlow, hhigh⟩
    exact ⟨by linarith, by linarith⟩
  · rintro ⟨hlow, hhigh⟩
    exact ⟨by linarith, by linarith⟩

theorem prices_of_added {env : Env} {items : List (ItemCreate × Nat)} {added : List OrderLine}
    (h : List.Forall₂ (BecameLine ctx env poId) items added) :
    added.map (fun line => line.totalPrice.1) = items.map fun i => numeric 2 (i.1.value ctx) := by
  induction h with
  | nil => rfl
  | cons hline _ ih =>
      obtain ⟨-, -, -, -, htotal⟩ := newLine_spec hline
      rw [List.map_cons, List.map_cons, ih, htotal]
      rfl

/-- Lines that are added for all items cost what these are in cents. -/
theorem sum_of_added {env : Env} {items : List ItemCreate} {added : List OrderLine}
    (h : List.Forall₂ (BecameLine ctx env poId) items.zipIdx added) :
    (added.map fun line => line.totalPrice.1).sum = inCents ctx items := by
  have hfirst : (items.zipIdx.map fun i => numeric 2 (i.1.value ctx)) =
      items.map fun item => numeric 2 (item.value ctx) := by
    conv_rhs => rw [← List.zipIdx_map_fst 0 items, List.map_map]
    rfl
  rw [prices_of_added h, hfirst, inCents]

theorem order_of_added {env : Env} {items : List (ItemCreate × Nat)} {added : List OrderLine}
    (h : List.Forall₂ (BecameLine ctx env poId) items added) :
    ∀ line ∈ added, line.purchaseOrderId = poId ∧ line.quantityReceived ≤ 0 := by
  induction h with
  | nil => simp
  | cons hline _ ih =>
      obtain ⟨-, horder, hreceived, -⟩ := newLine_spec hline
      exact List.forall_mem_cons.2 ⟨⟨horder, hreceived.le⟩, ih⟩

/-! ## Lines that are rewritten -/

/-- The lines of the order are rewritten, and those of the others are not. -/
structure Rewrites (book book' : OrderBook) (poId : Id) (added : List OrderLine) : Prop where
  rows : book'.lines.rows = book.lines.rows.filter (·.purchaseOrderId ≠ poId) ++ added
  added : ∀ line ∈ added, line.purchaseOrderId = poId ∧ line.quantityReceived ≤ 0

theorem Rewrites.linesOf {added : List OrderLine} (h : Rewrites book book' poId added) :
    book'.linesOf poId = added := by
  have hold : (book.lines.rows.filter (·.purchaseOrderId ≠ poId)).filter
      (·.purchaseOrderId = poId) = [] := by
    simp
  have hnew : added.filter (·.purchaseOrderId = poId) = added :=
    List.filter_eq_self.2 fun line hline => decide_eq_true (h.added line hline).1
  unfold OrderBook.linesOf
  rw [h.rows, List.filter_append, hold, hnew, List.nil_append]

theorem Rewrites.linesOf_ne {added : List OrderLine} (h : Rewrites book book' poId added) {id : Id}
    (hid : id ≠ poId) : book'.linesOf id = book.linesOf id := by
  have hold : (book.lines.rows.filter (·.purchaseOrderId ≠ poId)).filter
      (·.purchaseOrderId = id) = book.lines.rows.filter (·.purchaseOrderId = id) := by
    rw [List.filter_filter]
    refine List.filter_congr fun line _ => ?_
    by_cases hline : line.purchaseOrderId = id
    · simp [hline, hid]
    · simp [hline]
  have hnew : added.filter (·.purchaseOrderId = id) = [] := by
    refine List.filter_eq_nil_iff.2 fun line hline => ?_
    simp [(h.added line hline).1, hid.symm]
  unfold OrderBook.linesOf
  rw [h.rows, List.filter_append, hold, hnew, List.append_nil]

theorem totalled_iff {row : OrderRow} {added : List OrderLine}
    (hrow : book.orders.find? poId = some row) (hlines : book.linesOf poId = added) :
    book.Totalled poId ↔
      row.totalAmount.1 = (added.map fun line => line.totalPrice.1).sum := by
  unfold OrderBook.Totalled
  simp [hrow, hlines]

/-! ## Books of orders -/

/-- The statuses that an order has before goods of it are received. -/
def beforeGoods : List PoStatus := [.draft, .waitingApproval, .approved]

/-- Lines are of orders, and of an order that awaits its goods nothing is received. -/
structure OrderBook.Sound (book : OrderBook) : Prop where
  referenced : ∀ line ∈ book.lines.rows, line.purchaseOrderId ∈ book.orders.rows.map (·.id)
  unreceived : ∀ row ∈ book.orders.rows, row.status ∈ beforeGoods → ¬ book.Received row.id

theorem OrderBook.Sound.rewrites {added : List OrderLine} (hsound : book.Sound)
    (h : Rewrites book book' poId added)
    (horders : ∀ row ∈ book'.orders.rows, row.id = poId ∨ row ∈ book.orders.rows)
    (hids : book.orders.rows.map (·.id) ⊆ book'.orders.rows.map (·.id))
    (hpo : poId ∈ book'.orders.rows.map (·.id)) : book'.Sound := by
  refine ⟨fun line hline => ?_, fun row hrow hstatus => ?_⟩
  · rw [h.rows, List.mem_append] at hline
    rcases hline with hold | hnew
    · exact hids (hsound.referenced line (List.mem_of_mem_filter hold))
    · exact (h.added line hnew).1 ▸ hpo
  · unfold OrderBook.Received
    by_cases hid : row.id = poId
    · rw [hid, h.linesOf]
      rintro ⟨line, hline, hpos⟩
      exact absurd hpos (not_lt.2 (h.added line hline).2)
    · rw [h.linesOf_ne hid]
      exact hsound.unreceived row ((horders row hrow).resolve_left hid) hstatus

theorem OrderBook.Sound.set {po row : OrderRow} (hsound : book.Sound)
    (hpo : po ∈ book.orders.rows) (hid : row.id = po.id) (hbefore : po.status ∈ beforeGoods)
    (horders : book'.orders = book.orders.set row) (hlines : book'.lines = book.lines) :
    book'.Sound := by
  refine ⟨fun line hline => ?_, fun row' hrow' hstatus => ?_⟩
  · rw [horders, Table.set_keys]
    rw [hlines] at hline
    exact hsound.referenced line hline
  · have hsame : book'.Received row'.id ↔ book.Received row'.id := by
      unfold OrderBook.Received OrderBook.linesOf
      rw [hlines]
    rw [hsame]
    rw [horders] at hrow'
    rcases Table.mem_set.1 hrow' with ⟨hold, -⟩ | ⟨rfl, -⟩
    · exact hsound.unreceived row' hold hstatus
    · rw [hid]
      exact hsound.unreceived po hpo hbefore

theorem OrderBook.Sound.set_rewrites {po row : OrderRow} {added : List OrderLine}
    (hsound : book.Sound) (hpo : po ∈ book.orders.rows) (hid : row.id = po.id)
    (horders : book'.orders = book.orders.set row) (h : Rewrites book book' po.id added) :
    book'.Sound := by
  refine hsound.rewrites h (fun row' hrow' => ?_) ?_ ?_
  · rw [horders] at hrow'
    rcases Table.mem_set.1 hrow' with ⟨hold, -⟩ | ⟨rfl, -⟩
    · exact .inr hold
    · exact .inl hid
  · rw [horders, Table.set_keys]
    exact fun _ h => h
  · rw [horders, Table.set_keys]
    exact List.mem_map_of_mem hpo

theorem OrderBook.Sound.created {row : OrderRow} {env : Env} {items : List (ItemCreate × Nat)}
    {added : List OrderLine} (hsound : book.Sound)
    (horders : book.orders.insert? row = some book'.orders)
    (hlines : book'.lines.rows = book.lines.rows ++ added)
    (hadded : List.Forall₂ (BecameLine ctx env row.id) items added) :
    Rewrites book book' row.id added := by
  refine ⟨?_, order_of_added hadded⟩
  have hothers : book.lines.rows.filter (·.purchaseOrderId ≠ row.id) = book.lines.rows := by
    refine List.filter_eq_self.2 fun line hline => decide_eq_true fun hid => ?_
    exact (Table.insert?_eq_some.1 horders).1 (hid ▸ hsound.referenced line hline)
  rw [hothers, hlines]

/-- A receipt after which the order still awaits its goods has stored nothing. -/
theorem Flush.Loads.nothing {f : Flush} {receipts : ItemReceipts} {line : OrderLine}
    {l : LoadedItem} {status : PoStatus} (h : f.Loads ctx receipts line l) (hl : l ∈ f.lines)
    (hstatus : receivedStatus status f.lines ∈ beforeGoods) :
    (f.updateLine line).quantityReceived ≤ 0 := by
  have hnone : l.quantityReceived ≤ 0 := by
    unfold receivedStatus at hstatus
    split_ifs at hstatus with hfull hsome
    · simp [beforeGoods] at hstatus
    · simp [beforeGoods] at hstatus
    · exact not_lt.1 fun hpos => hsome ⟨l, hl, hpos⟩
  have hstored := numeric_mono 2 hnone
  rwa [numeric_zero, ← h.stored] at hstored

theorem OrderBook.Sound.receive {env : Env} {actor : Actor} {receipts : ItemReceipts}
    (hsound : book.Sound) (h : receive ctx env book actor poId receipts = .ok book') :
    book'.Sound := by
  obtain ⟨po, f, hpo, hf, rfl⟩ := receive_spec h
  obtain ⟨hfind, -⟩ := OrderBook.order?_eq_some.1 hpo
  have horder : f.order = po.toPurchaseOrder := (receiveGoods_open hf).1
  have hid : po.id = poId := OrderBook.id_of_order? hpo
  refine ⟨fun line' hline' => ?_, fun row' hrow' hstatus => ?_⟩
  · obtain ⟨line, hline, rfl⟩ := List.mem_map.1 hline'
    have hsame : (f.updateLine line).purchaseOrderId = line.purchaseOrderId := updateItem_order f _
    rw [Table.mapRows_keys, hsame]
    exact hsound.referenced line hline
  · obtain ⟨row, hrow, rfl⟩ := List.mem_map.1 hrow'
    unfold OrderBook.Received
    rw [Flush.updateRow_id, linesOf_flush]
    rintro ⟨line', hline', hpos⟩
    obtain ⟨line, hline, rfl⟩ := List.mem_map.1 hline'
    by_cases hsame : row.id = poId
    · obtain rfl : row = po := book.orders.key_injective hrow (Table.mem_of_find? hfind)
        (hsame.trans hid.symm)
      rw [Flush.updateRow_status horder] at hstatus
      rw [hsame] at hline
      obtain ⟨l, hl, hloads⟩ := (receiveGoods_loads hf).1 line hline
      exact absurd hpos (not_lt.2 (hloads.nothing hl hstatus))
    · have hother : line ∉ book.linesOf poId := by
        intro hmem
        have hpoId : line.purchaseOrderId = poId := of_decide_eq_true (List.mem_filter.1 hmem).2
        have hrowId : line.purchaseOrderId = row.id := of_decide_eq_true (List.mem_filter.1 hline).2
        exact hsame (hrowId.symm.trans hpoId)
      have hf_id : f.order.id = poId := by
        rw [horder]
        exact hid
      rw [Flush.updateRow_status_ne (hf_id ▸ hsame)] at hstatus
      have hunloaded := loaded_eq_none hf (List.mem_of_mem_filter hline) hother
      rw [Flush.stored_of_not_loaded hunloaded] at hpos
      exact hsound.unreceived row hrow hstatus ⟨line, hline, hpos⟩

theorem Effect.sound {c : Call} (heffect : Effect ctx book c book') (hsound : book.Sound) :
    book'.Sound := by
  cases heffect with
  | created env items row added _ horders hlines hadded =>
      refine hsound.rewrites (hsound.created horders hlines hadded) (fun row' hrow' => ?_) ?_ ?_
      · rcases (Table.mem_insert? horders).1 hrow' with hold | rfl
        · exact .inr hold
        · exact .inl rfl
      · rw [Table.insert?_rows horders, List.map_append]
        exact List.subset_append_left _ _
      · rw [Table.insert?_rows horders]
        simp
  | edited env items po row added hfound _ hsame horders hlines hadded =>
      obtain ⟨hfind, -⟩ := OrderBook.order?_eq_some.1 hfound
      exact hsound.set_rewrites (Table.mem_of_find? hfind) hsame.1 horders
        ⟨hlines, order_of_added hadded⟩
  | moved po row hfound hbefore hsame _ horders hlines =>
      obtain ⟨hfind, -⟩ := OrderBook.order?_eq_some.1 hfound
      refine hsound.set (Table.mem_of_find? hfind) hsame ?_ horders hlines
      simp only [List.mem_cons, List.not_mem_nil, or_false] at hbefore
      rcases hbefore with hdraft | hwaiting
      · simp [beforeGoods, hdraft]
      · simp [beforeGoods, hwaiting]
  | received r poId receipts _ _ haccepted => exact hsound.receive haccepted

/-! ## Linked expenses -/

variable {env : ExpenseEnv} {actor : Actor} {invoiced : Bool} {body : ExpenseCreate}

theorem OrderBook.Sound.linked (hsound : book.Sound) (horder : body.purchaseOrderId = some poId)
    (hitems : body.items ≠ [])
    (h : createExpense ctx env book actor invoiced body = .ok book') :
    ∃ added, Rewrites book book' poId added ∧
      added.map (fun line => line.totalPrice.1) = body.items.map (·.price ctx) := by
  obtain ⟨po, row, hpo, hstatus, -, -, -, -, hlines⟩ := createExpense_spec horder h
  obtain ⟨hfind, -⟩ := OrderBook.order?_eq_some.1 hpo
  have hunreceived :=
    hsound.unreceived po (Table.mem_of_find? hfind) (by simp [beforeGoods, hstatus])
  rw [OrderBook.id_of_order? hpo] at hunreceived
  obtain ⟨added, hrows, hadded, hprices⟩ := syncLines_spec hitems hunreceived hlines
  exact ⟨added, ⟨hrows, hadded⟩, hprices⟩

theorem linked_without_items (horder : body.purchaseOrderId = some poId) (hitems : body.items = [])
    (h : createExpense ctx env book actor invoiced body = .ok book') :
    book'.lines = book.lines := by
  obtain ⟨-, -, -, -, -, -, -, -, hlines⟩ := createExpense_spec horder h
  rw [syncLines, if_pos hitems] at hlines
  exact (Except.ok.inj hlines).symm

theorem OrderBook.Sound.createExpense (hsound : book.Sound)
    (h : createExpense ctx env book actor invoiced body = .ok book') : book'.Sound := by
  cases horder : body.purchaseOrderId with
  | none =>
      unfold Procurement.createExpense at h
      rw [horder] at h
      simp only [bind_eq_ok, Except.ok.injEq] at h
      obtain ⟨-, -, rfl⟩ := h
      exact hsound
  | some poId =>
      obtain ⟨po, row, hpo, hstatus, hid, -, -, horders, -⟩ := createExpense_spec horder h
      obtain ⟨hfind, -⟩ := OrderBook.order?_eq_some.1 hpo
      have hmem := Table.mem_of_find? hfind
      by_cases hitems : body.items = []
      · exact hsound.set hmem hid (by simp [beforeGoods, hstatus]) horders
          (linked_without_items horder hitems h)
      · obtain ⟨added, hrewrites, -⟩ := hsound.linked horder hitems h
        rw [← OrderBook.id_of_order? hpo] at hrewrites
        exact hsound.set_rewrites hmem hid horders hrewrites

theorem ExpenseItem.lineTotal_onGrid (item : ExpenseItem) : OnGrid 2 (item.lineTotal ctx) := by
  unfold lineTotal
  cases item.total with
  | none => exact item.price_onGrid
  | some total => exact total.1.2.1

theorem ExpenseItem.lineTotal_nonneg (item : ExpenseItem) : 0 ≤ item.lineTotal ctx := by
  unfold lineTotal
  cases item.total with
  | none =>
      exact quantize_nonneg 2 (ctx.round_nonneg (mul_nonneg item.quantity.2.le item.unitCost.2))
  | some total => exact total.2

/-! ## What is stored after a request -/

theorem OrderBook.Sound.create_totalled {env : Env} {payload : OrderCreate} (hsound : book.Sound)
    (h : create ctx env book actor payload = .ok book') :
    book'.Totalled (env.uuid (payload.items.length + 1)) ↔
      NearCents ctx payload.items payload.totalAmount := by
  obtain ⟨row, added, hid, -, htotal, horders, hlines, hadded⟩ :=
    createPurchaseOrder_spec (create_spec h)
  have hfind : book'.orders.find? row.id = some row := by simp [Table.find?_insert? horders]
  have hrewrites := hsound.created horders hlines hadded
  rw [← hid, totalled_iff hfind hrewrites.linesOf, htotal, sum_of_added hadded, numeric_itemsTotal]

theorem update_totalled {env : Env} {payload : OrderUpdate}
    (h : update ctx env book actor poId payload = .ok book') :
    book'.Totalled poId ↔ NearCents ctx payload.items payload.totalAmount := by
  obtain ⟨po, row, added, hpo, hid, -, htotal, horders, hlines, hadded⟩ :=
    updatePurchaseOrder_writes (update_spec h).1
  obtain ⟨hold, -⟩ := OrderBook.order?_eq_some.1 hpo
  have hrow : row.id = poId := hid.trans (OrderBook.id_of_order? hpo)
  have hfind : book'.orders.find? poId = some row := by
    rw [horders, ← hrow]
    exact Table.find?_set_self (hrow.symm ▸ hold)
  have hrewrites : Rewrites book book' poId added := ⟨hlines, order_of_added hadded⟩
  rw [totalled_iff hfind hrewrites.linesOf, htotal, sum_of_added hadded, numeric_itemsTotal]

theorem OrderBook.Sound.createExpense_totalled (hsound : book.Sound)
    (horder : body.purchaseOrderId = some poId) (hhand : body.byHand = none)
    (h : Procurement.createExpense ctx env book actor invoiced body = .ok book') :
    book'.Totalled poId ↔ Agrees ctx book poId body.items := by
  obtain ⟨po, row, hpo, -, hid, -, hstore, horders, -⟩ := createExpense_spec horder h
  obtain ⟨hold, -⟩ := OrderBook.order?_eq_some.1 hpo
  have hrow : row.id = poId := hid.trans (OrderBook.id_of_order? hpo)
  have hfind : book'.orders.find? poId = some row := by
    rw [horders, ← hrow]
    exact Table.find?_set_self (hrow.symm ▸ hold)
  have htotal : row.totalAmount.1 = (body.items.map (·.lineTotal ctx)).sum := by
    rw [ExpenseCreate.total, hhand] at hstore
    exact Column.store_foldl ctx (by omega) (by omega) (fun item _ => item.lineTotal_onGrid)
      (fun item _ => item.lineTotal_nonneg) hstore
  unfold Agrees
  split
  · next hitems =>
      have hlines : book'.linesOf poId = book.linesOf poId := by
        unfold OrderBook.linesOf
        rw [linked_without_items horder hitems h]
      rw [totalled_iff hfind hlines, htotal, hitems]
      exact eq_comm
  · next hitems =>
      obtain ⟨added, hrewrites, hprices⟩ := hsound.linked horder hitems h
      rw [totalled_iff hfind hrewrites.linesOf, htotal, hprices]

/-! ## Runs -/

/-- A request about an order, or an expense that may be for one. -/
inductive OrderCall
  | call (c : Call)
  | expense (env : ExpenseEnv) (actor : Actor) (invoiced : Bool) (body : ExpenseCreate)

def OrderCall.exec (ctx : Context 28 12) (book : OrderBook) : OrderCall → Outcome OrderBook
  | .call c => c.exec ctx book
  | .expense env actor invoiced body => createExpense ctx env book actor invoiced body

abbrev OrderBook.next (ctx : Context 28 12) : OrderBook → OrderCall → OrderBook :=
  settled (OrderCall.exec ctx)

theorem OrderCall.exec_sound {c : OrderCall} (hsound : book.Sound)
    (h : c.exec ctx book = .ok book') : book'.Sound := by
  cases c with
  | call c => exact (Call.effect h).sound hsound
  | expense env actor invoiced body => exact hsound.createExpense h

/-- In every run on an empty book, the total of an order that is created or edited is that of its
lines exactly if the rounding of the lines comes to less than half a cent; and that of an order that
an expense is linked to, exactly if the expense agrees with its items. -/
theorem order_totals (horders : book.orders.rows = []) (hlines : book.lines.rows = [])
    (calls : List OrderCall) :
    (∀ env actor payload book',
      create ctx env (calls.foldl (OrderBook.next ctx) book) actor payload = .ok book' →
      (book'.Totalled (env.uuid (payload.items.length + 1)) ↔
        NearCents ctx payload.items payload.totalAmount)) ∧
    (∀ env actor poId payload book',
      update ctx env (calls.foldl (OrderBook.next ctx) book) actor poId payload = .ok book' →
      (book'.Totalled poId ↔ NearCents ctx payload.items payload.totalAmount)) ∧
    ∀ env actor invoiced body poId book', body.purchaseOrderId = some poId → body.byHand = none →
      createExpense ctx env (calls.foldl (OrderBook.next ctx) book) actor invoiced body =
        .ok book' →
      (book'.Totalled poId ↔
        Agrees ctx (calls.foldl (OrderBook.next ctx) book) poId body.items) := by
  have hempty : book.Sound := ⟨by simp [hlines], by simp [horders]⟩
  have hsound : (calls.foldl (OrderBook.next ctx) book).Sound :=
    List.foldlRecOn calls _ hempty fun book hsound c _ =>
      settled_keeps hsound fun book' h => OrderCall.exec_sound hsound h
  exact ⟨fun _ _ _ _ h => hsound.create_totalled h, fun _ _ _ _ _ h => update_totalled h,
    fun _ _ _ _ _ _ horder hhand h => hsound.createExpense_totalled horder hhand h⟩

instance (book : OrderBook) (poId : Id) : Decidable (book.Totalled poId) :=
  inferInstanceAs (Decidable (∃ row ∈ book.orders.find? poId, _))

instance (ctx : Context 28 12) (items : List ItemCreate) (given : Option {x : ℚ // 0 ≤ x}) :
    Decidable (NearCents ctx items given) :=
  inferInstanceAs (Decidable (_ ∧ _))

instance (ctx : Context 28 12) (book : OrderBook) (poId : Id) (items : List ExpenseItem) :
    Decidable (Agrees ctx book poId items) :=
  inferInstanceAs (Decidable (if items = [] then _ else _))

/-! ## Filters -/

namespace Sample

def expenses : ExpenseEnv where
  toEnv := python
  casefold := fun name => if name = "Filter" then "filter" else name
  general := fun _ => "0"
  inventoryItems := []
  financeRole := fun _ => false

/-- Lines of a quantity at a price. -/
def filters (lines : List ({x : ℚ // 0 ≤ x} × {x : ℚ // 0 ≤ x})) : OrderCreate :=
  { supplierName := some "Total", items := lines.map fun line =>
    { itemName := some "Filter", quantityOrdered := line.1, unitPrice := line.2 } }

/-- Two lines of half a cent each. -/
def halfCents : OrderCreate := filters [(⟨1 / 2, by norm_num⟩, ⟨1 / 100, by norm_num⟩),
  (⟨1 / 2, by norm_num⟩, ⟨1 / 100, by norm_num⟩)]

def twoFilters : OrderCreate := filters [(⟨2, two_nonneg⟩, ⟨3, three_nonneg⟩)]

theorem one_nonneg : (0 : ℚ) ≤ 1 := by simp

/-- Only one of the filters is wanted. -/
def oneFilter : OrderUpdate where
  supplierName := "Total"
  items := (filters [(⟨1, one_nonneg⟩, ⟨3, three_nonneg⟩)]).items

/-- Two filters at three dollars each, approved. -/
def approvedFilters : List OrderCall := [
  .call (.create python finance twoFilters),
  .call (.request ⟨python, executive, .approve 102⟩)]

def twoAtFour (total : Option {x : Column 18 2 // 0 ≤ x.1}) : ExpenseItem where
  name := "filter"
  quantity := ⟨⟨2, by decide +kernel⟩, by norm_num⟩
  unitCost := ⟨⟨4, by decide +kernel⟩, by norm_num⟩
  total := total

def sevenDollars : {x : Column 18 2 // 0 ≤ x.1} := ⟨⟨7, by decide +kernel⟩, by norm_num⟩

/-- An expense for the filters. -/
def dearer (items : List ExpenseItem) : ExpenseCreate where
  purchaseOrderId := some 102
  items := items

def filtersDue : OrderBook := approvedFilters.foldl (OrderBook.next .python) noOrders

end Sample

/-- The filters are ordered, one of them is taken back, and they become dearer. -/
theorem order_totals_filters :
    (∃ book', create .python Sample.python Sample.noOrders Sample.finance Sample.twoFilters =
      .ok book' ∧ book'.Totalled 102) ∧
    (∃ book', update .python Sample.python Sample.filtersDue Sample.finance 102 Sample.oneFilter =
      .ok book' ∧ book'.Totalled 102) ∧
    ∃ book', createExpense .python Sample.expenses Sample.filtersDue Sample.finance false
      (Sample.dearer [Sample.twoAtFour none]) = .ok book' ∧ book'.Totalled 102 := by
  obtain ⟨created, hcreated, -⟩ := exists_of_any (p := fun _ => true) (x := create .python
    Sample.python Sample.noOrders Sample.finance Sample.twoFilters) (by decide +kernel)
  obtain ⟨updated, hupdated, -⟩ := exists_of_any (p := fun _ => true) (x := update .python
    Sample.python Sample.filtersDue Sample.finance 102 Sample.oneFilter) (by decide +kernel)
  obtain ⟨linked, hlinked, -⟩ := exists_of_any (p := fun _ => true) (x := createExpense .python
    Sample.expenses Sample.filtersDue Sample.finance false (Sample.dearer [Sample.twoAtFour none]))
    (by decide +kernel)
  have hnoOrders : Sample.noOrders.orders.rows = [] ∧ Sample.noOrders.lines.rows = [] := ⟨rfl, rfl⟩
  refine ⟨⟨created, hcreated, ?_⟩, ⟨updated, hupdated, ?_⟩, ⟨linked, hlinked, ?_⟩⟩
  · exact ((order_totals hnoOrders.1 hnoOrders.2 []).1 _ _ _ _ hcreated).2 (by decide +kernel)
  · exact ((order_totals hnoOrders.1 hnoOrders.2 Sample.approvedFilters).2.1 _ _ _ _ _ hupdated).2
      (by decide +kernel)
  · exact ((order_totals hnoOrders.1 hnoOrders.2 Sample.approvedFilters).2.2 _ _ _ _ _ _ rfl rfl
      hlinked).2 (by decide +kernel)

/-- Two lines of half a cent are stored as a cent each, with a total of one cent; an expense gives
seven dollars for two filters at four; and one without items takes the total off. -/
theorem order_totals_differ :
    (∃ book', create .python Sample.python Sample.noOrders Sample.finance Sample.halfCents =
      .ok book' ∧ ¬ book'.Totalled 103) ∧
    (∃ book', createExpense .python Sample.expenses Sample.filtersDue Sample.finance false
      (Sample.dearer [Sample.twoAtFour (some Sample.sevenDollars)]) = .ok book' ∧
        ¬ book'.Totalled 102) ∧
    ∃ book', createExpense .python Sample.expenses Sample.filtersDue Sample.finance false
      (Sample.dearer []) = .ok book' ∧ ¬ book'.Totalled 102 := by
  refine ⟨?_, ?_, ?_⟩
  · obtain ⟨book', h, hdiffer⟩ := exists_of_any (p := fun book' => ¬ book'.Totalled 103)
      (x := create .python Sample.python Sample.noOrders Sample.finance Sample.halfCents)
      (by decide +kernel)
    exact ⟨book', h, of_decide_eq_true hdiffer⟩
  · obtain ⟨book', h, hdiffer⟩ := exists_of_any (p := fun book' => ¬ book'.Totalled 102)
      (x := createExpense .python Sample.expenses Sample.filtersDue Sample.finance false
        (Sample.dearer [Sample.twoAtFour (some Sample.sevenDollars)])) (by decide +kernel)
    exact ⟨book', h, of_decide_eq_true hdiffer⟩
  · obtain ⟨book', h, hdiffer⟩ := exists_of_any (p := fun book' => ¬ book'.Totalled 102)
      (x := createExpense .python Sample.expenses Sample.filtersDue Sample.finance false
        (Sample.dearer [])) (by decide +kernel)
    exact ⟨book', h, of_decide_eq_true hdiffer⟩

end Cestos.Procurement
