import Cestos.Procurement.Creation

/-!
# Received goods

A receipt is computed on unrounded numbers and stored in hundredths. It is stored as it was
computed if it lists lines of the order only, with whole hundredths each, and then the status
says what is stored.
-/

namespace Cestos.Procurement

open Cestos.Core Cestos.Core.Decimal

variable {ctx : Context 28 12} {env : Env} {actor : Actor} {book book' : OrderBook} {poId : Id}
  {receipts : ItemReceipts} {f : Flush} {line : OrderLine}

/-- Every line has received some of what was ordered. -/
def OrderBook.InRange (book : OrderBook) : Prop :=
  ∀ line ∈ book.lines.rows, 0 ≤ line.quantityReceived ∧ line.quantityReceived ≤ line.quantityOrdered

/-- Every line of the order is fully received. -/
def OrderBook.Full (book : OrderBook) (poId : Id) : Prop :=
  ∀ line ∈ book.linesOf poId, line.quantityOrdered ≤ line.quantityReceived

/-- The receipt lists lines of the order, with whole hundredths each. -/
def OrderBook.Lists (book : OrderBook) (poId : Id) (receipts : ItemReceipts) : Prop :=
  ∀ r ∈ receipts, (∃ line ∈ book.linesOf poId, line.id = r.1) ∧
    ∀ qtyAdd ∈ receipts.lookup r.1, OnGrid 2 qtyAdd

/-- What is expected of an accepted receipt. -/
structure Records (book book' : OrderBook) (poId : Id) (receipts : ItemReceipts) : Prop where
  named : ∀ r ∈ receipts, ∃ line ∈ book.linesOf poId, line.id = r.1
  raised : ∀ line ∈ book.lines.rows, ∃ line' ∈ book'.lines.find? line.id,
    line'.quantityReceived = line.quantityReceived + (receipts.lookup line.id).getD 0
  status : ∃ row ∈ book'.order? poId, (row.status = .received ↔ book'.Full poId) ∧
    (row.status = .partiallyReceived ↔ book'.Received poId ∧ ¬ book'.Full poId)

/-! ## What a receipt has in memory -/

theorem LoadedItem.Computed.unique {l l' : LoadedItem} (h : l.Computed ctx receipts)
    (h' : l'.Computed ctx receipts) (hitem : l.item = l'.item) : l = l' := by
  obtain ⟨item, quantity⟩ := l
  obtain ⟨item', quantity'⟩ := l'
  obtain rfl : item = item' := hitem
  unfold Computed at h h'
  dsimp only at h h'
  cases hlookup : receipts.lookup item.id with
  | none =>
      rw [hlookup] at h h'
      rw [h, h']
  | some qtyAdd =>
      rw [hlookup] at h h'
      rw [h.2.2, h'.2.2]

/-- The line is loaded, and its new quantity is computed. -/
structure Flush.Loads (ctx : Context 28 12) (receipts : ItemReceipts) (f : Flush)
    (line : OrderLine) (l : LoadedItem) : Prop where
  loaded : f.loaded line.id = some l
  item : l.item = line.toPurchaseOrderItem
  computed : l.Computed ctx receipts

theorem receiveGoods_loads {po : PurchaseOrder}
    (h : receiveGoods ctx po ((book.linesOf poId).map (·.toPurchaseOrderItem)) receipts = .ok f) :
    (∀ line ∈ book.linesOf poId, ∃ l ∈ f.lines, f.Loads ctx receipts line l) ∧
      ∀ l ∈ f.lines, ∃ line ∈ book.linesOf poId, f.Loads ctx receipts line l := by
  have hread := (receiveGoods_spec h).2
  simp only [receiveGoods, bind_eq_ok, ensure_eq_ok, Except.ok.injEq] at h
  obtain ⟨-, -, -, -, lines, hlines, rfl⟩ := h
  have hitems : lines.map (·.item) = (book.linesOf poId).map (·.toPurchaseOrderItem) :=
    map_of_mapM hlines fun _ _ hl => (receiveItem_spec hl).1
  have hloads : ∀ line ∈ book.linesOf poId, ∃ l ∈ lines,
      Flush.Loads ctx receipts ⟨po, receipts, lines⟩ line l := by
    intro line hline
    have hmem : line.toPurchaseOrderItem ∈ lines.map (·.item) := hitems ▸ List.mem_map_of_mem hline
    obtain ⟨l', hl', hitem'⟩ := List.mem_map.1 hmem
    have hsome : (lines.find? fun l => l.item.id = line.id).isSome :=
      List.find?_isSome.2 ⟨l', hl', by simp [hitem']⟩
    obtain ⟨l, hl⟩ := Option.isSome_iff_exists.1 hsome
    obtain ⟨hlmem, hid⟩ := Flush.mem_of_loaded (f := ⟨po, receipts, lines⟩) hl
    obtain ⟨hitem, hcomputed, -⟩ := hread l hlmem
    obtain ⟨other, hother, hsame⟩ := List.mem_map.1 hitem
    obtain rfl : other = line := book.lines.key_injective (List.mem_of_mem_filter hother)
      (List.mem_of_mem_filter hline) (by rw [← hid, ← hsame])
    exact ⟨l, hlmem, hl, hsame.symm, hcomputed⟩
  refine ⟨hloads, fun l hl => ?_⟩
  obtain ⟨hitem, hcomputed, -⟩ := hread l hl
  obtain ⟨line, hline, hsame⟩ := List.mem_map.1 hitem
  obtain ⟨l', -, hl'⟩ := hloads line hline
  obtain rfl := hl'.computed.unique hcomputed (hl'.item.trans hsame)
  exact ⟨line, hline, hl'⟩

/-- What the flush stores is the computed quantity, in hundredths. -/
theorem Flush.Loads.stored {l : LoadedItem} (h : f.Loads ctx receipts line l) :
    (f.updateLine line).quantityReceived = numeric 2 l.quantityReceived := by
  show (f.updateItem line.toPurchaseOrderItem).quantityReceived = _
  unfold updateItem written
  rw [h.loaded]
  dsimp only
  by_cases hsame : l.quantityReceived = l.item.quantityReceived
  · rw [if_pos hsame]
    dsimp only
    rw [hsame, h.item, numeric_of_onGrid line.received_onGrid]
  · rw [if_neg hsame]

theorem Flush.stored_of_not_loaded (h : f.loaded line.id = none) :
    (f.updateLine line).quantityReceived = line.quantityReceived := by
  show (f.updateItem line.toPurchaseOrderItem).quantityReceived = _
  unfold updateItem written
  rw [h]

theorem loaded_eq_none {po : PurchaseOrder}
    (h : receiveGoods ctx po ((book.linesOf poId).map (·.toPurchaseOrderItem)) receipts = .ok f)
    (hline : line ∈ book.lines.rows) (hother : line ∉ book.linesOf poId) :
    f.loaded line.id = none := by
  refine List.find?_eq_none.2 fun l hl => ?_
  obtain ⟨loaded, hloaded, hl⟩ := (receiveGoods_loads h).2 l hl
  simp only [decide_eq_true_eq]
  intro hid
  rw [hl.item] at hid
  exact hother (book.lines.key_injective (List.mem_of_mem_filter hloaded) hline hid ▸ hloaded)

@[simp] theorem Flush.updateLine_quantityOrdered (f : Flush) (line : OrderLine) :
    (f.updateLine line).quantityOrdered = line.quantityOrdered :=
  f.updateItem_ordered line.toPurchaseOrderItem

/-! ## Quantities in range -/

theorem LoadedItem.Computed.inRange {l : LoadedItem} (h : l.Computed ctx receipts)
    (hnonneg : 0 ≤ l.item.quantityReceived)
    (hle : l.item.quantityReceived ≤ l.item.quantityOrdered) :
    0 ≤ l.quantityReceived ∧ l.quantityReceived ≤ l.item.quantityOrdered := by
  unfold Computed at h
  cases hlookup : receipts.lookup l.item.id with
  | none =>
      rw [hlookup] at h
      rw [h]
      exact ⟨hnonneg, hle⟩
  | some qtyAdd =>
      rw [hlookup] at h
      obtain ⟨hpos, hbound, hnew⟩ := h
      refine ⟨?_, hnew ▸ hbound⟩
      rw [hnew]
      exact ctx.round_nonneg (add_nonneg hnonneg hpos)

theorem OrderBook.InRange.receive (hrange : book.InRange)
    (h : receive ctx env book actor poId receipts = .ok book') : book'.InRange := by
  obtain ⟨po, f, -, hf, rfl⟩ := receive_spec h
  intro line' hline'
  obtain ⟨line, hline, rfl⟩ := List.mem_map.1 hline'
  obtain ⟨hnonneg, hle⟩ := hrange line hline
  rw [Flush.updateLine_quantityOrdered]
  by_cases hmem : line ∈ book.linesOf poId
  · obtain ⟨l, -, hl⟩ := (receiveGoods_loads hf).1 line hmem
    obtain ⟨hnonneg', hle'⟩ :=
      hl.computed.inRange (by rw [hl.item]; exact hnonneg) (by rw [hl.item]; exact hle)
    rw [hl.item] at hle'
    rw [hl.stored, ← numeric_of_onGrid line.quantityOrdered.2.1]
    exact ⟨numeric_nonneg 2 hnonneg', numeric_mono 2 hle'⟩
  · rw [Flush.stored_of_not_loaded (loaded_eq_none hf hline hmem)]
    exact ⟨hnonneg, hle⟩

/-- Nothing of an added line is received, and what is ordered of it is not negative. -/
theorem added_inRange {items : List (ItemCreate × Nat)} {added : List OrderLine}
    (h : List.Forall₂ (BecameLine ctx env poId) items added) :
    ∀ line ∈ added, 0 ≤ line.quantityReceived ∧ line.quantityReceived ≤ line.quantityOrdered := by
  induction h with
  | nil => simp
  | cons hline _ ih =>
      obtain ⟨-, -, hreceived, hordered, -⟩ := newLine_spec hline
      refine List.forall_mem_cons.2 ⟨?_, ih⟩
      rw [hreceived, hordered]
      exact ⟨le_rfl, numeric_nonneg 2 (Subtype.property _)⟩

theorem Effect.inRange {c : Call} (heffect : Effect ctx book c book') (hrange : book.InRange) :
    book'.InRange := by
  cases heffect with
  | created env items row added _ _ hlines hadded =>
      intro line hline
      rw [hlines, List.mem_append] at hline
      exact hline.elim (hrange line) (added_inRange hadded line)
  | edited env items po row added _ _ _ _ hlines hadded =>
      intro line hline
      rw [hlines, List.mem_append] at hline
      exact hline.elim (fun hold => hrange line (List.mem_of_mem_filter hold))
        (added_inRange hadded line)
  | moved _ _ _ _ _ _ _ hlines =>
      unfold OrderBook.InRange
      rwa [hlines]
  | received r poId receipts _ _ haccepted => exact hrange.receive haccepted

/-! ## Receipts in whole hundredths -/

/-- A receipt that is listed in whole hundredths is stored as it is computed. -/
theorem Flush.Loads.exact {l : LoadedItem} (h : f.Loads ctx receipts line l)
    (hgrid : ∀ qtyAdd ∈ receipts.lookup line.id, OnGrid 2 qtyAdd)
    (hnonneg : 0 ≤ line.quantityReceived) :
    l.quantityReceived = line.quantityReceived + (receipts.lookup line.id).getD 0 ∧
      (f.updateLine line).quantityReceived = l.quantityReceived := by
  have hcomputed := h.computed
  unfold LoadedItem.Computed at hcomputed
  rw [h.item] at hcomputed
  rw [h.stored]
  cases hlookup : receipts.lookup line.id with
  | none =>
      rw [hlookup] at hcomputed
      rw [hcomputed, numeric_of_onGrid line.received_onGrid]
      simp
  | some qtyAdd =>
      rw [hlookup] at hcomputed
      obtain ⟨hpos, hle, hnew⟩ := hcomputed
      have hwhole := hgrid qtyAdd hlookup
      rw [add_eq_of_le hnonneg hpos hle line.received_onGrid hwhole] at hnew
      rw [hnew, numeric_of_onGrid (line.received_onGrid.add hwhole)]
      exact ⟨rfl, rfl⟩

theorem OrderBook.Lists.onGrid (h : book.Lists poId receipts) (id : Id) :
    ∀ qtyAdd ∈ receipts.lookup id, OnGrid 2 qtyAdd := by
  intro qtyAdd hlookup
  obtain ⟨before, after, hsplit, -⟩ := List.lookup_eq_some_iff.1 hlookup
  exact (h (id, qtyAdd) (by simp [hsplit])).2 qtyAdd hlookup

theorem OrderBook.Lists.lookup_eq_none (h : book.Lists poId receipts)
    (hline : line ∈ book.lines.rows) (hother : line ∉ book.linesOf poId) :
    receipts.lookup line.id = none := by
  cases hlookup : receipts.lookup line.id with
  | none => rfl
  | some qtyAdd =>
      obtain ⟨before, after, hsplit, -⟩ := List.lookup_eq_some_iff.1 hlookup
      obtain ⟨⟨listed, hlisted, hid⟩, -⟩ := h (line.id, qtyAdd) (by simp [hsplit])
      exact absurd (book.lines.key_injective (List.mem_of_mem_filter hlisted) hline hid ▸ hlisted)
        hother

/-! ## The status -/

/-- An order that is said to be partially received is. -/
def OrderBook.Started (book : OrderBook) : Prop :=
  ∀ row ∈ book.orders.rows, row.status = .partiallyReceived → book.Received row.id

theorem receiveGoods_open {po : PurchaseOrder} {items : List PurchaseOrderItem}
    (h : receiveGoods ctx po items receipts = .ok f) : f.order = po ∧ po.status ≠ .received := by
  simp only [receiveGoods, bind_eq_ok, ensure_eq_ok, Except.ok.injEq] at h
  obtain ⟨-, -, -, hopen, lines, -, rfl⟩ := h
  exact ⟨rfl, fun hreceived => hopen (by simp [hreceived])⟩

theorem Flush.updateRow_status {row : OrderRow} (h : f.order = row.toPurchaseOrder) :
    (f.updateRow row).status = receivedStatus row.status f.lines := by
  unfold updateRow updateOrder
  dsimp only
  split
  · rw [h]
  · next hsame =>
      rw [h] at hsame
      simp only [true_and, not_not] at hsame
      exact hsame.symm

theorem Flush.updateRow_status_ne {row : OrderRow} (h : row.id ≠ f.order.id) :
    (f.updateRow row).status = row.status := by
  unfold updateRow updateOrder
  rw [if_neg fun hsame => h hsame.1]

/-- The status of an order after a receipt, in terms of what is stored. -/
theorem receivedStatus_iff {status : PoStatus} (hopen : status ≠ .received)
    (hstarted : status = .partiallyReceived → book'.Received poId) {lines : List LoadedItem}
    (hfull : (∀ l ∈ lines, l.item.quantityOrdered ≤ l.quantityReceived) ↔ book'.Full poId)
    (hsome : (∃ l ∈ lines, 0 < l.quantityReceived) ↔ book'.Received poId) :
    (receivedStatus status lines = .received ↔ book'.Full poId) ∧
      (receivedStatus status lines = .partiallyReceived ↔
        book'.Received poId ∧ ¬ book'.Full poId) := by
  rw [← hsome] at hstarted
  rw [← hfull, ← hsome]
  unfold receivedStatus
  split_ifs with hf hr
  · exact ⟨iff_of_true rfl hf, iff_of_false (by simp) fun h => h.2 hf⟩
  · exact ⟨iff_of_false (by simp) hf, iff_of_true rfl ⟨hr, hf⟩⟩
  · exact ⟨iff_of_false hopen hf, iff_of_false (fun h => hr (hstarted h)) fun h => hr h.1⟩

/-- What a receipt in whole hundredths has in memory is what is stored after it. -/
theorem stored_iff {po : PurchaseOrder} (hrange : book.InRange) (hlists : book.Lists poId receipts)
    (h : receiveGoods ctx po ((book.linesOf poId).map (·.toPurchaseOrderItem)) receipts = .ok f)
    (hlines : book'.linesOf poId = (book.linesOf poId).map f.updateLine) :
    ((∀ l ∈ f.lines, l.item.quantityOrdered ≤ l.quantityReceived) ↔ book'.Full poId) ∧
      ((∃ l ∈ f.lines, 0 < l.quantityReceived) ↔ book'.Received poId) := by
  obtain ⟨hof, hto⟩ := receiveGoods_loads h
  have hexact : ∀ line ∈ book.linesOf poId, ∀ l, f.Loads ctx receipts line l →
      (f.updateLine line).quantityReceived = l.quantityReceived :=
    fun line hline l hl => (hl.exact (hlists.onGrid line.id)
      (hrange line (List.mem_of_mem_filter hline)).1).2
  unfold OrderBook.Full OrderBook.Received
  rw [hlines]
  refine ⟨⟨fun hall line' hline' => ?_, fun hall l hl => ?_⟩, ⟨?_, ?_⟩⟩
  · obtain ⟨line, hline, rfl⟩ := List.mem_map.1 hline'
    obtain ⟨l, hmem, hl⟩ := hof line hline
    have hle := hall l hmem
    rw [hl.item] at hle
    rwa [Flush.updateLine_quantityOrdered, hexact line hline l hl]
  · obtain ⟨line, hline, hl⟩ := hto l hl
    have hle := hall _ (List.mem_map_of_mem hline)
    rwa [Flush.updateLine_quantityOrdered, hexact line hline l hl, ← hl.item] at hle
  · rintro ⟨l, hl, hpos⟩
    obtain ⟨line, hline, hl⟩ := hto l hl
    exact ⟨_, List.mem_map_of_mem hline, by rwa [hexact line hline l hl]⟩
  · rintro ⟨line', hline', hpos⟩
    obtain ⟨line, hline, rfl⟩ := List.mem_map.1 hline'
    obtain ⟨l, hmem, hl⟩ := hof line hline
    exact ⟨l, hmem, by rwa [← hexact line hline l hl]⟩

/-- An accepted receipt that lists lines of the order in whole hundredths is recorded. -/
theorem OrderBook.Lists.records (hlists : book.Lists poId receipts) (hrange : book.InRange)
    (hstarted : book.Started) (h : receive ctx env book actor poId receipts = .ok book') :
    Records book book' poId receipts := by
  have hkept := Kept.receive h poId
  obtain ⟨po, f, hpo, hf, rfl⟩ := receive_spec h
  obtain ⟨hfind, harchived⟩ := OrderBook.order?_eq_some.1 hpo
  obtain ⟨horder, hopen⟩ := receiveGoods_open hf
  refine ⟨fun r hr => (hlists r hr).1, fun line hline => ?_, ?_⟩
  · refine ⟨f.updateLine line, by simp [Table.find?_mapRows, Table.find?_of_mem hline], ?_⟩
    by_cases hmem : line ∈ book.linesOf poId
    · obtain ⟨l, -, hl⟩ := (receiveGoods_loads hf).1 line hmem
      obtain ⟨hsum, hstored⟩ := hl.exact (hlists.onGrid line.id) (hrange line hline).1
      rw [hstored, hsum]
    · rw [Flush.stored_of_not_loaded (loaded_eq_none hf hline hmem),
        hlists.lookup_eq_none hline hmem]
      simp
  · obtain ⟨hfull, hsome⟩ := stored_iff hrange hlists hf
      (linesOf_flush book.suppliers (book.orders.mapRows f.updateRow f.updateRow_id) f)
    refine ⟨f.updateRow po, ?_, ?_⟩
    · refine OrderBook.order?_eq_some.2 ⟨?_, ?_⟩
      · rw [Table.find?_mapRows, hfind]
        rfl
      · unfold Flush.updateRow Flush.updateOrder
        dsimp only
        split <;> exact harchived
    · rw [Flush.updateRow_status horder]
      refine receivedStatus_iff hopen (fun hbegun => hkept.received ?_) hfull hsome
      have hreceived := hstarted po (Table.mem_of_find? hfind) hbegun
      rwa [OrderBook.id_of_order? hpo] at hreceived

/-- A receipt that is recorded listed lines of the order in whole hundredths. -/
theorem Records.lists (h : Records book book' poId receipts) : book.Lists poId receipts := by
  intro r hr
  obtain ⟨line, hline, hid⟩ := h.named r hr
  refine ⟨⟨line, hline, hid⟩, fun qtyAdd hlookup => ?_⟩
  obtain ⟨line', -, hraised⟩ := h.raised line (List.mem_of_mem_filter hline)
  rw [hid, Option.mem_def.1 hlookup, Option.getD_some] at hraised
  have hadded : qtyAdd = line'.quantityReceived - line.quantityReceived := by
    rw [hraised]
    ring
  rw [hadded]
  exact line'.received_onGrid.sub line.received_onGrid

/-! ## Runs -/

/-- A receipt lists lines of its order in whole hundredths; nothing is asked of other calls. -/
def Call.Lists (book : OrderBook) : Call → Prop
  | .create _ _ _ => True
  | .request r =>
    match r.operation with
    | .receive poId receipts => book.Lists poId receipts
    | .update _ _ | .submit _ | .approve _ => True

theorem OrderBook.Started.receive (hstarted : book.Started) (hrange : book.InRange)
    (hlists : book.Lists poId receipts)
    (h : receive ctx env book actor poId receipts = .ok book') : book'.Started := by
  obtain ⟨row', hrow', hstatus⟩ := (hlists.records hrange hstarted h).status
  have hkept := Kept.receive h
  obtain ⟨po, f, hpo, hf, hbook⟩ := receive_spec h
  intro row hrow hbegun
  by_cases hid : row.id = poId
  · obtain rfl : row = row' := by
      obtain ⟨hfind', -⟩ := OrderBook.order?_eq_some.1 hrow'
      exact book'.orders.key_injective hrow (Table.mem_of_find? hfind')
        (hid.trans (Table.key_of_find? hfind').symm)
    rw [hid]
    exact (hstatus.2.1 hbegun).1
  · subst hbook
    obtain ⟨old, hold, rfl⟩ := List.mem_map.1 hrow
    rw [Flush.updateRow_id] at hid ⊢
    have horder : f.order.id = poId := by
      rw [(receiveGoods_open hf).1]
      exact OrderBook.id_of_order? hpo
    rw [Flush.updateRow_status_ne (horder ▸ hid)] at hbegun
    exact (hkept old.id).received (hstarted old hold hbegun)

theorem Effect.started {c : Call} (heffect : Effect ctx book c book') (hrange : book.InRange)
    (hstarted : book.Started) (hlists : c.Lists book) : book'.Started := by
  cases heffect with
  | created env items row added hstatus horders hlines _ =>
      intro row' hrow' hbegun
      rcases (Table.mem_insert? horders).1 hrow' with hold | rfl
      · obtain ⟨line, hline, hpos⟩ := hstarted row' hold hbegun
        obtain ⟨hmem, horder⟩ := List.mem_filter.1 hline
        refine ⟨line, List.mem_filter.2 ⟨?_, horder⟩, hpos⟩
        rw [hlines]
        exact List.mem_append_left added hmem
      · simp [hbegun] at hstatus
  | edited env items po row added hfound hunreceived hsame horders hlines _ =>
      obtain ⟨hfind, -⟩ := OrderBook.order?_eq_some.1 hfound
      intro row' hrow' hbegun
      rw [horders] at hrow'
      rcases Table.mem_set.1 hrow' with ⟨hold, hne⟩ | ⟨rfl, -⟩
      · obtain ⟨line, hline, hpos⟩ := hstarted row' hold hbegun
        obtain ⟨hmem, horder⟩ := List.mem_filter.1 hline
        refine ⟨line, List.mem_filter.2 ⟨?_, horder⟩, hpos⟩
        simp only [decide_eq_true_eq] at horder
        rw [hlines]
        refine List.mem_append_left added (List.mem_filter.2 ⟨hmem, ?_⟩)
        simpa [horder, ← hsame.1] using hne
      · exact absurd (hstarted po (Table.mem_of_find? hfind) (hsame.2 ▸ hbegun)) hunreceived
  | moved po row _ _ _ hstatus horders hlines =>
      intro row' hrow' hbegun
      rw [horders] at hrow'
      rcases Table.mem_set.1 hrow' with ⟨hold, -⟩ | ⟨rfl, -⟩
      · unfold OrderBook.Received OrderBook.linesOf
        rw [hlines]
        exact hstarted row' hold hbegun
      · simp [hbegun] at hstatus
  | received r poId receipts hcalled hoperation haccepted =>
      subst hcalled
      unfold Call.Lists at hlists
      dsimp only at hlists
      rw [hoperation] at hlists
      exact hstarted.receive hrange hlists haccepted

/-- In every run on an empty book no line receives more than is ordered. If every receipt of the run
lists lines of its order in whole hundredths, then the next one that is accepted is recorded exactly
if it does so too. -/
theorem goods_received (horders : book.orders.rows = []) (hlines : book.lines.rows = [])
    (calls : List Call) :
    (calls.foldl (OrderBook.after ctx) book).InRange ∧
      (Meets (OrderBook.after ctx) Call.Lists book calls →
        ∀ env actor poId receipts book',
          receive ctx env (calls.foldl (OrderBook.after ctx) book) actor poId receipts = .ok book' →
          (Records (calls.foldl (OrderBook.after ctx) book) book' poId receipts ↔
            (calls.foldl (OrderBook.after ctx) book).Lists poId receipts)) := by
  have hempty : book.InRange ∧ book.Started := by
    simp [OrderBook.InRange, OrderBook.Started, horders, hlines]
  refine ⟨?_, fun hmeets env actor poId receipts book' h => ?_⟩
  · refine List.foldlRecOn calls _ hempty.1 fun book hrange c _ => ?_
    exact settled_keeps hrange fun book' h => (Call.effect h).inRange hrange
  · have hstep : ∀ (book : OrderBook) (c : Call), book.InRange ∧ book.Started → c.Lists book →
        (book.after ctx c).InRange ∧ (book.after ctx c).Started := fun book c hinv hlists => by
      refine ⟨settled_keeps hinv.1 fun book' h => (Call.effect h).inRange hinv.1, ?_⟩
      exact settled_keeps hinv.2 fun book' h => (Call.effect h).started hinv.1 hinv.2 hlists
    obtain ⟨hrange, hstarted⟩ := hmeets.keeps hstep hempty
    exact ⟨Records.lists, fun hlists => hlists.records hrange hstarted h⟩

instance OrderBook.decidableLists (book : OrderBook) (poId : Id) (receipts : ItemReceipts) :
    Decidable (book.Lists poId receipts) :=
  inferInstanceAs (Decidable (∀ r ∈ receipts, (∃ line ∈ book.linesOf poId, _) ∧
    ∀ qtyAdd ∈ receipts.lookup r.1, _))

instance Call.decidableLists (book : OrderBook) : DecidablePred (Call.Lists book)
  | .create _ _ _ => .isTrue trivial
  | .request ⟨_, _, .receive _ _⟩ => inferInstanceAs (Decidable (book.Lists _ _))
  | .request ⟨_, _, .update _ _⟩ | .request ⟨_, _, .submit _⟩ | .request ⟨_, _, .approve _⟩ =>
    .isTrue trivial

/-! ## Two units on one line -/

namespace Sample

def noOrders : OrderBook := ⟨.empty, .empty, .empty⟩

theorem two_nonneg : (0 : ℚ) ≤ 2 := by simp

theorem three_nonneg : (0 : ℚ) ≤ 3 := by simp

/-- Finance orders two units at three dollars each, and the order is approved. -/
def twoOrdered : List Call := [
  .create python finance { supplierName := some "Total", items := [
    { quantityOrdered := ⟨2, two_nonneg⟩, unitPrice := ⟨3, three_nonneg⟩ }] },
  .request ⟨python, executive, .approve 102⟩]

def twoDue : OrderBook := twoOrdered.foldl (OrderBook.after .python) noOrders

/-- One unit arrives. -/
def oneReceived : List Call := twoOrdered ++ [.request ⟨python, finance, .receive 102 [(101, 1)]⟩]

/-- The receipt is accepted, with these statuses and quantities received, and is not recorded. -/
def Misrecorded (receipts : ItemReceipts) (seen : List PoStatus × List ℚ) : Prop :=
  ∃ book', receive .python python twoDue finance 102 receipts = .ok book' ∧
    (book'.orders.rows.map (·.status), book'.lines.rows.map (·.quantityReceived)) = seen ∧
    ¬ Records twoDue book' 102 receipts

theorem misrecorded_of {receipts : ItemReceipts} {seen : List PoStatus × List ℚ}
    (h : (receive .python python twoDue finance 102 receipts).toOption.any (fun book' =>
      (book'.orders.rows.map (·.status), book'.lines.rows.map (·.quantityReceived)) = seen) = true)
    (hlists : ¬ twoDue.Lists 102 receipts) : Misrecorded receipts seen := by
  obtain ⟨book', hreceive, hseen⟩ := exists_of_any h
  exact ⟨book', hreceive, of_decide_eq_true hseen, fun hrecords => hlists hrecords.lists⟩

end Sample

/-- Both units are received, one after the other. -/
theorem goods_received_whole : ∃ book',
    receive .python Sample.python (Sample.oneReceived.foldl (OrderBook.after .python)
      Sample.noOrders) Sample.finance 102 [(101, 1)] = .ok book' ∧
    Records (Sample.oneReceived.foldl (OrderBook.after .python) Sample.noOrders) book' 102
      [(101, 1)] := by
  have haccepted : (receive .python Sample.python (Sample.oneReceived.foldl
      (OrderBook.after .python) Sample.noOrders) Sample.finance 102 [(101, 1)]).isOk = true := by
    decide +kernel
  obtain ⟨book', h⟩ := isOk_iff.1 haccepted
  have hnoOrders : Sample.noOrders.orders.rows = [] ∧ Sample.noOrders.lines.rows = [] := ⟨rfl, rfl⟩
  exact ⟨book', h, ((goods_received hnoOrders.1 hnoOrders.2 Sample.oneReceived).2
    (by decide +kernel) _ _ _ _ _ h).2 (by decide +kernel)⟩

/-- A receipt of a line that is not on the order; one of four thousandths of a unit, after which the
order is partially received and nothing of it is; and one after which it is fully received. -/
theorem goods_received_otherwise :
    Sample.Misrecorded [(9, 1)] ([.approved], [0]) ∧
      Sample.Misrecorded [(101, 4 / 1000)] ([.partiallyReceived], [0]) ∧
      Sample.Misrecorded [(101, 1996 / 1000)] ([.partiallyReceived], [2]) := by
  refine ⟨Sample.misrecorded_of ?_ ?_, Sample.misrecorded_of ?_ ?_, Sample.misrecorded_of ?_ ?_⟩ <;>
    decide +kernel

end Cestos.Procurement
