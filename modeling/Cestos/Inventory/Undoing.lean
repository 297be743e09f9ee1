import Cestos.Inventory.SerialStock
import Cestos.Inventory.Values

/-!
# Undoing a movement

A reversal negates the stored ledger rows of a transaction and puts its serial where the
transaction says that it came from. Whether this leads back to the state before the movement
depends on what the rows and the transaction have kept of it.
-/

namespace Cestos.Inventory

open Cestos.Core Cestos.Core.Decimal

/-! ## What other items leave alone -/

/-- The stock and the serials of an item are the same. -/
structure SameItem (i : Id) (db db' : Database) : Prop where
  balances : ∀ k : Bucket, k.itemId = i → db'.balances k = db.balances k
  serials : ∀ id s, db.serials.find? id = some s → s.itemId = i → db'.serials.find? id = some s

/-- No transaction of an item has been added. -/
def Unmoved (i : Id) (db db' : Database) : Prop :=
  ∀ tx ∈ db'.transactions.rows, tx.itemId = i → tx ∈ db.transactions.rows

section Turns

variable {ctx : Context 28 12} {env : Env} {cond : CallCondition} {db db' : Database} {i : Id}

theorem SameItem.refl (i : Id) (db : Database) : SameItem i db db :=
  ⟨fun _ _ => rfl, fun _ _ hs _ => hs⟩

theorem SameItem.trans {db'' : Database} (h : SameItem i db db') (h' : SameItem i db' db'') :
    SameItem i db db'' :=
  ⟨fun k hk => (h'.balances k hk).trans (h.balances k hk),
    fun id s hs hi => h'.serials id s (h.serials id s hs hi) hi⟩

theorem Recorded.sameItem {c : Call} {tx : Transaction} {entries : List LedgerEntry}
    {before after : Option Serial} (h : Recorded ctx env db c tx entries before after db')
    (hi : tx.itemId ≠ i) : SameItem i db db' where
  balances k hk := by
    rw [h.movement.moves.other fun e he heq => hi ?_]
    rw [← h.buckets e he, heq, hk]
  serials id s hs howner := by
    cases h.touched with
    | without _ _ hserials => rwa [hserials]
    | received _ _ _ _ _ hins => exact Table.find?_insert?_of_find? hins hs
    | @changed old new _ hold hitem _ hsame _ hserials =>
        rw [hserials]
        have hne : new.id ≠ id := by
          rintro rfl
          rw [hsame.id, hold] at hs
          obtain rfl := Option.some.inj hs
          exact hi (hitem.symm.trans howner)
        exact (Table.find?_set_ne hne).trans hs

theorem Turn.sameItem (h : Passes ctx (· = .empty) cond db) (hturn : Turn ctx env cond db db')
    (hunmoved : Unmoved i db db') : SameItem i db db' := by
  cases hturn with
  | bookkeeping hbook =>
      refine ⟨fun k _ => by rw [hbook.stock.balances], fun id s hs _ => ?_⟩
      rwa [hbook.stock.serials]
  | call hvalid _ hrun =>
      rcases (Call.posted hvalid hrun).recorded h.serialBook h.journal with
        rfl | ⟨tx, entries, before, after, hrecorded⟩
      · exact .refl i _
      · refine hrecorded.sameItem fun hitem => ?_
        have hins := hrecorded.movement.inserted.insert
        have hold := hunmoved tx ((Table.mem_insert? hins).2 (.inr rfl)) hitem
        exact Table.insert?_fresh hins hold rfl

theorem Later.sameItem (h : Passes ctx (· = .empty) cond db) (hlater : Later ctx cond db db')
    (hunmoved : Unmoved i db db') : SameItem i db db' := by
  induction hlater with
  | refl => exact .refl i db
  | @tail mid db' hfirst hstep ih =>
      obtain ⟨env, hturn⟩ := hstep
      have hmid : Unmoved i db mid := fun tx htx => hunmoved tx (hturn.transactions htx)
      refine (ih hmid).trans (hturn.sameItem (h.later hfirst) fun tx htx hitem => ?_)
      exact (Later.entriesOf hfirst (hunmoved tx htx hitem)).1

end Turns

/-! ## Reversals -/

section Reversed

variable {ctx : Context 28 12} {env : Env} {cond : CallCondition} {db db₁ db₂ : Database}
  {tx : Transaction}

theorem Passes.reversal_item (h : Passes ctx (· = .empty) cond db) :
    ∀ tx ∈ db.transactions.rows, ∀ id ∈ tx.reversalOfId,
      ∃ original ∈ db.transactions.rows, original.id = id ∧ original.itemId = tx.itemId := by
  refine h.invariant (P := fun db => ∀ tx ∈ db.transactions.rows, ∀ id ∈ tx.reversalOfId,
      ∃ original ∈ db.transactions.rows, original.id = id ∧ original.itemId = tx.itemId)
    (fun db (hdb : db = .empty) tx htx => ?_) fun env db db' _ hdb hturn tx htx id hid => ?_
  · rw [hdb] at htx
    cases htx
  · have hold : tx ∈ db.transactions.rows → ∃ original ∈ db'.transactions.rows,
        original.id = id ∧ original.itemId = tx.itemId := by
      intro hmem
      obtain ⟨original, horiginal, hfacts⟩ := hdb tx hmem id hid
      exact ⟨original, hturn.transactions horiginal, hfacts⟩
    rcases hturn.written with ⟨hsame, -⟩ | ⟨new, entries, hwritten⟩
    · exact hold (hsame ▸ htx)
    · rcases (Table.mem_insert? hwritten.movement.inserted.insert).1 htx with hmem | rfl
      · exact hold hmem
      · rcases hwritten.reversal with ⟨hnone, -⟩ | ⟨_, original, hposted⟩
        · rw [hnone] at hid
          cases hid
        · rw [hposted.row] at hid ⊢
          exact ⟨original, hturn.transactions (Table.mem_of_find? hposted.found),
            Option.some.inj hid, rfl⟩

/-- A transaction whose item has not been moved since has not been reversed. -/
theorem Unmoved.not_reversed (h : Passes ctx (· = .empty) cond db)
    (hturn : Turn ctx env cond db db₁) (hnew : tx ∈ db₁.transactions.rows)
    (hold : tx ∉ db.transactions.rows) (hpasses₂ : Passes ctx (· = .empty) cond db₂)
    (hmem : tx ∈ db₂.transactions.rows) (hunmoved : Unmoved tx.itemId db₁ db₂) :
    ∀ other ∈ db₂.transactions.rows, other.reversalOfId ≠ some tx.id := by
  intro other hother hof
  obtain ⟨original, horiginal, hid, hitem⟩ := hpasses₂.reversal_item other hother tx.id hof
  obtain rfl : original = tx := db₂.transactions.key_injective horiginal hmem hid
  have hother₁ := hunmoved other hother hitem.symm
  rcases hturn.written with ⟨hsame, -⟩ | ⟨new, entries, hwritten⟩
  · exact hold (hsame ▸ hnew)
  · have hinsert := hwritten.movement.inserted.insert
    obtain rfl := ((Table.mem_insert? hinsert).1 hnew).resolve_left hold
    rcases (Table.mem_insert? hinsert).1 hother₁ with hbefore | rfl
    · obtain ⟨first, hfirst, hsame, -⟩ := h.reversal_item other hbefore original.id hof
      exact Table.insert?_fresh hinsert hfirst hsame
    · rcases hwritten.reversal with ⟨hnone, -⟩ | ⟨_, first, hposted⟩
      · exact absurd (hnone.symm.trans hof) (by simp)
      · rw [hposted.row] at hof
        have hfirst := Table.mem_of_find? hposted.found
        exact Table.insert?_fresh hinsert hfirst (by rw [hposted.row]; exact Option.some.inj hof)

end Reversed

/-! ## The movement -/

/-- Where a line of the store takes its lot from or brings it to. -/
def Line.stockOf (line : Line) (store : Id) (lotId : Option Id) : Bucket :=
  ⟨line.itemId, store, line.binId, lotId⟩

/-- The value that a line adds to its bucket. -/
def postedValue (ctx : Context 28 12) (fields : BucketFields) (kind : DocumentKind) (line : Line)
    (item : Item) : ℚ :=
  if kind = .issues then ctx.mul (-line.normalizedQuantity) (averageCost ctx fields item)
  else ctx.mul line.normalizedQuantity
    (ctx.div (ctx.mul (line.unitCost.getD 0) line.quantity) line.normalizedQuantity)

/-- One ledger row was written for a transaction. -/
structure Wrote (ctx : Context 28 12) (db : Database) (tx : Transaction) (k : Bucket) (value : ℚ)
    (e : LedgerEntry) (db' : Database) : Prop where
  transaction : tx ∈ db'.transactions.rows
  entries : db'.entriesOf tx.id = [e]
  movable : Movable ctx db.balances e
  balances : db'.balances = applyEntry ctx db.balances e
  bucket : e.bucket = k
  item : k.itemId = tx.itemId
  grid : e.OnGrid
  value : e.changes .inventoryValue = value
  transit : e.changes .transitValue = 0

section Movements

variable {ctx : Context 28 12} {env env' : Env} {cond : CallCondition}
  {db mid db₁ db₂ db₃ : Database} {kind : DocumentKind} {doc : Document} {line : Line} {m : Move}
  {tx : Transaction}

theorem postReceipt_moves (h : postReceipt ctx env db m = .ok db₁) :
    ∃ unitCost ∈ m.line.unitCost, ∃ tx,
      Records ctx env db.items m.doc.origin m.line.entry (receiptType m.doc.purpose)
        (ctx.div (ctx.mul unitCost m.line.quantity) m.q) m.q tx ∧
      Movement ctx db tx [⟨tx.id, m.bucket, receiptChanges ctx m.q
        (ctx.div (ctx.mul unitCost m.line.quantity) m.q)⟩] db₁ := by
  simp only [postReceipt, bind_eq_ok, orError_eq_ok, Prod.exists] at h
  obtain ⟨unitCost, hcost, tx, _, htx, _, heffect, hfinish⟩ := h
  obtain ⟨hrecords, transactions, hins, rfl⟩ := transaction_eq_ok htx
  obtain ⟨hmovable, rfl⟩ := effect_eq_ok.1 heffect
  obtain ⟨_, _, rfl⟩ := finishLine_eq_ok hfinish
  exact ⟨unitCost, hcost, tx, hrecords, ⟨rfl, hins, Moves.single hmovable, rfl⟩⟩

theorem Movement.eq_of_new {entries : List LedgerEntry} {new : Transaction}
    (h : Movement ctx db tx entries db₁) (hnew : new ∈ db₁.transactions.rows)
    (hold : new ∉ db.transactions.rows) : new = tx :=
  ((Table.mem_insert? h.inserted.insert).1 hnew).resolve_left hold

theorem Movement.wrote {k : Bucket} {changes : BucketFields}
    (h : Movement ctx db tx [⟨tx.id, k, changes⟩] db₁) (howned : Owned db)
    (hitem : k.itemId = tx.itemId) (hgrid : LedgerEntry.OnGrid ⟨tx.id, k, changes⟩)
    (htransit : changes .transitValue = 0) :
    Wrote ctx db tx k (changes .inventoryValue) ⟨tx.id, k, changes⟩ db₁ where
  transaction := (Table.mem_insert? h.inserted.insert).2 (.inr rfl)
  entries := h.entriesOf_self (by simp) howned
  movable := h.moves.single_inv.1
  balances := h.moves.single_inv.2
  bucket := rfl
  item := hitem
  grid := hgrid
  value := rfl
  transit := htransit

theorem Prepared.bucket_eq {act : Action} (h : Prepared ctx env db kind doc line act m mid)
    (hkind : kind ≠ .transfers) {store : Id} (hstore : doc.storeId = some store) :
    m.bucket = line.stockOf store m.line.lotId := by
  have hsource : some m.source = some store := by
    rw [← h.source, sourceStore, if_neg hkind, h.document, hstore]
  have hbin : m.line.binId = line.binId := congrArg LineCore.binId h.line.2
  have hitem : m.item.id = line.itemId := Table.key_of_find? h.item
  rw [Move.bucket, Line.stockOf, h.bin, sourceBin, if_neg hkind, hbin, hitem,
    Option.some.inj hsource]

theorem Prepared.issued {act : Action} (h : Prepared ctx env db .issues doc line act m db)
    (hissue : IssuePosted ctx env db m tx db₁) (howned : Owned db) {store : Id}
    (hstore : doc.storeId = some store) :
    ∃ e, e.changes = issueChanges ctx m.doc.reservationId.isSome m.q m.cost ∧
      Wrote ctx db tx (line.stockOf store tx.lotId)
        (postedValue ctx (db.balances (line.stockOf store tx.lotId)) .issues line m.item) e db₁ := by
  have hbucket : m.bucket = line.stockOf store tx.lotId := by
    rw [h.bucket_eq (by simp) hstore, hissue.records.lotId]
    rfl
  have hitem : m.bucket.itemId = tx.itemId := by
    rw [hbucket, hissue.records.itemId]
    exact (congrArg LineCore.itemId h.line.2).symm
  have hwrote := hissue.movement.wrote howned hitem
    (Changes.onGrid h.grid.neg (onGrid_ite h.grid.neg) (.zero 4) (.zero 4)) rfl
  have hvalue : postedValue ctx (db.balances m.bucket) .issues line m.item =
      ctx.mul (-m.q) m.cost := by
    rw [postedValue, if_pos rfl, ← h.quantity, ← h.cost]
  rw [← hbucket, hvalue]
  exact ⟨_, rfl, hwrote⟩

theorem Prepared.receipted {act : Action} (h : Prepared ctx env db .receipts doc line act m mid)
    (hpost : postReceipt ctx env mid m = .ok db₁) (howned : Owned db) {store : Id}
    (hstore : doc.storeId = some store) (hnew : tx ∈ db₁.transactions.rows)
    (hold : tx ∉ db.transactions.rows) :
    tx.type ≠ .issue ∧ ∃ e, Wrote ctx db tx (line.stockOf store tx.lotId)
      (postedValue ctx (db.balances (line.stockOf store tx.lotId)) .receipts line m.item) e db₁ := by
  obtain ⟨unitCost, hcost, new, hrecords, hmovement⟩ := postReceipt_moves hpost
  obtain ⟨lots, serials, rfl⟩ := h.frame
  have hmoved : Movement ctx db new _ db₁ :=
    ⟨hmovement.items, hmovement.inserted, hmovement.moves, hmovement.ledger⟩
  obtain rfl := hmoved.eq_of_new hnew hold
  have hbucket : m.bucket = line.stockOf store tx.lotId := by
    rw [h.bucket_eq (by simp) hstore, hrecords.lotId]
    rfl
  have hitem : m.bucket.itemId = tx.itemId := by
    rw [hbucket, hrecords.itemId]
    exact (congrArg LineCore.itemId h.line.2).symm
  have hline : line.unitCost = some unitCost ∧ line.quantity = m.line.quantity := by
    obtain ⟨lotId, serialId, hline⟩ := (h.received rfl).entry
    rw [hline] at hcost
    exact ⟨hcost, by rw [hline]⟩
  have hwrote := hmoved.wrote howned hitem
    (Changes.onGrid h.grid (.zero 4) (.zero 4) (.zero 4)) rfl
  have hvalue : postedValue ctx (db.balances m.bucket) .receipts line m.item =
      ctx.mul m.q (ctx.div (ctx.mul unitCost m.line.quantity) m.q) := by
    rw [postedValue, if_neg (by simp), ← h.quantity, hline.1, hline.2, Option.getD_some]
  rw [← hbucket, hvalue]
  exact ⟨by rw [hrecords.type]; exact receiptType_ne_issue _, _, hwrote⟩

/-! ## The stock -/

theorem Wrote.reversed {reversal : Transaction} {k : Bucket} {value : ℚ} {e : LedgerEntry}
    (h : Wrote ctx db tx k value e db₁) (hentries : db₂.entriesOf tx.id = db₁.entriesOf tx.id)
    (hreversal : ReversalPosted ctx env' db₂ tx reversal db₃) :
    Movable ctx db₂.balances (reversalEntry reversal.id e) ∧
      db₃.balances = applyEntry ctx db₂.balances (reversalEntry reversal.id e) := by
  have hmoves := hreversal.movement.moves
  rw [hentries, h.entries] at hmoves
  exact hmoves.single_inv

/-- A value of the bucket is what it was if and only if it was not rounded apart. -/
theorem Wrote.value_restored {reversal : Transaction} {k : Bucket} {value : ℚ} {e : LedgerEntry}
    (h : Wrote ctx db tx k value e db₁) (hvalues : ValuesOnGrid db.balances)
    (hvalues₂ : ValuesOnGrid db₂.balances) (hsame : SameItem tx.itemId db₁ db₂)
    (hmovable : Movable ctx db₂.balances (reversalEntry reversal.id e)) {f : BucketField}
    (hf : f.IsValue) :
    applyEntry ctx db₂.balances (reversalEntry reversal.id e) k f = db.balances k f ↔
      Untied ctx 8 (db.balances k f) (e.changes f) := by
  obtain rfl := h.bucket
  have hstored : OnGrid 8 (e.stored f) := by
    rw [LedgerEntry.stored, hf]
    exact onGrid_numeric 8 _
  have hback : applyEntry ctx db₂.balances (reversalEntry reversal.id e) e.bucket f =
      db₁.balances e.bucket f + -e.stored f := by
    rw [← hsame.balances _ h.item]
    exact hmovable.value_exact hvalues₂ hf hstored.neg
  rw [hback, ← h.movable.value_iff hvalues hf, ← h.balances, ← sub_eq_add_neg, sub_eq_iff_eq_add]

/-- The stock of the item is what it was if and only if the value was not rounded apart. -/
theorem Wrote.restored_iff {reversal : Transaction} {k : Bucket} {value : ℚ} {e : LedgerEntry}
    (h : Wrote ctx db tx k value e db₁) (hsteady : Steady db.balances)
    (hvalues : ValuesOnGrid db.balances) (hsteady₂ : Steady db₂.balances)
    (hvalues₂ : ValuesOnGrid db₂.balances) (hsame : SameItem tx.itemId db₁ db₂)
    (hentries : db₂.entriesOf tx.id = db₁.entriesOf tx.id)
    (hreversal : ReversalPosted ctx env' db₂ tx reversal db₃) :
    (∀ j : Bucket, j.itemId = tx.itemId → db₃.balances j = db.balances j) ↔
      Untied ctx 8 (db.balances k .inventoryValue) value := by
  obtain ⟨hmovable, hbalances⟩ := h.reversed hentries hreversal
  rw [← h.value, ← h.value_restored hvalues hvalues₂ hsame hmovable rfl, ← hbalances]
  constructor
  · exact fun hall => congrFun (hall k h.item) _
  · intro hvalue j hj
    obtain rfl := h.bucket
    by_cases hbucket : j = e.bucket
    · subst hbucket
      funext f
      rcases f.isQuantity_or_isValue with hf | hf
      · have hto := (h.movable.steady h.grid hsteady).2 e.bucket f hf
        have hback := (hmovable.steady (reversalEntry_onGrid _ e) hsteady₂).2 e.bucket f hf
        have hundone : (reversalEntry reversal.id e).changes f = -e.changes f :=
          congrArg Neg.neg (h.grid.stored hf)
        rw [if_pos rfl] at hto
        rw [if_pos (show (reversalEntry reversal.id e).bucket = e.bucket from rfl), hundone] at hback
        rw [hbalances, hback, hsame.balances _ hj, h.balances, hto, add_neg_cancel_right]
      · have hcases : f = .inventoryValue ∨ f = .transitValue := by
          cases f <;> first | exact .inl rfl | exact .inr rfl | cases hf
        rcases hcases with rfl | rfl
        · exact hvalue
        · have hkept := h.movable.value_unchanged hvalues hf h.transit
          rw [hbalances, h.value_restored hvalues hvalues₂ hsame hmovable hf,
            ← h.movable.value_iff hvalues hf, hkept, LedgerEntry.stored, h.transit, numeric_zero,
            add_zero]
    · have hother : j ≠ (reversalEntry reversal.id e).bucket := hbucket
      rw [hbalances, applyEntry_ne hother, hsame.balances j hj, h.balances, applyEntry_ne hbucket]

end Movements

/-! ## The serial -/

/-- Where a serial is and what it is doing. -/
def Serial.standing (s : Serial) : SerialStatus × Option Id × Option Id × Option Id :=
  (s.status, s.currentStoreId, s.currentBinId, s.assignedAssetId)

/-- The transaction names the place of an issued serial, and the serial was of the asset that it
is issued to. -/
structure PutBack (doc : Document) (line : Line) (serial : Serial) : Prop where
  store : ∀ store ∈ doc.fromStoreId, doc.storeId = some store
  bin : ∀ bin ∈ line.fromBinId, line.binId = some bin
  asset : serial.assignedAssetId = doc.assetId

theorem or_eq_right_iff {α : Type} {a b : Option α} : a.or b = b ↔ ∀ x ∈ a, b = some x := by
  cases a with
  | none => simp
  | some x => simp [eq_comm]

section Serials

variable {ctx : Context 28 12} {env env' : Env} {cond : CallCondition}
  {db mid db₁ db₂ db₃ : Database} {kind : DocumentKind} {doc : Document} {line : Line} {m : Move}
  {tx : Transaction} {act : Action}

/-- The serial of an issue that is reversed was in stock where the issue took it from. -/
theorem Prepared.serial_inStock (h : Prepared ctx env db .issues doc line .post m db)
    (hbook : SerialBook db) (hreserved : doc.reservationId = none)
    {serial : Serial} (hserial : m.serial = some serial) {id : Id}
    (hid : line.serialId = some id) :
    db.serials.find? id = some serial ∧ serial.standing =
      (.inStock, doc.storeId, line.binId, serial.assignedAssetId) := by
  have hline : m.line = line := (h.plain (by simp)).1
  have hfind : db.serials.find? id = some serial := by
    have hrow := h.serial
    rw [hline, hid, hserial] at hrow
    exact Option.some.inj hrow
  refine ⟨hfind, ?_⟩
  obtain ⟨row, hrow, howner⟩ := h.owner id hid
  obtain rfl := Option.some.inj (hfind.symm.trans hrow)
  have hserialized : m.item.serialized = true := by
    obtain ⟨item, hitem, hyes⟩ := (hbook.serials serial (Table.mem_of_find? hfind)).item
    have hsame : db.items.find? serial.itemId = some m.item := by
      rw [howner, Table.key_of_find? h.item]
      exact h.item
    rw [Option.some.inj (hsame.symm.trans hitem)]
    exact hyes
  obtain ⟨found, hfound, -, hstatus⟩ := h.serialized (by simp) hserialized
  obtain rfl := Option.some.inj (hserial.symm.trans hfound)
  obtain ⟨hstore, hbin⟩ := h.located rfl serial hserial
  rw [h.document, hreserved] at hstatus
  have hstock : serial.status = .inStock := by simpa [allowsUnavailable] using hstatus
  have hplace : serial.currentStoreId = doc.storeId ∧ serial.currentBinId = line.binId := by
    rw [hstore, hbin, h.bin, ← h.source, h.document, hline]
    exact ⟨rfl, rfl⟩
  rw [Serial.standing, hstock, hplace.1, hplace.2]

theorem Wrote.unreserved {k : Bucket} {value : ℚ} {e : LedgerEntry} {reversal : Transaction}
    (h : Wrote ctx db tx k value e db₁) (hissue : tx.type = .issue) {reserved : Bool} {q cost : ℚ}
    (hq : 0 < q) (hchanges : e.changes = issueChanges ctx reserved q cost)
    (hentries : db₂.entriesOf tx.id = db₁.entriesOf tx.id) (hjournal : Journal ctx db₂)
    (hreversal : ReversalPosted ctx env' db₂ tx reversal db₃) : reserved = false := by
  obtain ⟨row, hrow, hundone⟩ := hreversal.undone hjournal
  rw [hentries, h.entries] at hrow
  obtain rfl := List.head_eq_of_cons_eq hrow
  cases hundone with
  | receipt htype => exact absurd hissue htype
  | issue _ _ _ _ hundone =>
      cases reserved with
      | false => rfl
      | true =>
          have hfield := congrFun (hchanges.symm.trans hundone) .quantityReserved
          simp [issueChanges, Changes.fields] at hfield
          exact absurd hfield hq.ne'

/-- An issued serial comes back to what it was if and only if it is put back. -/
theorem Prepared.serial_restored_iff {reversal : Transaction}
    (h : Prepared ctx env db .issues doc line .post m db) (hissue : IssuePosted ctx env db m tx db₁)
    (hbook : SerialBook db) (hreserved : doc.reservationId = none)
    (hsame : SameItem tx.itemId db₁ db₂) (hreversal : ReversalPosted ctx env' db₂ tx reversal db₃)
    {id : Id} (hid : line.serialId = some id) :
    (db₃.serials.find? id).map Serial.standing = (db.serials.find? id).map Serial.standing ↔
      ∀ serial ∈ db.serials.find? id, PutBack doc line serial := by
  have hline : m.line = line := (h.plain (by simp)).1
  obtain ⟨serial, hserial⟩ : ∃ serial, m.serial = some serial := by
    have hrow := h.serial
    rw [hline, hid] at hrow
    obtain ⟨serial, hserial, -⟩ := Option.map_eq_some_iff.1 hrow.symm
    exact ⟨serial, hserial⟩
  obtain ⟨hfind, hstanding⟩ := h.serial_inStock hbook hreserved hserial hid
  obtain ⟨row, hrow, howner⟩ := h.owner id hid
  obtain rfl := Option.some.inj (hfind.symm.trans hrow)
  obtain rfl : serial.id = id := Table.key_of_find? hfind
  have hitem : serial.itemId = tx.itemId := by
    rw [howner, Table.key_of_find? h.item, hissue.records.itemId]
    exact (congrArg LineCore.itemId h.line.2).symm
  have hfirst : db₁.serials.find? serial.id = some (issuedSerial m serial) := by
    rw [hissue.serials, Move.serialsAfter, hserial]
    exact Table.find?_set_self (r := issuedSerial m serial) hfind
  have hbetween := hsame.serials _ _ hfirst hitem
  have hlast : db₃.serials.find? serial.id = some (restoredSerial tx (issuedSerial m serial)) := by
    have hnamed : tx.serialId = some serial.id := by
      rw [hissue.records.serialId, hline]
      exact hid
    have hchanged := hreversal.serials
    generalize db₃.serials = serials at hchanged ⊢
    cases hchanged with
    | without hnone => cases hnone.symm.trans hnamed
    | changed hsome hrow =>
        obtain rfl := Option.some.inj (hnamed.symm.trans hsome)
        obtain rfl := Option.some.inj (hbetween.symm.trans hrow)
        have hsame := (restoredSerial_same tx (issuedSerial m serial)).id
        exact hsame ▸ Table.find?_set_self (hsame ▸ hrow)
  have hrestored : (restoredSerial tx (issuedSerial m serial)).standing =
      (.inStock, doc.fromStoreId.or doc.storeId, line.fromBinId.or line.binId, doc.assetId) := by
    obtain ⟨hstore, hbin⟩ := hissue.records.source
    rw [restoredSerial, if_pos hissue.records.type, Serial.standing, hstore, hbin, issuedSerial,
      hline, h.document]
    rfl
  rw [hlast, hfind, Option.map_some, Option.map_some, Option.some_inj, hrestored, hstanding]
  simp only [Prod.mk.injEq, true_and, or_eq_right_iff, Option.mem_some_iff, forall_eq']
  constructor
  · rintro ⟨hstore, hbin, hasset⟩
    exact ⟨hstore, hbin, hasset.symm⟩
  · intro hback
    exact ⟨hback.store, hback.bin, hback.asset.symm⟩

end Serials

/-! ## The round trip -/

/-- The item of a transaction is as it was: its stock, and the serial that was issued. -/
structure Restored (db db' : Database) (tx : Transaction) : Prop where
  balances : ∀ k : Bucket, k.itemId = tx.itemId → db'.balances k = db.balances k
  serial : tx.type = .issue → ∀ id ∈ tx.serialId,
    (db'.serials.find? id).map Serial.standing = (db.serials.find? id).map Serial.standing

/-- What is posted with a line can be undone: its value is no tie that the balance and the ledger
round apart, and a serial that it issues is put back. -/
structure RoundTrips (ctx : Context 28 12) (db : Database) (kind : DocumentKind) (doc : Document)
    (line : Line) (lotId : Option Id) : Prop where
  value : ∀ store ∈ doc.storeId, ∀ item ∈ db.items.find? line.itemId,
    Untied ctx 8 (db.balances (line.stockOf store lotId) .inventoryValue)
      (postedValue ctx (db.balances (line.stockOf store lotId)) kind line item)
  serial : kind = .issues → ∀ id ∈ line.serialId, ∀ serial ∈ db.serials.find? id,
    PutBack doc line serial

theorem issues_post {db : Database} {doc : Document} {line : Line} {act : Action}
    (h : (Call.postLine .issues doc line act).Valid db) : act = .post := by
  obtain ⟨-, hroute, hact⟩ := h
  cases act <;> simp_all [actions]

theorem restored_iff {ctx : Context 28 12} {db db' : Database} {kind : DocumentKind}
    {doc : Document} {line : Line} {tx : Transaction} {store : Id} {item : Item}
    (hstore : doc.storeId = some store) (hitem : db.items.find? line.itemId = some item)
    (hvalue : (∀ k : Bucket, k.itemId = tx.itemId → db'.balances k = db.balances k) ↔
      Untied ctx 8 (db.balances (line.stockOf store tx.lotId) .inventoryValue)
        (postedValue ctx (db.balances (line.stockOf store tx.lotId)) kind line item))
    (hserial : (tx.type = .issue → ∀ id ∈ tx.serialId,
        (db'.serials.find? id).map Serial.standing = (db.serials.find? id).map Serial.standing) ↔
      (kind = .issues → ∀ id ∈ line.serialId, ∀ serial ∈ db.serials.find? id,
        PutBack doc line serial)) :
    Restored db db' tx ↔ RoundTrips ctx db kind doc line tx.lotId := by
  constructor
  · rintro ⟨hbalances, hstanding⟩
    refine ⟨fun store' hstore' item' hitem' => ?_, hserial.1 hstanding⟩
    obtain rfl := Option.some.inj (hstore.symm.trans hstore')
    obtain rfl := Option.some.inj (hitem.symm.trans hitem')
    exact hvalue.1 hbalances
  · rintro ⟨huntied, hback⟩
    exact ⟨hvalue.2 (huntied store hstore item hitem), hserial.2 hback⟩

/-- A line of an issue or a receipt is posted, the item is not moved, and the transaction is
reversed: the state of the item is the one before if and only if the value was not rounded apart
and the serial was put back. -/
theorem reversal_restores {ctx : Context 28 12} {cond : CallCondition} {env env' : Env}
    {db db₁ db₂ db₃ : Database} {kind : DocumentKind} {doc : Document} {line : Line} {act : Action}
    {tx : Transaction} (h : Passes ctx (· = .empty) cond db) (hkind : kind = .issues ∨ kind = .receipts)
    (hpost : Performs ctx env cond db (.postLine kind doc line act) db₁)
    (hnew : tx ∈ db₁.transactions.rows) (hold : tx ∉ db.transactions.rows)
    (hlater : Later ctx cond db₁ db₂) (hunmoved : Unmoved tx.itemId db₁ db₂)
    (hreverse : reverse ctx env' db₂ tx.id = .ok db₃) :
    Restored db db₃ tx ↔ RoundTrips ctx db kind doc line tx.lotId := by
  have hpasses₁ := h.turn hpost.turn
  have hpasses₂ := hpasses₁.later hlater
  have hsame := hlater.sameItem hpasses₁ hunmoved
  obtain ⟨hmem, hentries⟩ := hlater.entriesOf hnew
  have hfresh := hunmoved.not_reversed h hpost.turn hnew hold hpasses₂ hmem
  obtain ⟨reversal, hreversal⟩ : ∃ reversal, ReversalPosted ctx env' db₂ tx reversal db₃ := by
    rcases reverse_spec hreverse with ⟨-, other, hother, hof⟩ | ⟨original, reversal, hid, hposted⟩
    · exact absurd hof (hfresh other hother)
    · obtain rfl := db₂.transactions.key_injective (Table.mem_of_find? hposted.found) hmem hid
      exact ⟨reversal, hposted⟩
  have hsteady : ∀ {db}, Passes ctx (· = .empty) cond db → Steady db.balances := fun hpasses =>
    (hpasses.balanced fun db (hdb : db = .empty) => hdb ▸ Balanced.empty).steady
  rcases hkind with rfl | rfl
  · obtain ⟨m, mid, hprepared, hmove⟩ := postLine_spec hpost.valid.1 hpost.run
    obtain ⟨-, rfl⟩ := hprepared.plain (by simp)
    cases hmove with
    | issue hissue =>
        obtain rfl := hissue.movement.eq_of_new hnew hold
        obtain rfl := issues_post hpost.valid
        have hstore : doc.storeId = some m.source := hprepared.document ▸ hprepared.source
        obtain ⟨e, hchanges, hwrote⟩ := hprepared.issued hissue h.journal.owned hstore
        have hreserved := hwrote.unreserved hissue.records.type hprepared.positive hchanges hentries
          hpasses₂.journal hreversal
        rw [Option.isSome_eq_false_iff, Option.isNone_iff_eq_none, hprepared.document] at hreserved
        refine restored_iff hstore hprepared.item (hwrote.restored_iff (hsteady h) h.valuesOnGrid
          (hsteady hpasses₂) hpasses₂.valuesOnGrid hsame hentries hreversal) ?_
        rw [hissue.records.type, hissue.records.serialId, (hprepared.plain (by simp)).1]
        refine imp_congr (by simp) (forall₂_congr fun id hid => ?_)
        exact hprepared.serial_restored_iff hissue h.serialBook hreserved hsame hreversal hid
  · obtain ⟨m, mid, hprepared, hmove⟩ := postLine_prepared hpost.run
    have hstore : doc.storeId = some m.source := hprepared.document ▸ hprepared.source
    obtain ⟨htype, e, hwrote⟩ := hprepared.receipted hmove h.journal.owned hstore hnew hold
    refine restored_iff hstore hprepared.item (hwrote.restored_iff (hsteady h) h.valuesOnGrid
      (hsteady hpasses₂) hpasses₂.valuesOnGrid hsame hentries hreversal) ?_
    exact iff_of_true (fun hissue => absurd hissue htype) (by simp)

namespace Sample

/-- An issue of the first of two serials is about to be posted. -/
def issuing (fromStore : Option Id) : Database :=
  serveAll pythonContext .empty (twoSerials ++ [⟨env 3, [.documentSave .issues none
    { document { line one with serialId := some 1 } with fromStoreId := fromStore }]⟩])

/-- The issue with its transaction, and the state after its reversal. -/
def reversing (fromStore : Option Id) : Option (Document × Line × Database × Transaction × Database) := do
  let doc ← (issuing fromStore).document .issues 2
  let line ← ((issuing fromStore).linesOf 2).head?
  let posted ← (postLine pythonContext (env 4) (issuing fromStore) .issues doc line .post).toOption
  let tx ← posted.transactions.find? 3
  let reversed ← (reverse pythonContext (env 5) posted 3).toOption
  some (doc, line, posted, tx, reversed)

theorem ok_of_toOption {α : Type} {x : Outcome α} {a : α} (h : x.toOption = some a) : x = .ok a := by
  cases x with
  | error e => cases h
  | ok b => rw [Option.some.inj h]

theorem reversing_spec {fromStore : Option Id} {doc : Document} {line : Line} {posted reversed : Database}
    {tx : Transaction} (h : reversing fromStore = some (doc, line, posted, tx, reversed))
    (hnone : (issuing fromStore).transactions.find? 3 = none) :
    Performs pythonContext (env 4) (fun _ _ _ => True) (issuing fromStore)
        (.postLine .issues doc line .post) posted ∧
      tx ∈ posted.transactions.rows ∧ tx ∉ (issuing fromStore).transactions.rows ∧
      reverse pythonContext (env 5) posted tx.id = .ok reversed := by
  simp only [reversing, Option.bind_eq_bind, Option.bind_eq_some_iff, Option.some.injEq,
    Prod.mk.injEq] at h
  obtain ⟨doc, hdoc, line, hline, posted, hpost, tx, htx, reversed, hreverse, rfl, rfl, rfl, rfl,
    rfl⟩ := h
  obtain ⟨hfind, hkind⟩ := Database.document_eq_some.1 hdoc
  have hid : doc.id = 2 := Table.key_of_find? hfind
  have htxId : tx.id = 3 := Table.key_of_find? htx
  refine ⟨⟨⟨linesOf_current (hid ▸ hfind) hkind ?_, by decide, by decide⟩, trivial,
    ok_of_toOption hpost⟩, Table.mem_of_find? htx, fun hmem => ?_, ?_⟩
  · rw [hid]
    exact List.mem_of_mem_head? hline
  · have hfound := Table.find?_of_mem hmem
    rw [htxId, hnone] at hfound
    cases hfound
  · rw [htxId]
    exact ok_of_toOption hreverse

end Sample

/-- A serial that is issued from its store comes back to it. -/
theorem reversal_restores_serial : ∃ doc line posted tx reversed,
    Sample.reversing none = some (doc, line, posted, tx, reversed) ∧
      Restored (Sample.issuing none) reversed tx := by
  obtain ⟨⟨doc, line, posted, tx, reversed⟩, hrun, hback⟩ := (Option.any_eq_true _ _).1
    (show (Sample.reversing none).any (fun (doc, line, _, tx, _) =>
      doc.storeId = some 1 ∧ doc.fromStoreId = none ∧ line.fromBinId = none ∧ doc.assetId = none ∧
        line.itemId = 1 ∧ line.serialId = some 1 ∧ tx.lotId = none ∧
        (∀ item ∈ (Sample.issuing none).items.find? 1, Untied pythonContext 8
          ((Sample.issuing none).balances (line.stockOf 1 none) .inventoryValue)
          (postedValue pythonContext ((Sample.issuing none).balances (line.stockOf 1 none)) .issues
            line item)) ∧
        ∀ serial ∈ (Sample.issuing none).serials.find? 1, serial.assignedAssetId = none) = true
      by decide +kernel)
  obtain ⟨hstore, hfrom, hbin, hasset, hitem, hserial, hlot, huntied, hfree⟩ := of_decide_eq_true hback
  obtain ⟨hperforms, hnew, hold, hreverse⟩ := Sample.reversing_spec hrun (by decide +kernel)
  refine ⟨doc, line, posted, tx, reversed, hrun, (reversal_restores
    (Reachable.passes (reachable_serveAll _ _)) (.inl rfl) hperforms hnew hold .refl
    (fun _ hother _ => hother) hreverse).2 ⟨fun store hstore' item hitem' => ?_, fun _ id hid s hs => ?_⟩⟩
  · obtain rfl := Option.some.inj (hstore.symm.trans hstore')
    rw [hlot]
    rw [hitem] at hitem'
    exact huntied item hitem'
  · obtain rfl := Option.some.inj (hserial.symm.trans hid)
    exact ⟨by simp [hfrom], by simp [hbin], (hfree s hs).trans hasset.symm⟩

/-- An issue from the first store whose document names the second one: the serial comes back to
the second store, while the stock comes back to the first. -/
theorem reversal_restores_fails : ¬ ∀ (env env' : Env) (db db₁ db₂ db₃ : Database)
    (kind : DocumentKind) (doc : Document) (line : Line) (act : Action) (tx : Transaction),
    Reachable pythonContext db → kind = .issues ∨ kind = .receipts →
      Performs pythonContext env (fun _ _ _ => True) db (.postLine kind doc line act) db₁ →
      tx ∈ db₁.transactions.rows → tx ∉ db.transactions.rows →
      Later pythonContext (fun _ _ _ => True) db₁ db₂ → Unmoved tx.itemId db₁ db₂ →
      reverse pythonContext env' db₂ tx.id = .ok db₃ → Restored db db₃ tx := by
  intro hall
  obtain ⟨⟨doc, line, posted, tx, reversed⟩, hrun, hback⟩ := (Option.any_eq_true _ _).1
    (show (Sample.reversing (some 2)).any (fun (_, _, _, tx, reversed) =>
      tx.type = .issue ∧ tx.serialId = some 1 ∧
        (reversed.serials.find? 1).map (·.currentStoreId) ≠
          ((Sample.issuing (some 2)).serials.find? 1).map (·.currentStoreId)) = true
      by decide +kernel)
  obtain ⟨htype, hserial, hmoved⟩ := of_decide_eq_true hback
  obtain ⟨hperforms, hnew, hold, hreverse⟩ := Sample.reversing_spec hrun (by decide +kernel)
  have hrestored := hall _ _ _ _ _ _ _ _ _ _ _ (reachable_serveAll _ _) (.inl rfl) hperforms hnew
    hold .refl (fun _ hother _ => hother) hreverse
  refine hmoved ?_
  have hstanding := congrArg (Option.map fun s : SerialStatus × Option Id × Option Id × Option Id =>
    s.2.1) (hrestored.serial htype 1 hserial)
  rwa [Option.map_map, Option.map_map] at hstanding

end Cestos.Inventory
