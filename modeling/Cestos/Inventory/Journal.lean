import Cestos.Inventory.Balances

/-!
# What the ledger says about a transaction

Ledger rows belong to the transaction of the movement that wrote them, and what has
been posted means the same ever after. So the row of a receipt, of an issue or of a
dispatch still says what its document and its line say, however much later it is
looked up.
-/

namespace Cestos.Inventory

open Cestos.Core Cestos.Core.Decimal

/-! ## What stays -/

/-- What has been posted means the same afterwards. The lines of a receipt are left
out, for posting them fills in their lots and serials. -/
structure Frozen (db db' : Database) : Prop where
  documents : ∀ id doc, db.documents.find? id = some doc →
    ∃ doc', db'.documents.find? id = some doc' ∧ doc'.kind = doc.kind ∧
      (db.Posted id → doc'.header = doc.header)
  lines : ∀ id line doc, db.lines.find? id = some line → db.Posted line.documentId →
    db.documents.find? line.documentId = some doc → doc.kind ≠ .receipts →
    ∃ line', db'.lines.find? id = some line' ∧ line'.core = line.core ∧
      line'.tracking = line.tracking

section Turns

variable {ctx : Context 28 12} {env : Env} {cond : CallCondition} {db db' : Database} {c : Call}

/-- A call keeps what documents and lines mean, but for the lot and the serial of a line
that it receives. -/
theorem CallPosted.alike (h : CallPosted ctx env db c db') :
    ∃ own, Alike own db db' ∧ ∀ id ∈ own, ∀ line, db.lines.find? id = some line →
      ∃ doc, db.documents.find? line.documentId = some doc ∧ doc.kind = .receipts := by
  have of_same : ∀ {db db' : Database}, Alike [] db db' →
      ∃ own, Alike own db db' ∧ ∀ id ∈ own, ∀ line, db.lines.find? id = some line →
        ∃ doc, db.documents.find? line.documentId = some doc ∧ doc.kind = .receipts :=
    fun halike => ⟨[], halike, by simp⟩
  cases h with
  | @line kind doc line act m mid _ hcurrent _ _ hprepared hmove =>
      obtain ⟨lots, serials, rfl⟩ := hprepared.frame
      obtain ⟨hkept, hplain⟩ := hmove.kept
      rw [hprepared.line.1] at hkept
      by_cases hkind : kind = .receipts
      · have hall : Kept [line.id] db db' := hkept.congr rfl rfl rfl rfl
        refine ⟨[line.id], hall.toAlike, fun id hid old hold => ?_⟩
        obtain rfl := List.mem_singleton.1 hid
        have hmap := hcurrent.core
        rw [hold] at hmap
        have hdocument : old.documentId = doc.id :=
          (congrArg LineCore.documentId (Option.some.inj hmap)).trans hcurrent.owner
        obtain ⟨stored, hstored, hheader, _⟩ := hcurrent.find?
        exact ⟨stored, hdocument ▸ hstored,
          (congrArg Header.kind hheader).trans (hcurrent.kind.trans hkind)⟩
      · have hall : Kept [] db db' := (hplain hkind).congr rfl rfl rfl rfl
        exact of_same hall.toAlike
  | reserve h => exact of_same (.of_eq h.aside.documents h.aside.lines)
  | release h => exact of_same (.of_eq h.aside.documents h.aside.lines)
  | reverse h => exact of_same (.of_eq h.aside.documents h.aside.lines)
  | nothing => exact of_same (.refl db)

theorem CallPosted.frozen (h : CallPosted ctx env db c db') : Frozen db db' := by
  obtain ⟨own, halike, hown⟩ := h.alike
  refine ⟨fun id doc hdoc => ?_, fun id line doc hline _ hdoc hkind => ?_⟩
  · obtain ⟨doc', hdoc', hheader⟩ := halike.header_forward hdoc
    exact ⟨doc', hdoc', congrArg Header.kind hheader, fun _ => hheader⟩
  · obtain ⟨line', hline', hcore, htracking⟩ := halike.core_forward hline
    refine ⟨line', hline', hcore, htracking fun hmem => hkind ?_⟩
    obtain ⟨receipt, hreceipt, hreceipts⟩ := hown id hmem line hline
    rw [Option.some.inj (hdoc.symm.trans hreceipt)]
    exact hreceipts

theorem Bookkeeping.frozen (h : Bookkeeping db db') : Frozen db db' where
  documents := h.documents
  lines id line _ hline hposted _ _ := h.lines id line hline hposted

theorem Turn.frozen (h : Turn ctx env cond db db') : Frozen db db' := by
  cases h with
  | bookkeeping h => exact h.frozen
  | call hvalid _ hrun => exact (Call.posted hvalid hrun).frozen

end Turns

/-! ## Rows belong to transactions -/

/-- Every ledger row has been written for a transaction. -/
def Owned (db : Database) : Prop :=
  ∀ e ∈ db.ledger, ∃ tx ∈ db.transactions.rows, tx.id = e.transactionId

theorem Movement.owned {ctx : Context 28 12} {db db' : Database} {tx : Transaction}
    {entries : List LedgerEntry} (h : Movement ctx db tx entries db')
    (hentries : ∀ e ∈ entries, e.transactionId = tx.id) (howned : Owned db) : Owned db' := by
  intro e he
  rw [h.ledger, List.mem_append] at he
  rcases he with he | he
  · obtain ⟨other, hother, hid⟩ := howned e he
    exact ⟨other, (Table.mem_insert? h.inserted.insert).2 (.inl hother), hid⟩
  · exact ⟨tx, (Table.mem_insert? h.inserted.insert).2 (.inr rfl), (hentries e he).symm⟩

/-- The rows of the transaction a movement inserted are those it wrote. -/
theorem Movement.entriesOf_self {ctx : Context 28 12} {db db' : Database} {tx : Transaction}
    {entries : List LedgerEntry} (h : Movement ctx db tx entries db')
    (hentries : ∀ e ∈ entries, e.transactionId = tx.id) (howned : Owned db) :
    db'.entriesOf tx.id = entries := by
  have hold : db.ledger.filter (·.transactionId = tx.id) = [] := by
    rw [List.filter_eq_nil_iff]
    intro e he
    obtain ⟨other, hother, hid⟩ := howned e he
    have hne := Table.insert?_fresh h.inserted.insert hother
    simpa [← hid] using hne
  have hnew : entries.filter (·.transactionId = tx.id) = entries :=
    List.filter_eq_self.2 fun e he => decide_eq_true (hentries e he)
  rw [Database.entriesOf, h.ledger, List.filter_append, hold, hnew, List.nil_append]

theorem Movement.entriesOf_old {ctx : Context 28 12} {db db' : Database} {tx old : Transaction}
    {entries : List LedgerEntry} (h : Movement ctx db tx entries db')
    (hentries : ∀ e ∈ entries, e.transactionId = tx.id) (hold : old ∈ db.transactions.rows) :
    db'.entriesOf old.id = db.entriesOf old.id := by
  have hnew : entries.filter (·.transactionId = old.id) = [] := by
    rw [List.filter_eq_nil_iff]
    intro e he
    have hne := Table.insert?_fresh h.inserted.insert hold
    simpa [hentries e he] using Ne.symm hne
  rw [Database.entriesOf, h.ledger, List.filter_append, hnew, List.append_nil,
    Database.entriesOf]

/-! ## What the rows say -/

/-- A transaction was posted for a line of a document, and both still say so. -/
structure PostedFor (db : Database) (kind : DocumentKind) (tx : Transaction) (doc : Document)
    (line : Line) : Prop where
  documentRow : db.documents.find? doc.id = some doc
  lineRow : db.lines.find? line.id = some line
  kind : doc.kind = kind
  owner : line.documentId = doc.id
  key : tx.postingKey = .line doc.id line.id tx.type
  reference : tx.referenceId = doc.id
  item : tx.itemId = line.itemId
  lot : tx.lotId = line.lotId
  serial : tx.serialId = line.serialId
  quantity : tx.quantity = line.normalizedQuantity

/-- The kind of document whose lines post transactions of this type with their own lot,
serial and quantity. -/
def TransactionType.lineKind : TransactionType → Option DocumentKind
  | .issue => some .issues
  | .returnFromEmployee => some .returns
  | .transferOut | .transferIn => some .transfers
  | _ => none

theorem lineKind_plain {t : TransactionType} {kind : DocumentKind} (h : t.lineKind = some kind) :
    kind ≠ .receipts ∧ t.ofReservation = false := by
  cases t <;> cases h <;> decide

/-- Where the line of a document takes its stock from. -/
structure Bucket.IsSource (k : Bucket) (kind : DocumentKind) (doc : Document) (line : Line) :
    Prop where
  item : k.itemId = line.itemId
  store : sourceStore kind doc = some k.storeId
  bin : sourceBin kind line = k.binId
  lot : line.lotId = k.lotId

/-- The types whose ledger rows are looked up later: a reversal negates them, a receive
takes them out of transit. -/
def TransactionType.revisited (t : TransactionType) : Bool :=
  t.reversible || t = .transferOut

/-- What the one ledger row of such a transaction says. -/
inductive Booked (ctx : Context 28 12) (db : Database) (tx : Transaction) : LedgerEntry → Prop
  | receipt {cost e} : tx.type ≠ .issue → tx.type.reversible → e.bucket.itemId = tx.itemId →
      e.bucket.lotId = tx.lotId → e.changes = receiptChanges ctx tx.quantity cost →
      Booked ctx db tx e
  | issue {doc line cost e} : tx.type = .issue → PostedFor db .issues tx doc line →
      e.bucket.IsSource .issues doc line → tx.unitCost = numeric 8 cost →
      e.changes = issueChanges ctx doc.reservationId.isSome tx.quantity cost → Booked ctx db tx e
  | dispatch {doc line cost e} : tx.type = .transferOut → PostedFor db .transfers tx doc line →
      e.bucket.IsSource .transfers doc line → tx.unitCost = numeric 8 cost →
      e.changes = dispatchChanges ctx tx.quantity cost → Booked ctx db tx e

theorem PostedFor.posted {db : Database} {kind : DocumentKind} {tx : Transaction}
    {doc : Document} {line : Line} (h : PostedFor db kind tx doc line)
    (htx : tx ∈ db.transactions.rows) (htype : tx.type.ofReservation = false) : db.Posted doc.id :=
  ⟨tx, htx, htype, h.reference⟩

theorem PostedFor.frozen {db db' : Database} {kind : DocumentKind} {tx : Transaction}
    {doc : Document} {line : Line} (h : PostedFor db kind tx doc line) (hkind : kind ≠ .receipts)
    (hposted : db.Posted doc.id) (hfrozen : Frozen db db') :
    ∃ doc' line', PostedFor db' kind tx doc' line' ∧ doc'.header = doc.header ∧
      line'.core = line.core ∧ line'.tracking = line.tracking := by
  obtain ⟨doc', hdoc', _, hheader⟩ := hfrozen.documents doc.id doc h.documentRow
  obtain ⟨line', hline', hcore, htracking⟩ := hfrozen.lines line.id line doc h.lineRow
    (h.owner ▸ hposted) (h.owner ▸ h.documentRow) (h.kind ▸ hkind)
  have hdocId : doc'.id = doc.id := Table.key_of_find? hdoc'
  have hlineId : line'.id = line.id := Table.key_of_find? hline'
  have hlot : line'.lotId = line.lotId := congrArg Prod.fst htracking
  have hserial : line'.serialId = line.serialId := congrArg Prod.snd htracking
  refine ⟨doc', line', ?_, hheader hposted, hcore, htracking⟩
  exact {
    documentRow := hdocId ▸ hdoc'
    lineRow := hlineId ▸ hline'
    kind := (congrArg Header.kind (hheader hposted)).trans h.kind
    owner := by
      rw [hdocId]
      exact (congrArg LineCore.documentId hcore).trans h.owner
    key := by rw [hdocId, hlineId]; exact h.key
    reference := by rw [hdocId]; exact h.reference
    item := h.item.trans (congrArg LineCore.itemId hcore).symm
    lot := by rw [hlot]; exact h.lot
    serial := by rw [hserial]; exact h.serial
    quantity := h.quantity.trans (congrArg LineCore.normalizedQuantity hcore).symm }

theorem Bucket.IsSource.congr {k : Bucket} {kind : DocumentKind} {doc doc' : Document}
    {line line' : Line} (h : k.IsSource kind doc line) (hheader : doc'.header = doc.header)
    (hcore : line'.core = line.core) (htracking : line'.tracking = line.tracking) :
    k.IsSource kind doc' line' where
  item := h.item.trans (congrArg LineCore.itemId hcore).symm
  store := by
    have hstore : doc'.storeId = doc.storeId := congrArg Header.storeId hheader
    have hfrom : doc'.fromStoreId = doc.fromStoreId := congrArg Header.fromStoreId hheader
    rw [← h.store, sourceStore, sourceStore, hstore, hfrom]
  bin := by
    have hbin : line'.binId = line.binId := congrArg LineCore.binId hcore
    have hfrom : line'.fromBinId = line.fromBinId := congrArg LineCore.fromBinId hcore
    rw [← h.bin, sourceBin, sourceBin, hbin, hfrom]
  lot := by
    have hlot : line'.lotId = line.lotId := congrArg Prod.fst htracking
    rw [hlot]
    exact h.lot

theorem Booked.frozen {ctx : Context 28 12} {db db' : Database} {tx : Transaction}
    {e : LedgerEntry} (h : Booked ctx db tx e) (htx : tx ∈ db.transactions.rows)
    (hfrozen : Frozen db db') : Booked ctx db' tx e := by
  cases h with
  | receipt htype hrev hitem hlot hchanges => exact .receipt htype hrev hitem hlot hchanges
  | issue htype hfor hsource hcost hchanges =>
      obtain ⟨doc', line', hfor', hheader, hcore, htracking⟩ := hfor.frozen (by simp)
        (hfor.posted htx (by rw [htype]; rfl)) hfrozen
      have hreserved : doc'.reservationId = _ := congrArg Header.reservationId hheader
      exact .issue htype hfor' (hsource.congr hheader hcore htracking) hcost
        (by rw [hreserved]; exact hchanges)
  | dispatch htype hfor hsource hcost hchanges =>
      obtain ⟨doc', line', hfor', hheader, hcore, htracking⟩ := hfor.frozen (by simp)
        (hfor.posted htx (by rw [htype]; rfl)) hfrozen
      exact .dispatch htype hfor' (hsource.congr hheader hcore htracking) hcost hchanges

/-- The posting key of a line names the type of its transaction. -/
def Transaction.Typed (tx : Transaction) : Prop :=
  ∀ doc line kind, tx.postingKey = .line doc line kind → tx.type = kind

/-- The ledger as a journal: rows have owners, lines are found from their transactions and
transactions by their keys, and the transactions that are looked up later have one row,
which says what was posted. -/
structure Journal (ctx : Context 28 12) (db : Database) : Prop where
  keys : (db.transactions.rows.map (·.postingKey)).Nodup
  typed : ∀ tx ∈ db.transactions.rows, tx.Typed
  positive : ∀ tx ∈ db.transactions.rows, 0 < tx.quantity
  owned : Owned db
  posted : ∀ tx ∈ db.transactions.rows, ∀ kind, tx.type.lineKind = some kind →
    ∃ doc line, PostedFor db kind tx doc line
  booked : ∀ tx ∈ db.transactions.rows, tx.type.revisited →
    ∃ e, db.entriesOf tx.id = [e] ∧ Booked ctx db tx e

theorem Journal.eq_of_key {ctx : Context 28 12} {db : Database} {tx tx' : Transaction}
    (h : Journal ctx db) (htx : tx ∈ db.transactions.rows) (htx' : tx' ∈ db.transactions.rows)
    (hkey : tx.postingKey = tx'.postingKey) : tx = tx' :=
  List.inj_on_of_nodup_map h.keys htx htx' hkey

theorem Inserted.keys {before after : Table Transaction.id} {tx : Transaction}
    (h : Inserted before tx after) (hkeys : (before.rows.map (·.postingKey)).Nodup) :
    (after.rows.map (·.postingKey)).Nodup := by
  rw [Table.insert?_rows h.insert, List.map_append, List.map_singleton]
  refine hkeys.append (List.nodup_singleton _) fun key hold hnew => ?_
  obtain ⟨other, hother, rfl⟩ := List.mem_map.1 hold
  exact h.postingKey other hother (List.mem_singleton.1 hnew)

theorem Records.typed {ctx : Context 28 12} {env : Env} {items : Table Item.id} {doc : Origin}
    {line : Entry} {kind : TransactionType} {cost q : ℚ} {tx : Transaction}
    (h : Records ctx env items doc line kind cost q tx) : tx.Typed := by
  intro doc' line' kind' hkey
  rw [h.postingKey] at hkey
  cases hkey
  exact h.type

theorem Current.findLine? {db : Database} {kind : DocumentKind} {doc : Document} {line : Line}
    (h : Current db kind doc line) :
    ∃ stored, db.lines.find? line.id = some stored ∧ stored.core = line.core ∧
      stored.tracking = line.tracking := by
  obtain ⟨stored, hstored, hcore⟩ := Option.map_eq_some_iff.1 h.core
  refine ⟨stored, hstored, hcore, ?_⟩
  have hmap := h.tracking
  rw [hstored] at hmap
  exact Option.some.inj hmap

/-- A document and a line that are current keep what a transaction was posted for. -/
theorem Current.postedFor {db : Database} {kind : DocumentKind} {doc : Document} {line : Line}
    {tx : Transaction} (h : Current db kind doc line)
    (hkey : tx.postingKey = .line doc.id line.id tx.type) (href : tx.referenceId = doc.id)
    (hitem : tx.itemId = line.itemId) (hlot : tx.lotId = line.lotId)
    (hserial : tx.serialId = line.serialId) (hquantity : tx.quantity = line.normalizedQuantity) :
    ∃ doc' line', PostedFor db kind tx doc' line' ∧ doc'.header = doc.header ∧
      line'.core = line.core ∧ line'.tracking = line.tracking := by
  obtain ⟨doc', hdoc', hheader, _⟩ := h.find?
  obtain ⟨line', hline', hcore, htracking⟩ := h.findLine?
  have hdocId : doc'.id = doc.id := Table.key_of_find? hdoc'
  have hlineId : line'.id = line.id := Table.key_of_find? hline'
  have hlot' : line'.lotId = line.lotId := congrArg Prod.fst htracking
  have hserial' : line'.serialId = line.serialId := congrArg Prod.snd htracking
  refine ⟨doc', line', ?_, hheader, hcore, htracking⟩
  exact {
    documentRow := hdocId ▸ hdoc'
    lineRow := hlineId ▸ hline'
    kind := (congrArg Header.kind hheader).trans h.kind
    owner := by
      rw [hdocId]
      exact (congrArg LineCore.documentId hcore).trans h.owner
    key := by rw [hdocId, hlineId]; exact hkey
    reference := by rw [hdocId]; exact href
    item := hitem.trans (congrArg LineCore.itemId hcore).symm
    lot := hlot.trans hlot'.symm
    serial := hserial.trans hserial'.symm
    quantity := hquantity.trans (congrArg LineCore.normalizedQuantity hcore).symm }

section Posting

variable {ctx : Context 28 12} {env : Env} {db mid db' : Database} {kind : DocumentKind}
  {doc : Document} {line : Line} {act : Action} {m : Move}

theorem Prepared.itemId (h : Prepared ctx env db kind doc line act m mid) :
    m.item.id = m.line.itemId := by
  have hid : m.item.id = line.itemId := Table.key_of_find? h.item
  exact hid.trans (congrArg LineCore.itemId h.line.2).symm

theorem Prepared.isSource (h : Prepared ctx env db kind doc line act m mid) :
    m.bucket.IsSource kind m.doc m.line :=
  ⟨h.itemId, h.source, h.bin.symm, rfl⟩

/-- The transaction of a line that is no receipt was posted for that line. -/
theorem Prepared.postedFor (hprepared : Prepared ctx env db kind doc line act m mid)
    (hcurrent : Current db kind doc line) (hreceipt : kind ≠ .receipts) (hrequest : kind ≠ .requests)
    (hkept : Kept [] mid db') {origin : Origin} {txkind : TransactionType} {cost : ℚ}
    {tx : Transaction} (horigin : origin.id = m.doc.id)
    (hrecords : Records ctx env mid.items origin m.line.entry txkind cost m.q tx) :
    ∃ doc' line', PostedFor db' kind tx doc' line' ∧ doc'.header = m.doc.header ∧
      line'.core = m.line.core ∧ line'.tracking = m.line.tracking := by
  obtain ⟨hline, hmid⟩ := hprepared.plain hreceipt
  have hlast : Current db' kind m.doc m.line := by
    rw [hprepared.document, hline]
    exact hcurrent.kept (hmid ▸ hkept) hrequest (by simp)
  refine hlast.postedFor ?_ (hrecords.referenceId.trans horigin) hrecords.itemId hrecords.lotId
    hrecords.serialId ?_
  · rw [hrecords.postingKey, hrecords.type, horigin]
    rfl
  · rw [hrecords.quantity, hprepared.quantity, hline]

theorem receiptType_reversible (purpose : Purpose) : (receiptType purpose).reversible := by
  cases purpose <;> decide

theorem adjustmentType_plain {purpose : Purpose} {t : TransactionType}
    (h : adjustmentType purpose = some t) :
    t.lineKind = none ∧ t.revisited = false ∧ t ≠ .reversal := by
  cases purpose <;> cases h <;> decide

/-- The movement of a call, as it is looked up later. -/
structure Written (ctx : Context 28 12) (db : Database) (tx : Transaction)
    (entries : List LedgerEntry) (db' : Database) : Prop where
  movement : Movement ctx db tx entries db'
  owned : ∀ e ∈ entries, e.transactionId = tx.id
  typed : tx.Typed
  posted : ∀ kind, tx.type.lineKind = some kind → ∃ doc line, PostedFor db' kind tx doc line
  booked : tx.type.revisited → ∃ e, entries = [e] ∧ Booked ctx db' tx e
  reversal : tx.reversalOfId = none ∧ tx.type ≠ .reversal ∨
    ∃ env original, ReversalPosted ctx env db original tx db'

theorem Movement.written {tx : Transaction} {entries : List LedgerEntry}
    (h : Movement ctx db tx entries db') (howned : ∀ e ∈ entries, e.transactionId = tx.id)
    (htyped : tx.Typed) (hline : tx.type.lineKind = none) (hrevisited : tx.type.revisited = false)
    (hreversal : tx.reversalOfId = none ∧ tx.type ≠ .reversal ∨
      ∃ env original, ReversalPosted ctx env db original tx db') :
    Written ctx db tx entries db' where
  movement := h
  owned := howned
  typed := htyped
  posted kind hkind := by rw [hline] at hkind; cases hkind
  booked hyes := by rw [hrevisited] at hyes; cases hyes
  reversal := hreversal

theorem Records.unreversing {items : Table Item.id} {origin : Origin} {entry : Entry}
    {txkind : TransactionType} {cost q : ℚ} {tx : Transaction} {P : Prop}
    (h : Records ctx env items origin entry txkind cost q tx) (htype : txkind ≠ .reversal) :
    (tx.reversalOfId = none ∧ tx.type ≠ .reversal) ∨ P :=
  .inl ⟨h.reversalOfId, by rw [h.type]; exact htype⟩

/-- A call did nothing, or it wrote one transaction with its ledger rows. -/
theorem CallPosted.written {c : Call} (h : CallPosted ctx env db c db') :
    db'.transactions = db.transactions ∧ db'.ledger = db.ledger ∨
      ∃ tx entries, Written ctx db tx entries db' := by
  cases h with
  | @line kind doc line act m mid _ hcurrent _ _ hprepared hmove =>
      have hsource := hprepared.isSource
      have hitem := hprepared.itemId
      obtain ⟨lots, serials, rfl⟩ := hprepared.frame
      have of_movement : ∀ {tx : Transaction} {entries : List LedgerEntry},
          Movement ctx { db with lots, serials } tx entries db' → Movement ctx db tx entries db' :=
        fun h => ⟨h.items, h.inserted, h.moves, h.ledger⟩
      -- the document and the line of a transaction whose type names their kind
      have of_line : ∀ {tx : Transaction} {kind' : DocumentKind},
          tx.type.lineKind = some kind' → (∃ doc line, PostedFor db' kind' tx doc line) →
          ∀ kind, tx.type.lineKind = some kind → ∃ doc line, PostedFor db' kind tx doc line := by
        intro tx kind' hkind' hfor kind hkind
        obtain rfl := Option.some.inj (hkind'.symm.trans hkind)
        exact hfor
      cases hmove with
      | @receipt _ cost _ _ h =>
          have hreversible := receiptType_reversible m.doc.purpose
          have hissue := receiptType_ne_issue m.doc.purpose
          have hline : (receiptType m.doc.purpose).lineKind = none := by
            cases m.doc.purpose <;> rfl
          rw [← h.records.type] at hreversible hissue hline
          refine .inr ⟨_, _, of_movement h.movement, by simp, h.records.typed, ?_, fun _ => ⟨_, rfl, ?_⟩,
            h.records.unreversing (by cases m.doc.purpose <;> decide)⟩
          · intro kind hkind
            rw [hline] at hkind
            cases hkind
          · have hchanges : receiptChanges ctx m.q cost = receiptChanges ctx _ cost :=
              congrArg (receiptChanges ctx · cost) h.records.quantity.symm
            exact .receipt hissue hreversible (hitem.trans h.records.itemId.symm)
              h.records.lotId.symm hchanges
      | issue h =>
          obtain ⟨doc', line', hfor, hheader, hcore, htracking⟩ :=
            hprepared.postedFor hcurrent (by simp) (by simp) h.kept rfl h.records
          refine .inr ⟨_, _, of_movement h.movement, by simp, h.records.typed,
            of_line (by rw [h.records.type]; rfl) ⟨doc', line', hfor⟩, fun _ => ⟨_, rfl, ?_⟩,
            h.records.unreversing (by decide)⟩
          refine .issue h.records.type hfor (hsource.congr hheader hcore htracking)
            h.records.unitCost ?_
          have hreserved : doc'.reservationId = _ := congrArg Header.reservationId hheader
          rw [h.records.quantity, hreserved]
          rfl
      | returned h =>
          obtain ⟨doc', line', hfor, _⟩ := hprepared.postedFor hcurrent (by simp) (by simp) h.kept rfl h.records
          refine .inr ⟨_, _, of_movement h.movement, by simp, h.records.typed,
            of_line (by rw [h.records.type]; rfl) ⟨doc', line', hfor⟩, fun hrevisited => ?_,
            h.records.unreversing (by decide)⟩
          rw [h.records.type] at hrevisited
          cases hrevisited
      | dispatch h =>
          obtain ⟨doc', line', hfor, hheader, hcore, htracking⟩ :=
            hprepared.postedFor hcurrent (by simp) (by simp) h.kept rfl h.records
          refine .inr ⟨_, _, of_movement h.movement, by simp, h.records.typed,
            of_line (by rw [h.records.type]; rfl) ⟨doc', line', hfor⟩, fun _ => ⟨_, rfl, ?_⟩,
            h.records.unreversing (by decide)⟩
          refine .dispatch h.records.type hfor (hsource.congr hheader hcore htracking)
            h.records.unitCost ?_
          rw [h.records.quantity]
      | receive h =>
          obtain ⟨doc', line', hfor, _⟩ := hprepared.postedFor hcurrent (by simp) (by simp) h.kept rfl h.records
          refine .inr ⟨_, _, of_movement h.movement, by simp, h.records.typed,
            of_line (by rw [h.records.type]; rfl) ⟨doc', line', hfor⟩, fun hrevisited => ?_,
            h.records.unreversing (by decide)⟩
          rw [h.records.type] at hrevisited
          cases hrevisited
      | adjustment htype _ h =>
          obtain ⟨hline, hrevisited, hreversal⟩ := adjustmentType_plain htype
          rw [← h.records.type] at hline hrevisited
          exact .inr ⟨_, _, (of_movement h.movement).written (by simp) h.records.typed hline
            hrevisited (h.records.unreversing hreversal)⟩
      | count _ _ _ _ h =>
          exact .inr ⟨_, _, (of_movement h.movement).written (by simp) h.records.typed
            (by rw [h.records.type]; rfl) (by rw [h.records.type]; rfl)
            (h.records.unreversing (by decide))⟩
      | unchanged => exact .inl ⟨rfl, rfl⟩
  | reserve h =>
      exact .inr ⟨_, _, h.movement.written (by simp) h.records.typed (by rw [h.records.type]; rfl)
        (by rw [h.records.type]; rfl) (h.records.unreversing (by decide))⟩
  | release h =>
      exact .inr ⟨_, _, h.movement.written (by simp) h.records.typed (by rw [h.records.type]; rfl)
        (by rw [h.records.type]; rfl) (h.records.unreversing (by decide))⟩
  | reverse h =>
      refine .inr ⟨_, _, h.movement.written (fun e he => ?_) (fun _ _ _ hkey => ?_)
        (by rw [h.row]; rfl) (by rw [h.row]; rfl) (.inr ⟨env, _, h⟩)⟩
      · obtain ⟨entry, _, rfl⟩ := List.mem_map.1 he
        rfl
      · rw [h.row] at hkey
        cases hkey
  | nothing => exact .inl ⟨rfl, rfl⟩

theorem Turn.written {cond : CallCondition} (h : Turn ctx env cond db db') :
    db'.transactions = db.transactions ∧ db'.ledger = db.ledger ∨
      ∃ tx entries, Written ctx db tx entries db' := by
  cases h with
  | bookkeeping h => exact .inl ⟨h.stock.transactions, h.stock.ledger⟩
  | call hvalid _ hrun => exact (Call.posted hvalid hrun).written

theorem Turn.transactions {cond : CallCondition} (h : Turn ctx env cond db db') {tx : Transaction}
    (htx : tx ∈ db.transactions.rows) : tx ∈ db'.transactions.rows := by
  rcases h.written with ⟨heq, _⟩ | ⟨_, _, hwritten⟩
  · rw [heq]
    exact htx
  · exact (Table.mem_insert? hwritten.movement.inserted.insert).2 (.inl htx)

theorem Later.entriesOf {cond : CallCondition} (h : Later ctx cond db db') {tx : Transaction}
    (htx : tx ∈ db.transactions.rows) :
    tx ∈ db'.transactions.rows ∧ db'.entriesOf tx.id = db.entriesOf tx.id := by
  induction h with
  | refl => exact ⟨htx, rfl⟩
  | tail _ hstep ih =>
      obtain ⟨env, hturn⟩ := hstep
      obtain ⟨hmem, hentries⟩ := ih
      refine ⟨hturn.transactions hmem, ?_⟩
      rw [← hentries]
      rcases hturn.written with ⟨_, hledger⟩ | ⟨_, _, hwritten⟩
      · rw [Database.entriesOf, hledger, Database.entriesOf]
      · exact hwritten.movement.entriesOf_old hwritten.owned hmem

end Posting

theorem Journal.empty (ctx : Context 28 12) : Journal ctx .empty where
  keys := List.nodup_nil
  typed tx htx := by cases htx
  positive tx htx := by cases htx
  owned e he := absurd he (by simp [Database.empty])
  posted tx htx := by cases htx
  booked tx htx := by cases htx

/-- What an older transaction was posted for is found as before. -/
theorem Journal.posted_frozen {ctx : Context 28 12} {db db' : Database} (h : Journal ctx db)
    (hfrozen : Frozen db db') {tx : Transaction} (htx : tx ∈ db.transactions.rows)
    {kind : DocumentKind} (hkind : tx.type.lineKind = some kind) :
    ∃ doc line, PostedFor db' kind tx doc line := by
  obtain ⟨doc, line, hfor⟩ := h.posted tx htx kind hkind
  obtain ⟨hplain, htype⟩ := lineKind_plain hkind
  obtain ⟨doc', line', hfor', _⟩ := hfor.frozen hplain (hfor.posted htx htype) hfrozen
  exact ⟨doc', line', hfor'⟩

theorem Journal.turn {ctx : Context 28 12} {env : Env} {cond : CallCondition} {db db' : Database}
    (h : Journal ctx db) (hturn : Turn ctx env cond db db') : Journal ctx db' := by
  have hfrozen := hturn.frozen
  rcases hturn.written with ⟨htransactions, hledger⟩ | ⟨new, entries, hnew⟩
  · refine ⟨?_, ?_, ?_, ?_, fun tx htx kind hkind => ?_, fun tx htx hrevisited => ?_⟩
    · rw [htransactions]
      exact h.keys
    · rw [htransactions]
      exact h.typed
    · rw [htransactions]
      exact h.positive
    · unfold Owned
      rw [htransactions, hledger]
      exact h.owned
    · exact h.posted_frozen hfrozen (htransactions ▸ htx) hkind
    · rw [htransactions] at htx
      obtain ⟨e, hentries, he⟩ := h.booked tx htx hrevisited
      refine ⟨e, ?_, he.frozen htx hfrozen⟩
      rw [Database.entriesOf, hledger]
      exact hentries
  · have hrows := fun tx => Table.mem_insert? (s := tx) hnew.movement.inserted.insert
    refine ⟨hnew.movement.inserted.keys h.keys, fun tx htx => ?_, fun tx htx => ?_,
      hnew.movement.owned hnew.owned h.owned, fun tx htx kind hkind => ?_,
      fun tx htx hrevisited => ?_⟩
    · rcases (hrows tx).1 htx with hold | rfl
      · exact h.typed tx hold
      · exact hnew.typed
    · rcases (hrows tx).1 htx with hold | rfl
      · exact h.positive tx hold
      · exact hnew.movement.inserted.positive
    · rcases (hrows tx).1 htx with hold | rfl
      · exact h.posted_frozen hfrozen hold hkind
      · exact hnew.posted kind hkind
    · rcases (hrows tx).1 htx with hold | rfl
      · obtain ⟨e, hentries, he⟩ := h.booked tx hold hrevisited
        exact ⟨e, (hnew.movement.entriesOf_old hnew.owned hold).trans hentries,
          he.frozen hold hfrozen⟩
      · obtain ⟨e, rfl, he⟩ := hnew.booked hrevisited
        exact ⟨e, hnew.movement.entriesOf_self hnew.owned h.owned, he⟩

theorem Passes.journal {ctx : Context 28 12} {cond : CallCondition} {db : Database}
    (h : Passes ctx (· = .empty) cond db) : Journal ctx db :=
  h.invariant (fun db (hdb : db = .empty) => hdb ▸ Journal.empty ctx)
    fun _ _ _ _ hdb hturn => hdb.turn hturn

/-! ## What a reversal undoes -/

/-- The row a reversal negates: that of an issue without a reservation or a request, or
that of a receipt. -/
inductive Undone (ctx : Context 28 12) (db : Database) (original : Transaction) :
    LedgerEntry → Prop
  | issue {doc line cost e} : original.type = .issue → PostedFor db .issues original doc line →
      e.bucket.IsSource .issues doc line → doc.reservationId = none →
      e.changes = issueChanges ctx false original.quantity cost → Undone ctx db original e
  | receipt {cost e} : original.type ≠ .issue → e.bucket.itemId = original.itemId →
      e.bucket.lotId = original.lotId → e.changes = receiptChanges ctx original.quantity cost →
      Undone ctx db original e

theorem ReversalPosted.undone {ctx : Context 28 12} {env : Env} {db db' : Database}
    {original tx : Transaction} (h : ReversalPosted ctx env db original tx db')
    (hjournal : Journal ctx db) :
    ∃ e, db.entriesOf original.id = [e] ∧ Undone ctx db original e := by
  have hrevisited : original.type.revisited := by
    rw [TransactionType.revisited, h.reversible, Bool.true_or]
  obtain ⟨e, hentries, hbooked⟩ := hjournal.booked original (Table.mem_of_find? h.found) hrevisited
  refine ⟨e, hentries, ?_⟩
  cases hbooked with
  | receipt htype _ hitem hlot hchanges => exact .receipt htype hitem hlot hchanges
  | issue htype hfor hsource _ hchanges =>
      obtain ⟨issue, _, hissue, _, hreserved, _, _⟩ := h.issue htype
      have hdoc := hfor.documentRow
      rw [← hfor.reference, (Database.document_eq_some.1 hissue).1] at hdoc
      obtain rfl := Option.some.inj hdoc
      rw [hreserved] at hchanges
      exact .issue htype hfor hsource hreserved hchanges
  | dispatch htype _ _ _ _ =>
      have hreversible := h.reversible
      rw [htype] at hreversible
      cases hreversible

end Cestos.Inventory
