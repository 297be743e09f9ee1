import Cestos.Inventory.Frame

/-!
# What a posted line did

One statement for each branch of `post_line`: the guards that held and every table
that changed. Invariants are proved from these statements, not from the code.
-/

namespace Cestos.Inventory

open Cestos.Core Cestos.Core.Decimal

theorem receiptType_ne_issue (purpose : Purpose) : receiptType purpose ≠ .issue := by
  cases purpose <;> decide

theorem adjustmentType_ne_issue {purpose : Purpose} {t : TransactionType}
    (h : adjustmentType purpose = some t) : t ≠ .issue := by
  cases purpose <;> cases h <;> decide

theorem TransactionType.ne_issue {t : TransactionType} (h : t.reversible = false) :
    t ≠ .issue := by
  rintro rfl
  cases h

/-- One transaction was inserted and its ledger rows were written. -/
structure Movement (ctx : Context 28 12) (db : Database) (tx : Transaction)
    (entries : List LedgerEntry) (db' : Database) : Prop where
  items : db'.items = db.items
  inserted : Inserted db.transactions tx db'.transactions
  moves : Moves ctx db.balances entries db'.balances
  ledger : db'.ledger = db.ledger ++ entries

/-- The issue drew on the reservation of its document, if there is one. -/
inductive Covered (m : Move) (before : Table Reservation.id) : Table Reservation.id → Prop
  | unreserved : m.doc.reservationId = none → Covered m before before
  | reserved {id : Id} {row : Reservation} : m.doc.reservationId = some id →
      before.find? id = some row → m.coveredBy row → Covered m before (before.set (row.fulfil m.q))

/-- Custody of a returnable item was recorded. -/
inductive CustodyRecorded (m : Move) (before : Table Custody.id) : Table Custody.id → Prop
  | consumed : m.item.isReturnable = false → CustodyRecorded m before before
  | recorded {id : Id} {after : Table Custody.id} : m.item.isReturnable = true →
      before.insert? (newCustody id m) = some after → CustodyRecorded m before after

/-- One of the matching custody rows was given back. -/
inductive CustodyReturned (env : Env) (m : Move) (issueId : Id) (before : Table Custody.id) :
    Table Custody.id → Prop
  | unmatched : env.first (custodyOf before issueId m.item.id m.line.serialId) = none →
      CustodyReturned env m issueId before before
  | matched {row : Custody} :
      env.first (custodyOf before issueId m.item.id m.line.serialId) = some row →
      row.returnedQuantity + m.q ≤ row.quantity →
      CustodyReturned env m issueId before (before.set (row.giveBack m.q m.doc.condition))

structure ReceiptPosted (ctx : Context 28 12) (env : Env) (db : Database) (m : Move) (cost : ℚ)
    (tx : Transaction) (db' : Database) : Prop where
  records : Records ctx env db.items m.doc.origin m.line.entry (receiptType m.doc.purpose) cost
    m.q tx
  movement : Movement ctx db tx [⟨tx.id, m.bucket, receiptChanges ctx m.q cost⟩] db'
  serials : db'.serials = db.serials
  reservations : db'.reservations = db.reservations
  custody : db'.custody = db.custody
  kept : Kept [m.line.id] db db'

structure IssuePosted (ctx : Context 28 12) (env : Env) (db : Database) (m : Move)
    (tx : Transaction) (db' : Database) : Prop where
  records : Records ctx env db.items m.doc.origin m.line.entry .issue m.cost m.q tx
  movement : Movement ctx db tx
    [⟨tx.id, m.bucket, issueChanges ctx m.doc.reservationId.isSome m.q m.cost⟩] db'
  serials : db'.serials = m.serialsAfter db.serials (issuedSerial m)
  reservations : Covered m db.reservations db'.reservations
  custody : CustodyRecorded m db.custody db'.custody
  kept : Kept [] db db'

structure ReturnPosted (ctx : Context 28 12) (env : Env) (db : Database) (m : Move)
    (original : Document) (cost : ℚ) (tx : Transaction) (db' : Database) : Prop where
  issue : m.doc.originalIssueId = some original.id
  found : db.document .issues original.id = some original
  within : ¬ (db.issued original.id m.item.id m.line.lotId m.line.serialId = 0 ∨
    db.issued original.id m.item.id m.line.lotId m.line.serialId <
      m.q + db.returned original.id m.item.id m.line.lotId m.line.serialId)
  out : ∀ serial ∈ m.serial, serial.status = .issued ∨ serial.status = .installed
  records : Records ctx env db.items (m.doc.recipientOf original).origin m.line.entry
    .returnFromEmployee cost m.q tx
  movement : Movement ctx db tx
    [⟨tx.id, m.bucket, returnChanges ctx m.doc.condition.damages m.q cost⟩] db'
  serials : db'.serials = m.serialsAfter db.serials (returnedSerial m)
  reservations : db'.reservations = db.reservations
  custody : CustodyReturned env m original.id db.custody db'.custody
  kept : Kept [] db db'

structure DispatchPosted (ctx : Context 28 12) (env : Env) (db : Database) (m : Move)
    (tx : Transaction) (db' : Database) : Prop where
  records : Records ctx env db.items m.doc.origin m.line.entry .transferOut m.cost m.q tx
  movement : Movement ctx db tx [⟨tx.id, m.bucket, dispatchChanges ctx m.q m.cost⟩] db'
  serials : db'.serials = m.serialsAfter db.serials dispatchedSerial
  reservations : db'.reservations = db.reservations
  custody : db'.custody = db.custody
  kept : Kept [] db db'

structure ReceivePosted (ctx : Context 28 12) (env : Env) (db : Database) (m : Move)
    (dispatched : Transaction) (store : Id) (tx : Transaction) (db' : Database) : Prop where
  dispatch : db.dispatchOf m.doc.id m.line.id = some dispatched
  arrives : m.doc.toStoreId = some store
  records : Records ctx env db.items m.doc.origin m.line.entry .transferIn dispatched.unitCost
    m.q tx
  movement : Movement ctx db tx
    [⟨tx.id, m.bucket, departureChanges ctx m.q dispatched.unitCost⟩,
      ⟨tx.id, m.destination store, arrivalChanges ctx m.q dispatched.unitCost⟩] db'
  serials : db'.serials = m.serialsAfter db.serials (receivedSerial m)
  reservations : db'.reservations = db.reservations
  custody : db'.custody = db.custody
  kept : Kept [] db db'

/-- A serial that an adjustment or a count may change. -/
structure Adjustable (m : Move) (serial : Serial) : Prop where
  store : serial.currentStoreId = some m.source
  bin : serial.currentBinId = m.binId
  held : serial.status = .inStock ∨ serial.status = .quarantined
  release : m.doc.purpose = .releaseFromQuarantine → serial.status = .quarantined
  quarantine : m.doc.purpose = .quarantine → serial.status = .inStock

structure AdjustmentPosted (ctx : Context 28 12) (env : Env) (db : Database) (m : Move)
    (txkind : TransactionType) (delta q cost : ℚ) (tx : Transaction) (db' : Database) :
    Prop where
  adjustable : ∀ serial ∈ m.serial, Adjustable m serial
  serialized : m.serial = none ∨ m.doc.purpose = .quarantine ∨
    m.doc.purpose = .releaseFromQuarantine ∨ delta < 0
  records : Records ctx env db.items m.doc.origin m.line.entry txkind cost q tx
  movement : Movement ctx db tx
    [⟨tx.id, m.bucket, adjustmentChanges ctx m.doc.purpose
      (db.balances m.bucket .quantityQuarantined) delta q cost⟩] db'
  serials : db'.serials = m.serialsAfter db.serials (adjustedSerial m.doc.purpose)
  reservations : db'.reservations = db.reservations
  custody : db'.custody = db.custody
  kept : Kept [] db db'

/-- What the branch of `post_line` for a kind and an action did. -/
inductive MovePosted (ctx : Context 28 12) (env : Env) (db : Database) (m : Move) :
    DocumentKind → Action → Database → Prop
  | receipt {act cost tx db'} : ReceiptPosted ctx env db m cost tx db' →
      MovePosted ctx env db m .receipts act db'
  | issue {act tx db'} : IssuePosted ctx env db m tx db' →
      MovePosted ctx env db m .issues act db'
  | returned {act original cost tx db'} : ReturnPosted ctx env db m original cost tx db' →
      MovePosted ctx env db m .returns act db'
  | dispatch {tx db'} : DispatchPosted ctx env db m tx db' →
      MovePosted ctx env db m .transfers .dispatch db'
  | receive {dispatched store tx db'} : ReceivePosted ctx env db m dispatched store tx db' →
      MovePosted ctx env db m .transfers .receive db'
  | adjustment {act txkind delta cost tx db'} : adjustmentType m.doc.purpose = some txkind →
      delta = (if m.doc.purpose = .positiveAdjustment then m.q else -m.q) →
      AdjustmentPosted ctx env db m txkind delta m.q cost tx db' →
      MovePosted ctx env db m .adjustments act db'
  | count {act} {counted : Quantity} {delta cost tx db'} :
      m.line.systemQuantity = some (db.balances m.bucket .quantityOnHand) →
      m.line.countedQuantity = some counted →
      delta = counted.1 - db.balances m.bucket .quantityOnHand → delta ≠ 0 →
      AdjustmentPosted ctx env db m .stockCountAdjustment delta |delta| cost tx db' →
      MovePosted ctx env db m .stockCounts act db'
  /-- The count found what the system knew. -/
  | unchanged {act} : MovePosted ctx env db m .stockCounts act db

/-! ## The pieces of a branch -/

theorem finishLine_eq_ok {ctx : Context 28 12} {db db' : Database} {line : Line} {q cost : ℚ}
    (h : finishLine ctx db line q cost = .ok db') :
    ∃ unitCost totalCost, db' = { db with
      lines := db.lines.set { line with unitCost := unitCost, totalCost := totalCost } } := by
  simp only [finishLine, bind_eq_ok, ensure_eq_ok, exists_const, Except.ok.injEq] at h
  obtain ⟨_, rfl⟩ := h
  exact ⟨_, _, rfl⟩

theorem coverReservation_eq_ok {env : Env} {db db' : Database} {m : Move}
    (h : coverReservation env db m = .ok db') :
    ∃ reservations, Covered m db.reservations reservations ∧
      db' = { db with reservations } := by
  unfold coverReservation at h
  split at h
  · next hnone =>
    obtain rfl := Except.ok.inj h
    exact ⟨db.reservations, .unreserved hnone, rfl⟩
  · next id hid =>
    simp only [bind_eq_ok, found_eq_ok, ensure_eq_ok, exists_const, Except.ok.injEq] at h
    obtain ⟨row, hrow, hcovers, _, _, rfl⟩ := h
    exact ⟨_, .reserved hid hrow hcovers, rfl⟩

theorem requestStatus_ne_draft (lines : List Line) : requestStatus lines ≠ .draft := by
  unfold requestStatus
  split <;> simp

theorem fulfilRequest_eq_ok {db db' : Database} {m : Move} (h : fulfilRequest db m = .ok db') :
    ∃ lines documents, db' = { db with lines, documents } ∧ Kept [] db db' := by
  unfold fulfilRequest at h
  split at h
  · obtain rfl := Except.ok.inj h
    exact ⟨db.lines, db.documents, rfl, Kept.refl db⟩
  · next id _ =>
    simp only [bind_eq_ok, found_eq_ok, orError_eq_ok, ensure_eq_ok, exists_const,
      Except.ok.injEq] at h
    obtain ⟨request, hrequest, _, _, reqline, hreqline, _, rfl⟩ := h
    obtain ⟨hfind, hkind⟩ := Database.document_eq_some.1 hrequest
    have hid : request.id = id := Table.key_of_find? hfind
    have hmem : reqline ∈ db.lines.rows :=
      (Database.mem_linesOf.1 (List.mem_of_find?_eq_some hreqline)).1
    have hline : db.lines.find? reqline.id = some reqline := Table.find?_of_mem hmem
    refine ⟨_, _, rfl, ?_⟩
    -- first the counter of the request line, then the status of the request
    have hlines : Kept [] db { db with
        lines := db.lines.set { reqline with quantityIssued := reqline.quantityIssued + m.q } } := by
      refine Kept.setLine _ (fun old hold => ?_) fun _ old hold => ?_
      · rw [Option.some.inj (hold.symm.trans hline)]
        rfl
      · rw [Option.some.inj (hold.symm.trans hline)]
        rfl
    refine hlines.trans_same (Kept.setDocument _ (fun old hold => ?_) fun old hold => ?_)
    · have hold' : old = request := Option.some.inj (hold.symm.trans (hid ▸ hfind))
      rw [hold']
      rfl
    · have hold' : old = request := Option.some.inj (hold.symm.trans (hid ▸ hfind))
      exact .inr ⟨hold' ▸ hkind, requestStatus_ne_draft _⟩

theorem recordCustody_eq_ok {env : Env} {db db' : Database} {m : Move}
    (h : recordCustody env db m = .ok db') :
    ∃ custody, CustodyRecorded m db.custody custody ∧ db' = { db with custody } := by
  unfold recordCustody at h
  split at h
  · next hitem =>
    simp only [bind_eq_ok, orError_eq_ok, Except.ok.injEq] at h
    obtain ⟨custody, hins, rfl⟩ := h
    exact ⟨custody, .recorded hitem hins, rfl⟩
  · next hitem =>
    obtain rfl := Except.ok.inj h
    exact ⟨db.custody, .consumed (by simpa using hitem), rfl⟩

theorem returnCustody_eq_ok {env : Env} {db db' : Database} {m : Move} {issueId : Id}
    (h : returnCustody env db m issueId = .ok db') :
    ∃ custody, CustodyReturned env m issueId db.custody custody ∧ db' = { db with custody } := by
  unfold returnCustody at h
  split at h
  · next hnone =>
    obtain rfl := Except.ok.inj h
    exact ⟨db.custody, .unmatched hnone, rfl⟩
  · next row hrow =>
    simp only [bind_eq_ok, ensure_eq_ok, exists_const, Except.ok.injEq] at h
    obtain ⟨hle, rfl⟩ := h
    exact ⟨_, .matched hrow hle, rfl⟩

theorem Moves.single {ctx : Context 28 12} {balances : Bucket → BucketFields}
    {entry : LedgerEntry} (h : Movable ctx balances entry) :
    Moves ctx balances [entry] (applyEntry ctx balances entry) :=
  .cons h (.nil _)

/-- The costs that the end of `post_line` writes leave the line what it was. -/
theorem Kept.finish {own : List Id} {db db' : Database} {line : Line} {unitCost totalCost : Option ℚ}
    (h : Kept own db db') (hcore : (db.lines.find? line.id).map Line.core = some line.core)
    (htracking : line.id ∉ own →
      (db.lines.find? line.id).map Line.tracking = some line.tracking) :
    Kept own db { db' with lines := db'.lines.set { line with unitCost, totalCost } } := by
  have hset : Kept own db' { db' with lines := db'.lines.set { line with unitCost, totalCost } } := by
    refine Kept.setLine _ (fun old hold => ?_) fun hid old hold => ?_
    · have hmap := (h.cores line.id).trans hcore
      rw [show db'.lines.find? line.id = some old from hold] at hmap
      exact Option.some.inj hmap
    · have hmap := (h.trackings line.id hid).trans (htracking hid)
      rw [show db'.lines.find? line.id = some old from hold] at hmap
      exact Option.some.inj hmap
  exact h.trans_same hset

/-! ## The branches -/

section Branches

variable {ctx : Context 28 12} {env : Env} {db db' : Database} {m : Move}

theorem postReceipt_spec (hcore : (db.lines.find? m.line.id).map Line.core = some m.line.core)
    (h : postReceipt ctx env db m = .ok db') : ∃ cost tx, ReceiptPosted ctx env db m cost tx db' := by
  simp only [postReceipt, bind_eq_ok, orError_eq_ok, Prod.exists] at h
  obtain ⟨unitCost, _, tx, db₁, htx, db₂, heffect, hfinish⟩ := h
  obtain ⟨hrecords, transactions, hins, rfl⟩ := transaction_eq_ok htx
  obtain ⟨hmovable, rfl⟩ := effect_eq_ok.1 heffect
  obtain ⟨_, _, rfl⟩ := finishLine_eq_ok hfinish
  exact ⟨_, tx, {
    records := hrecords
    movement := ⟨rfl, hins, Moves.single hmovable, rfl⟩
    serials := rfl
    reservations := rfl
    custody := rfl
    kept := Kept.finish (Kept.of_eq rfl rfl) hcore (by simp) }⟩

theorem postIssue_spec (hcurrent : Current db .issues m.doc m.line)
    (h : postIssue ctx env db m = .ok db') : ∃ tx, IssuePosted ctx env db m tx db' := by
  simp only [postIssue, bind_eq_ok, ensure_eq_ok, exists_const, Prod.exists] at h
  obtain ⟨_, db₁, hcover, db₂, hrequest, tx, db₃, htx, db₄, heffect, db₅, hcustody, hfinish⟩ := h
  obtain ⟨reservations, hcovered, rfl⟩ := coverReservation_eq_ok hcover
  obtain ⟨lines, documents, rfl, hkept⟩ := fulfilRequest_eq_ok hrequest
  obtain ⟨hrecords, transactions, hins, rfl⟩ := transaction_eq_ok htx
  obtain ⟨hmovable, rfl⟩ := effect_eq_ok.1 heffect
  obtain ⟨custody, hrecorded, rfl⟩ := recordCustody_eq_ok hcustody
  obtain ⟨_, _, rfl⟩ := finishLine_eq_ok hfinish
  have hmid : Kept [] db { db with lines, documents } := hkept.congr rfl rfl rfl rfl
  exact ⟨tx, {
    records := hrecords
    movement := ⟨rfl, hins, Moves.single hmovable, rfl⟩
    serials := rfl
    reservations := hcovered
    custody := hrecorded
    kept := (hmid.finish hcurrent.core fun _ => hcurrent.tracking).congr rfl rfl rfl rfl }⟩

theorem postReturn_spec (hcurrent : Current db .returns m.doc m.line)
    (h : postReturn ctx env db m = .ok db') :
    ∃ original cost tx, ReturnPosted ctx env db m original cost tx db' := by
  simp only [postReturn, bind_eq_ok, orError_eq_ok, found_eq_ok, ensure_eq_ok, exists_const,
    Prod.exists] at h
  obtain ⟨issueId, hissue, original, horiginal, _, hwithin, tx, db₁, htx, db₂, heffect, hout,
    db₃, hcustody, hfinish⟩ := h
  have hid : original.id = issueId :=
    Table.key_of_find? (Database.document_eq_some.1 horiginal).1
  subst hid
  obtain ⟨hrecords, transactions, hins, rfl⟩ := transaction_eq_ok htx
  obtain ⟨hmovable, rfl⟩ := effect_eq_ok.1 heffect
  obtain ⟨custody, hreturned, rfl⟩ := returnCustody_eq_ok hcustody
  obtain ⟨_, _, rfl⟩ := finishLine_eq_ok hfinish
  obtain ⟨stored, hstored, hheader, hstatus⟩ := hcurrent.find?
  -- the document keeps its header, only its recipient changes
  have hdoc : Kept [] db
      { db with documents := db.documents.set (m.doc.recipientOf original) } := by
    refine Kept.setDocument _ (fun old hold => ?_) fun old hold => .inl ?_
    · rw [Option.some.inj (hold.symm.trans hstored), hheader]
      rfl
    · rw [Option.some.inj (hold.symm.trans hstored), hstatus]
      rfl
  exact ⟨original, _, tx, {
    issue := hissue
    found := horiginal
    within := hwithin
    out := hout
    records := hrecords
    movement := ⟨rfl, hins, Moves.single hmovable, rfl⟩
    serials := rfl
    reservations := rfl
    custody := hreturned
    kept := (hdoc.finish hcurrent.core fun _ => hcurrent.tracking).congr rfl rfl rfl rfl }⟩

theorem postDispatch_spec (hcurrent : Current db .transfers m.doc m.line)
    (h : postDispatch ctx env db m = .ok db') : ∃ tx, DispatchPosted ctx env db m tx db' := by
  simp only [postDispatch, bind_eq_ok, Prod.exists] at h
  obtain ⟨tx, db₁, htx, db₂, heffect, hfinish⟩ := h
  obtain ⟨hrecords, transactions, hins, rfl⟩ := transaction_eq_ok htx
  obtain ⟨hmovable, rfl⟩ := effect_eq_ok.1 heffect
  obtain ⟨_, _, rfl⟩ := finishLine_eq_ok hfinish
  exact ⟨tx, {
    records := hrecords
    movement := ⟨rfl, hins, Moves.single hmovable, rfl⟩
    serials := rfl
    reservations := rfl
    custody := rfl
    kept := ((Kept.refl db).finish hcurrent.core fun _ => hcurrent.tracking).congr
      rfl rfl rfl rfl }⟩

theorem postReceive_spec (hcurrent : Current db .transfers m.doc m.line)
    (h : postReceive ctx env db m = .ok db') :
    ∃ dispatched store tx, ReceivePosted ctx env db m dispatched store tx db' := by
  simp only [postReceive, bind_eq_ok, orError_eq_ok, Prod.exists] at h
  obtain ⟨_, _, dispatched, hdispatched, tx, db₁, htx, store, hstore, db₂, hdepart, db₃, harrive,
    hfinish⟩ := h
  obtain ⟨hrecords, transactions, hins, rfl⟩ := transaction_eq_ok htx
  obtain ⟨hmovable, rfl⟩ := effect_eq_ok.1 hdepart
  obtain ⟨hmovable', rfl⟩ := effect_eq_ok.1 harrive
  obtain ⟨_, _, rfl⟩ := finishLine_eq_ok hfinish
  exact ⟨dispatched, store, tx, {
    dispatch := hdispatched
    arrives := hstore
    records := hrecords
    movement := ⟨rfl, hins, .cons hmovable (Moves.single hmovable'), List.append_assoc _ _ _⟩
    serials := rfl
    reservations := rfl
    custody := rfl
    kept := ((Kept.refl db).finish hcurrent.core fun _ => hcurrent.tracking).congr
      rfl rfl rfl rfl }⟩

theorem checkAdjusted_spec {u : Unit} (h : checkAdjusted m = .ok u) :
    ∀ serial ∈ m.serial, Adjustable m serial := by
  simp only [checkAdjusted, bind_eq_ok, ensure_eq_ok, exists_const] at h
  obtain ⟨hheld, hrelease, hquarantine⟩ := h
  intro serial hserial
  obtain ⟨hstore, hbin, hstatus⟩ := hheld serial hserial
  exact ⟨hstore, hbin, hstatus, hrelease serial hserial, hquarantine serial hserial⟩

theorem adjust_spec {kind : DocumentKind} {txkind : TransactionType} {delta q : ℚ}
    (hcurrent : Current db kind m.doc m.line) (hadjustable : ∀ serial ∈ m.serial, Adjustable m serial)
    (h : adjust ctx env db m txkind delta q = .ok db') :
    ∃ cost tx, AdjustmentPosted ctx env db m txkind delta q cost tx db' := by
  simp only [adjust, bind_eq_ok, ensure_eq_ok, exists_const, Prod.exists] at h
  obtain ⟨tx, db₁, htx, _, db₂, heffect, hserialized, hfinish⟩ := h
  obtain ⟨hrecords, transactions, hins, rfl⟩ := transaction_eq_ok htx
  obtain ⟨hmovable, rfl⟩ := effect_eq_ok.1 heffect
  obtain ⟨_, _, rfl⟩ := finishLine_eq_ok hfinish
  exact ⟨_, tx, {
    adjustable := hadjustable
    serialized := hserialized
    records := hrecords
    movement := ⟨rfl, hins, Moves.single hmovable, rfl⟩
    serials := rfl
    reservations := rfl
    custody := rfl
    kept := ((Kept.refl db).finish hcurrent.core fun _ => hcurrent.tracking).congr
      rfl rfl rfl rfl }⟩

theorem postMove_spec {kind : DocumentKind} {act : Action}
    (hcore : (db.lines.find? m.line.id).map Line.core = some m.line.core)
    (hcurrent : kind ≠ .receipts → Current db kind m.doc m.line)
    (h : postMove ctx env db kind act m = .ok db') : MovePosted ctx env db m kind act db' := by
  cases kind with
  | receipts =>
      obtain ⟨cost, tx, hposted⟩ := postReceipt_spec hcore h
      exact .receipt hposted
  | issues =>
      obtain ⟨tx, hposted⟩ := postIssue_spec (hcurrent (by simp)) h
      exact .issue hposted
  | returns =>
      obtain ⟨original, cost, tx, hposted⟩ := postReturn_spec (hcurrent (by simp)) h
      exact .returned hposted
  | transfers =>
      have hcurrent' := hcurrent (by simp)
      cases act with
      | dispatch =>
          obtain ⟨tx, hposted⟩ := postDispatch_spec hcurrent' h
          exact .dispatch hposted
      | receive =>
          obtain ⟨dispatched, store, tx, hposted⟩ := postReceive_spec hcurrent' h
          exact .receive hposted
      | _ => cases h
  | requests => cases h
  | adjustments =>
      simp only [postMove, postAdjustment, bind_eq_ok, orError_eq_ok, ensure_eq_ok,
        exists_const] at h
      obtain ⟨_, hcheck, _, txkind, htxkind, hadjust⟩ := h
      obtain ⟨cost, tx, hposted⟩ :=
        adjust_spec (hcurrent (by simp)) (checkAdjusted_spec hcheck) hadjust
      exact .adjustment htxkind rfl hposted
  | stockCounts =>
      simp only [postMove, postCount, bind_eq_ok, orError_eq_ok, ensure_eq_ok, exists_const] at h
      obtain ⟨_, hcheck, hsystem, counted, hcounted, hrest⟩ := h
      split at hrest
      · obtain rfl := Except.ok.inj hrest
        exact .unchanged
      · next hne =>
        obtain ⟨cost, tx, hposted⟩ :=
          adjust_spec (hcurrent (by simp)) (checkAdjusted_spec hcheck) hrest
        exact .count hsystem hcounted rfl hne hposted

end Branches

/-! ## The whole line -/

/-- What `post_line` has established about a line when it branches. -/
structure Prepared (ctx : Context 28 12) (env : Env) (db : Database) (kind : DocumentKind)
    (doc : Document) (read : Line) (act : Action) (m : Move) (db' : Database) : Prop where
  document : m.doc = doc
  item : db.items.find? read.itemId = some m.item
  quantity : m.q = read.normalizedQuantity
  positive : 0 < m.q
  grid : OnGrid 4 m.q
  source : sourceStore kind m.doc = some m.source
  bin : m.binId = sourceBin kind m.line
  line : m.line.id = read.id ∧ m.line.core = read.core
  plain : kind ≠ .receipts → m.line = read ∧ db' = db
  received : kind = .receipts → Received env db m.item m.doc read m.line db'
  cost : m.cost = averageCost ctx (db'.balances m.bucket) m.item
  owner : ∀ id ∈ read.serialId, ∃ serial, db.serials.find? id = some serial ∧
    serial.itemId = m.item.id
  serial : m.line.serialId.map db'.serials.find? = m.serial.map some
  serialized : kind ≠ .receipts → m.item.serialized → ∃ serial, m.serial = some serial ∧
    serial.lotId = m.line.lotId ∧ (allowsUnavailable kind act ∨ serial.status = .inStock ∨
      m.doc.reservationId.isSome ∧ serial.status = .reserved)
  located : takesSerial kind act → ∀ serial ∈ m.serial,
    serial.currentStoreId = some m.source ∧ serial.currentBinId = m.binId

theorem lineSerial_eq_ok {db : Database} {serialId : Option Id} {serial : Option Serial}
    (h : lineSerial db serialId = .ok serial) :
    serialId.map db.serials.find? = serial.map some := by
  cases serialId with
  | none =>
      obtain rfl := Except.ok.inj h
      rfl
  | some id =>
      simp only [lineSerial, bind_eq_ok, found_eq_ok, Except.ok.injEq] at h
      obtain ⟨row, hrow, rfl⟩ := h
      simp [hrow]

theorem postLine_prepared {ctx : Context 28 12} {env : Env} {db db' : Database}
    {kind : DocumentKind} {doc : Document} {line : Line} {act : Action}
    (h : postLine ctx env db kind doc line act = .ok db') :
    ∃ m mid, Prepared ctx env db kind doc line act m mid ∧
      postMove ctx env mid kind act m = .ok db' := by
  simp only [postLine, bind_eq_ok, found_eq_ok, orError_eq_ok, ensure_eq_ok, exists_const,
    Prod.exists] at h
  obtain ⟨item, hitem, _, q, hquantity, hq, _, hrefs, line', mid, htracked, source, hsource,
    serial, hserial, hlocated, hmove⟩ := h
  obtain ⟨hpositive, hgrid⟩ := quantity_spec hquantity
  have hserial' := lineSerial_eq_ok hserial
  have hline : line'.id = line.id ∧ line'.core = line.core := by
    by_cases hkind : kind = .receipts
    · rw [decide_eq_true hkind] at htracked
      obtain ⟨_, _, rfl⟩ := (tracked_receipt htracked).entry
      exact ⟨rfl, rfl⟩
    · rw [decide_eq_false hkind] at htracked
      rw [(tracked_plain htracked).1]
      exact ⟨rfl, rfl⟩
  refine ⟨_, mid, ?_, hmove⟩
  exact {
    document := rfl
    item := hitem
    quantity := hq
    positive := hpositive
    grid := hgrid
    source := hsource
    bin := rfl
    line := hline
    plain := fun hkind => by
      rw [decide_eq_false hkind] at htracked
      obtain ⟨hline, hdb, _⟩ := tracked_plain htracked
      exact ⟨hline, hdb⟩
    received := fun hkind => by
      rw [decide_eq_true hkind] at htracked
      exact tracked_receipt htracked
    cost := rfl
    owner := fun id hid => validateRefs_serial hrefs rfl hid
    serial := hserial'
    serialized := fun hkind hserialized => by
      rw [decide_eq_false hkind] at htracked
      obtain ⟨rfl, rfl, hcheck⟩ := tracked_plain htracked
      obtain ⟨id, row, hid, hrow, _, hlot, hstatus⟩ := checkSerial_spec hcheck hserialized
      rw [hid, Option.map_some, hrow] at hserial'
      obtain ⟨found, hfound, hrow'⟩ := Option.map_eq_some_iff.1 hserial'.symm
      obtain rfl := Option.some.inj hrow'
      refine ⟨found, hfound, hlot, ?_⟩
      simpa using hstatus
    located := hlocated }

/-- A posted line: what was prepared, and what its branch did. -/
theorem postLine_spec {ctx : Context 28 12} {env : Env} {db db' : Database} {kind : DocumentKind}
    {doc : Document} {line : Line} {act : Action} (hcurrent : Current db kind doc line)
    (h : postLine ctx env db kind doc line act = .ok db') :
    ∃ m mid, Prepared ctx env db kind doc line act m mid ∧ MovePosted ctx env mid m kind act db' := by
  obtain ⟨m, mid, hprepared, hmove⟩ := postLine_prepared h
  refine ⟨m, mid, hprepared, postMove_spec ?_ (fun hkind => ?_) hmove⟩
  · rw [hprepared.line.1, hprepared.line.2]
    by_cases hkind : kind = .receipts
    · obtain ⟨_, serials, hdb⟩ := (hprepared.received hkind).database
      rw [hdb]
      exact hcurrent.core
    · rw [(hprepared.plain hkind).2]
      exact hcurrent.core
  · obtain ⟨hline, hdb⟩ := hprepared.plain hkind
    rw [hline, hdb, hprepared.document]
    exact hcurrent

/-! ## Reservations -/

/-- The serial of a reservation or a transaction, if it has one, was found and changed. -/
inductive SerialChanged (serialId : Option Id) (P : Serial → Prop) (f : Serial → Serial)
    (before : Table Serial.id) : Table Serial.id → Prop
  | without : serialId = none → SerialChanged serialId P f before before
  | changed {id : Id} {serial : Serial} : serialId = some id → before.find? id = some serial →
      P serial → SerialChanged serialId P f before (before.set (f serial))

/-- A reservation leaves documents, lines and custody alone. -/
structure Aside (db db' : Database) : Prop where
  documents : db'.documents = db.documents
  lines : db'.lines = db.lines
  custody : db'.custody = db.custody

structure ReservePosted (ctx : Context 28 12) (env : Env) (db : Database) (item : Item)
    (row : Reservation) (tx : Transaction) (db' : Database) : Prop where
  found : db.items.find? row.itemId = some item
  fresh : row.status = .active ∧ row.fulfilledQuantity = 0
  positive : 0 < row.quantity
  grid : OnGrid 4 row.quantity
  owner : ∀ id ∈ row.serialId, ∃ serial, db.serials.find? id = some serial ∧
    serial.itemId = row.itemId
  available : item.serialized → ∃ id serial, row.serialId = some id ∧
    db.serials.find? id = some serial ∧ serial.lotId = row.lotId ∧ serial.status = .inStock
  inserted : db.reservations.insert? row = some db'.reservations
  records : Records ctx env db.items (row.origin env) row.entry .reservation 0 row.quantity tx
  movement : Movement ctx db tx
    [⟨tx.id, row.bucket, Changes.fields { quantityReserved := row.quantity }⟩] db'
  serials : SerialChanged row.serialId
    (fun serial => row.quantity = 1 ∧ serial.currentStoreId = some row.storeId ∧
      serial.currentBinId = row.binId)
    (fun serial => { serial with status := .reserved }) db.serials db'.serials
  aside : Aside db db'

structure ReleasePosted (ctx : Context 28 12) (env : Env) (db : Database) (row : Reservation)
    (cancel : Bool) (tx : Transaction) (db' : Database) : Prop where
  found : db.reservations.find? row.id = some row
  active : row.status = .active
  records : Records ctx env db.items (row.origin env) row.entry .reservationRelease 0
    (row.quantity - row.fulfilledQuantity) tx
  movement : Movement ctx db tx
    [⟨tx.id, row.bucket,
      Changes.fields { quantityReserved := -(row.quantity - row.fulfilledQuantity) }⟩] db'
  reservations : db'.reservations =
    db.reservations.set { row with status := releasedStatus env row cancel }
  serials : SerialChanged row.serialId (fun _ => True)
    (fun serial => { serial with status := .inStock }) db.serials db'.serials
  aside : Aside db db'

theorem releasedStatus_ne (env : Env) (row : Reservation) (cancel : Bool) :
    releasedStatus env row cancel ≠ .active ∧ releasedStatus env row cancel ≠ .fulfilled := by
  unfold releasedStatus
  split
  · simp
  · split <;> simp

theorem reserve_spec {ctx : Context 28 12} {env : Env} {db db' : Database} {body : ReservationBody}
    (h : reserve ctx env db body = .ok db') :
    ∃ item tx, ReservePosted ctx env db item (newReservation env db body) tx db' := by
  simp only [reserve, trackedReservation, bind_eq_ok, found_eq_ok, orError_eq_ok, ensure_eq_ok,
    exists_const, Prod.exists] at h
  obtain ⟨_, hrefs, item, hitem, _, q, hq, reservations, hins, _, ⟨_, _, hcheck⟩, tx, db₁, htx,
    db₂, heffect, hserial⟩ := h
  obtain ⟨hpositive, hgrid⟩ := quantity_spec hq
  have hbase := quantity_base hq
  subst hbase
  obtain ⟨hrecords, transactions, hinserted, rfl⟩ := transaction_eq_ok htx
  obtain ⟨hmovable, rfl⟩ := effect_eq_ok.1 heffect
  have howner := fun id (hid : id ∈ body.serialId) =>
    validateRefs_serial hrefs (rfl : body.refData.itemId = some body.itemId) hid
  have havailable : item.serialized → ∃ id serial, body.serialId = some id ∧
      db.serials.find? id = some serial ∧ serial.lotId = body.lotId ∧ serial.status = .inStock := by
    intro hserialized
    obtain ⟨id, serial, hid, hrow, _, hlot, hstatus⟩ := checkSerial_spec hcheck hserialized
    refine ⟨id, serial, hid, hrow, hlot, ?_⟩
    simpa using hstatus
  have hrest : ∃ serials, db' = { db with
        reservations, transactions, serials
        balances := applyEntry ctx db.balances ⟨tx.id, (newReservation env db body).bucket,
          Changes.fields { quantityReserved := body.quantity.1 }⟩
        ledger := db.ledger ++ [⟨tx.id, (newReservation env db body).bucket,
          Changes.fields { quantityReserved := body.quantity.1 }⟩] } ∧
      SerialChanged body.serialId
        (fun serial => body.quantity.1 = 1 ∧ serial.currentStoreId = some body.storeId ∧
          serial.currentBinId = body.binId)
        (fun serial => { serial with status := .reserved }) db.serials serials := by
    unfold reserveSerial at hserial
    split at hserial
    · next hnone =>
      obtain rfl := Except.ok.inj hserial
      exact ⟨db.serials, rfl, .without hnone⟩
    · next id hid =>
      simp only [bind_eq_ok, found_eq_ok, ensure_eq_ok, exists_const, Except.ok.injEq] at hserial
      obtain ⟨serial, hrow, hplace, rfl⟩ := hserial
      exact ⟨_, rfl, .changed hid hrow hplace⟩
  obtain ⟨serials, rfl, hchanged⟩ := hrest
  exact ⟨item, tx, {
    found := hitem
    fresh := ⟨rfl, rfl⟩
    positive := hpositive
    grid := hgrid
    owner := howner
    available := havailable
    inserted := hins
    records := hrecords
    movement := ⟨rfl, hinserted, Moves.single hmovable, rfl⟩
    serials := hchanged
    aside := ⟨rfl, rfl, rfl⟩ }⟩

theorem release_spec {ctx : Context 28 12} {env : Env} {db db' : Database} {id : Id}
    {cancel : Bool} (h : release ctx env db id cancel = .ok db') :
    db' = db ∨ ∃ row tx, row.id = id ∧ ReleasePosted ctx env db row cancel tx db' := by
  simp only [release, bind_eq_ok, found_eq_ok] at h
  obtain ⟨row, hrow, h⟩ := h
  obtain rfl := Table.key_of_find? hrow
  split at h
  · exact .inl (Except.ok.inj h).symm
  · next hactive =>
    simp only [bind_eq_ok, Prod.exists] at h
    obtain ⟨tx, db₁, htx, db₂, heffect, hserial⟩ := h
    obtain ⟨hrecords, transactions, hinserted, rfl⟩ := transaction_eq_ok htx
    obtain ⟨hmovable, rfl⟩ := effect_eq_ok.1 heffect
    unfold releaseSerial at hserial
    split at hserial
    · next hnone =>
      obtain rfl := Except.ok.inj hserial
      exact .inr ⟨row, tx, rfl, {
        found := hrow
        active := not_not.1 hactive
        records := hrecords
        movement := ⟨rfl, hinserted, Moves.single hmovable, rfl⟩
        reservations := rfl
        serials := .without hnone
        aside := ⟨rfl, rfl, rfl⟩ }⟩
    · next serialId hid =>
      simp only [bind_eq_ok, found_eq_ok, Except.ok.injEq] at hserial
      obtain ⟨serial, hserial, rfl⟩ := hserial
      exact .inr ⟨row, tx, rfl, {
        found := hrow
        active := not_not.1 hactive
        records := hrecords
        movement := ⟨rfl, hinserted, Moves.single hmovable, rfl⟩
        reservations := rfl
        serials := .changed hid hserial trivial
        aside := ⟨rfl, rfl, rfl⟩ }⟩

/-! ## Reversals -/

/-- The ledger row that undoes another. -/
def reversalEntry (transactionId : Id) (entry : LedgerEntry) : LedgerEntry :=
  ⟨transactionId, entry.bucket, fun f => -entry.stored f⟩

/-- The ledger rows of a transaction. -/
def Database.entriesOf (db : Database) (transactionId : Id) : List LedgerEntry :=
  db.ledger.filter (·.transactionId = transactionId)

structure ReversalPosted (ctx : Context 28 12) (env : Env) (db : Database)
    (original tx : Transaction) (db' : Database) : Prop where
  found : db.transactions.find? original.id = some original
  unreversed : ∀ other ∈ db.transactions.rows, other.reversalOfId ≠ some original.id
  reversible : original.type.reversible
  last : ¬ db.laterMovement original
  issue : original.type = .issue → ∃ issue item,
    db.document .issues original.referenceId = some issue ∧
    db.items.find? original.itemId = some item ∧ issue.reservationId = none ∧
    issue.requestId = none ∧ item.isReturnable = false
  row : tx = reversalRow env db original
  movement : Movement ctx db tx ((db.entriesOf original.id).map (reversalEntry tx.id)) db'
  serials : SerialChanged original.serialId (fun _ => True) (restoredSerial original) db.serials
    db'.serials
  reservations : db'.reservations = db.reservations
  aside : Aside db db'

theorem reverseEntries_eq_ok {ctx : Context 28 12} {transactionId : Id}
    {entries : List LedgerEntry} {db db' : Database}
    (h : entries.foldlM (reverseEntry ctx transactionId) db = .ok db') :
    Moves ctx db.balances (entries.map (reversalEntry transactionId)) db'.balances ∧
      db' = { db with
        balances := db'.balances
        ledger := db.ledger ++ entries.map (reversalEntry transactionId) } := by
  induction entries generalizing db with
  | nil =>
      simp only [List.foldlM_nil, pure_eq_ok] at h
      subst h
      exact ⟨.nil _, by simp⟩
  | cons entry entries ih =>
      simp only [List.foldlM_cons, bind_eq_ok] at h
      obtain ⟨mid, hentry, hrest⟩ := h
      obtain ⟨hmovable, rfl⟩ := effect_eq_ok.1 hentry
      obtain ⟨hmoves, hdb⟩ := ih hrest
      refine ⟨.cons hmovable hmoves, ?_⟩
      rw [hdb]
      simp [reversalEntry, Database.move]

theorem checkReversible_spec {db : Database} {original : Transaction} {u : Unit}
    (h : checkReversible db original = .ok u) (htype : original.type = .issue) :
    ∃ issue item, db.document .issues original.referenceId = some issue ∧
      db.items.find? original.itemId = some item ∧ issue.reservationId = none ∧
      issue.requestId = none ∧ item.isReturnable = false := by
  simp only [checkReversible, htype, if_true, bind_eq_ok, found_eq_ok, ensure_eq_ok] at h
  obtain ⟨issue, hissue, item, hitem, hguard⟩ := h
  exact ⟨issue, item, hissue, hitem, hguard⟩

theorem reverse_spec {ctx : Context 28 12} {env : Env} {db db' : Database} {id : Id}
    (h : reverse ctx env db id = .ok db') :
    (db' = db ∧ ∃ tx ∈ db.transactions.rows, tx.reversalOfId = some id) ∨
      ∃ original tx, original.id = id ∧ ReversalPosted ctx env db original tx db' := by
  simp only [reverse, bind_eq_ok, found_eq_ok] at h
  obtain ⟨original, horiginal, h⟩ := h
  obtain rfl := Table.key_of_find? horiginal
  split at h
  · next hexists => exact .inl ⟨(Except.ok.inj h).symm, hexists⟩
  · next hfresh =>
    simp only [bind_eq_ok, ensure_eq_ok, exists_const] at h
    obtain ⟨hreversible, hlast, _, hguard, db₁, hinsert, db₂, hentries, hserial⟩ := h
    obtain ⟨transactions, hinserted, rfl⟩ := insertTransaction_eq_ok hinsert
    obtain ⟨hmoves, hdb₂⟩ := reverseEntries_eq_ok hentries
    have hrest : ∃ serials, db' = { db₂ with serials } ∧
        SerialChanged original.serialId (fun _ => True) (restoredSerial original) db.serials
          serials := by
      unfold restoreSerial at hserial
      split at hserial
      · next hnone =>
        obtain rfl := Except.ok.inj hserial
        exact ⟨db₂.serials, rfl, by rw [hdb₂]; exact .without hnone⟩
      · next serialId hid =>
        simp only [bind_eq_ok, found_eq_ok, Except.ok.injEq] at hserial
        obtain ⟨serial, hrow, rfl⟩ := hserial
        rw [hdb₂] at hrow ⊢
        exact ⟨_, rfl, .changed hid hrow trivial⟩
    obtain ⟨serials, rfl, hchanged⟩ := hrest
    refine .inr ⟨original, _, rfl, {
      found := horiginal
      unreversed := fun other hother heq => hfresh ⟨other, hother, heq⟩
      reversible := hreversible
      last := hlast
      issue := checkReversible_spec hguard
      row := rfl
      movement := ⟨by rw [hdb₂], by rw [hdb₂]; exact hinserted, hmoves, by rw [hdb₂]; rfl⟩
      serials := hchanged
      reservations := by rw [hdb₂]
      aside := by rw [hdb₂]; exact ⟨rfl, rfl, rfl⟩ }⟩

end Cestos.Inventory
