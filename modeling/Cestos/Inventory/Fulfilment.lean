import Cestos.Inventory.Requests

/-!
# Fulfilment

A line that is posted writes its own document and its own line, and an issue that names a
request also draws on that request. So in every run the counters of a request count what its
issues have taken out, and its status follows.
-/

namespace Cestos.Inventory

open Cestos.Core Cestos.Core.Decimal

/-! ## Posting -/

/-- What a posted line that draws on no request did to documents, lines and transactions. -/
structure Filed (m : Move) (db db' : Database) : Prop where
  documents : db'.documents = db.documents ∨
    ∃ doc : Document, doc.id = m.doc.id ∧ doc.header = m.doc.header ∧
      db'.documents = db.documents.set doc
  lines : db'.lines = db.lines ∨
    ∃ line : Line, line.id = m.line.id ∧ line.documentId = m.line.documentId ∧
      db'.lines = db.lines.set line
  transactions : db'.transactions = db.transactions ∨
    ∃ tx : Transaction, db.transactions.insert? tx = some db'.transactions ∧
      (tx.type = .issue → tx.referenceId = m.doc.id ∧ m.doc.requestId = none)

/-- What an issue line that draws on a request did to them, before the costs of the line are
written. -/
structure Drawn (m : Move) (db : Database) (request request' : Document) (reqline reqline' : Line)
    (tx : Transaction) (db' : Database) : Prop where
  names : m.doc.requestId = some request.id
  found : db.document .requests request.id = some request
  line : reqline ∈ db.linesOf request.id
  item : reqline.itemId = m.item.id
  within : reqline.quantityIssued + m.q ≤ reqline.quantityApproved.getD 0
  counts : reqline' = { reqline with quantityIssued := reqline.quantityIssued + m.q }
  lines : db'.lines = db.lines.set reqline'
  status : request' = { request with status := requestStatus (db'.linesOf request.id) }
  documents : db'.documents = db.documents.set request'
  inserted : db.transactions.insert? tx = some db'.transactions
  type : tx.type = .issue
  itemId : tx.itemId = m.line.itemId
  quantity : tx.quantity = m.q
  reference : tx.referenceId = m.doc.id

section Posting

variable {ctx : Context 28 12} {env : Env} {db db' : Database} {doc : Document} {line : Line}
  {kind : DocumentKind} {act : Action} {m : Move} {tx : Transaction}

theorem Filed.of_finish {s : Database} {transactions : Table Transaction.id} {q cost : ℚ}
    (hfinish : finishLine ctx s m.line q cost = .ok db') (hlines : s.lines = db.lines)
    (hdocuments : s.documents = db.documents ∨ ∃ doc : Document, doc.id = m.doc.id ∧
      doc.header = m.doc.header ∧ s.documents = db.documents.set doc)
    (htransactions : s.transactions = transactions)
    (hinsert : db.transactions.insert? tx = some transactions)
    (hissue : tx.type = .issue → tx.referenceId = m.doc.id ∧ m.doc.requestId = none) :
    Filed m db db' := by
  obtain ⟨unitCost, totalCost, rfl⟩ := finishLine_eq_ok hfinish
  refine ⟨hdocuments, .inr ⟨{ m.line with unitCost, totalCost }, rfl, rfl, ?_⟩,
    .inr ⟨tx, htransactions ▸ hinsert, hissue⟩⟩
  rw [← hlines]

theorem Records.no_issue {items : Table Item.id} {origin : Origin} {entry : Entry}
    {txkind : TransactionType} {cost q : ℚ} {P : Prop}
    (h : Records ctx env items origin entry txkind cost q tx) (htype : txkind ≠ .issue) :
    tx.type = .issue → P := fun hissue => absurd (h.type.symm.trans hissue) htype

theorem adjust_filed {txkind : TransactionType} {delta q : ℚ} (htype : txkind ≠ .issue)
    (h : adjust ctx env db m txkind delta q = .ok db') : Filed m db db' := by
  simp only [adjust, bind_eq_ok, ensure_eq_ok, exists_const, Prod.exists] at h
  obtain ⟨tx, db₁, htx, _, db₂, heffect, _, hfinish⟩ := h
  obtain ⟨hrecords, transactions, hinserted, rfl⟩ := transaction_eq_ok htx
  obtain ⟨_, rfl⟩ := effect_eq_ok.1 heffect
  exact .of_finish hfinish rfl (.inl rfl) rfl hinserted.insert (hrecords.no_issue htype)

theorem postIssue_filed (hnone : m.doc.requestId = none)
    (h : postIssue ctx env db m = .ok db') : Filed m db db' := by
  simp only [postIssue, bind_eq_ok, ensure_eq_ok, exists_const, Prod.exists] at h
  obtain ⟨_, db₁, hcover, db₂, hrequest, tx, db₃, htx, db₄, heffect, db₅, hcustody, hfinish⟩ := h
  obtain ⟨reservations, _, rfl⟩ := coverReservation_eq_ok hcover
  unfold fulfilRequest at hrequest
  rw [hnone] at hrequest
  obtain rfl := Except.ok.inj hrequest
  obtain ⟨hrecords, transactions, hinserted, rfl⟩ := transaction_eq_ok htx
  obtain ⟨_, rfl⟩ := effect_eq_ok.1 heffect
  obtain ⟨custody, _, rfl⟩ := recordCustody_eq_ok hcustody
  exact .of_finish hfinish rfl (.inl rfl) rfl hinserted.insert fun _ =>
    ⟨hrecords.referenceId, hnone⟩

theorem postIssue_drawn {requestId : Id} (hrequestId : m.doc.requestId = some requestId)
    (h : postIssue ctx env db m = .ok db') :
    ∃ request request' reqline reqline' tx s, Drawn m db request request' reqline reqline' tx s ∧
      db'.documents = s.documents ∧ db'.transactions = s.transactions ∧ ∃ line : Line,
        line.id = m.line.id ∧ line.documentId = m.line.documentId ∧
          db'.lines = s.lines.set line := by
  simp only [postIssue, bind_eq_ok, ensure_eq_ok, exists_const, Prod.exists] at h
  obtain ⟨_, db₁, hcover, db₂, hfulfil, tx, db₃, htx, db₄, heffect, db₅, hcustody, hfinish⟩ := h
  obtain ⟨reservations, _, rfl⟩ := coverReservation_eq_ok hcover
  unfold fulfilRequest at hfulfil
  rw [hrequestId] at hfulfil
  simp only [bind_eq_ok, found_eq_ok, orError_eq_ok, ensure_eq_ok, exists_const,
    Except.ok.injEq] at hfulfil
  obtain ⟨request, hrequest, _, _, reqline, hreqline, hwithin, rfl⟩ := hfulfil
  obtain rfl : request.id = requestId :=
    Table.key_of_find? (Database.document_eq_some.1 hrequest).1
  obtain ⟨hrecords, transactions, hinserted, rfl⟩ := transaction_eq_ok htx
  obtain ⟨_, rfl⟩ := effect_eq_ok.1 heffect
  obtain ⟨custody, _, rfl⟩ := recordCustody_eq_ok hcustody
  obtain ⟨unitCost, totalCost, rfl⟩ := finishLine_eq_ok hfinish
  refine ⟨request, _, reqline, _, tx, { db with
    lines := db.lines.set { reqline with quantityIssued := reqline.quantityIssued + m.q }
    documents := db.documents.set { request with
      status := requestStatus (({ db with
        lines := db.lines.set { reqline with
          quantityIssued := reqline.quantityIssued + m.q } } : Database).linesOf request.id) }
    transactions }, {
    names := hrequestId
    found := hrequest
    line := List.mem_of_find?_eq_some hreqline
    item := by simpa using List.find?_some hreqline
    within := hwithin
    counts := rfl
    lines := rfl
    status := rfl
    documents := rfl
    inserted := hinserted.insert
    type := hrecords.type
    itemId := hrecords.itemId
    quantity := hrecords.quantity
    reference := hrecords.referenceId }, rfl, rfl, { m.line with unitCost, totalCost }, rfl, rfl,
    rfl⟩

theorem postMove_filed (hplain : kind = .issues → m.doc.requestId = none)
    (h : postMove ctx env db kind act m = .ok db') : Filed m db db' := by
  cases kind with
  | receipts =>
      simp only [postMove, postReceipt, bind_eq_ok, orError_eq_ok, Prod.exists] at h
      obtain ⟨unitCost, _, tx, db₁, htx, db₂, heffect, hfinish⟩ := h
      obtain ⟨hrecords, transactions, hinserted, rfl⟩ := transaction_eq_ok htx
      obtain ⟨_, rfl⟩ := effect_eq_ok.1 heffect
      exact .of_finish hfinish rfl (.inl rfl) rfl hinserted.insert
        (hrecords.no_issue (receiptType_ne_issue m.doc.purpose))
  | issues => exact postIssue_filed (hplain rfl) h
  | returns =>
      simp only [postMove, postReturn, bind_eq_ok, orError_eq_ok, found_eq_ok, ensure_eq_ok,
        exists_const, Prod.exists] at h
      obtain ⟨issueId, _, original, _, _, _, tx, db₁, htx, db₂, heffect, _, db₃, hcustody,
        hfinish⟩ := h
      obtain ⟨hrecords, transactions, hinserted, rfl⟩ := transaction_eq_ok htx
      obtain ⟨_, rfl⟩ := effect_eq_ok.1 heffect
      obtain ⟨custody, _, rfl⟩ := returnCustody_eq_ok hcustody
      exact .of_finish hfinish rfl (.inr ⟨m.doc.recipientOf original, rfl, rfl, rfl⟩) rfl
        hinserted.insert (hrecords.no_issue (by decide))
  | transfers =>
      cases act with
      | dispatch =>
          simp only [postMove, postDispatch, bind_eq_ok, Prod.exists] at h
          obtain ⟨tx, db₁, htx, db₂, heffect, hfinish⟩ := h
          obtain ⟨hrecords, transactions, hinserted, rfl⟩ := transaction_eq_ok htx
          obtain ⟨_, rfl⟩ := effect_eq_ok.1 heffect
          exact .of_finish hfinish rfl (.inl rfl) rfl hinserted.insert
            (hrecords.no_issue (by decide))
      | receive =>
          simp only [postMove, postReceive, bind_eq_ok, orError_eq_ok, Prod.exists] at h
          obtain ⟨_, _, dispatched, _, tx, db₁, htx, store, _, db₂, hdepart, db₃, harrive,
            hfinish⟩ := h
          obtain ⟨hrecords, transactions, hinserted, rfl⟩ := transaction_eq_ok htx
          obtain ⟨_, rfl⟩ := effect_eq_ok.1 hdepart
          obtain ⟨_, rfl⟩ := effect_eq_ok.1 harrive
          exact .of_finish hfinish rfl (.inl rfl) rfl hinserted.insert
            (hrecords.no_issue (by decide))
      | _ => cases h
  | requests => cases h
  | adjustments =>
      simp only [postMove, postAdjustment, bind_eq_ok, orError_eq_ok, ensure_eq_ok,
        exists_const] at h
      obtain ⟨_, _, _, txkind, htxkind, hadjust⟩ := h
      exact adjust_filed (adjustmentType_ne_issue htxkind) hadjust
  | stockCounts =>
      simp only [postMove, postCount, bind_eq_ok, orError_eq_ok, ensure_eq_ok, exists_const] at h
      obtain ⟨_, _, _, counted, _, hrest⟩ := h
      split at hrest
      · obtain rfl := Except.ok.inj hrest
        exact ⟨.inl rfl, .inl rfl, .inl rfl⟩
      · exact adjust_filed (by decide) hrest

/-- The document and the line of a move, in a database. -/
structure Addressed (db : Database) (m : Move) : Prop where
  document : ∃ stored, db.documents.find? m.doc.id = some stored ∧ stored.header = m.doc.header
  kind : m.doc.kind ≠ .requests
  owner : m.line.documentId = m.doc.id
  line : ∀ old, db.lines.find? m.line.id = some old → old.documentId = m.doc.id

theorem Prepared.addressed {mid : Database} (h : Prepared ctx env db kind doc line act m mid)
    (hcurrent : Current db kind doc line) (hkind : kind ≠ .requests) : Addressed mid m := by
  obtain ⟨lots, serials, rfl⟩ := h.frame
  obtain ⟨hid, hcore⟩ := h.line
  obtain ⟨stored, hstored, hheader, -⟩ := hcurrent.find?
  have howner : m.line.documentId = doc.id :=
    (congrArg LineCore.documentId hcore).trans hcurrent.owner
  rw [← h.document] at hstored hheader howner
  refine ⟨⟨stored, hstored, hheader⟩, ?_, howner, fun old hold => ?_⟩
  · rw [h.document, hcurrent.kind]
    exact hkind
  · have hmap := hcurrent.core
    rw [← hid, show db.lines.find? m.line.id = some old from hold, ← hcore] at hmap
    exact (congrArg LineCore.documentId (Option.some.inj hmap)).trans howner

theorem Addressed.touch {s : Database} (haddressed : Addressed db m) (hkept : RequestsKept db)
    (hdocuments : s.documents = db.documents ∨ ∃ doc : Document, doc.id = m.doc.id ∧
      doc.header = m.doc.header ∧ s.documents = db.documents.set doc)
    (hlines : s.lines = db.lines ∨ ∃ line : Line, line.id = m.line.id ∧
      line.documentId = m.line.documentId ∧ s.lines = db.lines.set line)
    (hsame : s.transactions = db.transactions) :
    RequestsKept s ∧ ∃ stored, s.documents.find? m.doc.id = some stored ∧
      stored.header = m.doc.header := by
  obtain ⟨stored, hstored, hheader⟩ := haddressed.document
  have hdoc : ∃ stored', s.documents.find? m.doc.id = some stored' ∧
      stored'.header = m.doc.header := by
    rcases hdocuments with heq | ⟨doc, hid, hdocHeader, heq⟩
    · exact ⟨stored, by rw [heq]; exact hstored, hheader⟩
    · refine ⟨doc, ?_, hdocHeader⟩
      rw [heq, ← hid]
      exact Table.find?_set_self (hid ▸ hstored)
  obtain ⟨stored', hstored', hheader'⟩ := hdoc
  have hnone : ∀ {t : Database} {row : Document}, t.documents.find? m.doc.id = some row →
      row.header = m.doc.header → t.document .requests m.doc.id = none := fun hfind hsameHeader =>
    document_eq_none hfind fun hkind =>
      haddressed.kind ((congrArg Header.kind hsameHeader).symm.trans hkind)
  refine ⟨hkept.touch m.doc.id ⟨fun k hk => ?_, fun line hline => ?_, fun _ => ?_⟩ hsame
    ⟨stored', hstored'⟩ (fun request hrequest => ?_) fun request hrequest => ?_, stored', hstored',
    hheader'⟩
  · rcases hdocuments with heq | ⟨doc, hid, -, heq⟩
    · rw [heq]
    · rw [heq]
      exact Table.find?_set_ne (hid ▸ Ne.symm hk)
  · rcases hlines with heq | ⟨line', hid, hdocument, heq⟩
    · rw [heq]
    · rw [heq]
      refine mem_set_other (fun old hold => ?_) ?_
      · rw [hdocument, haddressed.owner]
        exact haddressed.line old (hid ▸ hold)
      · rw [hdocument, haddressed.owner]
        exact hline
  · rw [hstored, hstored', Option.map_some, Option.map_some, hheader, hheader']
  · rw [hnone hstored hheader] at hrequest
    cases hrequest
  · rw [hnone hstored' hheader'] at hrequest
    cases hrequest

theorem RequestsKept.filed (hkept : RequestsKept db) (haddressed : Addressed db m)
    (hfiled : Filed m db db') : RequestsKept db' := by
  obtain ⟨hmid, stored, hstored, hheader⟩ := haddressed.touch
    (s := { db with documents := db'.documents, lines := db'.lines }) hkept hfiled.documents
    hfiled.lines rfl
  rcases hfiled.transactions with hsame | ⟨tx, hinsert, hissue⟩
  · exact (haddressed.touch hkept hfiled.documents hfiled.lines hsame).1
  · refine hmid.insert rfl rfl hinsert rfl fun requestId hdraws => ?_
    obtain ⟨href, hnone⟩ := hissue hdraws.1
    obtain ⟨issue, hfound, hnames⟩ := (Option.any_eq_true _ _).1 hdraws.2
    rw [href] at hfound
    obtain ⟨hfind, -⟩ := Database.document_eq_some.1 hfound
    obtain rfl : stored = issue := Option.some.inj (hstored.symm.trans hfind)
    have hsame : stored.requestId = none := (congrArg Header.requestId hheader).trans hnone
    rw [hsame] at hnames
    simp at hnames

theorem RequestsKept.issue {request request' : Document} {reqline reqline' : Line}
    {s : Database}
    (hkept : RequestsKept db) (haddressed : Addressed db m) (hissues : m.doc.kind = .issues)
    (hpos : 0 < m.q) (hitem : m.line.itemId = m.item.id)
    (hdrawn : Drawn m db request request' reqline reqline' tx s) : RequestsKept s ∧ Addressed s m := by
  obtain ⟨stored, hstored, hheader⟩ := haddressed.document
  have hstoredKind : stored.kind = .issues := (congrArg Header.kind hheader).trans hissues
  have hother : request.id ≠ m.doc.id := by
    intro heq
    obtain ⟨hfind, hkind⟩ := Database.document_eq_some.1 hdrawn.found
    rw [heq, hstored] at hfind
    rw [← Option.some.inj hfind, hstoredKind] at hkind
    cases hkind
  refine ⟨hkept.draw hdrawn.found hdrawn.line hpos hdrawn.within hdrawn.counts
    hdrawn.lines hdrawn.status hdrawn.documents hdrawn.inserted rfl hdrawn.type ?_ hdrawn.quantity fun k => ?_,
    ⟨stored, ?_, hheader⟩, haddressed.kind, haddressed.owner, fun old hold => ?_⟩
  · rw [hdrawn.itemId, hitem, hdrawn.item]
  · have hnames : stored.requestId = some request.id :=
      (congrArg Header.requestId hheader).trans hdrawn.names
    rw [hdrawn.reference, Database.document_eq_some.2 ⟨hstored, hstoredKind⟩, Option.any_some,
      decide_eq_true_eq, hnames, Option.some.injEq, eq_comm]
  · have hid : request'.id = request.id := by rw [hdrawn.status]
    rw [hdrawn.documents]
    exact (Table.find?_set_ne (hid ▸ hother)).trans hstored
  · obtain ⟨hmem, hown⟩ := Database.mem_linesOf.1 hdrawn.line
    have hrow' : reqline'.id = reqline.id := by rw [hdrawn.counts]
    rw [hdrawn.lines] at hold
    rcases Table.mem_set.1 (Table.mem_of_find? hold) with ⟨hrow, -⟩ | ⟨rfl, -⟩
    · exact haddressed.line old (Table.key_of_find? hold ▸ Table.find?_of_mem hrow)
    · -- the line of the move is no line of the request
      have hid : reqline.id = m.line.id := hrow'.symm.trans (Table.key_of_find? hold)
      exact absurd (hown.symm.trans (haddressed.line reqline (hid ▸ Table.find?_of_mem hmem)))
        hother

theorem RequestsKept.postLine (hkept : RequestsKept db) (hcurrent : Current db kind doc line)
    (hkind : kind ≠ .requests) (h : postLine ctx env db kind doc line act = .ok db') :
    RequestsKept db' := by
  obtain ⟨m, mid, hprepared, hmove⟩ := postLine_prepared h
  have haddressed := hprepared.addressed hcurrent hkind
  have hmid : RequestsKept mid := by
    obtain ⟨lots, serials, rfl⟩ := hprepared.frame
    exact ⟨hkept.owned, hkept.distinct, hkept.drawn, fun id request hrequest =>
      (hkept.fulfilment id request hrequest).congr (fun _ => Iff.rfl) fun _ => rfl⟩
  cases hrequest : m.doc.requestId with
  | none => exact hmid.filed haddressed (postMove_filed (fun _ => hrequest) hmove)
  | some requestId =>
      by_cases hissues : kind = .issues
      · subst hissues
        obtain ⟨request, request', reqline, reqline', tx, s, hdrawn, hdocuments, htransactions, hline⟩ :=
          postIssue_drawn hrequest hmove
        have hitem : m.line.itemId = m.item.id :=
          (congrArg LineCore.itemId hprepared.line.2).trans (Table.key_of_find? hprepared.item).symm
        obtain ⟨hs, haddressed'⟩ := hmid.issue haddressed
          (hprepared.document ▸ hcurrent.kind) hprepared.positive hitem hdrawn
        exact (haddressed'.touch hs (.inl hdocuments) (.inr hline) htransactions).1
      · exact hmid.filed haddressed (postMove_filed (fun heq => absurd heq hissues) hmove)

theorem RequestsKept.postDocument (hkept : RequestsKept db)
    (hdoc : db.document kind doc.id = some doc)
    (h : postDocument ctx env db kind doc act = .ok db') : RequestsKept db' := by
  simp only [Inventory.postDocument, bind_eq_ok, ensure_eq_ok, exists_const, found_eq_ok,
    Except.ok.injEq] at h
  obtain ⟨hkind, -, -, -, -, -, s, hlines, posted, hposted, rfl⟩ := h
  obtain ⟨hfindDoc, hdocKind⟩ := Database.document_eq_some.1 hdoc
  have hs : RequestsKept s := postLines_inv hkind (linesOf_nodup db doc.id)
    (fun line hline => linesOf_current hfindDoc hdocKind hline)
    (fun _ _ _ _ hcurrent hbefore => hbefore.postLine hcurrent hkind) hkept hlines
  obtain ⟨hfind, hpostedKind⟩ := Database.document_eq_some.1 hposted
  have hid : posted.id = doc.id := Table.key_of_find? hfind
  have hother : posted.kind ≠ .requests := hpostedKind ▸ hkind
  exact hs.decided (hid.symm ▸ hfind) (Revised.refl s posted.id) rfl rfl
    (fun hrequest => absurd hrequest hother) fun hrequest => absurd hrequest hother

end Posting

/-! ## Operations and runs -/

section Runs

variable {ctx : Context 28 12} {env : Env} {db db' : Database} {kind : DocumentKind} {id : Id}

/-- Requests depend on documents, lines and transactions only. -/
theorem RequestsKept.congr (h : RequestsKept db) (hdocuments : db'.documents = db.documents)
    (hlines : db'.lines = db.lines) (hsame : db'.transactions = db.transactions) :
    RequestsKept db' := by
  cases db
  cases db'
  cases hdocuments
  cases hlines
  cases hsame
  exact ⟨h.owned, h.distinct, h.drawn, fun id request hrequest =>
    (h.fulfilment id request hrequest).congr (fun _ => Iff.rfl) fun _ => rfl⟩

theorem RequestsKept.moved {tx : Transaction} {entries : List LedgerEntry} (h : RequestsKept db)
    (hmovement : Movement ctx db tx entries db') (haside : Aside db db') (htype : tx.type ≠ .issue) :
    RequestsKept db' :=
  h.insert haside.documents haside.lines hmovement.inserted.insert rfl fun _ hdraws =>
    htype hdraws.1

theorem RequestsKept.action {act : Action} {body : ActionBody} (hkept : RequestsKept db)
    (h : action ctx env db kind id act body = .ok db') : RequestsKept db' := by
  simp only [Inventory.action, bind_eq_ok, found_eq_ok] at h
  obtain ⟨doc, hfound, h⟩ := h
  obtain ⟨hfind, hkind⟩ := Database.document_eq_some.1 hfound
  obtain rfl : doc.id = id := Table.key_of_find? hfind
  split at h
  · obtain rfl := Except.ok.inj h
    exact hkept
  · cases act with
    | cancel => exact hkept.cancel hfind h
    | reject => exact hkept.reject hfind h
    | submit => exact hkept.submit hfind h
    | start => exact hkept.start hfind hkind h
    | restart => exact hkept.start hfind hkind h
    | approve => exact hkept.approve hfind hkind h
    | post => exact hkept.postDocument hfound h
    | dispatch => exact hkept.postDocument hfound h
    | receive => exact hkept.postDocument hfound h

theorem RequestsKept.requestIssue {storeId issueId : Id} (hkept : RequestsKept db)
    (hsettled : Settled db) (h : requestIssue ctx env db id storeId = .ok (issueId, db')) :
    RequestsKept db' := by
  simp only [Inventory.requestIssue, bind_eq_ok] at h
  obtain ⟨_, _, _, _, h⟩ := h
  split at h
  · simp only [Except.ok.injEq, Prod.mk.injEq] at h
    exact h.2 ▸ hkept
  · simp only [bind_eq_ok] at h
    obtain ⟨_, _, _, _, h⟩ := h
    split at h
    · exact hkept.save hsettled h
    · cases h

theorem RequestsKept.exec {op : Operation} (hkept : RequestsKept db) (hsettled : Settled db)
    (h : exec ctx env db op = .ok db') : RequestsKept db' := by
  cases op with
  | masters references =>
      obtain rfl := Except.ok.inj h
      exact hkept.congr rfl rfl rfl
  | itemSave identifier body =>
      obtain ⟨-, items, rfl⟩ := itemSave_bookkeeping h
      exact hkept.congr rfl rfl rfl
  | archive id restore =>
      obtain ⟨-, items, rfl⟩ := archive_bookkeeping h
      exact hkept.congr rfl rfl rfl
  | documentSave kind identifier body =>
      simp only [Inventory.exec, bind_eq_ok, Prod.exists, Except.ok.injEq] at h
      obtain ⟨id, last, hsave, rfl⟩ := h
      exact hkept.save hsettled hsave
  | requestIssue id storeId =>
      simp only [Inventory.exec, bind_eq_ok, Prod.exists, Except.ok.injEq] at h
      obtain ⟨issueId, last, hissue, rfl⟩ := h
      exact hkept.requestIssue hsettled hissue
  | action kind id act body =>
      simp only [Inventory.exec, bind_eq_ok, ensure_eq_ok, exists_const] at h
      exact hkept.action h.2
  | reserve body =>
      obtain ⟨item, tx, hposted⟩ := reserve_spec h
      exact hkept.moved hposted.movement hposted.aside (by rw [hposted.records.type]; decide)
  | release id cancel =>
      rcases release_spec h with rfl | ⟨row, tx, -, hposted⟩
      · exact hkept
      · exact hkept.moved hposted.movement hposted.aside (by rw [hposted.records.type]; decide)
  | reverse id =>
      rcases reverse_spec h with ⟨rfl, -⟩ | ⟨original, tx, -, hposted⟩
      · exact hkept
      · have htype : tx.type ≠ .issue := by
          rw [hposted.row]
          show TransactionType.reversal ≠ .issue
          decide
        exact hkept.moved hposted.movement hposted.aside htype

/-- In every state of a run each request line is within its approval, counts what was issued
for it, and the status of the request follows from the counters. -/
theorem requests_fulfilled (h : Reachable ctx db) :
    ∀ request ∈ db.documents.rows, request.kind = .requests → Fulfilment db request := by
  have hkept : Settled db ∧ RequestsKept db := by
    induction h with
    | init h =>
        subst h
        exact ⟨settled_empty, requestsKept_empty⟩
    | request r _ hmeets hexec ih =>
        refine ⟨(operations_turns ih.1 hmeets hexec).2, ?_⟩
        refine (foldlM_inv (P := fun s => Settled s ∧ RequestsKept s)
          (fun s op s' _ hs hop => ?_) ih hexec).2
        exact ⟨exec_settled hs.1 hop, hs.2.exec hs.1 hop⟩
  intro request hrequest hkind
  exact hkept.2.fulfilment request.id request
    (Database.document_eq_some.2 ⟨Table.find?_of_mem hrequest, hkind⟩)

end Runs

/-- Three units are requested and one of them is issued. -/
def Sample.requested : List Request :=
  Sample.received ++ [
    ⟨Sample.env 3, [.documentSave .requests none (Sample.document (Sample.line Sample.three)),
      .action .requests 2 .submit {}, .action .requests 2 .approve {}]⟩,
    Sample.approveNew 4 .issues 3 .post
      { Sample.document (Sample.line Sample.one) with requestId := some 2 }]

theorem requests_fulfilled_requested :
    ∃ request ∈ (serveAll pythonContext .empty Sample.requested).documents.rows,
      request.status = .partiallyIssued ∧
        Fulfilment (serveAll pythonContext .empty Sample.requested) request := by
  have hrequest : ∃ request ∈ (serveAll pythonContext .empty Sample.requested).documents.rows,
      request.kind = .requests ∧ request.status = .partiallyIssued := by decide +kernel
  obtain ⟨request, hmem, hkind, hstatus⟩ := hrequest
  exact ⟨request, hmem, hstatus,
    requests_fulfilled (reachable_serveAll pythonContext Sample.requested) request hmem hkind⟩

end Cestos.Inventory
