import Cestos.Inventory.Worth

/-!
# Sequential runs

In a sequential run every request is later than those before it, and it is an operation on its
own, an import or a consumption log. No request mixes receipts with other movements, so the
receipts that can be reversed are those of the last request that moved the item.
-/

namespace Cestos.Inventory

open Cestos.Core Cestos.Core.Decimal

/-! ## Operations -/

/-- The standard costs of items are not negative. -/
def Database.Standard (db : Database) : Prop :=
  ∀ item ∈ db.items.rows, ∀ cost ∈ item.standardUnitCost, 0 ≤ cost

structure Accounted (db : Database) : Prop where
  balanced : Balanced db
  journal : Journal exactContext db
  worth : Worth db
  priced : db.Priced
  standard : db.Standard

/-- The call is of the kind that its request makes, with a line as the database has it. -/
def Call.Fits (receiving : Bool) : Call → Prop
  | .postLine kind _ line _ => decide (kind = .receipts) = receiving ∧ Priced line
  | _ => receiving = false

/-- The operation is of a kind that a request which receives, or one which does not, makes. -/
def Operation.Fits (receiving : Bool) : Operation → Prop
  | .action kind _ _ _ => decide (kind = .receipts) = receiving
  | .reserve _ | .release _ _ | .reverse _ => receiving = false
  | _ => True

section Operations

variable {env : Env} {db db' : Database} {receiving : Bool} {kind : DocumentKind}
  {doc : Document} {line : Line} {act : Action} {body : ActionBody} {id : Id}

theorem Worth.congr (h : Worth db) (htransactions : db'.transactions = db.transactions)
    (hbalances : db'.balances = db.balances) (hledger : db'.ledger = db.ledger) : Worth db' := by
  cases db
  cases db'
  cases htransactions
  cases hbalances
  cases hledger
  exact ⟨h.sound, h.grid, h.costs, h.taken, h.undoable⟩

theorem Stage.congr {now : Instant} (h : Stage now receiving db)
    (htransactions : db'.transactions = db.transactions) : Stage now receiving db' := by
  obtain ⟨hupto, hunmixed⟩ := h
  rw [← htransactions] at hupto hunmixed
  exact ⟨hupto, hunmixed⟩

theorem Prepared.ready {m : Move} {mid : Database} (h : Accounted db) (hline : Priced line)
    (hprepared : Prepared exactContext env db kind doc line act m mid) : Ready mid m := by
  have hitem : m.item ∈ db.items.rows := Table.mem_of_find? hprepared.item
  have hid := hprepared.itemId
  have hnormalized : m.line.normalizedQuantity = m.q :=
    (congrArg LineCore.normalizedQuantity hprepared.line.2).trans hprepared.quantity.symm
  have hpriced : Priced m.line := by
    by_cases hkind : kind = .receipts
    · obtain ⟨lotId, serialId, hentry⟩ := (hprepared.received hkind).entry
      rw [hentry]
      exact ⟨hline.quantity, hline.unitCost⟩
    · rw [(hprepared.plain hkind).1]
      exact hline
  have hcost := hprepared.cost
  obtain ⟨lots, serials, rfl⟩ := hprepared.frame
  exact {
    steady := h.balanced.steady
    sound := h.worth.sound
    costs := fun tx htx => ⟨h.worth.costs tx htx, h.journal.positive tx htx⟩
    lines := h.priced
    line := hpriced
    positive := hprepared.positive
    grid := hprepared.grid
    normalized := hnormalized
    item := hid
    cost := hcost
    standard := h.standard m.item hitem }

/-- A call that returned did nothing but to lots and serials, or it wrote a movement. -/
theorem Call.worked {c : Call} (h : Accounted db) (hvalid : c.Valid db) (hfits : c.Fits receiving)
    (hrun : c.run exactContext env db = .ok db') :
    (db'.Priced ∧ db'.transactions = db.transactions ∧ db'.balances = db.balances ∧
      db'.ledger = db.ledger ∧ db'.items = db.items) ∨
    ∃ tx entries, Worked env db receiving tx entries db' := by
  cases c with
  | postLine kind doc line act =>
      obtain ⟨m, mid, hprepared, hmove⟩ := postLine_prepared hrun
      have hready := hprepared.ready h hfits.2
      obtain ⟨lots, serials, rfl⟩ := hprepared.frame
      rcases postMove_worked hready hmove with rfl | ⟨tx, entries, hworked⟩
      · exact .inl ⟨h.priced, rfl, rfl, rfl, rfl⟩
      · have hmovement := hworked.movement
        exact .inr ⟨tx, entries, {
          movement := ⟨hmovement.items, hmovement.inserted, hmovement.moves, hmovement.ledger⟩
          valued := hworked.valued
          createdAt := hworked.createdAt
          receives := hworked.receives.trans hfits.1
          lines := hworked.lines }⟩
  | reserve body =>
      obtain rfl : receiving = false := hfits
      obtain ⟨item, tx, hposted⟩ := reserve_spec hrun
      exact .inr ⟨tx, hposted.worked h.priced⟩
  | release id cancel =>
      obtain rfl : receiving = false := hfits
      rcases release_spec hrun with rfl | ⟨row, tx, -, hposted⟩
      · exact .inl ⟨h.priced, rfl, rfl, rfl, rfl⟩
      · exact .inr ⟨tx, hposted.worked h.priced⟩
  | reverse id =>
      obtain rfl : receiving = false := hfits
      rcases reverse_spec hrun with ⟨rfl, -⟩ | ⟨original, tx, -, hposted⟩
      · exact .inl ⟨h.priced, rfl, rfl, rfl, rfl⟩
      · exact .inr ⟨tx, hposted.worked h.worth h.journal h.priced⟩

theorem Accounted.call {c : Call} (h : Accounted db) (hstage : Stage env.now receiving db)
    (hvalid : c.Valid db) (hfits : c.Fits receiving)
    (hrun : c.run exactContext env db = .ok db') :
    Accounted db' ∧ Stage env.now receiving db' := by
  have hturn : Turn exactContext env (fun _ _ _ => True) db db' := .call hvalid trivial hrun
  have hbalanced := h.balanced.turn hturn
  have hjournal := h.journal.turn hturn
  rcases Call.worked h hvalid hfits hrun with
    ⟨hlines, htransactions, hbalances, hledger, hitems⟩ | ⟨tx, entries, hworked⟩
  · refine ⟨⟨hbalanced, hjournal, h.worth.congr htransactions hbalances hledger, hlines, ?_⟩,
      hstage.congr htransactions⟩
    rw [Database.Standard, hitems]
    exact h.standard
  · obtain ⟨written, hmoved, hgrid⟩ :=
      (Call.posted hvalid hrun).onGrid h.balanced.steady h.balanced.reservations
    obtain rfl : written = entries :=
      List.append_cancel_left (hmoved.ledger.symm.trans hworked.movement.ledger)
    obtain ⟨hworth, hstage'⟩ :=
      h.worth.worked h.balanced h.journal.owned hstage hworked hgrid
    refine ⟨⟨hbalanced, hjournal, hworth, hworked.lines, ?_⟩, hstage'⟩
    rw [Database.Standard, hworked.movement.items]
    exact h.standard

theorem Accounted.bookkeeping (h : Accounted db) (hstage : Stage env.now receiving db)
    (hbook : Bookkeeping db db') (hlines : db'.Priced) (hitems : db'.Standard) :
    Accounted db' ∧ Stage env.now receiving db' := by
  have hturn : Turn exactContext env (fun _ _ _ => True) db db' := .bookkeeping hbook
  obtain ⟨htransactions, hbalances, hledger, -, -, -⟩ := hbook.stock
  exact ⟨⟨h.balanced.turn hturn, h.journal.turn hturn,
    h.worth.congr htransactions hbalances hledger, hlines, hitems⟩, hstage.congr htransactions⟩

theorem newLine_priced (env : Env) (db : Database) (id : Id) (incoming : LineBody) (q : ℚ) :
    Priced (newLine env db id incoming q) := by
  refine ⟨⟨incoming.quantity.2.1.le, incoming.quantity.2.2.2.1⟩, fun cost hcost => ?_⟩
  obtain ⟨amount, -, rfl⟩ := Option.map_eq_some_iff.1 (Option.mem_def.1 hcost)
  exact ⟨amount.2.1, amount.2.2.1⟩

theorem Accounted.saveLines {incoming : List LineBody} {documentBody : DocumentBody}
    {seen : List (Id × Option Id × Option Id × Option Id)} (h : Accounted db)
    (hstage : Stage env.now receiving db) (hdoc : ∃ doc, db.documents.find? id = some doc)
    (hsave : saveLines exactContext env kind documentBody id incoming seen db = .ok db') :
    Accounted db' ∧ Stage env.now receiving db' := by
  induction incoming generalizing seen db with
  | nil =>
      obtain rfl := Except.ok.inj hsave
      exact ⟨h, hstage⟩
  | cons entry rest ih =>
      simp only [Inventory.saveLines, bind_eq_ok, ensure_eq_ok, exists_const] at hsave
      obtain ⟨-, mid, hentry, hrest⟩ := hsave
      obtain ⟨hbook, lines, rfl⟩ := saveLine_bookkeeping hdoc hentry
      have hlines : ({ db with lines } : Database).Priced := by
        simp only [saveLine, bind_eq_ok, found_eq_ok, orError_eq_ok, ensure_eq_ok, exists_const,
          Except.ok.injEq, Database.mk.injEq, true_and, and_true] at hentry
        obtain ⟨_, -, item, -, q, -, -, -, -, _, hinsert, rfl⟩ := hentry
        intro row hrow
        rcases (Table.mem_insert? hinsert).1 hrow with hold | rfl
        · exact h.priced row hold
        · exact newLine_priced env db id entry q
      obtain ⟨hmid, hmidStage⟩ := h.bookkeeping hstage hbook hlines h.standard
      exact ih hmid hmidStage hdoc hrest

theorem saveHeader_priced {documentBody : DocumentBody} {identifier : Option Id} {row : Document}
    (h : db.Priced) (hsave : saveHeader env db kind documentBody identifier = .ok (row, db')) :
    db'.Priced ∧ db'.items = db.items := by
  cases identifier with
  | none =>
      simp only [saveHeader, bind_eq_ok, orError_eq_ok, Except.ok.injEq, Prod.mk.injEq] at hsave
      obtain ⟨documents, -, -, rfl⟩ := hsave
      exact ⟨h, rfl⟩
  | some id =>
      simp only [saveHeader, bind_eq_ok, found_eq_ok, ensure_eq_ok, exists_const,
        Except.ok.injEq, Prod.mk.injEq] at hsave
      obtain ⟨old, -, -, -, rfl⟩ := hsave
      exact ⟨fun line hline => h line (Table.mem_removeIf.1 hline).1, rfl⟩

theorem Accounted.documentSave {documentBody : DocumentBody} {identifier : Option Id}
    (h : Accounted db) (hstage : Stage env.now receiving db) (hsettled : Settled db)
    (hsave : documentSave exactContext env db kind documentBody identifier = .ok (id, db')) :
    Accounted db' ∧ Stage env.now receiving db' := by
  simp only [Inventory.documentSave, bind_eq_ok, Prod.exists, Except.ok.injEq,
    Prod.mk.injEq] at hsave
  obtain ⟨-, -, -, -, -, -, -, -, row, mid, hheader, last, hlines, -, rfl⟩ := hsave
  obtain ⟨hbook, hrow, -⟩ := saveHeader_bookkeeping hsettled hheader
  obtain ⟨hpriced, hitems⟩ := saveHeader_priced h.priced hheader
  obtain ⟨hmid, hmidStage⟩ :=
    h.bookkeeping hstage hbook hpriced (by rw [Database.Standard, hitems]; exact h.standard)
  exact hmid.saveLines hmidStage ⟨row, hrow⟩ hlines

/-- A loop that writes lines of a document with the amounts they had. -/
theorem lineLoop_priced {f : Database → Line → Outcome Database} {read : List Line}
    (h : db.Priced) (hread : ∀ line ∈ read, Priced line)
    (hf : ∀ s line s', f s line = .ok s' → ∃ line', s' = setLine s line' ∧
      line'.quantity = line.quantity ∧ line'.unitCost = line.unitCost)
    (hloop : read.foldlM f db = .ok db') : db'.Priced := by
  refine foldlM_inv (P := Database.Priced) (fun s line s' hline hs hstep => ?_) h hloop
  obtain ⟨line', rfl, hquantity, hunitCost⟩ := hf s line s' hstep
  obtain ⟨hold, hcost⟩ := hread line hline
  exact hs.set ⟨hquantity ▸ hold, hunitCost ▸ hcost⟩

theorem Database.Priced.linesOf (h : db.Priced) (id : Id) :
    ∀ line ∈ db.linesOf id, Inventory.Priced line := fun line hline =>
  h line (Database.mem_linesOf.1 hline).1

/-- An action that does not post leaves the amounts of all lines. -/
theorem Accounted.decided (h : Accounted db) (hstage : Stage env.now receiving db)
    (hdecided : Decided db doc db') (hlines : db'.Priced) :
    Accounted db' ∧ Stage env.now receiving db' := by
  obtain ⟨halike, lines, doc', rfl, -⟩ := hdecided
  have hbook : Bookkeeping db { db with lines, documents := db.documents.set doc' } :=
    Bookkeeping.of_alike ⟨rfl, rfl, rfl, rfl, rfl, rfl⟩ rfl halike
  exact h.bookkeeping hstage hbook hlines h.standard

theorem submitDocument_priced (h : db.Priced)
    (hsubmit : submitDocument db kind doc body = .ok db') : db'.Priced := by
  simp only [submitDocument, bind_eq_ok, ensure_eq_ok, exists_const, Except.ok.injEq] at hsubmit
  obtain ⟨-, s, hloop, rfl⟩ := hsubmit
  have hs : s.Priced := by
    refine lineLoop_priced h (fun line hline => ?_) (fun s line s' hstep => ?_) hloop
    · split at hline
      · exact h.linesOf doc.id line hline
      · cases hline
    · simp only [submitLine, bind_eq_ok, ensure_eq_ok, exists_const, Except.ok.injEq] at hstep
      obtain ⟨_, -, _, -, -, rfl⟩ := hstep
      exact ⟨_, rfl, rfl, rfl⟩
  exact hs

theorem startDocument_priced {restart : Bool} (h : db.Priced)
    (hstart : startDocument db kind doc restart body = .ok db') : db'.Priced := by
  simp only [startDocument, bind_eq_ok, ensure_eq_ok, exists_const, Except.ok.injEq] at hstart
  obtain ⟨-, -, s, hloop, rfl⟩ := hstart
  have hs : s.Priced := by
    refine lineLoop_priced h (h.linesOf doc.id) (fun s line s' hstep => ?_) hloop
    simp only [startLine, bind_eq_ok, Except.ok.injEq] at hstep
    obtain ⟨_, -, rfl⟩ := hstep
    exact ⟨_, rfl, rfl, rfl⟩
  exact hs

theorem approveDocument_priced (h : db.Priced)
    (happrove : approveDocument exactContext env db kind doc body = .ok db') : db'.Priced := by
  simp only [approveDocument, bind_eq_ok, ensure_eq_ok, exists_const, Except.ok.injEq] at happrove
  obtain ⟨-, s, hloop, rfl⟩ := happrove
  have hs : s.Priced := by
    refine lineLoop_priced h (fun line hline => ?_) (fun s line s' hstep => ?_) hloop
    · split at hline
      · exact h.linesOf doc.id line hline
      · cases hline
    · simp only [approveLine, bind_eq_ok, ensure_eq_ok, exists_const, Except.ok.injEq] at hstep
      obtain ⟨-, _, -, -, rfl⟩ := hstep
      exact ⟨_, rfl, rfl, rfl⟩
  exact hs

theorem Accounted.postDocument (h : Accounted db) (hstage : Stage env.now receiving db)
    (hroute : act ∈ actions kind) (hact : act ∈ [.post, .dispatch, .receive])
    (hkind : decide (kind = .receipts) = receiving)
    (hdoc : db.document kind doc.id = some doc)
    (hpost : postDocument exactContext env db kind doc act = .ok db') :
    Accounted db' ∧ Stage env.now receiving db' := by
  simp only [Inventory.postDocument, bind_eq_ok, ensure_eq_ok, exists_const, found_eq_ok,
    Except.ok.injEq] at hpost
  obtain ⟨hother, -, -, -, -, -, s, hlines, posted, hposted, rfl⟩ := hpost
  obtain ⟨hfindDoc, hdocKind⟩ := Database.document_eq_some.1 hdoc
  obtain ⟨hs, hsStage⟩ : Accounted s ∧ Stage env.now receiving s := by
    refine postLines_inv (P := fun s => Accounted s ∧ Stage env.now receiving s) hother
      (linesOf_nodup db doc.id) (fun line hline => linesOf_current hfindDoc hdocKind hline)
      (fun s line s' hline hcurrent hbefore hpostLine => ?_) ⟨h, hstage⟩ hlines
    exact hbefore.1.call (c := .postLine kind doc line act) hbefore.2 ⟨hcurrent, hroute, hact⟩
      ⟨hkind, h.priced.linesOf doc.id line hline⟩ hpostLine
  obtain ⟨hfind, -⟩ := Database.document_eq_some.1 hposted
  have hid : posted.id = doc.id := Table.key_of_find? hfind
  exact hs.bookkeeping hsStage (setStatus_bookkeeping (postedStatus act) (hid.symm ▸ hfind))
    hs.priced hs.standard

theorem Accounted.action (h : Accounted db) (hstage : Stage env.now receiving db)
    (hroute : act ∈ actions kind) (hkind : decide (kind = .receipts) = receiving)
    (hact : action exactContext env db kind id act body = .ok db') :
    Accounted db' ∧ Stage env.now receiving db' := by
  simp only [Inventory.action, bind_eq_ok, found_eq_ok] at hact
  obtain ⟨doc, hfound, hact⟩ := hact
  obtain ⟨hfind, -⟩ := Database.document_eq_some.1 hfound
  obtain rfl : doc.id = id := Table.key_of_find? hfind
  split at hact
  · obtain rfl := Except.ok.inj hact
    exact ⟨h, hstage⟩
  · cases act with
    | cancel =>
        refine h.decided hstage (cancelDocument_decided hfind hact) ?_
        simp only [cancelDocument, bind_eq_ok, ensure_eq_ok, exists_const,
          Except.ok.injEq] at hact
        obtain ⟨-, rfl⟩ := hact
        exact h.priced
    | reject =>
        refine h.decided hstage (rejectDocument_decided hfind hact) ?_
        simp only [rejectDocument, bind_eq_ok, ensure_eq_ok, exists_const,
          Except.ok.injEq] at hact
        obtain ⟨-, rfl⟩ := hact
        exact h.priced
    | submit =>
        exact h.decided hstage (submitDocument_decided hfind hact)
          (submitDocument_priced h.priced hact)
    | start =>
        exact h.decided hstage (startDocument_decided hfind hact)
          (startDocument_priced h.priced hact)
    | restart =>
        exact h.decided hstage (startDocument_decided hfind hact)
          (startDocument_priced h.priced hact)
    | approve =>
        exact h.decided hstage (approveDocument_decided hfind hact)
          (approveDocument_priced h.priced hact)
    | post => exact h.postDocument hstage hroute (by simp) hkind hfound hact
    | dispatch => exact h.postDocument hstage hroute (by simp) hkind hfound hact
    | receive => exact h.postDocument hstage hroute (by simp) hkind hfound hact

theorem itemSave_standard {itemBody : ItemBody} {identifier : Option Id} (h : db.Standard)
    (hsave : itemSave env db itemBody identifier = .ok db') : db'.Standard := by
  cases identifier with
  | none =>
      simp only [itemSave, checkItem, bind_eq_ok, orError_eq_ok, ensure_eq_ok, exists_const,
        Except.ok.injEq] at hsave
      obtain ⟨-, -, baseUnitId, -, ⟨hcost, -⟩, items, hinsert, rfl⟩ := hsave
      intro item hitem
      rcases (Table.mem_insert? hinsert).1 hitem with hold | rfl
      · exact h item hold
      · exact hcost
  | some id =>
      simp only [itemSave, checkItem, bind_eq_ok, found_eq_ok, ensure_eq_ok, exists_const,
        Except.ok.injEq] at hsave
      obtain ⟨old, -, -, -, -, -, ⟨hcost, -⟩, rfl⟩ := hsave
      intro item hitem
      rcases Table.mem_set.1 hitem with ⟨hold, -⟩ | ⟨rfl, -⟩
      · exact h item hold
      · exact hcost

theorem archive_standard {restore : Bool} (h : db.Standard)
    (harchive : archive db id restore = .ok db') : db'.Standard := by
  simp only [archive, bind_eq_ok, found_eq_ok, ensure_eq_ok, exists_const,
    Except.ok.injEq] at harchive
  obtain ⟨old, hold, -, rfl⟩ := harchive
  intro item hitem
  rcases Table.mem_set.1 hitem with ⟨hbefore, -⟩ | ⟨rfl, -⟩
  · exact h item hbefore
  · exact h old (Table.mem_of_find? hold)

theorem Accounted.exec {op : Operation} (h : Accounted db) (hstage : Stage env.now receiving db)
    (hsettled : Settled db) (hfits : op.Fits receiving)
    (hexec : exec exactContext env db op = .ok db') :
    Accounted db' ∧ Stage env.now receiving db' := by
  cases op with
  | masters references =>
      obtain rfl := Except.ok.inj hexec
      have hbook : Bookkeeping db { db with references } :=
        .of_alike ⟨rfl, rfl, rfl, rfl, rfl, rfl⟩ rfl (.of_eq rfl rfl)
      exact h.bookkeeping hstage hbook h.priced h.standard
  | itemSave identifier itemBody =>
      have hitems := itemSave_standard h.standard hexec
      obtain ⟨hbook, items, rfl⟩ := itemSave_bookkeeping hexec
      exact h.bookkeeping hstage hbook h.priced hitems
  | archive id restore =>
      have hitems := archive_standard h.standard hexec
      obtain ⟨hbook, items, rfl⟩ := archive_bookkeeping hexec
      exact h.bookkeeping hstage hbook h.priced hitems
  | documentSave kind identifier documentBody =>
      simp only [Inventory.exec, bind_eq_ok, Prod.exists, Except.ok.injEq] at hexec
      obtain ⟨id, last, hsave, rfl⟩ := hexec
      exact h.documentSave hstage hsettled hsave
  | requestIssue id storeId =>
      simp only [Inventory.exec, requestIssue, bind_eq_ok, Prod.exists, Except.ok.injEq] at hexec
      obtain ⟨issueId, last, ⟨_, -, _, -, hissue⟩, rfl⟩ := hexec
      split at hissue
      · simp only [Except.ok.injEq, Prod.mk.injEq] at hissue
        obtain ⟨-, rfl⟩ := hissue
        exact ⟨h, hstage⟩
      · simp only [bind_eq_ok] at hissue
        obtain ⟨_, -, _, -, hissue⟩ := hissue
        split at hissue
        · exact h.documentSave hstage hsettled hissue
        · cases hissue
  | action kind id act body =>
      simp only [Inventory.exec, bind_eq_ok, ensure_eq_ok, exists_const] at hexec
      exact h.action hstage hexec.1 hfits hexec.2
  | reserve body => exact h.call (c := .reserve body) hstage trivial hfits hexec
  | release id cancel => exact h.call (c := .release id cancel) hstage trivial hfits hexec
  | reverse id => exact h.call (c := .reverse id) hstage trivial hfits hexec

end Operations

/-! ## Runs -/

/-- What an import does: it saves items and other master data, or it saves receipts of opening
stock and posts them. -/
def Operation.imports : Operation → Prop
  | .masters _ | .itemSave _ _ => True
  | .documentSave kind _ _ => kind = .receipts
  | .action kind _ act _ => kind = .receipts ∧ act = .post
  | _ => False

/-- The requests there are. -/
inductive Routed : List Operation → Prop
  | single (op : Operation) : Routed [op]
  | imported {ops : List Operation} : (∀ op ∈ ops, op.imports) → Routed ops
  /-- A consumption log saves an issue and posts it. -/
  | consumption {body : DocumentBody} {id : Id} :
      Routed [.documentSave .issues none body, .action .issues id .post {}]

section Runs

variable {db db' : Database} {r : Request} {requests : List Request}

theorem Operation.imports.fits {op : Operation} (h : op.imports) : op.Fits true := by
  cases op with
  | action kind id act body => exact decide_eq_true h.1
  | masters _ | itemSave _ _ | documentSave _ _ _ => trivial
  | archive _ _ | requestIssue _ _ | reserve _ | release _ _ | reverse _ => exact h.elim

theorem Routed.fits {ops : List Operation} (h : Routed ops) :
    ∃ receiving, ∀ op ∈ ops, op.Fits receiving := by
  cases h with
  | single op =>
      cases op with
      | action kind id act body => exact ⟨decide (kind = .receipts), by simp [Operation.Fits]⟩
      | _ => exact ⟨false, by simp [Operation.Fits]⟩
  | imported h => exact ⟨true, fun op hop => (h op hop).fits⟩
  | consumption => exact ⟨false, by simp [Operation.Fits]⟩

theorem accounted_empty : Accounted .empty where
  balanced := Balanced.empty
  journal := Journal.empty exactContext
  worth := {
    sound := fun _ => ⟨le_rfl, fun _ => rfl⟩
    grid := fun _ _ _ => .zero 8
    costs := fun tx htx => by cases htx
    taken := fun tx htx => by cases htx
    undoable := fun tx htx => by cases htx }
  priced line hline := by cases hline
  standard item hitem := by cases hitem

/-- A request that is later than all movements keeps the accounts, and no movement is later
than the request then. -/
theorem Accounted.serve (h : Accounted db) (hsettled : Settled db)
    (hrouted : Routed r.operations) (hlater : ∀ tx ∈ db.transactions.rows, tx.createdAt < r.env.now) :
    Accounted (r.serve exactContext db) ∧ Settled (r.serve exactContext db) ∧
      ∀ tx ∈ (r.serve exactContext db).transactions.rows, tx.createdAt ≤ r.env.now := by
  unfold Request.serve
  split
  · next hexec =>
    obtain ⟨receiving, hfits⟩ := hrouted.fits
    have hstage : Stage r.env.now receiving db :=
      ⟨fun tx htx => (hlater tx htx).le, fun _ tx htx _ => hlater tx htx⟩
    obtain ⟨haccounted, hsettled', hstage'⟩ := foldlM_inv
      (P := fun s => Accounted s ∧ Settled s ∧ Stage r.env.now receiving s)
      (fun s op s' hop hs hstep => by
        obtain ⟨hafter, hafterStage⟩ := hs.1.exec hs.2.2 hs.2.1 (hfits op hop) hstep
        exact ⟨hafter, exec_settled hs.2.1 hstep, hafterStage⟩)
      ⟨h, hsettled, hstage⟩ hexec
    exact ⟨haccounted, hsettled', hstage'.upto⟩
  · exact ⟨h, hsettled, fun tx htx => (hlater tx htx).le⟩

theorem Accounted.serveAll (h : Accounted db) (hsettled : Settled db)
    (hrouted : ∀ r ∈ requests, Routed r.operations)
    (hordered : requests.Pairwise (·.env.now < ·.env.now))
    (hlater : ∀ r ∈ requests, ∀ tx ∈ db.transactions.rows, tx.createdAt < r.env.now) :
    Accounted (serveAll exactContext db requests) := by
  induction requests generalizing db with
  | nil => exact h
  | cons r rest ih =>
      obtain ⟨hfirst, hrest⟩ := List.pairwise_cons.1 hordered
      obtain ⟨hserved, hsettled', hupto⟩ :=
        h.serve hsettled (hrouted r List.mem_cons_self) (hlater r List.mem_cons_self)
      exact ih hserved hsettled' (fun s hs => hrouted s (List.mem_cons_of_mem _ hs)) hrest
        fun s hs tx htx => (hupto tx htx).trans_lt (hfirst s hs)

/-- After every sequential run no bucket has a negative value, and an empty one has none. -/
theorem values_sound (hrouted : ∀ r ∈ requests, Routed r.operations)
    (hordered : requests.Pairwise (·.env.now < ·.env.now)) (k : Bucket) :
    0 ≤ (serveAll exactContext .empty requests).balances k .inventoryValue ∧
      ((serveAll exactContext .empty requests).balances k .quantityOnHand = 0 →
        (serveAll exactContext .empty requests).balances k .inventoryValue = 0) := by
  have haccounted := accounted_empty.serveAll settled_empty hrouted hordered
    fun _ _ tx htx => by cases htx
  exact ⟨(haccounted.worth.sound k).nonneg, (haccounted.worth.sound k).empty⟩

end Runs

namespace Sample

/-- Five units are received, one of them issued and then the other four. -/
def usedUp : List Request :=
  received ++ [
    ⟨env 3, [.documentSave .issues none (document (line one)), .action .issues 2 .post {}]⟩,
    ⟨env 4, [.documentSave .issues none (document (line ⟨4, by decide +kernel⟩)),
      .action .issues 3 .post {}]⟩]

end Sample

theorem values_sound_usedUp :
    (serveAll exactContext .empty Sample.usedUp).balances Sample.bucket .inventoryValue = 0 := by
  have hrouted : ∀ r ∈ Sample.usedUp, Routed r.operations := by
    intro r hr
    simp only [Sample.usedUp, Sample.received, List.cons_append, List.nil_append, List.mem_cons,
      List.not_mem_nil, or_false] at hr
    rcases hr with rfl | rfl | rfl | rfl
    · exact .imported (by simp [Sample.setUp, Operation.imports])
    · exact .imported (by simp [Sample.receipt, Sample.postNew, Operation.imports])
    · exact .consumption
    · exact .consumption
  have hordered : Sample.usedUp.Pairwise (·.env.now < ·.env.now) := by decide +kernel
  exact (values_sound hrouted hordered Sample.bucket).2 (by decide +kernel)

end Cestos.Inventory
