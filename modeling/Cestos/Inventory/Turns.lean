import Mathlib.Logic.Relation
import Cestos.Inventory.System

/-!
# Turns

Between two committed states lie the movements of a request and its bookkeeping:
saving documents, approving, counting, master data. A turn is one movement or one
piece of bookkeeping, and every operation is a sequence of turns. Bookkeeping leaves
the stock alone, and it changes nothing that has been posted.
-/

namespace Cestos.Inventory

open Cestos.Core Cestos.Core.Decimal

/-- Transactions that refer to a reservation and not to a document. -/
def TransactionType.ofReservation : TransactionType → Bool
  | .reservation | .reservationRelease => true
  | _ => false

/-- A document some of whose lines have been posted. -/
def Database.Posted (db : Database) (id : Id) : Prop :=
  ∃ tx ∈ db.transactions.rows, tx.type.ofReservation = false ∧ tx.referenceId = id

/-- What has been posted is no draft any more. -/
def Settled (db : Database) : Prop :=
  ∀ id, db.Posted id → ∃ doc, db.documents.find? id = some doc ∧ doc.status ≠ .draft

structure SameStock (db db' : Database) : Prop where
  transactions : db'.transactions = db.transactions
  balances : db'.balances = db.balances
  ledger : db'.ledger = db.ledger
  serials : db'.serials = db.serials
  reservations : db'.reservations = db.reservations
  custody : db'.custody = db.custody

/-- A line as `document_save` inserts it. -/
structure NewLine (db : Database) (line : Line) : Prop where
  document : ∃ doc, db.documents.find? line.documentId = some doc
  item : ∃ item, db.items.find? line.itemId = some item ∧
    (item.serialized → line.normalizedQuantity = 1)
  owner : ∀ id ∈ line.serialId, ∃ serial, db.serials.find? id = some serial ∧
    serial.itemId = line.itemId

structure Bookkeeping (db db' : Database) : Prop where
  stock : SameStock db db'
  items : ∀ id item, db.items.find? id = some item → ∃ item', db'.items.find? id = some item' ∧
    (item'.rules = item.rules ∨ ∀ tx ∈ db.transactions.rows, tx.itemId ≠ id)
  documents : ∀ id doc, db.documents.find? id = some doc →
    ∃ doc', db'.documents.find? id = some doc' ∧ doc'.kind = doc.kind ∧
      (db.Posted id → doc'.header = doc.header)
  lines : ∀ id line, db.lines.find? id = some line → db.Posted line.documentId →
    ∃ line', db'.lines.find? id = some line' ∧ line'.core = line.core ∧
      line'.tracking = line.tracking
  newLines : ∀ id line', db'.lines.find? id = some line' →
    (∃ line, db.lines.find? id = some line ∧ line.core = line'.core ∧
      line.tracking = line'.tracking) ∨ NewLine db line'

/-- A call as it occurs in a run: what it was read from is still there. -/
def Call.Valid (db : Database) : Call → Prop
  | .postLine kind doc line act =>
    Current db kind doc line ∧ act ∈ actions kind ∧ act ∈ [.post, .dispatch, .receive]
  | _ => True

/-- What a call that returned did. -/
inductive CallPosted (ctx : Context 28 12) (env : Env) (db : Database) : Call → Database → Prop
  | line {kind doc line act m mid db'} : Current db kind doc line → act ∈ actions kind →
      act ∈ [.post, .dispatch, .receive] → Prepared ctx env db kind doc line act m mid →
      MovePosted ctx env mid m kind act db' →
      CallPosted ctx env db (.postLine kind doc line act) db'
  | reserve {body item tx db'} :
      ReservePosted ctx env db item (newReservation env db body) tx db' →
      CallPosted ctx env db (.reserve body) db'
  | release {cancel tx db'} {row : Reservation} : ReleasePosted ctx env db row cancel tx db' →
      CallPosted ctx env db (.release row.id cancel) db'
  | reverse {original tx db'} : ReversalPosted ctx env db original tx db' →
      CallPosted ctx env db (.reverse original.id) db'
  /-- The reservation has ended or the transaction has been reversed already. -/
  | nothing {c} : CallPosted ctx env db c db

theorem Call.posted {ctx : Context 28 12} {env : Env} {db db' : Database} {c : Call}
    (hvalid : c.Valid db) (h : c.run ctx env db = .ok db') : CallPosted ctx env db c db' := by
  cases c with
  | postLine kind doc line act =>
      obtain ⟨hcurrent, hroute, hact⟩ := hvalid
      obtain ⟨m, mid, hprepared, hmove⟩ := postLine_spec hcurrent h
      exact .line hcurrent hroute hact hprepared hmove
  | reserve body =>
      obtain ⟨item, tx, hposted⟩ := reserve_spec h
      exact .reserve hposted
  | release id cancel =>
      rcases release_spec h with rfl | ⟨row, tx, rfl, hposted⟩
      · exact .nothing
      · exact .release hposted
  | reverse id =>
      rcases reverse_spec h with ⟨rfl, _⟩ | ⟨original, tx, rfl, hposted⟩
      · exact .nothing
      · exact .reverse hposted

inductive Turn (ctx : Context 28 12) (env : Env) (cond : CallCondition) (db : Database) :
    Database → Prop
  | bookkeeping {db'} : Bookkeeping db db' → Turn ctx env cond db db'
  | call {c : Call} {db'} : c.Valid db → cond env db c → c.run ctx env db = .ok db' →
      Turn ctx env cond db db'

/-- The states a run passes through, committed or not. -/
inductive Passes (ctx : Context 28 12) (init : Database → Prop) (cond : CallCondition) :
    Database → Prop
  | init {db} : init db → Passes ctx init cond db
  | turn {env db db'} : Passes ctx init cond db → Turn ctx env cond db db' →
      Passes ctx init cond db'

/-! ## Bookkeeping -/

theorem Bookkeeping.of_alike {db db' : Database} (hstock : SameStock db db')
    (hitems : db'.items = db.items) (h : Alike [] db db') : Bookkeeping db db' where
  stock := hstock
  items id item hitem := ⟨item, by rw [hitems]; exact hitem, .inl rfl⟩
  documents id doc hdoc := by
    obtain ⟨doc', hdoc', hheader⟩ := h.header_forward hdoc
    exact ⟨doc', hdoc', congrArg Header.kind hheader, fun _ => hheader⟩
  lines id line hline _ := by
    obtain ⟨line', hline', hcore, htracking⟩ := h.core_forward hline
    exact ⟨line', hline', hcore, htracking (by simp)⟩
  newLines id line' hline' := by
    obtain ⟨line, hline, hcore, htracking⟩ := h.core_backward hline'
    exact .inl ⟨line, hline, hcore, htracking (by simp)⟩

theorem Bookkeeping.of_items {db : Database} {items : Table Item.id}
    (hitems : ∀ id item, db.items.find? id = some item → ∃ item', items.find? id = some item' ∧
      (item'.rules = item.rules ∨ ∀ tx ∈ db.transactions.rows, tx.itemId ≠ id)) :
    Bookkeeping db { db with items } where
  stock := ⟨rfl, rfl, rfl, rfl, rfl, rfl⟩
  items := hitems
  documents _ doc hdoc := ⟨doc, hdoc, rfl, fun _ => rfl⟩
  lines _ line hline _ := ⟨line, hline, rfl, rfl⟩
  newLines _ line hline := .inl ⟨line, hline, rfl, rfl⟩

theorem Bookkeeping.setItem {db : Database} {old : Item} (row : Item)
    (hold : db.items.find? row.id = some old)
    (hrules : row.rules = old.rules ∨ ∀ tx ∈ db.transactions.rows, tx.itemId ≠ row.id) :
    Bookkeeping db { db with items := db.items.set row } := by
  refine of_items fun id item hitem => ?_
  by_cases hid : row.id = id
  · subst hid
    obtain rfl := Option.some.inj (hitem.symm.trans hold)
    exact ⟨row, Table.find?_set_self hitem, hrules⟩
  · exact ⟨item, (Table.find?_set_ne hid).trans hitem, .inl rfl⟩

theorem itemSave_bookkeeping {env : Env} {db db' : Database} {body : ItemBody}
    {identifier : Option Id} (h : itemSave env db body identifier = .ok db') :
    Bookkeeping db db' ∧ ∃ items, db' = { db with items } := by
  cases identifier with
  | none =>
      simp only [itemSave, bind_eq_ok, orError_eq_ok, Except.ok.injEq] at h
      obtain ⟨_, _, _, _, _, _, items, hins, rfl⟩ := h
      refine ⟨Bookkeeping.of_items fun id item hitem => ?_, items, rfl⟩
      exact ⟨item, Table.find?_insert?_of_find? hins hitem, .inl rfl⟩
  | some id =>
      simp only [itemSave, bind_eq_ok, found_eq_ok, ensure_eq_ok, exists_const,
        Except.ok.injEq] at h
      obtain ⟨old, hold, _, _, _, hrules, _, _, rfl⟩ := h
      obtain rfl : old.id = id := Table.key_of_find? hold
      exact ⟨.setItem (body.assign old) hold hrules, _, rfl⟩

theorem archive_bookkeeping {db db' : Database} {id : Id} {restore : Bool}
    (h : archive db id restore = .ok db') : Bookkeeping db db' ∧ ∃ items, db' = { db with items } := by
  simp only [archive, bind_eq_ok, found_eq_ok, ensure_eq_ok, exists_const, Except.ok.injEq] at h
  obtain ⟨old, hold, _, rfl⟩ := h
  obtain rfl : old.id = id := Table.key_of_find? hold
  exact ⟨.setItem { old with isActive := restore } hold (.inl rfl), _, rfl⟩

/-! ## Saving documents -/

theorem saveHeader_bookkeeping {env : Env} {db db' : Database} {kind : DocumentKind}
    {body : DocumentBody} {identifier : Option Id} {row : Document} (hsettled : Settled db)
    (h : saveHeader env db kind body identifier = .ok (row, db')) :
    Bookkeeping db db' ∧ db'.documents.find? row.id = some row ∧ Settled db' := by
  cases identifier with
  | none =>
      simp only [saveHeader, bind_eq_ok, orError_eq_ok, Except.ok.injEq, Prod.mk.injEq] at h
      obtain ⟨documents, hins, rfl, rfl⟩ := h
      have hold : ∀ id doc, db.documents.find? id = some doc → documents.find? id = some doc :=
        fun id doc hdoc => Table.find?_insert?_of_find? hins hdoc
      refine ⟨?_, ?_, ?_⟩
      · exact {
          stock := ⟨rfl, rfl, rfl, rfl, rfl, rfl⟩
          items := fun _ item hitem => ⟨item, hitem, .inl rfl⟩
          documents := fun id doc hdoc => ⟨doc, hold id doc hdoc, rfl, fun _ => rfl⟩
          lines := fun _ line hline _ => ⟨line, hline, rfl, rfl⟩
          newLines := fun _ line hline => .inl ⟨line, hline, rfl, rfl⟩ }
      · exact (Table.find?_insert? hins _).trans (if_pos rfl)
      · intro id hposted
        obtain ⟨doc, hdoc, hstatus⟩ := hsettled id hposted
        exact ⟨doc, hold id doc hdoc, hstatus⟩
  | some id =>
      simp only [saveHeader, bind_eq_ok, found_eq_ok, ensure_eq_ok, exists_const,
        Except.ok.injEq, Prod.mk.injEq] at h
      obtain ⟨old, hold, hdraft, rfl, rfl⟩ := h
      obtain ⟨hfind, hkind⟩ := Database.document_eq_some.1 hold
      obtain rfl : old.id = id := Table.key_of_find? hfind
      -- a draft has not been posted, so everything posted is another document
      have hunposted : ¬ db.Posted old.id := by
        intro hposted
        obtain ⟨doc, hdoc, hstatus⟩ := hsettled old.id hposted
        exact hstatus (Option.some.inj (hdoc.symm.trans hfind) ▸ hdraft)
      have hself : (db.documents.set (body.assign old)).find? old.id = some (body.assign old) :=
        Table.find?_set_self (r := body.assign old) hfind
      have hother : ∀ k, k ≠ old.id →
          (db.documents.set (body.assign old)).find? k = db.documents.find? k :=
        fun k hk => Table.find?_set_ne (r := body.assign old) (Ne.symm hk)
      refine ⟨?_, hself, ?_⟩
      · exact {
          stock := ⟨rfl, rfl, rfl, rfl, rfl, rfl⟩
          items := fun _ item hitem => ⟨item, hitem, .inl rfl⟩
          documents := fun k doc hdoc => by
            by_cases hk : k = old.id
            · subst hk
              obtain rfl := Option.some.inj (hdoc.symm.trans hfind)
              exact ⟨_, hself, rfl, fun hposted => absurd hposted hunposted⟩
            · exact ⟨doc, (hother k hk).trans hdoc, rfl, fun _ => rfl⟩
          lines := fun k line hline hposted => by
            refine ⟨line, Table.find?_removeIf.2 ⟨hline, ?_⟩, rfl, rfl⟩
            have hne : line.documentId ≠ old.id := fun heq => hunposted (heq ▸ hposted)
            exact decide_eq_false hne
          newLines := fun k line hline =>
            .inl ⟨line, (Table.find?_removeIf.1 hline).1, rfl, rfl⟩ }
      · intro k hposted
        have hk : k ≠ old.id := fun heq => hunposted (heq ▸ hposted)
        obtain ⟨doc, hdoc, hstatus⟩ := hsettled k hposted
        exact ⟨doc, (hother k hk).trans hdoc, hstatus⟩

theorem saveLine_bookkeeping {ctx : Context 28 12} {env : Env} {db db' : Database}
    {body : DocumentBody} {documentId : Id} {incoming : LineBody}
    (hdoc : ∃ doc, db.documents.find? documentId = some doc)
    (h : saveLine ctx env body documentId db incoming = .ok db') :
    Bookkeeping db db' ∧ ∃ lines, db' = { db with lines } := by
  simp only [saveLine, bind_eq_ok, found_eq_ok, orError_eq_ok, ensure_eq_ok, exists_const,
    Except.ok.injEq] at h
  obtain ⟨_, hrefs, item, hitem, q, hq, _, hserialized, _, lines, hins, rfl⟩ := h
  refine ⟨?_, lines, rfl⟩
  exact {
    stock := ⟨rfl, rfl, rfl, rfl, rfl, rfl⟩
    items := fun _ item hitem => ⟨item, hitem, .inl rfl⟩
    documents := fun _ doc hdoc => ⟨doc, hdoc, rfl, fun _ => rfl⟩
    lines := fun _ line hline _ => ⟨line, Table.find?_insert?_of_find? hins hline, rfl, rfl⟩
    newLines := fun id line hline => by
      have hline' : lines.find? id = some line := hline
      rw [Table.find?_insert? hins] at hline'
      split at hline'
      · obtain rfl := Option.some.inj hline'
        exact .inr {
          document := hdoc
          item := ⟨item, hitem, hserialized⟩
          owner := fun serialId hserial =>
            validateRefs_serial hrefs
              (rfl : (incoming.refData body.refData).itemId = some incoming.itemId) hserial }
      · exact .inl ⟨line, hline', rfl, rfl⟩ }

section Operations

variable {ctx : Context 28 12} {env : Env} {cond : CallCondition} {db db' : Database}

theorem saveLines_turns (cond : CallCondition) {kind : DocumentKind} {body : DocumentBody} {documentId : Id}
    {incoming : List LineBody} {seen : List (Id × Option Id × Option Id × Option Id)}
    (hdoc : ∃ doc, db.documents.find? documentId = some doc)
    (h : saveLines ctx env kind body documentId incoming seen db = .ok db') :
    Relation.ReflTransGen (Turn ctx env cond) db db' ∧ ∃ lines, db' = { db with lines } := by
  induction incoming generalizing seen db with
  | nil =>
      obtain rfl := Except.ok.inj h
      exact ⟨.refl, db.lines, rfl⟩
  | cons line rest ih =>
      simp only [saveLines, bind_eq_ok, ensure_eq_ok, exists_const] at h
      obtain ⟨_, mid, hline, hrest⟩ := h
      obtain ⟨hbook, lines, rfl⟩ := saveLine_bookkeeping hdoc hline
      have hdoc' : ∃ doc, ({ db with lines } : Database).documents.find? documentId = some doc :=
        hdoc
      obtain ⟨hturns, lines', rfl⟩ := ih hdoc' hrest
      exact ⟨.head (.bookkeeping hbook) hturns, lines', rfl⟩

theorem documentSave_turns {kind : DocumentKind} {body : DocumentBody} {identifier : Option Id}
    {id : Id} (hsettled : Settled db)
    (h : documentSave ctx env db kind body identifier = .ok (id, db')) :
    Relation.ReflTransGen (Turn ctx env cond) db db' ∧ Settled db' := by
  simp only [documentSave, bind_eq_ok, Prod.exists, Except.ok.injEq, Prod.mk.injEq] at h
  obtain ⟨_, _, _, _, _, _, _, _, row, mid, hheader, last, hlines, _, rfl⟩ := h
  obtain ⟨hbook, hrow, hsettled'⟩ := saveHeader_bookkeeping hsettled hheader
  obtain ⟨hturns, lines, rfl⟩ := saveLines_turns cond ⟨row, hrow⟩ hlines
  exact ⟨.head (.bookkeeping hbook) hturns, hsettled'⟩

theorem requestIssue_turns {id storeId issueId : Id} (hsettled : Settled db)
    (h : requestIssue ctx env db id storeId = .ok (issueId, db')) :
    Relation.ReflTransGen (Turn ctx env cond) db db' ∧ Settled db' := by
  simp only [requestIssue, bind_eq_ok] at h
  obtain ⟨_, _, _, _, h⟩ := h
  split at h
  · simp only [Except.ok.injEq, Prod.mk.injEq] at h
    obtain ⟨_, rfl⟩ := h
    exact ⟨.refl, hsettled⟩
  · simp only [bind_eq_ok] at h
    obtain ⟨_, _, _, _, h⟩ := h
    split at h
    · exact documentSave_turns hsettled h
    · cases h

/-! ## Actions that do not post -/

/-- The lines a loop over the lines of a document has written mean what they did. -/
theorem setLine_alike {s : Database} {old line : Line} (h : Alike [] db s)
    (hold : old ∈ db.lines.rows) (hid : line.id = old.id) (hcore : line.core = old.core)
    (htracking : line.tracking = old.tracking) : Alike [] db (setLine s line) := by
  have hfind : db.lines.find? line.id = some old := hid ▸ Table.find?_of_mem hold
  refine h.trans_same (Alike.setLine line (fun row hrow => ?_) fun _ row hrow => ?_)
  · obtain ⟨first, hfirst, hsame, _⟩ := h.core_backward hrow
    rw [← hsame, hcore, Option.some.inj (hfirst.symm.trans hfind)]
  · obtain ⟨first, hfirst, _, hsame⟩ := h.core_backward hrow
    rw [← hsame (by simp), htracking, Option.some.inj (hfirst.symm.trans hfind)]

/-- A loop that only writes lines of a document, each as it means. -/
theorem lineLoop_alike {f : Database → Line → Outcome Database} (documentId : Id)
    {some? : List Line} (hsub : ∀ line ∈ some?, line ∈ db.linesOf documentId)
    (hf : ∀ s line s', line ∈ some? → f s line = .ok s' → ∃ line', s' = setLine s line' ∧
      line'.id = line.id ∧ line'.core = line.core ∧ line'.tracking = line.tracking)
    (h : some?.foldlM f db = .ok db') : Alike [] db db' ∧ ∃ lines, db' = { db with lines } := by
  refine foldlM_inv (P := fun s => Alike [] db s ∧ ∃ lines, s = { db with lines })
    (fun s line s' hline hs hstep => ?_) ⟨Alike.refl db, db.lines, rfl⟩ h
  obtain ⟨halike, lines, rfl⟩ := hs
  obtain ⟨line', rfl, hid, hcore, htracking⟩ := hf _ line s' hline hstep
  have hmem := (Database.mem_linesOf.1 (hsub line hline)).1
  exact ⟨setLine_alike halike hmem hid hcore htracking, _, rfl⟩

/-- What an action that does not post leaves: the document has a new status and is no
draft, and nothing means anything else. -/
structure Decided (db : Database) (doc : Document) (db' : Database) : Prop where
  alike : Alike [] db db'
  rest : ∃ lines doc', db' = { db with lines, documents := db.documents.set doc' } ∧
    doc'.id = doc.id ∧ doc'.status ≠ .draft

theorem Decided.of_loop {doc doc' : Document} {s : Database}
    (hdoc : db.documents.find? doc.id = some doc)
    (hs : Alike [] db s ∧ ∃ lines, s = { db with lines }) (hid : doc'.id = doc.id)
    (hheader : doc'.header = doc.header) (hstatus : doc'.status ≠ .draft) :
    Decided db doc (setDocument s doc') := by
  obtain ⟨halike, lines, rfl⟩ := hs
  refine ⟨halike.trans_same (Alike.setDocument doc' fun old hold => ?_), lines, doc', rfl, hid,
    hstatus⟩
  have hold' : db.documents.find? doc.id = some old := hid ▸ hold
  rw [hheader, Option.some.inj (hold'.symm.trans hdoc)]

theorem decided_turns {doc : Document} (hdecided : Decided db doc db') (hsettled : Settled db) :
    Relation.ReflTransGen (Turn ctx env cond) db db' ∧ Settled db' := by
  obtain ⟨halike, lines, doc', rfl, hid, hstatus⟩ := hdecided
  have hbook : Bookkeeping db { db with lines, documents := db.documents.set doc' } :=
    Bookkeeping.of_alike ⟨rfl, rfl, rfl, rfl, rfl, rfl⟩ rfl halike
  refine ⟨.single (.bookkeeping hbook), fun id hposted => ?_⟩
  obtain ⟨old, hold, hnot⟩ := hsettled id hposted
  by_cases hk : doc'.id = id
  · subst hk
    exact ⟨doc', Table.find?_set_self hold, hstatus⟩
  · exact ⟨old, (Table.find?_set_ne hk).trans hold, hnot⟩

theorem submitDocument_decided {kind : DocumentKind} {doc : Document} {body : ActionBody}
    (hdoc : db.documents.find? doc.id = some doc)
    (h : submitDocument db kind doc body = .ok db') : Decided db doc db' := by
  simp only [submitDocument, bind_eq_ok, ensure_eq_ok, exists_const, Except.ok.injEq] at h
  obtain ⟨_, s, hloop, rfl⟩ := h
  refine .of_loop hdoc (lineLoop_alike doc.id (fun line hline => ?_)
    (fun s line s' _ hstep => ?_) hloop) rfl rfl (by simp)
  · split at hline
    · exact hline
    · simp at hline
  · simp only [submitLine, bind_eq_ok, ensure_eq_ok, exists_const, Except.ok.injEq] at hstep
    obtain ⟨_, _, _, _, _, rfl⟩ := hstep
    exact ⟨_, rfl, rfl, rfl, rfl⟩

theorem startDocument_decided {kind : DocumentKind} {doc : Document} {restart : Bool}
    {body : ActionBody} (hdoc : db.documents.find? doc.id = some doc)
    (h : startDocument db kind doc restart body = .ok db') : Decided db doc db' := by
  simp only [startDocument, bind_eq_ok, ensure_eq_ok, exists_const, Except.ok.injEq] at h
  obtain ⟨_, _, s, hloop, rfl⟩ := h
  refine .of_loop hdoc (lineLoop_alike doc.id (fun _ hline => hline)
    (fun s line s' _ hstep => ?_) hloop) rfl rfl (by simp)
  simp only [startLine, bind_eq_ok, Except.ok.injEq] at hstep
  obtain ⟨_, _, rfl⟩ := hstep
  exact ⟨_, rfl, rfl, rfl, rfl⟩

theorem approveDocument_decided {kind : DocumentKind} {doc : Document} {body : ActionBody}
    (hdoc : db.documents.find? doc.id = some doc)
    (h : approveDocument ctx env db kind doc body = .ok db') : Decided db doc db' := by
  simp only [approveDocument, bind_eq_ok, ensure_eq_ok, exists_const, Except.ok.injEq] at h
  obtain ⟨_, s, hloop, rfl⟩ := h
  refine .of_loop hdoc (lineLoop_alike doc.id (fun line hline => ?_)
    (fun s line s' _ hstep => ?_) hloop) rfl rfl (by simp)
  · split at hline
    · exact hline
    · simp at hline
  · simp only [approveLine, bind_eq_ok, ensure_eq_ok, exists_const, Except.ok.injEq] at hstep
    obtain ⟨_, _, _, _, rfl⟩ := hstep
    exact ⟨_, rfl, rfl, rfl, rfl⟩

theorem cancelDocument_decided {doc : Document} (hdoc : db.documents.find? doc.id = some doc)
    (h : cancelDocument db doc = .ok db') : Decided db doc db' := by
  simp only [cancelDocument, bind_eq_ok, ensure_eq_ok, exists_const, Except.ok.injEq] at h
  obtain ⟨_, rfl⟩ := h
  exact .of_loop hdoc ⟨Alike.refl db, db.lines, rfl⟩ rfl rfl (by simp)

theorem rejectDocument_decided {kind : DocumentKind} {doc : Document}
    (hdoc : db.documents.find? doc.id = some doc)
    (h : rejectDocument db kind doc = .ok db') : Decided db doc db' := by
  simp only [rejectDocument, bind_eq_ok, ensure_eq_ok, exists_const, Except.ok.injEq] at h
  obtain ⟨_, rfl⟩ := h
  exact .of_loop hdoc ⟨Alike.refl db, db.lines, rfl⟩ rfl rfl (by simp)

/-! ## Posting -/

/-- Every transaction a movement inserts refers to the document of its line. -/
theorem MovePosted.posted {kind : DocumentKind} {act : Action} {m : Move} {id : Id}
    (h : MovePosted ctx env db m kind act db') (hposted : db'.Posted id) :
    db.Posted id ∨ id = m.doc.id := by
  have of_movement : ∀ {tx : Transaction} {entries : List LedgerEntry},
      Movement ctx db tx entries db' → tx.referenceId = m.doc.id → db.Posted id ∨ id = m.doc.id := by
    intro tx entries hmovement href
    obtain ⟨other, hother, htype, hid⟩ := hposted
    rcases (Table.mem_insert? hmovement.inserted.insert).1 hother with hold | rfl
    · exact .inl ⟨other, hold, htype, hid⟩
    · exact .inr (hid.symm.trans href)
  cases h with
  | receipt h => exact of_movement h.movement h.records.referenceId
  | issue h => exact of_movement h.movement h.records.referenceId
  | returned h => exact of_movement h.movement h.records.referenceId
  | dispatch h => exact of_movement h.movement h.records.referenceId
  | receive h => exact of_movement h.movement h.records.referenceId
  | adjustment _ _ h => exact of_movement h.movement h.records.referenceId
  | count _ _ _ _ h => exact of_movement h.movement h.records.referenceId
  | unchanged => exact .inl hposted

theorem MovePosted.kept {kind : DocumentKind} {act : Action} {m : Move}
    (h : MovePosted ctx env db m kind act db') :
    Kept [m.line.id] db db' ∧ (kind ≠ .receipts → Kept [] db db') := by
  cases h with
  | receipt h => exact ⟨h.kept, fun hkind => absurd rfl hkind⟩
  | issue h => exact ⟨h.kept.mono (by simp), fun _ => h.kept⟩
  | returned h => exact ⟨h.kept.mono (by simp), fun _ => h.kept⟩
  | dispatch h => exact ⟨h.kept.mono (by simp), fun _ => h.kept⟩
  | receive h => exact ⟨h.kept.mono (by simp), fun _ => h.kept⟩
  | adjustment _ _ h => exact ⟨h.kept.mono (by simp), fun _ => h.kept⟩
  | count _ _ _ _ h => exact ⟨h.kept.mono (by simp), fun _ => h.kept⟩
  | unchanged => exact ⟨Kept.refl _, fun _ => Kept.refl _⟩

theorem Prepared.frame {kind : DocumentKind} {doc : Document} {line : Line} {act : Action}
    {m : Move} (h : Prepared ctx env db kind doc line act m db') :
    ∃ lots serials, db' = { db with lots, serials } := by
  by_cases hkind : kind = .receipts
  · exact (h.received hkind).database
  · rw [(h.plain hkind).2]
    exact ⟨db.lots, db.serials, rfl⟩

/-- A posted line keeps the meaning of all documents and of all other lines, and only
its own document becomes a posted one. -/
theorem postLine_kept {kind : DocumentKind} {doc : Document} {line : Line} {act : Action}
    (hcurrent : Current db kind doc line) (h : postLine ctx env db kind doc line act = .ok db') :
    Kept [line.id] db db' ∧ (kind ≠ .receipts → Kept [] db db') ∧
      ∀ id, db'.Posted id → db.Posted id ∨ id = doc.id := by
  obtain ⟨m, mid, hprepared, hmove⟩ := postLine_spec hcurrent h
  obtain ⟨lots, serials, rfl⟩ := hprepared.frame
  obtain ⟨hkept, hplain⟩ := hmove.kept
  rw [hprepared.line.1] at hkept
  refine ⟨hkept.congr rfl rfl rfl rfl, fun hkind => (hplain hkind).congr rfl rfl rfl rfl, ?_⟩
  intro id hposted
  rw [← hprepared.document]
  exact hmove.posted hposted

theorem linesOf_current {kind : DocumentKind} {doc : Document} {line : Line}
    (hdoc : db.documents.find? doc.id = some doc) (hkind : doc.kind = kind)
    (hline : line ∈ db.linesOf doc.id) : Current db kind doc line := by
  obtain ⟨hmem, howner⟩ := Database.mem_linesOf.1 hline
  have hfind := Table.find?_of_mem hmem
  exact ⟨hkind, by rw [hdoc]; rfl, by rw [hdoc]; rfl, howner, by rw [hfind]; rfl,
    by rw [hfind]; rfl⟩

theorem linesOf_nodup (db : Database) (documentId : Id) :
    ((db.linesOf documentId).map Line.id).Nodup := by
  unfold Database.linesOf
  rw [((List.perm_insertionSort _ _).map Line.id).nodup_iff]
  exact db.lines.nodup.sublist (List.filter_sublist.map Line.id)

/-- The loop over the lines of a document: every line is current when its turn comes. -/
theorem postLines_inv {P : Database → Prop} {kind : DocumentKind} {doc : Document} {act : Action}
    {lines : List Line} (hkind : kind ≠ .requests) (hnodup : (lines.map Line.id).Nodup)
    (hcurrent : ∀ line ∈ lines, Current db kind doc line)
    (hstep : ∀ s line s', line ∈ lines → Current s kind doc line → P s →
      postLine ctx env s kind doc line act = .ok s' → P s')
    (hP : P db) (h : postLines ctx env kind doc act lines db = .ok db') : P db' := by
  induction lines generalizing db with
  | nil =>
      simp only [postLines, List.foldlM_nil, pure_eq_ok] at h
      exact h ▸ hP
  | cons line rest ih =>
      simp only [postLines, List.foldlM_cons, bind_eq_ok] at h
      obtain ⟨mid, hline, hrest⟩ := h
      rw [List.map_cons, List.nodup_cons] at hnodup
      have hfirst := hcurrent line List.mem_cons_self
      refine ih hnodup.2 (fun later hlater => ?_)
        (fun s later s' hlater => hstep s later s' (List.mem_cons_of_mem _ hlater))
        (hstep db line mid List.mem_cons_self hfirst hP hline) hrest
      -- the lines still to come have other identifiers
      refine (hcurrent later (List.mem_cons_of_mem _ hlater)).kept (postLine_kept hfirst hline).1
        hkind ?_
      rw [List.mem_singleton]
      intro heq
      exact hnodup.1 (heq ▸ List.mem_map_of_mem hlater)

theorem postLines_turns {kind : DocumentKind} {doc : Document} {act : Action} {lines : List Line}
    (hkind : kind ≠ .requests) (hroute : act ∈ actions kind)
    (hact : act ∈ [.post, .dispatch, .receive]) (hnodup : (lines.map Line.id).Nodup)
    (hcurrent : ∀ line ∈ lines, Current db kind doc line)
    (hmeets : ∀ p ∈ lineCalls ctx env kind doc act lines db, cond env p.1 p.2)
    (h : postLines ctx env kind doc act lines db = .ok db') :
    Relation.ReflTransGen (Turn ctx env cond) db db' ∧ Kept (lines.map Line.id) db db' ∧
      ∀ id, db'.Posted id → db.Posted id ∨ id = doc.id := by
  induction lines generalizing db with
  | nil =>
      simp only [postLines, List.foldlM_nil, pure_eq_ok] at h
      subst h
      exact ⟨.refl, Kept.refl db, fun id hid => .inl hid⟩
  | cons line rest ih =>
      simp only [postLines, List.foldlM_cons, bind_eq_ok] at h
      obtain ⟨mid, hline, hrest⟩ := h
      rw [lineCalls, hline] at hmeets
      rw [List.map_cons, List.nodup_cons] at hnodup
      have hfirst := hcurrent line (by simp)
      have hturn : Turn ctx env cond db mid :=
        .call (c := .postLine kind doc line act) ⟨hfirst, hroute, hact⟩
          (hmeets _ List.mem_cons_self) hline
      obtain ⟨hkept, _, hposted⟩ := postLine_kept hfirst hline
      -- the lines still to come have other identifiers
      have hlater : ∀ later ∈ rest, Current mid kind doc later := by
        intro later hlater
        refine (hcurrent later (List.mem_cons_of_mem _ hlater)).kept hkept hkind ?_
        rw [List.mem_singleton]
        intro heq
        exact hnodup.1 (heq ▸ List.mem_map_of_mem hlater)
      obtain ⟨hturns, hkept', hposted'⟩ := ih hnodup.2 hlater
        (fun p hp => hmeets p (List.mem_cons_of_mem _ hp)) hrest
      refine ⟨.head hturn hturns, by simpa using hkept.trans hkept', fun id hid => ?_⟩
      exact (hposted' id hid).elim (hposted id) .inr

theorem setStatus_bookkeeping {doc : Document} (status : DocumentStatus)
    (hdoc : db.documents.find? doc.id = some doc) :
    Bookkeeping db (setDocument db { doc with status }) := by
  refine .of_alike ⟨rfl, rfl, rfl, rfl, rfl, rfl⟩ rfl (Alike.setDocument _ fun old hold => ?_)
  rw [Option.some.inj (hold.symm.trans hdoc)]
  rfl

theorem postDocument_turns {kind : DocumentKind} {doc : Document} {act : Action}
    {body : ActionBody} {id : Id} (hdoc : db.document kind id = some doc)
    (hroute : act ∈ actions kind) (hfresh : terminal act ≠ some doc.status)
    (hact : act ∈ [.post, .dispatch, .receive]) (hsettled : Settled db)
    (hmeets : ∀ p ∈ callsOf ctx env db (.action kind id act body), cond env p.1 p.2)
    (h : postDocument ctx env db kind doc act = .ok db') :
    Relation.ReflTransGen (Turn ctx env cond) db db' ∧ Settled db' := by
  simp only [postDocument, bind_eq_ok, ensure_eq_ok, exists_const, found_eq_ok,
    Except.ok.injEq] at h
  obtain ⟨hkind, _, _, _, _, _, s, hlines, posted, hposted, rfl⟩ := h
  obtain ⟨hfindDoc, hdocKind⟩ := Database.document_eq_some.1 hdoc
  rw [callsOf, hdoc] at hmeets
  obtain ⟨hturns, hkept, hrefs⟩ := postLines_turns hkind hroute hact
    (linesOf_nodup db doc.id)
    (fun line hline => linesOf_current (Table.key_of_find? hfindDoc ▸ hfindDoc) hdocKind hline)
    (by simpa only [if_pos (And.intro hroute (And.intro hact hfresh))] using hmeets) hlines
  obtain ⟨hfind, _⟩ := Database.document_eq_some.1 hposted
  have hid : posted.id = doc.id := Table.key_of_find? hfind
  have hself : s.documents.find? posted.id = some posted := by rw [hid]; exact hfind
  let last : Document := { posted with status := postedStatus act }
  have hbook : Bookkeeping s (setDocument s last) := setStatus_bookkeeping (postedStatus act) hself
  refine ⟨hturns.tail (.bookkeeping hbook), fun k hk => ?_⟩
  have hset : (s.documents.set last).find? posted.id = some last :=
    Table.find?_set_self (r := last) hself
  by_cases hdocId : k = posted.id
  · rw [hdocId]
    exact ⟨last, hset, by simp only [last, postedStatus]; split <;> simp⟩
  · -- another document that is posted now was posted before, and its status has stayed
    have hne : ¬ last.id = k := fun heq => hdocId heq.symm
    have hold : db.Posted k := (hrefs k hk).resolve_right fun heq => hdocId (heq.trans hid.symm)
    obtain ⟨before, hbefore, hnot⟩ := hsettled k hold
    obtain ⟨after, hafter, _⟩ := hkept.header_forward hbefore
    refine ⟨after, (Table.find?_set_ne hne).trans hafter, ?_⟩
    rcases hkept.statuses k before after hbefore hafter with hsame | ⟨_, hdone⟩
    · rwa [hsame]
    · exact hdone

theorem action_turns {kind : DocumentKind} {id : Id} {act : Action} {body : ActionBody}
    (hroute : act ∈ actions kind) (hsettled : Settled db)
    (hmeets : ∀ p ∈ callsOf ctx env db (.action kind id act body), cond env p.1 p.2)
    (h : action ctx env db kind id act body = .ok db') :
    Relation.ReflTransGen (Turn ctx env cond) db db' ∧ Settled db' := by
  simp only [action, bind_eq_ok, found_eq_ok] at h
  obtain ⟨doc, hdoc, h⟩ := h
  obtain ⟨hfind, _⟩ := Database.document_eq_some.1 hdoc
  have hself : db.documents.find? doc.id = some doc := by
    rw [Table.key_of_find? hfind]
    exact hfind
  split at h
  · obtain rfl := Except.ok.inj h
    exact ⟨.refl, hsettled⟩
  · next hfresh =>
    cases act with
    | cancel => exact decided_turns (cancelDocument_decided hself h) hsettled
    | reject => exact decided_turns (rejectDocument_decided hself h) hsettled
    | submit => exact decided_turns (submitDocument_decided hself h) hsettled
    | start => exact decided_turns (startDocument_decided hself h) hsettled
    | restart => exact decided_turns (startDocument_decided hself h) hsettled
    | approve => exact decided_turns (approveDocument_decided hself h) hsettled
    | post => exact postDocument_turns hdoc hroute hfresh (by simp) hsettled hmeets h
    | dispatch => exact postDocument_turns hdoc hroute hfresh (by simp) hsettled hmeets h
    | receive => exact postDocument_turns hdoc hroute hfresh (by simp) hsettled hmeets h

/-! ## Operations and runs -/

theorem Settled.of_reserve {item : Item} {row : Reservation} {tx : Transaction}
    (hsettled : Settled db) (h : ReservePosted ctx env db item row tx db') : Settled db' := by
  rintro id ⟨other, hother, htype, hid⟩
  rcases (Table.mem_insert? h.movement.inserted.insert).1 hother with hold | rfl
  · rw [h.aside.documents]
    exact hsettled id ⟨other, hold, htype, hid⟩
  · rw [h.records.type] at htype
    cases htype

theorem Settled.of_release {row : Reservation} {cancel : Bool} {tx : Transaction}
    (hsettled : Settled db) (h : ReleasePosted ctx env db row cancel tx db') : Settled db' := by
  rintro id ⟨other, hother, htype, hid⟩
  rcases (Table.mem_insert? h.movement.inserted.insert).1 hother with hold | rfl
  · rw [h.aside.documents]
    exact hsettled id ⟨other, hold, htype, hid⟩
  · rw [h.records.type] at htype
    cases htype

theorem ofReservation_of_reversible {t : TransactionType} (h : t.reversible) :
    t.ofReservation = false := by
  cases t <;> first | rfl | cases h

theorem Settled.of_reversal {original tx : Transaction} (hsettled : Settled db)
    (h : ReversalPosted ctx env db original tx db') : Settled db' := by
  rintro id ⟨other, hother, htype, hid⟩
  rw [h.aside.documents]
  rcases (Table.mem_insert? h.movement.inserted.insert).1 hother with hold | rfl
  · exact hsettled id ⟨other, hold, htype, hid⟩
  · rw [h.row] at hid
    exact hsettled id ⟨original, Table.mem_of_find? h.found,
      ofReservation_of_reversible h.reversible, hid⟩

theorem exec_turns {op : Operation} (hsettled : Settled db)
    (hmeets : ∀ p ∈ callsOf ctx env db op, cond env p.1 p.2)
    (h : exec ctx env db op = .ok db') :
    Relation.ReflTransGen (Turn ctx env cond) db db' ∧ Settled db' := by
  cases op with
  | masters references =>
      obtain rfl := Except.ok.inj h
      have hbook : Bookkeeping db { db with references } :=
        .of_alike ⟨rfl, rfl, rfl, rfl, rfl, rfl⟩ rfl (.of_eq rfl rfl)
      exact ⟨.single (.bookkeeping hbook), hsettled⟩
  | itemSave identifier body =>
      obtain ⟨hbook, items, rfl⟩ := itemSave_bookkeeping h
      exact ⟨.single (.bookkeeping hbook), hsettled⟩
  | archive id restore =>
      obtain ⟨hbook, items, rfl⟩ := archive_bookkeeping h
      exact ⟨.single (.bookkeeping hbook), hsettled⟩
  | documentSave kind identifier body =>
      simp only [exec, bind_eq_ok, Prod.exists, Except.ok.injEq] at h
      obtain ⟨id, last, hsave, rfl⟩ := h
      exact documentSave_turns hsettled hsave
  | requestIssue id storeId =>
      simp only [exec, bind_eq_ok, Prod.exists, Except.ok.injEq] at h
      obtain ⟨issueId, last, hissue, rfl⟩ := h
      exact requestIssue_turns hsettled hissue
  | action kind id act body =>
      simp only [exec, bind_eq_ok, ensure_eq_ok, exists_const] at h
      exact action_turns h.1 hsettled hmeets h.2
  | reserve body =>
      obtain ⟨_, _, hposted⟩ := reserve_spec h
      exact ⟨.single (.call (c := .reserve body) trivial (hmeets _ List.mem_cons_self) h),
        hsettled.of_reserve hposted⟩
  | release id cancel =>
      refine ⟨.single (.call (c := .release id cancel) trivial (hmeets _ List.mem_cons_self) h), ?_⟩
      rcases release_spec h with rfl | ⟨_, _, _, hposted⟩
      · exact hsettled
      · exact hsettled.of_release hposted
  | reverse id =>
      refine ⟨.single (.call (c := .reverse id) trivial (hmeets _ List.mem_cons_self) h), ?_⟩
      rcases reverse_spec h with ⟨rfl, _⟩ | ⟨_, _, _, hposted⟩
      · exact hsettled
      · exact hsettled.of_reversal hposted

theorem exec_settled {op : Operation} (hsettled : Settled db)
    (h : exec ctx env db op = .ok db') : Settled db' := by
  have hturns : Relation.ReflTransGen (Turn ctx env fun _ _ _ => True) db db' ∧ Settled db' :=
    exec_turns hsettled (fun _ _ => trivial) h
  exact hturns.2

theorem operations_turns {ops : List Operation} (hsettled : Settled db)
    (hmeets : Meets ctx env cond ops db)
    (h : ops.foldlM (fun db op => exec ctx env db op) db = .ok db') :
    Relation.ReflTransGen (Turn ctx env cond) db db' ∧ Settled db' := by
  induction ops generalizing db with
  | nil =>
      simp only [List.foldlM_nil, pure_eq_ok] at h
      subst h
      exact ⟨.refl, hsettled⟩
  | cons op ops ih =>
      simp only [List.foldlM_cons, bind_eq_ok] at h
      obtain ⟨mid, hop, hrest⟩ := h
      obtain ⟨hturns, hmid⟩ := exec_turns hsettled hmeets.1 hop
      have hmeets' : Meets ctx env cond ops mid := by
        have hlater := hmeets.2
        rw [hop] at hlater
        exact hlater
      obtain ⟨hturns', hlast⟩ := ih hmid hmeets' hrest
      exact ⟨hturns.trans hturns', hlast⟩

end Operations

theorem Passes.turns {ctx : Context 28 12} {env : Env} {init : Database → Prop}
    {cond : CallCondition} {db db' : Database} (h : Passes ctx init cond db)
    (hturns : Relation.ReflTransGen (Turn ctx env cond) db db') : Passes ctx init cond db' := by
  induction hturns with
  | refl => exact h
  | tail _ hturn ih => exact .turn ih hturn

/-- A committed state is a state the run passes through, and a settled one. -/
theorem ReachableWhere.passes {ctx : Context 28 12} {init : Database → Prop}
    {cond : CallCondition} {db : Database} (hinit : ∀ db, init db → Settled db)
    (h : ReachableWhere ctx init cond db) : Passes ctx init cond db ∧ Settled db := by
  induction h with
  | init h => exact ⟨.init h, hinit _ h⟩
  | request r _ hmeets hexec ih =>
      obtain ⟨hpasses, hsettled⟩ := ih
      obtain ⟨hturns, hlast⟩ := operations_turns hsettled hmeets hexec
      exact ⟨hpasses.turns hturns, hlast⟩

theorem settled_empty : Settled .empty := by
  rintro id ⟨tx, htx, _⟩
  cases htx

theorem Reachable.passes {ctx : Context 28 12} {cond : CallCondition} {db : Database}
    (h : ReachableWhere ctx (· = .empty) cond db) : Passes ctx (· = .empty) cond db :=
  (ReachableWhere.passes (fun db (hdb : db = .empty) => hdb ▸ settled_empty) h).1

/-- A movement of a run with the states before and after it. -/
structure Performs (ctx : Context 28 12) (env : Env) (cond : CallCondition) (db : Database)
    (c : Call) (db' : Database) : Prop where
  valid : c.Valid db
  meets : cond env db c
  run : c.run ctx env db = .ok db'

theorem Performs.turn {ctx : Context 28 12} {env : Env} {cond : CallCondition} {db db' : Database}
    {c : Call} (h : Performs ctx env cond db c db') : Turn ctx env cond db db' :=
  .call h.valid h.meets h.run

/-- The run goes on from one state to the other, by any turns of any requests. -/
def Later (ctx : Context 28 12) (cond : CallCondition) : Database → Database → Prop :=
  Relation.ReflTransGen fun db db' => ∃ env, Turn ctx env cond db db'

theorem Passes.later {ctx : Context 28 12} {init : Database → Prop} {cond : CallCondition}
    {db db' : Database} (h : Passes ctx init cond db) (hlater : Later ctx cond db db') :
    Passes ctx init cond db' := by
  induction hlater with
  | refl => exact h
  | tail _ hstep ih =>
      obtain ⟨env, hturn⟩ := hstep
      exact .turn ih hturn

/-- What holds initially and is kept by every turn holds throughout a run. -/
theorem Passes.invariant {ctx : Context 28 12} {init : Database → Prop} {cond : CallCondition}
    {P : Database → Prop} {db : Database} (hinit : ∀ db, init db → P db)
    (hturn : ∀ env db db', Passes ctx init cond db → P db → Turn ctx env cond db db' → P db')
    (h : Passes ctx init cond db) : P db := by
  induction h with
  | init h => exact hinit _ h
  | turn hpasses hstep ih => exact hturn _ _ _ hpasses ih hstep

end Cestos.Inventory
