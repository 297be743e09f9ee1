import Cestos.Inventory.Turns

/-!
# Requests

An issue that names a request adds to the counter of the request line of its item, and the
status of the request follows from the counters. Only the issues of a request touch its
counters, and only while it is a draft or awaits approval do its lines change otherwise.
-/

namespace Cestos.Inventory

open Cestos.Core Cestos.Core.Decimal

/-! ## What has been issued for a request -/

/-- The transaction is that of an issue which names the request. -/
def Database.drawsOn (db : Database) (tx : Transaction) (requestId : Id) : Prop :=
  tx.type = .issue ∧
    (db.document .issues tx.referenceId).any (·.requestId = some requestId) = true

instance (db : Database) (tx : Transaction) (requestId : Id) :
    Decidable (db.drawsOn tx requestId) :=
  inferInstanceAs (Decidable (_ ∧ _))

/-- The quantity of an item that the issues of a request have taken out. -/
def Database.issuedFor (db : Database) (requestId itemId : Id) : ℚ :=
  db.transactions.sum fun tx =>
    if db.drawsOn tx requestId ∧ tx.itemId = itemId then tx.quantity else 0

/-- The counters of a request are within what was approved, they count what was issued, and
the status says how far the request has got. -/
structure Fulfilment (db : Database) (request : Document) : Prop where
  bounds : ∀ line ∈ db.linesOf request.id,
    0 ≤ line.quantityIssued ∧ line.quantityIssued ≤ line.quantityApproved.getD 0
  counted : ∀ line ∈ db.linesOf request.id,
    line.quantityIssued = db.issuedFor request.id line.itemId
  fulfilled : request.status = .fulfilled → ∀ line ∈ db.linesOf request.id,
    line.quantityApproved.getD 0 ≤ line.quantityIssued
  partially : request.status = .partiallyIssued →
    (∃ line ∈ db.linesOf request.id, 0 < line.quantityIssued) ∧
      ∃ line ∈ db.linesOf request.id, line.quantityIssued < line.quantityApproved.getD 0

/-- The statuses of a request for which something has been issued. -/
def DocumentStatus.started : DocumentStatus → Bool
  | .partiallyIssued | .fulfilled => true
  | _ => false

structure RequestsKept (db : Database) : Prop where
  owned : ∀ line ∈ db.lines.rows, ∃ doc, db.documents.find? line.documentId = some doc
  distinct : ∀ id request, db.document .requests id = some request →
    ∀ line ∈ db.linesOf id, ∀ other ∈ db.linesOf id, line.itemId = other.itemId → line = other
  drawn : ∀ tx ∈ db.transactions.rows, ∀ id, db.drawsOn tx id →
    ∃ request, db.document .requests id = some request ∧ request.status.started
  fulfilment : ∀ id request, db.document .requests id = some request → Fulfilment db request

theorem requestsKept_empty : RequestsKept .empty where
  owned line hline := by cases hline
  distinct id request hrequest := by cases hrequest
  drawn tx htx := by cases htx
  fulfilment id request hrequest := by cases hrequest

/-! ## One document changes -/

/-- Only one document and its lines are not what they were. -/
structure Touches (id : Id) (db db' : Database) : Prop where
  documents : ∀ k, k ≠ id → db'.documents.find? k = db.documents.find? k
  lines : ∀ line, line.documentId ≠ id → (line ∈ db'.lines.rows ↔ line ∈ db.lines.rows)
  header : db.Posted id → (db'.documents.find? id).map Document.header =
    (db.documents.find? id).map Document.header

/-- A request that has not been started, with its lines. -/
structure Unstarted (db : Database) (request : Document) : Prop where
  status : request.status.started = false
  issued : ∀ line ∈ db.linesOf request.id, line.quantityIssued = 0
  approved : ∀ line ∈ db.linesOf request.id, 0 ≤ line.quantityApproved.getD 0
  distinct : ∀ line ∈ db.linesOf request.id, ∀ other ∈ db.linesOf request.id,
    line.itemId = other.itemId → line = other

section Frames

variable {db db' : Database} {id : Id} {tx : Transaction}

theorem document_eq_none {kind : DocumentKind} {doc : Document}
    (hdoc : db.documents.find? id = some doc) (hkind : doc.kind ≠ kind) :
    db.document kind id = none := by
  rw [Database.document, hdoc]
  exact Option.filter_some_neg (by simpa using hkind)

theorem Touches.linesOf (h : Touches id db db') {k : Id} (hk : k ≠ id) {line : Line} :
    line ∈ db'.linesOf k ↔ line ∈ db.linesOf k := by
  rw [Database.mem_linesOf, Database.mem_linesOf]
  constructor
  · rintro ⟨hline, rfl⟩
    exact ⟨(h.lines line hk).1 hline, rfl⟩
  · rintro ⟨hline, rfl⟩
    exact ⟨(h.lines line hk).2 hline, rfl⟩

theorem Touches.document (h : Touches id db db') {kind : DocumentKind} {k : Id} (hk : k ≠ id) :
    db'.document kind k = db.document kind k := by
  rw [Database.document, h.documents k hk, Database.document]

theorem Touches.drawsOn (h : Touches id db db') (htx : tx ∈ db.transactions.rows)
    {requestId : Id} : db'.drawsOn tx requestId ↔ db.drawsOn tx requestId := by
  refine and_congr_right fun htype => ?_
  by_cases hid : tx.referenceId = id
  · have hheader := h.header ⟨tx, htx, by rw [htype]; rfl, hid⟩
    have hview : ∀ s : Database, (s.document .issues id).any (·.requestId = some requestId) =
        ((s.documents.find? id).map Document.header).any
          fun c => c.kind = .issues ∧ c.requestId = some requestId := by
      intro s
      unfold Database.document
      cases s.documents.find? id with
      | none => rfl
      | some doc =>
          by_cases hkind : doc.kind = .issues <;> simp [Document.header, hkind]
    rw [hid, hview, hview, hheader]
  · rw [h.document hid]

theorem Touches.issuedFor (h : Touches id db db') (hsame : db'.transactions = db.transactions)
    {requestId itemId : Id} : db'.issuedFor requestId itemId = db.issuedFor requestId itemId := by
  unfold Database.issuedFor
  rw [hsame]
  exact Table.sum_congr fun tx htx => if_congr (and_congr_left fun _ => h.drawsOn htx) rfl rfl

/-- Nothing has been issued for a request that has not been started. -/
theorem RequestsKept.issuedFor_eq_zero (h : RequestsKept db)
    (hid : ∀ request, db.document .requests id = some request → request.status.started = false)
    (itemId : Id) : db.issuedFor id itemId = 0 := by
  refine List.sum_eq_zero fun x hx => ?_
  obtain ⟨tx, htx, rfl⟩ := List.mem_map.1 hx
  refine if_neg fun hdraws => ?_
  obtain ⟨request, hrequest, hstarted⟩ := h.drawn tx htx id hdraws.1
  rw [hid request hrequest] at hstarted
  cases hstarted

theorem Unstarted.fulfilment {request : Document} (h : Unstarted db request)
    (hnothing : ∀ itemId, db.issuedFor request.id itemId = 0) : Fulfilment db request where
  bounds line hline := by
    rw [h.issued line hline]
    exact ⟨le_rfl, h.approved line hline⟩
  counted line hline := by rw [h.issued line hline, hnothing]
  fulfilled hstatus := by
    have hstarted := h.status
    rw [hstatus] at hstarted
    cases hstarted
  partially hstatus := by
    have hstarted := h.status
    rw [hstatus] at hstarted
    cases hstarted

/-- Fulfilment depends on the lines of the request and on what was issued for it. -/
theorem Fulfilment.congr {request : Document} (h : Fulfilment db request)
    (hlines : ∀ line, line ∈ db'.linesOf request.id ↔ line ∈ db.linesOf request.id)
    (hissued : ∀ itemId, db'.issuedFor request.id itemId = db.issuedFor request.id itemId) :
    Fulfilment db' request where
  bounds line hline := h.bounds line ((hlines line).1 hline)
  counted line hline := by rw [hissued, h.counted line ((hlines line).1 hline)]
  fulfilled hstatus line hline := h.fulfilled hstatus line ((hlines line).1 hline)
  partially hstatus := by
    simp only [hlines]
    exact h.partially hstatus

/-- A step that touches one document keeps the requests, unless the document is itself a
request that has been started. -/
theorem RequestsKept.touch (h : RequestsKept db) (id : Id) (htouches : Touches id db db')
    (hsame : db'.transactions = db.transactions)
    (hdoc : ∃ doc, db'.documents.find? id = some doc)
    (hold : ∀ request, db.document .requests id = some request → request.status.started = false)
    (hnew : ∀ request, db'.document .requests id = some request → Unstarted db' request) :
    RequestsKept db' := by
  have hids : ∀ {s : Database} {k : Id} {request : Document},
      s.document .requests k = some request → request.id = k :=
    fun hrequest => Table.key_of_find? (Database.document_eq_some.1 hrequest).1
  refine ⟨fun line hline => ?_, fun k request hrequest line hline other hother => ?_,
    fun tx htx k hdraws => ?_, fun k request hrequest => ?_⟩
  · by_cases hk : line.documentId = id
    · rw [hk]
      exact hdoc
    · rw [htouches.documents _ hk]
      exact h.owned line ((htouches.lines line hk).1 hline)
  · by_cases hk : k = id
    · subst hk
      have hlines := (hnew request hrequest).distinct
      rw [hids hrequest] at hlines
      exact hlines line hline other hother
    · rw [htouches.document hk] at hrequest
      exact h.distinct k request hrequest line ((htouches.linesOf hk).1 hline) other
        ((htouches.linesOf hk).1 hother)
  · rw [hsame] at htx
    obtain ⟨request, hrequest, hstarted⟩ := h.drawn tx htx k ((htouches.drawsOn htx).1 hdraws)
    have hk : k ≠ id := by
      rintro rfl
      rw [hold request hrequest] at hstarted
      cases hstarted
    exact ⟨request, (htouches.document hk).trans hrequest, hstarted⟩
  · by_cases hk : k = id
    · subst hk
      refine (hnew request hrequest).fulfilment fun itemId => ?_
      rw [htouches.issuedFor hsame, hids hrequest]
      exact h.issuedFor_eq_zero hold itemId
    · rw [htouches.document hk] at hrequest
      refine (h.fulfilment k request hrequest).congr (fun line => ?_) fun itemId =>
        htouches.issuedFor hsame
      rw [hids hrequest]
      exact htouches.linesOf hk

/-- A transaction that is not that of an issue for a request. -/
theorem RequestsKept.insert {transactions : Table Transaction.id} (h : RequestsKept db)
    (hdocuments : db'.documents = db.documents) (hlines : db'.lines = db.lines)
    (hinserted : db.transactions.insert? tx = some transactions)
    (hsame : db'.transactions = transactions)
    (hother : ∀ requestId, ¬ db.drawsOn tx requestId) : RequestsKept db' := by
  have hdocument : ∀ kind k, db'.document kind k = db.document kind k := fun kind k => by
    rw [Database.document, hdocuments, Database.document]
  have hdraws : ∀ old k, db'.drawsOn old k ↔ db.drawsOn old k := fun old k => by
    rw [Database.drawsOn, hdocument, Database.drawsOn]
  have hof : ∀ k, db'.linesOf k = db.linesOf k := fun k => by
    rw [Database.linesOf, hlines, Database.linesOf]
  have hissued : ∀ k itemId, db'.issuedFor k itemId = db.issuedFor k itemId := by
    intro k itemId
    have hsum := Table.sum_insert? (fun old : Transaction =>
      if db.drawsOn old k ∧ old.itemId = itemId then old.quantity else 0) hinserted
    rw [if_neg fun hboth => hother k hboth.1, add_zero] at hsum
    simp only [Database.issuedFor, hsame, hdraws]
    exact hsum
  refine ⟨fun line hline => ?_, fun k request hrequest => ?_, fun old hold k hk => ?_,
    fun k request hrequest => ?_⟩
  · rw [hdocuments]
    exact h.owned line (hlines ▸ hline)
  · rw [hof]
    exact h.distinct k request (hdocument _ k ▸ hrequest)
  · rw [hdraws] at hk
    rw [hsame] at hold
    rw [hdocument]
    rcases (Table.mem_insert? hinserted).1 hold with hold | rfl
    · exact h.drawn old hold k hk
    · exact absurd hk (hother k)
  · exact (h.fulfilment k request (hdocument _ k ▸ hrequest)).congr (fun line => by rw [hof])
      (hissued _)

/-! ## An issue draws on a request -/

theorem requestStatus_started (lines : List Line) : (requestStatus lines).started := by
  unfold requestStatus
  split <;> rfl

theorem requestStatus_fulfilled {lines : List Line} (h : requestStatus lines = .fulfilled)
    {line : Line} (hline : line ∈ lines) (hpos : 0 ≤ line.quantityIssued) :
    line.quantityApproved.getD 0 ≤ line.quantityIssued := by
  unfold requestStatus at h
  split at h
  · cases h
  · next hnone =>
    cases happroved : line.quantityApproved with
    | none => exact hpos
    | some approved =>
        simp only [List.any_eq_true, not_exists, not_and] at hnone
        have hle := hnone line hline
        rw [happroved, Option.any_some, decide_eq_true_eq, not_lt] at hle
        exact hle

theorem requestStatus_partially {lines : List Line} (h : requestStatus lines = .partiallyIssued) :
    ∃ line ∈ lines, line.quantityIssued < line.quantityApproved.getD 0 := by
  unfold requestStatus at h
  split at h
  · next hsome =>
    obtain ⟨line, hline, hlt⟩ := List.any_eq_true.1 hsome
    obtain ⟨approved, happroved, hlt⟩ := (Option.any_eq_true _ _).1 hlt
    exact ⟨line, hline, by simpa [Option.mem_def.1 happroved] using hlt⟩
  · cases h

/-- An issue of `q` units for a request: its line counts them, its status is set anew and
the transaction of the issue is inserted. -/
theorem RequestsKept.draw {request request' : Document} {reqline reqline' : Line} {q : ℚ}
    {transactions : Table Transaction.id} (h : RequestsKept db)
    (hrequest : db.document .requests request.id = some request)
    (hreqline : reqline ∈ db.linesOf request.id) (hpos : 0 < q)
    (hle : reqline.quantityIssued + q ≤ reqline.quantityApproved.getD 0)
    (hcounts : reqline' = { reqline with quantityIssued := reqline.quantityIssued + q })
    (hlines : db'.lines = db.lines.set reqline')
    (hstatus : request' = { request with status := requestStatus (db'.linesOf request.id) })
    (hdocuments : db'.documents = db.documents.set request')
    (hinserted : db.transactions.insert? tx = some transactions)
    (hsame : db'.transactions = transactions) (htype : tx.type = .issue)
    (hitem : tx.itemId = reqline.itemId) (hquantity : tx.quantity = q)
    (hissue : ∀ k, (db.document .issues tx.referenceId).any (·.requestId = some k) = true ↔
      k = request.id) : RequestsKept db' := by
  obtain ⟨hfind, hkind⟩ := Database.document_eq_some.1 hrequest
  obtain ⟨hmem, howner⟩ := Database.mem_linesOf.1 hreqline
  have hid : request'.id = request.id := by rw [hstatus]
  have hkind' : request'.kind = .requests := by rw [hstatus]; exact hkind
  have hset : db'.documents.find? request.id = some request' := by
    rw [hdocuments, ← hid]
    exact Table.find?_set_self (hid ▸ hfind)
  have hdocs : ∀ k, k ≠ request.id → db'.documents.find? k = db.documents.find? k := by
    intro k hk
    rw [hdocuments]
    exact Table.find?_set_ne (hid ▸ Ne.symm hk)
  have hdocument : ∀ kind k, k ≠ request.id → db'.document kind k = db.document kind k := by
    intro kind k hk
    rw [Database.document, hdocs k hk, Database.document]
  have hissues : ∀ k, db'.document .issues k = db.document .issues k := by
    intro k
    by_cases hk : k = request.id
    · rw [hk, document_eq_none hset (by rw [hkind']; decide),
        document_eq_none hfind (by rw [hkind]; decide)]
    · exact hdocument .issues k hk
  have hmemLines : ∀ k line, line ∈ db'.linesOf k ↔
      (line ∈ db.linesOf k ∧ line.id ≠ reqline.id) ∨ (line = reqline' ∧ k = request.id) := by
    intro k line
    have hrow : reqline'.id = reqline.id := by rw [hcounts]
    have hdoc : reqline'.documentId = request.id := by rw [hcounts]; exact howner
    rw [Database.mem_linesOf, Database.mem_linesOf, hlines,
      Table.mem_set_of_find? (hrow ▸ Table.find?_of_mem hmem), hrow]
    constructor
    · rintro ⟨⟨hline, hne⟩ | rfl, rfl⟩
      · exact .inl ⟨⟨hline, rfl⟩, hne⟩
      · exact .inr ⟨rfl, hdoc⟩
    · rintro (⟨⟨hline, rfl⟩, hne⟩ | ⟨rfl, rfl⟩)
      · exact ⟨.inl ⟨hline, hne⟩, rfl⟩
      · exact ⟨.inr rfl, hdoc⟩
  have hissued : ∀ k itemId, db'.issuedFor k itemId = db.issuedFor k itemId +
      if k = request.id ∧ reqline.itemId = itemId then q else 0 := by
    intro k itemId
    have hsum := Table.sum_insert? (fun old : Transaction =>
      if db.drawsOn old k ∧ old.itemId = itemId then old.quantity else 0) hinserted
    have hnew : db.drawsOn tx k ↔ k = request.id := (and_iff_right htype).trans (hissue k)
    simp only [hnew, hitem, hquantity] at hsum
    simp only [Database.issuedFor, hsame, Database.drawsOn, hissues]
    exact hsum
  have hkept := h.fulfilment _ _ hrequest
  have hother : ∀ line ∈ db.linesOf request.id, line.id ≠ reqline.id →
      reqline.itemId ≠ line.itemId := fun line hline hne hsameItem =>
    hne (congrArg Line.id (h.distinct _ _ hrequest reqline hreqline line hline hsameItem)).symm
  have hdrawn : 0 < reqline'.quantityIssued ∧
      reqline'.quantityIssued ≤ reqline'.quantityApproved.getD 0 := by
    rw [hcounts]
    exact ⟨add_pos_of_nonneg_of_pos (hkept.bounds reqline hreqline).1 hpos, hle⟩
  have hcounters : ∀ line ∈ db'.linesOf request.id, 0 ≤ line.quantityIssued ∧
      line.quantityIssued ≤ line.quantityApproved.getD 0 := by
    intro line hline
    rcases (hmemLines _ line).1 hline with ⟨hline, -⟩ | ⟨rfl, -⟩
    · exact hkept.bounds line hline
    · exact ⟨hdrawn.1.le, hdrawn.2⟩
  refine ⟨fun line hline => ?_, fun k found hfound line hline other hother' => ?_,
    fun old hold k hk => ?_, fun k found hfound => ?_⟩
  · by_cases hk : line.documentId = request.id
    · exact ⟨_, hk ▸ hset⟩
    · rcases (hmemLines _ line).1 (Database.mem_linesOf.2 ⟨hline, rfl⟩) with ⟨hline, -⟩ | ⟨-, hown⟩
      · rw [hdocs _ hk]
        exact h.owned line (Database.mem_linesOf.1 hline).1
      · exact absurd hown hk
  · by_cases hk : k = request.id
    · subst hk
      rcases (hmemLines _ line).1 hline with ⟨hline, hne⟩ | ⟨rfl, -⟩
      · rcases (hmemLines _ other).1 hother' with ⟨hotherLine, -⟩ | ⟨rfl, -⟩
        · exact h.distinct _ _ hrequest line hline other hotherLine
        · rw [hcounts]
          exact fun hsameItem => absurd hsameItem.symm (hother line hline hne)
      · rcases (hmemLines _ other).1 hother' with ⟨hotherLine, hne⟩ | ⟨rfl, -⟩
        · rw [hcounts]
          exact fun hsameItem => absurd hsameItem (hother other hotherLine hne)
        · exact fun _ => rfl
    · rw [hdocument _ k hk] at hfound
      rw [hmemLines] at hline hother'
      simp only [hk, and_false, or_false] at hline hother'
      exact h.distinct k found hfound line hline.1 other hother'.1
  · by_cases hk' : k = request.id
    · refine ⟨request', hk' ▸ Database.document_eq_some.2 ⟨hset, hkind'⟩, ?_⟩
      rw [hstatus]
      exact requestStatus_started _
    · rw [hdocument _ k hk']
      rw [Database.drawsOn, hissues] at hk
      rw [hsame] at hold
      rcases (Table.mem_insert? hinserted).1 hold with hold | rfl
      · exact h.drawn old hold k hk
      · exact absurd ((hissue k).1 hk.2) hk'
  · by_cases hk : k = request.id
    · subst hk
      obtain rfl : request' = found :=
        Option.some.inj (hset.symm.trans (Database.document_eq_some.1 hfound).1)
      have hset' : request'.status = requestStatus (db'.linesOf request.id) := by rw [hstatus]
      rw [← hid] at hmemLines hcounters hset'
      refine ⟨hcounters, fun line hline => ?_, fun hdone line hline => ?_, fun hpart => ⟨?_, ?_⟩⟩
      · rw [hissued]
        rcases (hmemLines _ line).1 hline with ⟨hline, hne⟩ | ⟨rfl, -⟩
        · rw [hid] at hline
          rw [if_neg fun hboth => hother line hline hne hboth.2, add_zero, hid]
          exact hkept.counted line hline
        · rw [if_pos ⟨hid, by rw [hcounts]⟩, hcounts, hid, ← hkept.counted reqline hreqline]
      · exact requestStatus_fulfilled (hset'.symm.trans hdone) hline (hcounters line hline).1
      · exact ⟨reqline', (hmemLines _ _).2 (.inr ⟨rfl, rfl⟩), hdrawn.1⟩
      · exact requestStatus_partially (hset'.symm.trans hpart)
    · rw [hdocument _ k hk] at hfound
      have hfoundId : found.id = k := Table.key_of_find? (Database.document_eq_some.1 hfound).1
      refine (h.fulfilment k found hfound).congr (fun line => ?_) fun itemId => ?_
      · rw [hfoundId, hmemLines]
        simp only [hk, and_false, or_false, and_iff_left_iff_imp]
        rintro hline heq
        have hrow := db.lines.key_injective (Database.mem_linesOf.1 hline).1 hmem heq
        exact hk ((Database.mem_linesOf.1 hline).2.symm.trans (hrow ▸ howner))
      · rw [hissued, if_neg fun hboth => hk (hfoundId ▸ hboth.1), add_zero]

end Frames

/-! ## Actions that do not post -/

/-- The lines of one document after a loop that leaves their items and counters. -/
structure Revised (db : Database) (id : Id) (lines : Table Line.id) : Prop where
  others : ∀ line, line.documentId ≠ id → (line ∈ lines.rows ↔ line ∈ db.lines.rows)
  own : ∀ line ∈ lines.rows, line.documentId = id → ∃ old ∈ db.linesOf id, old.id = line.id ∧
    old.itemId = line.itemId ∧ line.quantityIssued = old.quantityIssued ∧
    (0 ≤ old.quantityApproved.getD 0 → 0 ≤ line.quantityApproved.getD 0)

section Actions

variable {ctx : Context 28 12} {env : Env} {db db' : Database} {doc doc' : Document}
  {kind : DocumentKind} {body : ActionBody}

theorem Revised.refl (db : Database) (id : Id) : Revised db id db.lines :=
  ⟨fun _ _ => Iff.rfl, fun line hline hown =>
    ⟨line, Database.mem_linesOf.2 ⟨hline, hown⟩, rfl, rfl, rfl, fun happroved => happroved⟩⟩

/-- Writing a line of a document leaves the lines of the others. -/
theorem mem_set_other {lines : Table Line.id} {line other : Line}
    (hold : ∀ old, lines.find? line.id = some old → old.documentId = line.documentId)
    (hne : other.documentId ≠ line.documentId) :
    other ∈ (lines.set line).rows ↔ other ∈ lines.rows := by
  rw [Table.mem_set]
  constructor
  · rintro (⟨hother, -⟩ | ⟨rfl, -⟩)
    · exact hother
    · exact absurd rfl hne
  · intro hother
    exact .inl ⟨hother, fun hid => hne (hold other (hid ▸ Table.find?_of_mem hother))⟩

theorem lineLoop_revised {f : Database → Line → Outcome Database} {id : Id} {read : List Line}
    (hsub : ∀ line ∈ read, line ∈ db.linesOf id)
    (hf : ∀ s line s', f s line = .ok s' → ∃ line', s' = setLine s line' ∧
      line'.id = line.id ∧ line'.documentId = line.documentId ∧ line'.itemId = line.itemId ∧
      line'.quantityIssued = line.quantityIssued ∧
      (0 ≤ line.quantityApproved.getD 0 → 0 ≤ line'.quantityApproved.getD 0))
    (h : read.foldlM f db = .ok db') : ∃ lines, db' = { db with lines } ∧ Revised db id lines := by
  refine foldlM_inv (P := fun s => ∃ lines, s = { db with lines } ∧ Revised db id lines)
    (fun s line s' hline hs hstep => ?_) ⟨db.lines, rfl, Revised.refl db id⟩ h
  obtain ⟨lines, rfl, hrevised⟩ := hs
  obtain ⟨line', rfl, hid, hdocument, hitem, hissued, happroved⟩ := hf _ line s' hstep
  have hread := hsub line hline
  obtain ⟨hmem, hown⟩ := Database.mem_linesOf.1 hread
  refine ⟨lines.set line', rfl, fun other hother => ?_, fun other hother howns => ?_⟩
  · rw [← hrevised.others other hother]
    refine mem_set_other (fun old hold => ?_) (by rw [hdocument, hown]; exact hother)
    -- the row that is replaced is a line of the same document
    by_contra hne
    rw [hdocument, hown] at hne
    have hrow := (hrevised.others old hne).1 (Table.mem_of_find? hold)
    have heq := db.lines.key_injective hrow hmem ((Table.key_of_find? hold).trans hid)
    exact hne (heq ▸ hown)
  · rcases Table.mem_set.1 hother with ⟨hother, -⟩ | ⟨rfl, -⟩
    · exact hrevised.own other hother howns
    · exact ⟨line, hread, hid.symm, hitem.symm, hissued, happroved⟩

theorem RequestsKept.decided {lines : Table Line.id} (h : RequestsKept db)
    (hdoc : db.documents.find? doc.id = some doc) (hrevised : Revised db doc.id lines)
    (hid : doc'.id = doc.id) (hheader : doc'.header = doc.header)
    (hold : doc.kind = .requests → doc.status.started = false)
    (hnew : doc.kind = .requests → doc'.status.started = false) :
    RequestsKept (setDocument { db with lines } doc') := by
  have hself : (db.documents.set doc').find? doc.id = some doc' := by
    rw [← hid]
    exact Table.find?_set_self (hid ▸ hdoc)
  have hunstarted : ∀ request, db.document .requests doc.id = some request →
      request.status.started = false := by
    intro request hrequest
    obtain ⟨hfind, hkind⟩ := Database.document_eq_some.1 hrequest
    obtain rfl := Option.some.inj (hfind.symm.trans hdoc)
    exact hold hkind
  refine h.touch doc.id ⟨fun k hk => ?_, hrevised.others, fun _ => ?_⟩ rfl ⟨doc', hself⟩
    hunstarted fun request hrequest => ?_
  · exact Table.find?_set_ne (hid ▸ Ne.symm hk)
  · rw [hdoc]
    exact (congrArg _ hself).trans (congrArg some hheader)
  · obtain ⟨hfind, hkind⟩ := Database.document_eq_some.1 hrequest
    obtain rfl : doc' = request := Option.some.inj (hself.symm.trans hfind)
    have hrequests : doc.kind = .requests := (congrArg Header.kind hheader).symm.trans hkind
    have hkept := h.fulfilment doc.id doc (Database.document_eq_some.2 ⟨hdoc, hrequests⟩)
    have hlines : ∀ line ∈ (setDocument { db with lines } doc').linesOf doc'.id,
        line ∈ lines.rows ∧ line.documentId = doc.id := fun line hline => by
      rw [← hid]
      exact Database.mem_linesOf.1 hline
    refine ⟨hnew hrequests, fun line hline => ?_, fun line hline => ?_,
      fun line hline other hother hitem => ?_⟩
    · obtain ⟨old, hold, -, -, hissued, -⟩ := hrevised.own line (hlines line hline).1
        (hlines line hline).2
      rw [hissued, hkept.counted old hold, h.issuedFor_eq_zero hunstarted]
    · obtain ⟨old, hold, -, -, -, happroved⟩ := hrevised.own line (hlines line hline).1
        (hlines line hline).2
      exact happroved ((hkept.bounds old hold).1.trans (hkept.bounds old hold).2)
    · obtain ⟨old, hold, holdId, holdItem, -⟩ := hrevised.own line (hlines line hline).1
        (hlines line hline).2
      obtain ⟨old', hold', holdId', holdItem', -⟩ := hrevised.own other (hlines other hother).1
        (hlines other hother).2
      have hsame : old = old' := h.distinct doc.id doc
        (Database.document_eq_some.2 ⟨hdoc, hrequests⟩) old hold old' hold'
        (holdItem.trans (hitem.trans holdItem'.symm))
      exact lines.key_injective (hlines line hline).1 (hlines other hother).1
        (holdId.symm.trans ((congrArg Line.id hsame).trans holdId'))

theorem RequestsKept.cancel (h : RequestsKept db) (hdoc : db.documents.find? doc.id = some doc)
    (hcancel : cancelDocument db doc = .ok db') : RequestsKept db' := by
  simp only [cancelDocument, bind_eq_ok, ensure_eq_ok, exists_const, Except.ok.injEq] at hcancel
  obtain ⟨hstatus, rfl⟩ := hcancel
  refine h.decided hdoc (Revised.refl db doc.id) rfl rfl (fun _ => ?_) fun _ => rfl
  cases hcase : doc.status <;> simp_all [DocumentStatus.started]

theorem RequestsKept.reject (h : RequestsKept db) (hdoc : db.documents.find? doc.id = some doc)
    (hreject : rejectDocument db kind doc = .ok db') : RequestsKept db' := by
  simp only [rejectDocument, bind_eq_ok, ensure_eq_ok, exists_const, Except.ok.injEq] at hreject
  obtain ⟨⟨-, hstatus⟩, rfl⟩ := hreject
  refine h.decided hdoc (Revised.refl db doc.id) rfl rfl (fun _ => ?_) fun _ => rfl
  cases hcase : doc.status <;> simp_all [DocumentStatus.started]

theorem RequestsKept.submit (h : RequestsKept db) (hdoc : db.documents.find? doc.id = some doc)
    (hsubmit : submitDocument db kind doc body = .ok db') : RequestsKept db' := by
  simp only [submitDocument, bind_eq_ok, ensure_eq_ok, exists_const, Except.ok.injEq] at hsubmit
  obtain ⟨hstatus, s, hloop, rfl⟩ := hsubmit
  have hrevised : ∃ lines, s = { db with lines } ∧ Revised db doc.id lines := by
    refine lineLoop_revised (fun line hline => ?_) (fun s line s' hstep => ?_) hloop
    · split at hline
      · exact hline
      · simp at hline
    · simp only [submitLine, bind_eq_ok, ensure_eq_ok, exists_const, Except.ok.injEq] at hstep
      obtain ⟨_, _, _, _, _, rfl⟩ := hstep
      exact ⟨_, rfl, rfl, rfl, rfl, rfl, id⟩
  obtain ⟨lines, rfl, hrevised⟩ := hrevised
  refine h.decided hdoc hrevised rfl rfl (fun _ => ?_) fun _ => rfl
  rw [hstatus]
  split <;> rfl

theorem RequestsKept.start {restart : Bool} (h : RequestsKept db)
    (hdoc : db.documents.find? doc.id = some doc) (hkind : doc.kind = kind)
    (hstart : startDocument db kind doc restart body = .ok db') : RequestsKept db' := by
  simp only [startDocument, bind_eq_ok, ensure_eq_ok, exists_const, Except.ok.injEq] at hstart
  obtain ⟨⟨hcounts, -⟩, -, s, hloop, rfl⟩ := hstart
  have hother : doc.kind ≠ .requests := by
    rw [hkind, hcounts]
    decide
  have hrevised : ∃ lines, s = { db with lines } ∧ Revised db doc.id lines := by
    refine lineLoop_revised (fun _ hline => hline) (fun s line s' hstep => ?_) hloop
    simp only [startLine, bind_eq_ok, Except.ok.injEq] at hstep
    obtain ⟨_, _, rfl⟩ := hstep
    exact ⟨_, rfl, rfl, rfl, rfl, rfl, id⟩
  obtain ⟨lines, rfl, hrevised⟩ := hrevised
  exact h.decided hdoc hrevised rfl rfl (fun hrequest => absurd hrequest hother) fun _ => rfl

theorem approvedQuantity_nonneg {line : Line} {q approved : ℚ}
    (h : approvedQuantity ctx db line q = .ok approved) : 0 ≤ approved := by
  unfold approvedQuantity at h
  split at h
  · exact (Except.ok.inj h).le
  · simp only [bind_eq_ok] at h
    obtain ⟨item, -, hquantity⟩ := h
    exact (quantity_spec hquantity).1.le

theorem RequestsKept.approve (h : RequestsKept db) (hdoc : db.documents.find? doc.id = some doc)
    (hkind : doc.kind = kind) (happrove : approveDocument ctx env db kind doc body = .ok db') :
    RequestsKept db' := by
  simp only [approveDocument, bind_eq_ok, ensure_eq_ok, exists_const, Except.ok.injEq] at happrove
  obtain ⟨hstatus, s, hloop, rfl⟩ := happrove
  have hrevised : ∃ lines, s = { db with lines } ∧ Revised db doc.id lines := by
    refine lineLoop_revised (fun line hline => ?_) (fun s line s' hstep => ?_) hloop
    · split at hline
      · exact hline
      · simp at hline
    · simp only [approveLine, bind_eq_ok, ensure_eq_ok, exists_const, Except.ok.injEq] at hstep
      obtain ⟨-, approved, happroved, -, rfl⟩ := hstep
      exact ⟨_, rfl, rfl, rfl, rfl, rfl, fun _ => approvedQuantity_nonneg happroved⟩
  obtain ⟨lines, rfl, hrevised⟩ := hrevised
  refine h.decided hdoc hrevised rfl rfl (fun hrequest => ?_) fun _ => rfl
  rw [← hkind, hrequest] at hstatus
  cases hcase : doc.status <;> simp_all [DocumentStatus.started, awaitingApproval]

end Actions

/-! ## Saving -/

/-- The lines of a document that is being saved: their counters are blank and, in a request,
no two are for one item. -/
structure Drafted (kind : DocumentKind) (id : Id)
    (seen : List (Id × Option Id × Option Id × Option Id)) (lines : Table Line.id) : Prop where
  blank : ∀ line ∈ lines.rows, line.documentId = id →
    line.quantityIssued = 0 ∧ line.quantityApproved = none
  keyed : kind = .requests → ∀ line ∈ lines.rows, line.documentId = id →
    (line.itemId, none, none, none) ∈ seen
  distinct : kind = .requests → ∀ line ∈ lines.rows, ∀ other ∈ lines.rows,
    line.documentId = id → other.documentId = id → line.itemId = other.itemId → line = other

section Saving

variable {ctx : Context 28 12} {env : Env} {db db' : Database} {kind : DocumentKind}
  {body : DocumentBody} {id : Id} {incoming : List LineBody}
  {seen : List (Id × Option Id × Option Id × Option Id)}

theorem Drafted.insert {lines lines' : Table Line.id} {line : LineBody} {q : ℚ}
    (h : Drafted kind id seen lines) (hinsert : lines.insert? (newLine env db id line q) = some lines')
    (hkey : kind = .requests → line.key kind ∉ seen) :
    Drafted kind id (line.key kind :: seen) lines' := by
  have hrows := fun other => Table.mem_insert? (s := other) hinsert
  have hnewKey : kind = .requests → line.key kind = (line.itemId, none, none, none) :=
    fun hrequest => if_pos hrequest
  refine ⟨fun other hother hown => ?_, fun hrequest other hother hown => ?_,
    fun hrequest other hother third hthird hown hown' hitem => ?_⟩
  · rcases (hrows other).1 hother with hother | rfl
    · exact h.blank other hother hown
    · exact ⟨rfl, rfl⟩
  · rcases (hrows other).1 hother with hother | rfl
    · exact List.mem_cons_of_mem _ (h.keyed hrequest other hother hown)
    · rw [hnewKey hrequest]
      exact List.mem_cons_self
  · -- an earlier line of the item of the new one would have its key among those seen
    have hfresh : ∀ other ∈ lines.rows, other.documentId = id → other.itemId ≠ line.itemId :=
      fun other hother hown hitem => hkey hrequest (by
        rw [hnewKey hrequest, ← hitem]
        exact h.keyed hrequest other hother hown)
    rcases (hrows other).1 hother with hother | rfl
    · rcases (hrows third).1 hthird with hthird | rfl
      · exact h.distinct hrequest other hother third hthird hown hown' hitem
      · exact absurd hitem (hfresh other hother hown)
    · rcases (hrows third).1 hthird with hthird | rfl
      · exact absurd hitem.symm (hfresh third hthird hown')
      · rfl

theorem saveLines_drafted (h : saveLines ctx env kind body id incoming seen db = .ok db')
    (hdrafted : Drafted kind id seen db.lines) :
    ∃ lines, db' = { db with lines } ∧
      (∀ line, line.documentId ≠ id → (line ∈ lines.rows ↔ line ∈ db.lines.rows)) ∧
      ∃ seen', Drafted kind id seen' lines := by
  induction incoming generalizing seen db with
  | nil =>
      obtain rfl := Except.ok.inj h
      exact ⟨db.lines, rfl, fun _ _ => Iff.rfl, seen, hdrafted⟩
  | cons line rest ih =>
      simp only [saveLines, saveLine, bind_eq_ok, ensure_eq_ok, exists_const, found_eq_ok,
        orError_eq_ok, Except.ok.injEq] at h
      obtain ⟨hkey, mid, ⟨_, -, item, -, q, -, -, -, -, lines, hinsert, rfl⟩, hrest⟩ := h
      obtain ⟨last, rfl, hothers, hlast⟩ := ih hrest
        (hdrafted.insert hinsert fun hrequest => hkey (.inl hrequest))
      refine ⟨last, rfl, fun other hother => (hothers other hother).trans ?_, hlast⟩
      rw [Table.mem_insert? hinsert, or_iff_left]
      rintro rfl
      exact hother rfl

/-- The header of a draft: nothing has been posted for it, and its old lines are gone. -/
theorem saveHeader_spec {identifier : Option Id} {row : Document} (hkept : RequestsKept db)
    (hsettled : Settled db) (h : saveHeader env db kind body identifier = .ok (row, db')) :
    ¬ db.Posted row.id ∧ row.kind = kind ∧ row.status = .draft ∧
      db'.transactions = db.transactions ∧ db'.documents.find? row.id = some row ∧
      (∀ k, k ≠ row.id → db'.documents.find? k = db.documents.find? k) ∧
      (∀ line, line ∈ db'.lines.rows ↔ line ∈ db.lines.rows ∧ line.documentId ≠ row.id) ∧
      ∀ request, db.document .requests row.id = some request → request.status.started = false := by
  cases identifier with
  | none =>
      simp only [saveHeader, bind_eq_ok, orError_eq_ok, Except.ok.injEq, Prod.mk.injEq] at h
      obtain ⟨documents, hinsert, rfl, rfl⟩ := h
      have hfresh : db.documents.find? (body.assign (newDocument env db kind)).id = none :=
        Table.find?_eq_none.2 fun doc hdoc => Table.insert?_fresh hinsert hdoc
      refine ⟨fun hposted => ?_, rfl, rfl, rfl, (Table.find?_insert? hinsert _).trans (if_pos rfl),
        fun k hk => (Table.find?_insert? hinsert k).trans (if_neg (Ne.symm hk)), fun line => ?_,
        fun request hrequest => ?_⟩
      · obtain ⟨doc, hdoc, -⟩ := hsettled _ hposted
        rw [hfresh] at hdoc
        cases hdoc
      · refine ⟨fun hline => ⟨hline, fun hown => ?_⟩, fun hline => hline.1⟩
        obtain ⟨doc, hdoc⟩ := hkept.owned line hline
        rw [hown, hfresh] at hdoc
        cases hdoc
      · rw [Database.document, hfresh] at hrequest
        cases hrequest
  | some id =>
      simp only [saveHeader, bind_eq_ok, found_eq_ok, ensure_eq_ok, exists_const,
        Except.ok.injEq, Prod.mk.injEq] at h
      obtain ⟨old, hold, hdraft, rfl, rfl⟩ := h
      obtain ⟨hfind, hkind⟩ := Database.document_eq_some.1 hold
      obtain rfl : old.id = id := Table.key_of_find? hfind
      refine ⟨fun hposted => ?_, hkind, hdraft, rfl,
        Table.find?_set_self (r := body.assign old) hfind,
        fun k hk => Table.find?_set_ne (r := body.assign old) (Ne.symm hk), fun line => ?_,
        fun request hrequest => ?_⟩
      · obtain ⟨doc, hdoc, hstatus⟩ := hsettled _ hposted
        exact hstatus (Option.some.inj (hdoc.symm.trans hfind) ▸ hdraft)
      · rw [Table.mem_removeIf]
        simp
      · obtain ⟨hfind', -⟩ := Database.document_eq_some.1 hrequest
        obtain rfl : old = request := Option.some.inj (hfind.symm.trans hfind')
        rw [hdraft]
        rfl

theorem RequestsKept.save {identifier : Option Id} (hkept : RequestsKept db)
    (hsettled : Settled db) (h : documentSave ctx env db kind body identifier = .ok (id, db')) :
    RequestsKept db' := by
  simp only [documentSave, bind_eq_ok, Prod.exists, Except.ok.injEq, Prod.mk.injEq] at h
  obtain ⟨_, -, _, -, _, -, _, -, row, mid, hheader, last, hlines, -, rfl⟩ := h
  obtain ⟨hposted, hkind, hdraft, hsame, hrow, hdocs, hgone, hold⟩ :=
    saveHeader_spec hkept hsettled hheader
  have hempty : ∀ line ∈ mid.lines.rows, line.documentId ≠ row.id :=
    fun line hline => ((hgone line).1 hline).2
  obtain ⟨lines, rfl, hothers, seen, hdrafted⟩ := saveLines_drafted hlines
    ⟨fun line hline hown => absurd hown (hempty line hline),
      fun _ line hline hown => absurd hown (hempty line hline),
      fun _ line hline _ _ hown => absurd hown (hempty line hline)⟩
  refine hkept.touch row.id ⟨hdocs, fun line hline => ?_, fun h => absurd h hposted⟩ hsame
    ⟨row, hrow⟩ hold fun request hrequest => ?_
  · rw [hothers line hline, hgone]
    exact and_iff_left hline
  · obtain ⟨hfind, hrequests⟩ := Database.document_eq_some.1 hrequest
    obtain rfl : row = request := Option.some.inj (hrow.symm.trans hfind)
    have hown : ∀ line ∈ ({ mid with lines } : Database).linesOf row.id,
        line ∈ lines.rows ∧ line.documentId = row.id := fun line hline =>
      Database.mem_linesOf.1 hline
    refine ⟨by rw [hdraft]; rfl, fun line hline => ?_, fun line hline => ?_,
      fun line hline other hother => ?_⟩
    · exact (hdrafted.blank line (hown line hline).1 (hown line hline).2).1
    · rw [(hdrafted.blank line (hown line hline).1 (hown line hline).2).2]
      exact le_rfl
    · exact hdrafted.distinct (hkind.symm.trans hrequests) line (hown line hline).1 other
        (hown other hother).1 (hown line hline).2 (hown other hother).2

end Saving

end Cestos.Inventory
