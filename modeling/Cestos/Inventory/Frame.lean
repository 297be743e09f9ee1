import Cestos.Inventory.Documents

/-!
# What posting leaves alone

Posting a line changes little of the documents and lines: recipients and statuses,
costs and counters. `Kept` says what stays; `Current` says that the document and
the line that an action has read are still those of the database.
-/

namespace Cestos.Inventory

open Cestos.Core Cestos.Core.Decimal

/-- The columns of a document that say what it moves. -/
structure Header where
  kind : DocumentKind
  purpose : Purpose
  condition : Condition
  storeId : Option Id
  fromStoreId : Option Id
  toStoreId : Option Id
  originalIssueId : Option Id
  requestId : Option Id
  reservationId : Option Id

def Document.header (doc : Document) : Header where
  kind := doc.kind
  purpose := doc.purpose
  condition := doc.condition
  storeId := doc.storeId
  fromStoreId := doc.fromStoreId
  toStoreId := doc.toStoreId
  originalIssueId := doc.originalIssueId
  requestId := doc.requestId
  reservationId := doc.reservationId

/-- The columns of a line that say what it moves. -/
structure LineCore where
  documentId : Id
  itemId : Id
  normalizedQuantity : ℚ
  binId : Option Id
  fromBinId : Option Id
  toBinId : Option Id

def Line.core (line : Line) : LineCore where
  documentId := line.documentId
  itemId := line.itemId
  normalizedQuantity := line.normalizedQuantity
  binId := line.binId
  fromBinId := line.fromBinId
  toBinId := line.toBinId

/-- The lot and the serial of a line, which a receipt fills in. -/
def Line.tracking (line : Line) : Option Id × Option Id := (line.lotId, line.serialId)

/-- Documents and lines mean the same as before; only the lines in `own` may have got
a lot and a serial. -/
structure Alike (own : List Id) (db db' : Database) : Prop where
  headers : ∀ id, (db'.documents.find? id).map Document.header =
    (db.documents.find? id).map Document.header
  cores : ∀ id, (db'.lines.find? id).map Line.core = (db.lines.find? id).map Line.core
  trackings : ∀ id, id ∉ own →
    (db'.lines.find? id).map Line.tracking = (db.lines.find? id).map Line.tracking

/-- Besides, only requests have got another status. -/
structure Kept (own : List Id) (db db' : Database) : Prop extends Alike own db db' where
  statuses : ∀ id doc doc', db.documents.find? id = some doc →
    db'.documents.find? id = some doc' →
    doc'.status = doc.status ∨ doc.kind = .requests ∧ doc'.status ≠ .draft

/-- The database has the document and the line as the action has read them. -/
structure Current (db : Database) (kind : DocumentKind) (doc : Document) (line : Line) : Prop where
  kind : doc.kind = kind
  header : (db.documents.find? doc.id).map Document.header = some doc.header
  status : (db.documents.find? doc.id).map Document.status = some doc.status
  owner : line.documentId = doc.id
  core : (db.lines.find? line.id).map Line.core = some line.core
  tracking : (db.lines.find? line.id).map Line.tracking = some line.tracking

namespace Alike

variable {own own' : List Id} {db db' db'' : Database}

theorem of_eq (hdocs : db'.documents = db.documents) (hlines : db'.lines = db.lines) :
    Alike own db db' where
  headers id := by rw [hdocs]
  cores id := by rw [hlines]
  trackings id _ := by rw [hlines]

theorem refl (db : Database) : Alike own db db := of_eq rfl rfl

theorem header_forward (h : Alike own db db') {id : Id} {doc : Document}
    (hdoc : db.documents.find? id = some doc) :
    ∃ doc', db'.documents.find? id = some doc' ∧ doc'.header = doc.header := by
  have hmap := h.headers id
  rw [hdoc] at hmap
  simpa [eq_comm] using hmap

theorem core_backward (h : Alike own db db') {id : Id} {line' : Line}
    (hline' : db'.lines.find? id = some line') :
    ∃ line, db.lines.find? id = some line ∧ line.core = line'.core ∧
      (id ∉ own → line.tracking = line'.tracking) := by
  have hmap := h.cores id
  rw [hline', Option.map_some, eq_comm, Option.map_eq_some_iff] at hmap
  obtain ⟨line, hline, hcore⟩ := hmap
  refine ⟨line, hline, hcore, fun hid => ?_⟩
  have htracking := h.trackings id hid
  rw [hline', hline] at htracking
  exact (Option.some.inj htracking).symm

theorem core_forward (h : Alike own db db') {id : Id} {line : Line}
    (hline : db.lines.find? id = some line) :
    ∃ line', db'.lines.find? id = some line' ∧ line'.core = line.core ∧
      (id ∉ own → line'.tracking = line.tracking) := by
  have hmap := h.cores id
  rw [hline, Option.map_some, Option.map_eq_some_iff] at hmap
  obtain ⟨line', hline', hcore⟩ := hmap
  refine ⟨line', hline', hcore, fun hid => ?_⟩
  have htracking := h.trackings id hid
  rw [hline', hline] at htracking
  exact Option.some.inj htracking

theorem trans (h : Alike own db db') (h' : Alike own' db' db'') :
    Alike (own ++ own') db db'' where
  headers id := (h'.headers id).trans (h.headers id)
  cores id := (h'.cores id).trans (h.cores id)
  trackings id hid := by
    rw [List.mem_append, not_or] at hid
    exact (h'.trackings id hid.2).trans (h.trackings id hid.1)

theorem trans_same (h : Alike own db db') (h' : Alike own db' db'') : Alike own db db'' where
  headers id := (h'.headers id).trans (h.headers id)
  cores id := (h'.cores id).trans (h.cores id)
  trackings id hid := (h'.trackings id hid).trans (h.trackings id hid)

theorem setLine (line : Line)
    (hcore : ∀ old, db.lines.find? line.id = some old → old.core = line.core)
    (htracking : line.id ∉ own →
      ∀ old, db.lines.find? line.id = some old → old.tracking = line.tracking) :
    Alike own db { db with lines := db.lines.set line } where
  headers _ := rfl
  cores id := Table.map_find?_set hcore id
  trackings id hid := by
    by_cases hline : line.id = id
    · exact Table.map_find?_set (htracking (hline ▸ hid)) id
    · exact congrArg _ (Table.find?_set_ne hline)

theorem setDocument (doc : Document)
    (hheader : ∀ old, db.documents.find? doc.id = some old → old.header = doc.header) :
    Alike own db { db with documents := db.documents.set doc } where
  headers id := Table.map_find?_set hheader id
  cores _ := rfl
  trackings _ _ := rfl

end Alike

namespace Kept

variable {own own' : List Id} {db db' db'' : Database}

theorem of_eq (hdocs : db'.documents = db.documents) (hlines : db'.lines = db.lines) :
    Kept own db db' where
  toAlike := .of_eq hdocs hlines
  statuses id doc doc' h h' := by
    rw [hdocs, h] at h'
    exact .inl (by rw [Option.some.inj h'])

theorem refl (db : Database) : Kept own db db := of_eq rfl rfl

theorem congr {db₁ db₁' : Database} (h : Kept own db db') (hdocs : db₁.documents = db.documents)
    (hlines : db₁.lines = db.lines) (hdocs' : db₁'.documents = db'.documents)
    (hlines' : db₁'.lines = db'.lines) : Kept own db₁ db₁' where
  headers := by rw [hdocs, hdocs']; exact h.headers
  statuses := by rw [hdocs, hdocs']; exact h.statuses
  cores := by rw [hlines, hlines']; exact h.cores
  trackings := by rw [hlines, hlines']; exact h.trackings

theorem trans (h : Kept own db db') (h' : Kept own' db' db'') :
    Kept (own ++ own') db db'' where
  toAlike := h.toAlike.trans h'.toAlike
  statuses id doc doc'' hdoc hdoc'' := by
    obtain ⟨doc', hdoc', hheader⟩ := h.header_forward hdoc
    have hkind : doc'.kind = doc.kind := congrArg Header.kind hheader
    rcases h'.statuses id doc' doc'' hdoc' hdoc'' with hsame | ⟨hreq, hnot⟩
    · rcases h.statuses id doc doc' hdoc hdoc' with hold | ⟨hreq, hnot⟩
      · exact .inl (hsame.trans hold)
      · exact .inr ⟨hreq, by rwa [hsame]⟩
    · exact .inr ⟨hkind ▸ hreq, hnot⟩

theorem trans_same (h : Kept own db db') (h' : Kept own db' db'') : Kept own db db'' where
  toAlike := h.toAlike.trans_same h'.toAlike
  statuses := (h.trans h').statuses

theorem mono (h : Kept own db db') (hsub : own ⊆ own') : Kept own' db db' where
  headers := h.headers
  statuses := h.statuses
  cores := h.cores
  trackings id hid := h.trackings id fun hmem => hid (hsub hmem)

theorem setLine (line : Line)
    (hcore : ∀ old, db.lines.find? line.id = some old → old.core = line.core)
    (htracking : line.id ∉ own →
      ∀ old, db.lines.find? line.id = some old → old.tracking = line.tracking) :
    Kept own db { db with lines := db.lines.set line } where
  toAlike := .setLine line hcore htracking
  statuses id doc doc' h h' := .inl (by rw [Option.some.inj (h.symm.trans h')])

theorem setDocument (doc : Document)
    (hheader : ∀ old, db.documents.find? doc.id = some old → old.header = doc.header)
    (hstatus : ∀ old, db.documents.find? doc.id = some old →
      doc.status = old.status ∨ old.kind = .requests ∧ doc.status ≠ .draft) :
    Kept own db { db with documents := db.documents.set doc } where
  toAlike := .setDocument doc hheader
  statuses id old new hold hnew := by
    by_cases hid : doc.id = id
    · subst hid
      have hset : (db.documents.set doc).find? doc.id = some doc := Table.find?_set_self hold
      have hdoc : new = doc := Option.some.inj (hnew.symm.trans hset)
      exact hdoc ▸ hstatus old hold
    · have hsame : (db.documents.set doc).find? id = db.documents.find? id :=
        Table.find?_set_ne hid
      have heq : new = old := Option.some.inj (hnew.symm.trans (hsame.trans hold))
      exact .inl (by rw [heq])

end Kept

/-- A document and a line that are not those just posted stay current. -/
theorem Current.kept {own : List Id} {db db' : Database} {kind : DocumentKind} {doc : Document}
    {line : Line} (h : Current db kind doc line) (hkept : Kept own db db') (hkind : kind ≠ .requests)
    (hown : line.id ∉ own) : Current db' kind doc line where
  kind := h.kind
  header := (hkept.headers doc.id).trans h.header
  status := by
    obtain ⟨stored, hstored, hstatus⟩ := Option.map_eq_some_iff.1 h.status
    obtain ⟨stored', hstored', hheader⟩ := hkept.header_forward hstored
    have hdoc : stored.header = doc.header := by
      have hmap := h.header
      rw [hstored] at hmap
      exact Option.some.inj hmap
    have hstoredKind : stored.kind = kind := (congrArg Header.kind hdoc).trans h.kind
    rcases hkept.statuses doc.id stored stored' hstored hstored' with hsame | ⟨hreq, _⟩
    · rw [hstored']
      exact congrArg some (hsame.trans hstatus)
    · exact absurd (hstoredKind.symm.trans hreq) hkind
  owner := h.owner
  core := (hkept.cores line.id).trans h.core
  tracking := (hkept.trackings line.id hown).trans h.tracking

theorem Current.find? {db : Database} {kind : DocumentKind} {doc : Document} {line : Line}
    (h : Current db kind doc line) :
    ∃ stored, db.documents.find? doc.id = some stored ∧ stored.header = doc.header ∧
      stored.status = doc.status := by
  obtain ⟨stored, hstored, hstatus⟩ := Option.map_eq_some_iff.1 h.status
  refine ⟨stored, hstored, ?_, hstatus⟩
  have hmap := h.header
  rw [hstored] at hmap
  exact Option.some.inj hmap

end Cestos.Inventory
