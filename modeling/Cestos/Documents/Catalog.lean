import Cestos.Workbooks.Requests

/-!
# The document catalog

The documents of the library with the columns that belong to the text index. A document has an
identifier, and its organization has no other with its source.
-/

namespace Cestos.Documents

open Cestos.Core Cestos.Workbooks

inductive IndexStatus
  | pending | processing | ready | unsupported | failed
  deriving DecidableEq

structure Chunk where
  location : String
  text : String
  deriving DecidableEq

/-- The columns of a document that the index writes, except for the hash of the contents. -/
structure IndexColumns where
  indexStatus : IndexStatus
  indexMessage : Option String
  indexedAt : Option Instant
  extractedText : String
  chunks : List Chunk
  vectorPath : Option String
  deriving DecidableEq

/-- What the columns are by default. -/
def IndexColumns.default : IndexColumns where
  indexStatus := .pending
  indexMessage := none
  indexedAt := none
  extractedText := ""
  chunks := []
  vectorPath := none

/-- What `uq_library_source` is about. -/
structure Source where
  organizationId : Id
  sourceType : String
  sourceId : Id
  deriving DecidableEq

def source (d : LibraryDocument) : Source := ⟨d.organizationId, d.sourceType, d.sourceId⟩

/-- A change of columns that leaves what a document is and where it comes from. -/
structure Change where
  apply : LibraryDocument → LibraryDocument
  id_apply : ∀ d, (apply d).id = d.id
  source_apply : ∀ d, source (apply d) = source d

/-- Change the documents that satisfy `p`. -/
def Change.rows (change : Change) (p : LibraryDocument → Bool)
    (documents : Table LibraryDocument.id) : Table LibraryDocument.id :=
  documents.mapRows (fun d => if p d then change.apply d else d) fun d => by
    split
    · exact change.id_apply d
    · rfl

def Change.none : Change := ⟨id, fun _ => rfl, fun _ => rfl⟩

structure Catalog where
  documents : Table LibraryDocument.id
  index : Id → IndexColumns
  sources_nodup : (documents.rows.map source).Nodup

namespace Catalog

variable {c c' : Catalog} {d e : LibraryDocument}

def bySource (c : Catalog) : Table source := ⟨c.documents.rows, c.sources_nodup⟩

/-- Insert a document whose identifier and source are not in use. -/
def insert? (c : Catalog) (d : LibraryDocument) : Option Catalog :=
  if h : source d ∈ c.documents.rows.map source then none
  else match hinsert : c.documents.insert? d with
    | none => none
    | some documents => some ⟨documents, Function.update c.index d.id .default, by
        rw [Table.insert?_rows hinsert, List.map_append, List.map_singleton,
          List.nodup_append_comm, List.singleton_append, List.nodup_cons]
        exact ⟨h, c.sources_nodup⟩⟩

def update (c : Catalog) (p : LibraryDocument → Bool) (change : Change) : Catalog where
  documents := change.rows p c.documents
  index := c.index
  sources_nodup := by
    have hsame : ∀ d, source (if p d then change.apply d else d) = source d := by
      intro d
      split
      · exact change.source_apply d
      · rfl
    rw [Change.rows, Table.mapRows, List.map_map, show source ∘ _ = source from funext hsame]
    exact c.sources_nodup

def setIndex (c : Catalog) (id : Id) (columns : IndexColumns) : Catalog :=
  { c with index := Function.update c.index id columns }

theorem insert?_rows (h : c.insert? d = some c') :
    c'.documents.rows = c.documents.rows ++ [d] ∧
      c'.index = Function.update c.index d.id .default := by
  unfold insert? at h
  split at h
  · cases h
  · split at h
    · cases h
    · next documents hinsert =>
      cases h
      exact ⟨Table.insert?_rows hinsert, rfl⟩

theorem insert?_fresh (h : c.insert? d = some c') :
    source d ∉ c.documents.rows.map source ∧ d.id ∉ c.documents.rows.map LibraryDocument.id := by
  unfold insert? at h
  split at h
  · cases h
  · next hfresh =>
    split at h
    · cases h
    · next documents hinsert => exact ⟨hfresh, (Table.insert?_eq_some.1 hinsert).1⟩

/-- The document that is inserted is found under its source, the others as before. -/
theorem find?_insert? (h : c.insert? d = some c') (k : Source) :
    c'.bySource.find? k = if source d = k then some d else c.bySource.find? k := by
  have hinsert : c.bySource.insert? d = some c'.bySource :=
    Table.insert?_eq_some.2 ⟨(insert?_fresh h).1, (insert?_rows h).1⟩
  exact Table.find?_insert? hinsert k

theorem find?_update (c : Catalog) (p : LibraryDocument → Bool) (change : Change) (k : Source) :
    (c.update p change).bySource.find? k =
      (c.bySource.find? k).map fun d => if p d then change.apply d else d := by
  have hsame : ∀ d, source (if p d then change.apply d else d) = source d := by
    intro d
    split
    · exact change.source_apply d
    · rfl
  exact @Table.find?_mapRows _ _ source _ c.bySource _ hsame k

theorem find?_update_id (c : Catalog) (p : LibraryDocument → Bool) (change : Change) (id : Id) :
    (c.update p change).documents.find? id =
      (c.documents.find? id).map fun d => if p d then change.apply d else d := by
  have hsame : ∀ d, (if p d then change.apply d else d).id = d.id := by
    intro d
    split
    · exact change.id_apply d
    · rfl
  exact @Table.find?_mapRows _ _ LibraryDocument.id _ c.documents _ hsame id

end Catalog

/-!
## Documents of source rows

Rows of other tables that hold the paths of files. A flush of the session registers the files of
the rows that it writes in the catalog, and deactivates the documents of the rows that it deletes.
-/

inductive SourceModel
  | employeeDocument | employeeResume | assetDocument | assetMedia | assetLogFile | projectRecord
  | projectReport | leaveRequest | purchaseOrder | fuelDelivery | operationalExpensePayment
  | operationalExpense
  deriving DecidableEq

def SourceModel.tablename : SourceModel → String
  | .employeeDocument => "employee_documents"
  | .employeeResume => "employee_resumes"
  | .assetDocument => "asset_documents"
  | .assetMedia => "asset_media"
  | .assetLogFile => "asset_log_files"
  | .projectRecord => "project_records"
  | .projectReport => "project_reports"
  | .leaveRequest => "leave_requests"
  | .purchaseOrder => "purchase_orders"
  | .fuelDelivery => "fuel_deliveries"
  | .operationalExpensePayment => "operational_expense_payments"
  | .operationalExpense => "operational_expenses"

/-- The columns of a file. -/
structure Slot where
  pathKey : String
  category : String
  fileNameAttr : String
  mimeTypeAttr : String
  sizeBytesAttr : String
  labelSuffix : Option String
  customSourceType : Option String
  deriving DecidableEq

def Slot.plain (pathKey category : String) : Slot :=
  ⟨pathKey, category, "file_name", "mime_type", "size_bytes", none, none⟩

/-- `SOURCES`. -/
def SourceModel.slots : SourceModel → List Slot
  | .employeeDocument => [.plain "storage_path" "People"]
  | .employeeResume => [.plain "storage_path" "People"]
  | .assetDocument => [.plain "storage_path" "Equipment"]
  | .assetMedia => [.plain "storage_path" "Equipment"]
  | .assetLogFile => [.plain "storage_path" "Equipment"]
  | .projectRecord => [.plain "storage_path" "Projects"]
  | .projectReport => [.plain "storage_path" "Projects"]
  | .leaveRequest => [.plain "attachment_url" "Leave"]
  | .purchaseOrder => [.plain "attachment_path" "Procurement"]
  | .fuelDelivery => [.plain "receipt_path" "Field Operations"]
  | .operationalExpensePayment => [.plain "receipt_path" "Finance"]
  | .operationalExpense => [
      ⟨"invoice_path", "Finance", "invoice_name", "invoice_mime_type", "invoice_size_bytes",
        some "Invoice", some "operational_expenses_invoice"⟩,
      ⟨"receipt_path", "Finance", "receipt_name", "receipt_mime_type", "receipt_size_bytes",
        some "Receipt", some "operational_expenses_receipt"⟩]

def SourceModel.sourceType (model : SourceModel) (slot : Slot) : String :=
  slot.customSourceType.getD model.tablename

/-- A row stays in its organization. -/
structure RowKey where
  model : SourceModel
  organizationId : Id
  id : Id
  deriving DecidableEq

/-- A row with its attributes by name, where it has them. A table without a column `is_active` has
active rows only. -/
structure SourceRow extends RowKey where
  isActive : Bool
  texts : String → Option String
  sizes : String → Option Nat
  users : String → Option Id
  employeeId : Option Id

/-! ### What a row holds -/

/-- The first of the attributes that is there and not empty. -/
def SourceRow.text (row : SourceRow) (names : List String) : Option String :=
  names.findSome? fun name => (row.texts name).filter fun text => text ≠ ""

/-- A path in the storage, not the address of a file elsewhere. -/
def isStored (path : String) : Bool :=
  path ≠ "" && !("https:".toList.isPrefixOf path.toList || "http:".toList.isPrefixOf path.toList)

def SourceRow.storedPath (row : SourceRow) (slot : Slot) : Option String :=
  (row.texts slot.pathKey).filter isStored

def SourceRow.isPicture (row : SourceRow) : Bool :=
  row.model = .assetMedia && (row.texts "media_type").any fun type => type ∈ ["PHOTO", "VIDEO"]

def SourceRow.category (row : SourceRow) (slot : Slot) : String :=
  if row.model = .assetLogFile ∧ (row.texts "log_type").any (fun type => type ∈ ["STORE", "ITEM"]) then
    "Inventory"
  else slot.category

/-- `PurePosixPath(path).name`. -/
def fileName (path : String) : String :=
  String.ofList (((path.toList.splitOn '/').filter fun part =>
    part ≠ [] ∧ part ≠ ['.']).getLast?.getD [])

def shorten (length : Nat) (text : String) : String := String.ofList (text.toList.take length)

def SourceRow.title (row : SourceRow) (slot : Slot) : String :=
  let raw := (row.text ["title", "po_number", "expense_number", "reference_number", "reference",
    slot.fileNameAttr, "file_name"]).getD "Document"
  match slot.labelSuffix with
  | none => raw
  | some label => raw ++ " (" ++ label ++ ")"

/-- The uploader, or the first user of the row that is there. -/
def SourceRow.owner (row : SourceRow) (actorId : Option Id) : Option Id :=
  actorId.or (["uploaded_by_id", "created_by_id", "submitted_by_id", "paid_by_id"].findSome? row.users)

def RowKey.source (key : RowKey) (slot : Slot) : Source :=
  ⟨key.organizationId, key.model.sourceType slot, key.id⟩

/-- A flush of a session. No row is both written and deleted, or either of them twice. -/
structure Flush where
  actorId : Option Id
  written : List SourceRow
  deleted : List SourceRow
  /-- The identifier that is generated for the document of a source. -/
  generated : Source → Id
  now : Instant
  keys_nodup : ((written ++ deleted).map SourceRow.toRowKey).Nodup

/-- The document of a file. -/
def Flush.document (f : Flush) (row : SourceRow) (slot : Slot) (path : String) :
    LibraryDocument where
  id := f.generated (row.source slot)
  organizationId := row.organizationId
  sourceType := row.model.sourceType slot
  sourceId := row.id
  ownerId := row.owner f.actorId
  employeeId := row.employeeId
  title := shorten 250 (row.title slot)
  category := row.category slot
  tags := []
  storagePath := path
  fileName := shorten 255 ((row.text [slot.fileNameAttr, "file_name"]).getD (fileName path))
  mimeType := shorten 150 ((row.text [slot.mimeTypeAttr, "mime_type"]).getD "application/octet-stream")
  sizeBytes := (([slot.sizeBytesAttr, "size_bytes", "file_size"].findSome? fun name =>
    (row.sizes name).filter fun size => size ≠ 0)).getD 0
  visibility := .isPrivate
  privateToId := none
  isActive := row.isActive
  contentHash := none
  createdAt := f.now

/-- `source_values`. -/
def Flush.sourceValues (f : Flush) (row : SourceRow) : List LibraryDocument :=
  row.model.slots.filterMap fun slot =>
    if row.isPicture then none else (row.storedPath slot).map (f.document row slot)

/-! ### Registering -/

/-- What a registered document takes from the row. -/
def refresh (values : LibraryDocument) : Change where
  apply d := { d with
    storagePath := values.storagePath
    fileName := values.fileName
    mimeType := values.mimeType
    sizeBytes := values.sizeBytes
    isActive := values.isActive }
  id_apply _ := rfl
  source_apply _ := rfl

def deactivation : Change where
  apply d := { d with isActive := false }
  id_apply _ := rfl
  source_apply _ := rfl

/-- Another file is to be indexed again. -/
def IndexColumns.reset (columns : IndexColumns) : IndexColumns :=
  { columns with indexStatus := .pending, vectorPath := none, extractedText := "", chunks := [] }

/-- Insert the document, or update the one with its source. -/
def Catalog.register (c : Catalog) (values : LibraryDocument) : Option Catalog :=
  match c.bySource.find? (source values) with
  | none => c.insert? values
  | some d =>
    let c := c.update (fun d => source d = source values) (refresh values)
    some (if d.storagePath = values.storagePath then c else c.setIndex d.id (c.index d.id).reset)

def Catalog.deactivate (c : Catalog) (row : SourceRow) : Catalog :=
  c.update (fun d => source d = ⟨row.organizationId, row.model.tablename, row.id⟩) deactivation

/-- `register_sources`, unless an insert fails. -/
def Catalog.registerSources (c : Catalog) (f : Flush) : Option Catalog := do
  let c ← (f.written.flatMap f.sourceValues).foldlM Catalog.register c
  some (f.deleted.foldl Catalog.deactivate c)

/-- What each document that is registered or deactivated keeps is kept by a flush. -/
theorem Catalog.registerSources_inv {P : Catalog → Prop} {c c' : Catalog} {f : Flush}
    (hregister : ∀ c values c', P c → c.register values = some c' → P c')
    (hdeactivate : ∀ c row, P c → P (c.deactivate row)) (h : P c)
    (hflush : c.registerSources f = some c') : P c' := by
  simp only [Catalog.registerSources, Option.bind_eq_bind, Option.bind_eq_some_iff,
    Option.some.injEq] at hflush
  obtain ⟨mid, hmid, rfl⟩ := hflush
  have hwritten : ∀ (l : List LibraryDocument) {c c' : Catalog}, P c →
      l.foldlM Catalog.register c = some c' → P c' := by
    intro l
    induction l with
    | nil =>
        intro c c' h hc
        cases hc
        exact h
    | cons values l ih =>
        intro c c' h hc
        rw [List.foldlM_cons, Option.bind_eq_bind, Option.bind_eq_some_iff] at hc
        obtain ⟨next, hnext, hc⟩ := hc
        exact ih (hregister c values next h hnext) hc
  have hdeleted : ∀ (l : List SourceRow) {c : Catalog}, P c →
      P (l.foldl Catalog.deactivate c) := by
    intro l
    induction l with
    | nil => exact fun h => h
    | cons row l ih => exact fun h => ih (hdeactivate _ row h)
  exact hdeleted f.deleted (hwritten _ h hmid)

/-- The source rows and the catalog. -/
structure Registry where
  rows : Table SourceRow.toRowKey
  catalog : Catalog

/-- A flush that fails is rolled back. -/
def Registry.flush (r : Registry) (f : Flush) : Registry :=
  match r.catalog.registerSources f with
  | none => r
  | some catalog => ⟨(r.rows.upsertAll f.written).removeIf fun row =>
      row.toRowKey ∈ f.deleted.map SourceRow.toRowKey, catalog⟩

end Cestos.Documents
