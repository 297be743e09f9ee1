import Cestos.Core.Handlers
import Cestos.Documents.Catalog
import Cestos.Documents.Uploads

/-!
# Requests that store a file

A file is stored before the row that names it is written, and stays if the transaction is rolled
back, unless the handler deletes it. Any statement may fail, and so may the commit and what is
queried after it.
-/

namespace Cestos.Documents

open Cestos.Core Cestos.Workbooks

/-- A point at which a request may fail. The lookups come before the file is stored. -/
inductive Point
  | lookup (n : Nat)
  | existingImport
  | flush
  | completion
  | commit
  | visible
  deriving DecidableEq

/-- The committed rows, what the transaction makes of them, and the files there are. Of a request
under way the file that it has stored. -/
structure World where
  committed : Registry
  session : Registry
  files : List String
  stored : Option Stored

/-- A request begins. -/
def World.begin (committed : Registry) (files : List String) : World :=
  ⟨committed, committed, files, none⟩

def World.save (w : World) (stored : Stored) : World :=
  { w with files := stored.relativePath :: w.files, stored := some stored }

def World.delete (w : World) (path : String) : World :=
  { w with files := w.files.filter (· ≠ path) }

def World.rollback (w : World) : World := { w with session := w.committed }

/-- Roll back, and delete the file that was stored. -/
def World.cleanUp (w : World) : World :=
  match w.stored with
  | none => w.rollback
  | some stored => w.rollback.delete stored.relativePath

abbrev Endpoint (α : Type) := Handler World AppError α

section Statements

variable (failing : Option Point)

def succeeds (point : Point) : Except AppError Unit := ensure (failing ≠ some point) .internal

def statement (point : Point) : Endpoint Unit := .reads fun _ => succeeds failing point

/-- `storage.save`. -/
def save (stored : Except AppError Stored) : Endpoint Stored := do
  let stored ← .reads fun _ => stored
  .writes (·.save stored)
  return stored

/-- The rows are written with their documents, unless an insert fails. -/
def flush (f : Flush) : Endpoint Unit := do
  statement failing .flush
  .reads fun w => ensure ((w.session.catalog.registerSources f).isSome) .internal
  .writes fun w => { w with session := w.session.flush f }

def commit : Endpoint Unit := do
  statement failing .commit
  .writes fun w => { w with committed := w.session }

end Statements

/-! ## Project reports -/

/-- A file of a request: how much was read of it, and what the storage says. -/
structure Attachment where
  size : Nat
  stored : Except String Stored

/-- What is stored of a file. -/
def storedFile (file : Option Attachment) : Option Stored :=
  (file.filter fun file => file.size ≠ 0).bind fun file => file.stored.toOption

/-- A call of `create_report`, with what its lookups return. -/
structure CreateReport where
  actor : Actor
  projectId : String
  projectFound : Bool
  /-- The columns of a valid body by name. -/
  body : Except String (String → Option String)
  siteName : Option String
  file : Option Attachment
  reportId : Id
  authorName : String
  generated : Source → Id
  now : Instant

/-- The columns of a file. -/
def fileColumns (stored : Option Stored) (name : String) : Option String :=
  match name with
  | "storage_path" => stored.map (·.relativePath)
  | "file_name" => stored.map (·.fileName)
  | "mime_type" => stored.map (·.mimeType)
  | _ => none

def isFileColumn (name : String) : Bool := name ∈ ["storage_path", "file_name", "mime_type"]

def CreateReport.row (r : CreateReport) (body : String → Option String) (siteName : String)
    (stored : Option Stored) : SourceRow where
  model := .projectReport
  organizationId := r.actor.organizationId
  id := r.reportId
  isActive := true
  texts name := if isFileColumn name then fileColumns stored name
    else match name with
      | "project_id" => some r.projectId
      | "site_name" => some siteName
      | "author_name" => some (if r.authorName = "" then "Team member" else r.authorName)
      | _ => body name
  sizes name := if name = "size_bytes" then stored.map (·.sizeBytes) else none
  users name := if name = "created_by_id" then some r.actor.id else none
  employeeId := none

theorem SourceRow.keys_nodup (row : SourceRow) :
    (([row] ++ []).map SourceRow.toRowKey).Nodup := List.nodup_singleton _

/-- A flush that writes one row. -/
def flushOf (actor : Actor) (generated : Source → Id) (now : Instant) (row : SourceRow) : Flush where
  actorId := some actor.id
  written := [row]
  deleted := []
  generated := generated
  now := now
  keys_nodup := row.keys_nodup

/-- The body and the name of the site. -/
def CreateReport.check (failing : Option Point) (r : CreateReport) :
    Except AppError ((String → Option String) × String) := do
  let body ← r.body.mapError .validation
  succeeds failing (.lookup 0)
  ensure (r.projectFound = true) (.notFound "Project not found")
  succeeds failing (.lookup 1)
  let siteName ← orError r.siteName
    (.validation "Select an active project site belonging to this project")
  .ok (body, siteName)

/-- The file of a report, which may not be empty. -/
def storeFile (file : Option Attachment) (message : String) : Endpoint (Option Stored) :=
  match file with
  | none => return none
  | some file => do
    .reads fun _ => ensure (file.size ≠ 0) (.validation message)
    return some (← save (file.stored.mapError .validation))

def createReport (failing : Option Point) (r : CreateReport) : Endpoint SourceRow := do
  let (body, siteName) ← .reads fun _ => r.check failing
  Handler.cleaning World.cleanUp do
    let stored ← storeFile r.file "File is empty"
    let row := r.row body siteName stored
    flush failing (flushOf r.actor r.generated r.now row)
    commit failing
    statement failing .visible
    return row

/-- A call of `update_report`, with what its lookups return. -/
structure UpdateReport where
  actor : Actor
  projectId : String
  projectFound : Bool
  reportId : Id
  /-- The columns of a valid body that are given and not null. -/
  body : Except String (List (String × String))
  /-- The name of the site, if the body gives one. -/
  siteName : Option (Option String)
  file : Option Attachment
  generated : Source → Id
  now : Instant

def UpdateReport.report? (r : UpdateReport) (registry : Registry) : Option SourceRow :=
  (registry.rows.find? ⟨.projectReport, r.actor.organizationId, r.reportId⟩).filter fun row =>
    row.texts "project_id" = some r.projectId

/-- `require_document_path`. -/
def requireDocumentPath (registry : Registry) (actor : Actor) (path : String) :
    Except AppError Unit := do
  let _ ← orError (registry.catalog.documents.rows.find? fun d =>
    d.storagePath = path ∧ actor.sees d) (.notFound "Document not found")
  .ok ()

/-- The report with the changes of the body. -/
def UpdateReport.check (failing : Option Point) (registry : Registry) (r : UpdateReport) :
    Except AppError (SourceRow × List (String × String)) := do
  let body ← r.body.mapError .validation
  succeeds failing (.lookup 0)
  ensure (r.projectFound = true) (.notFound "Project not found")
  succeeds failing (.lookup 1)
  let row ← orError (r.report? registry) (.notFound "Report not found")
  match r.file, (row.texts "storage_path").filter (· ≠ "") with
  | some _, some path => do
    succeeds failing (.lookup 2)
    requireDocumentPath registry r.actor path
  | _, _ => .ok ()
  match r.siteName with
  | none => .ok (row, body)
  | some siteName => do
    succeeds failing (.lookup 3)
    let siteName ← orError siteName
      (.validation "Select an active project site belonging to this project")
    .ok (row, ("site_name", siteName) :: body)

/-- The row after an update; a file that was stored takes the place of the one before. -/
def UpdateReport.apply (row : SourceRow) (changes : List (String × String))
    (stored : Option Stored) : SourceRow :=
  { row with
    texts := fun name =>
      (if isFileColumn name then fileColumns stored name else changes.lookup name).or
        (row.texts name)
    sizes := fun name => if name = "size_bytes" then (stored.map (·.sizeBytes)).or (row.sizes name)
      else row.sizes name }

/-- The file of an update; nothing is stored of one that is empty. -/
def UpdateReport.storeFile (r : UpdateReport) : Endpoint (Option Stored) :=
  match r.file.filter fun file => file.size ≠ 0 with
  | none => return none
  | some file => return some (← save (file.stored.mapError fun _ => .internal))

def updateReport (failing : Option Point) (r : UpdateReport) : Endpoint SourceRow := do
  let (row, changes) ← .reads fun w => r.check failing w.session
  let stored ← r.storeFile
  let row := UpdateReport.apply row changes stored
  flush failing (flushOf r.actor r.generated r.now row)
  commit failing
  statement failing .visible
  return row

/-! ## Uploads to the library -/

/-- The document is written, unless an insert fails. -/
def writeDocument (failing : Option Point) (write : Write) : Endpoint Unit := do
  statement failing .flush
  .reads fun w => ensure ((w.session.catalog.write write).isSome) .internal
  .writes fun w => { w with session :=
    { w.session with catalog := (w.session.catalog.write write).getD w.session.catalog } }

/-- Whether there may be an import that the upload takes the place of. -/
def Accepted.isImport (a : Accepted) : Bool := a.link.any fun link => Documents.isImport link.1

/-- An upload that is accepted. -/
def uploadFile (failing : Option Point) (now : Instant) (r : Upload) (a : Accepted) :
    Endpoint Unit := do
  let stored ← save (.ok a.stored)
  .reads fun _ => if a.isImport then succeeds failing .existingImport else .ok ()
  let documents ← .reads fun w => .ok w.session.catalog.documents.rows
  Handler.cleaning World.cleanUp do
    writeDocument failing (r.write documents now a)
    commit failing
  match r.existingImport documents a.link a.stored.fileName with
  | none => return ()
  | some existing =>
    if existing.storagePath ≠ stored.relativePath then .writes (·.delete existing.storagePath)

/-- `upload`. Media that is there already is not stored again. -/
def upload (env : TextEnv) (failing : Option Point) (now : Instant) (r : Upload) :
    Endpoint Unit := do
  statement failing (.lookup 0)
  match ← .reads fun w => r.check env w.session.catalog.documents.rows with
  | none => return ()
  | some a => uploadFile failing now r a

/-! ## Field work -/

/-- A call of `complete_work_order`, with what the update of the work leads to: the type of the log
of the job. -/
structure CompleteWork where
  actor : Actor
  logType : Except AppError String
  file : Option Attachment
  fileId : Id
  generated : Source → Id
  now : Instant

def CompleteWork.row (r : CompleteWork) (logType : String) (stored : Stored) : SourceRow where
  model := .assetLogFile
  organizationId := r.actor.organizationId
  id := r.fileId
  isActive := true
  texts name := if isFileColumn name then fileColumns (some stored) name
    else match name with
      | "log_type" => some logType
      | "title" => some "Completion evidence"
      | _ => none
  sizes name := if name = "size_bytes" then some stored.sizeBytes else none
  users name := if name = "created_by_id" then some r.actor.id else none
  employeeId := none

/-- The flush, with the evidence if there is any. -/
def CompleteWork.flush (failing : Option Point) (r : CompleteWork) (logType : String) :
    Option Stored → Endpoint Unit
  | none => statement failing .flush
  | some stored => Documents.flush failing
      (flushOf r.actor r.generated r.now (r.row logType stored))

def completeWorkOrder (failing : Option Point) (r : CompleteWork) : Endpoint Unit :=
  Handler.cleaning World.cleanUp do
    statement failing (.lookup 0)
    let logType ← .reads fun _ => r.logType
    let stored ← storeFile r.file "Completion file is empty"
    r.flush failing logType stored
    statement failing .completion
    commit failing

/-! ## Requests -/

inductive FileRequest
  | createReport (r : CreateReport)
  | updateReport (r : UpdateReport)
  | upload (env : TextEnv) (now : Instant) (r : Upload)
  | completeWork (r : CompleteWork)

/-- The world after a request, whether it has returned or raised. What is not committed then is
given up. -/
def FileRequest.run (r : FileRequest) (failing : Option Point) (w : World) : World :=
  match r with
  | .createReport r => (Documents.createReport failing r w).2
  | .updateReport r => (Documents.updateReport failing r w).2
  | .upload env now r => (Documents.upload env failing now r w).2
  | .completeWork r => (completeWorkOrder failing r w).2

/-- What the storage makes of the file of the request. -/
def FileRequest.stored : FileRequest → Option Stored
  | .createReport r => storedFile r.file
  | .updateReport r => storedFile r.file
  | .upload _ _ r => r.stored.toOption
  | .completeWork r => storedFile r.file

end Cestos.Documents
