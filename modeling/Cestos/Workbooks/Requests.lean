import Cestos.Core.Locking
import Cestos.Core.Outcome
import Cestos.Core.Table
import Cestos.Errors
import Mathlib.Data.List.MinMax
import Mathlib.Data.Prod.Lex

/-!
# Workbook requests

Saves of workbooks, each kept as a document of its own, and deletions of all versions of a
workbook. Both take the advisory lock of the workbook, which is held until they commit. What was
answered is recorded in a log.
-/

namespace Cestos.Workbooks

open Cestos.Core

abbrev Id := Nat

abbrev Instant := Nat

/-- A tag of a document; the text of `workbook id` is `wb-` with the identifier. -/
inductive Tag
  | workbook (id : String)
  | other (text : String)
  deriving DecidableEq

inductive Visibility
  | isPrivate | isPublic | superPrivate
  deriving DecidableEq

structure LibraryDocument where
  id : Id
  organizationId : Id
  sourceType : String
  sourceId : Id
  ownerId : Option Id
  employeeId : Option Id
  title : String
  category : String
  tags : List Tag
  storagePath : String
  fileName : String
  mimeType : String
  sizeBytes : Nat
  visibility : Visibility
  privateToId : Option Id
  isActive : Bool
  contentHash : Option String
  createdAt : Instant

/-- A user, with the codes of its permissions and the employees that are linked to it. -/
structure Actor where
  id : Id
  organizationId : Id
  isSuperuser : Bool
  permissions : List String
  employeeIds : List Id

/-- A workbook that passed `payload_bytes`, with the bytes that came out. -/
structure Workbook where
  id : String
  name : String
  template : Bool
  data : String

/-- What the storage returns of a file. -/
structure Stored where
  relativePath : String
  fileName : String
  mimeType : String
  sizeBytes : Nat

/-- A call of `save_workbook`. -/
structure WorkbookSave where
  actor : Actor
  workbook : Workbook
  operationId : Id
  baseVersion : Option Id
  /-- The identifier that is generated for the version. -/
  version : Id
  stored : Stored
  /-- How long after the last save the clock is read. -/
  pause : Nat

/-- A call of `delete_workbook`. -/
structure DeleteWorkbook where
  actor : Actor
  identifier : Id

/-- What was answered. -/
inductive Event
  | saved (r : WorkbookSave) (createdAt : Instant)
  | repeated (r : WorkbookSave) (version : Id)
  | deleted (organizationId : Id) (workbookId : String)

structure Database where
  documents : Table LibraryDocument.id
  /-- What the clock showed last. -/
  clock : Instant
  log : List Event

/-- Hash functions: of contents, and of an organization and a workbook to the key of a lock. -/
structure Env where
  sha256 : String → String
  lockKey : Id → String → Int

/-! ## Who may do what -/

/-- `is_document_admin`. -/
def Actor.isDocumentAdmin (actor : Actor) : Bool :=
  actor.isSuperuser || actor.permissions.contains "documents.admin"

/-- The permissions that open the documents of a category. -/
def oversight : List (String × List String) := [
  ("People", ["employees.documents.read", "employee_documents.read", "employees.read_sensitive"]),
  ("Equipment", ["assets.documents.read", "asset_documents.read"]),
  ("Inventory", ["inventory.admin", "inventory.catalog.manage"]),
  ("Projects", ["projects.update"]),
  ("Leave", ["employees.leave.approve"])]

/-- `personal_scope`. -/
def Actor.personal (actor : Actor) (d : LibraryDocument) : Prop :=
  d.ownerId = some actor.id ∨ ∃ employeeId ∈ d.employeeId, employeeId ∈ actor.employeeIds

instance (actor : Actor) (d : LibraryDocument) : Decidable (actor.personal d) :=
  inferInstanceAs (Decidable (_ ∨ ∃ _ ∈ _, _))

/-- `visible_scope`. -/
def Actor.sees (actor : Actor) (d : LibraryDocument) : Prop :=
  d.organizationId = actor.organizationId ∧ d.isActive = true ∧
    (d.visibility = .superPrivate ∧ d.privateToId = some actor.id ∨
      d.visibility ≠ .superPrivate ∧
        (actor.isDocumentAdmin = true ∨ "documents.read_all" ∈ actor.permissions ∨
          d.visibility = .isPublic ∨ actor.personal d ∨
          ∃ grant ∈ oversight, d.category = grant.1 ∧ ∃ code ∈ grant.2, code ∈ actor.permissions))

instance (actor : Actor) (d : LibraryDocument) : Decidable (actor.sees d) :=
  inferInstanceAs (Decidable (_ ∧ _ ∧ (_ ∧ _ ∨ _ ∧ (_ ∨ _ ∨ _ ∨ _ ∨ ∃ _ ∈ _, _ ∧ ∃ _ ∈ _, _))))

/-- `manage`. -/
def manage (row : LibraryDocument) (actor : Actor) : Except AppError Unit :=
  ensure (row.ownerId = some actor.id ∨ actor.isDocumentAdmin = true)
    (.forbidden "Only the uploader or a document administrator can change this file")

/-! ## Versions -/

/-- Whether the document is a version of the workbook. -/
def LibraryDocument.IsVersionOf (organizationId : Id) (workbookId : String)
    (d : LibraryDocument) : Prop :=
  d.organizationId = organizationId ∧ d.category = "Field Workbooks" ∧
    .workbook workbookId ∈ d.tags

instance (organizationId : Id) (workbookId : String) :
    DecidablePred (LibraryDocument.IsVersionOf organizationId workbookId) :=
  fun _ => inferInstanceAs (Decidable (_ ∧ _ ∧ _))

def Database.versions (db : Database) (organizationId : Id) (workbookId : String) :
    List LibraryDocument :=
  db.documents.rows.filter (·.IsVersionOf organizationId workbookId)

/-- The latest version, deleted or not. -/
def Database.latest (db : Database) (organizationId : Id) (workbookId : String) :
    Option LibraryDocument :=
  (db.versions organizationId workbookId).argmax fun d => toLex (d.createdAt, d.id)

/-- The document that an earlier save of the operation left. -/
def Database.previous (db : Database) (r : WorkbookSave) : Option LibraryDocument :=
  db.documents.rows.find? fun d => d.organizationId = r.actor.organizationId ∧
    d.sourceType = "workbook-sync" ∧ d.sourceId = r.operationId

/-! ## Saving -/

/-- What the save of an operation that was saved before returns; none if it was not. -/
def Database.replay (db : Database) (env : Env) (r : WorkbookSave) :
    Except AppError (Option Id) :=
  match db.previous r with
  | none => .ok none
  | some previous => do
    ensure (previous.ownerId = some r.actor.id ∧ .workbook r.workbook.id ∈ previous.tags ∧
        previous.contentHash = some (env.sha256 r.workbook.data))
      (.conflict "This save identifier already belongs to different content")
    ensure (previous.isActive = true)
      (.conflict "The saved workbook was deleted. Save a new copy instead.")
    .ok (some previous.id)

/-- `check_revision`. -/
def checkRevision (latest : Option LibraryDocument) (baseVersion : Option Id) :
    Except AppError Unit := do
  ensure (∀ d ∈ latest, d.isActive = true)
    (.conflict "This workbook was deleted on the server. Save your local work as a new copy.")
  ensure (latest.map (·.id) = baseVersion)
    (.conflict <| "Another device saved a newer version. Your local copy is safe. " ++
      "Review both versions or save yours as a new copy.")

/-- The checks of a save against the latest version. -/
def Database.checkSave (db : Database) (r : WorkbookSave) : Except AppError Unit := do
  let latest := db.latest r.actor.organizationId r.workbook.id
  ensure (∀ d ∈ latest, d.ownerId = some r.actor.id)
    (.forbidden "Save a personal copy to edit a workbook owned by another user")
  checkRevision latest r.baseVersion

def WorkbookSave.document (env : Env) (r : WorkbookSave) (createdAt : Instant) :
    LibraryDocument where
  id := r.version
  organizationId := r.actor.organizationId
  sourceType := "workbook-sync"
  sourceId := r.operationId
  ownerId := some r.actor.id
  employeeId := none
  title := r.workbook.name
  category := "Field Workbooks"
  tags := [.workbook r.workbook.id,
    .other (if r.workbook.template then "workbook-template" else "field-workbook")]
  storagePath := r.stored.relativePath
  fileName := r.stored.fileName
  mimeType := r.stored.mimeType
  sizeBytes := r.stored.sizeBytes
  visibility := .isPrivate
  privateToId := none
  isActive := true
  contentHash := some (env.sha256 r.workbook.data)
  createdAt := createdAt

/-- The insert at the time of the clock, unless the operation is taken (`uq_library_source`). -/
def Database.commitSave (db : Database) (env : Env) (r : WorkbookSave) : Option Database :=
  if (db.previous r).isSome then none
  else
    let createdAt := db.clock + r.pause + 1
    (db.documents.insert? (r.document env createdAt)).map fun documents =>
      ⟨documents, createdAt, db.log ++ [.saved r createdAt]⟩

/-! ## Deleting -/

/-- The workbook that the first of its tags names. -/
def LibraryDocument.workbook (d : LibraryDocument) : Option String :=
  d.tags.findSome? fun
    | .workbook id => some id
    | .other _ => none

/-- The row that `delete_workbook` reads first, and its workbook. -/
def Database.findWorkbook (db : Database) (r : DeleteWorkbook) : Except AppError String := do
  let row ← orError ((db.documents.find? r.identifier).filter fun d => r.actor.sees d)
    (.notFound "Document not found")
  manage row r.actor
  ensure (row.category = "Field Workbooks") (.validation "This document is not a workbook")
  orError row.workbook (.validation "This document is not a workbook")

/-- The versions that are not deleted yet; the actor may change them all. -/
def Database.readVersions (db : Database) (r : DeleteWorkbook) (workbookId : String) :
    Except AppError (List Id) := do
  let versions :=
    (db.versions r.actor.organizationId workbookId).filter fun d => d.isActive = true
  versions.forM fun version => manage version r.actor
  .ok (versions.map (·.id))

def LibraryDocument.deactivate (versions : List Id) (d : LibraryDocument) : LibraryDocument :=
  if d.id ∈ versions then { d with isActive := false } else d

@[simp] theorem LibraryDocument.deactivate_id (versions : List Id) (d : LibraryDocument) :
    (d.deactivate versions).id = d.id := by
  unfold deactivate
  split <;> rfl

def Database.commitDelete (db : Database) (r : DeleteWorkbook) (workbookId : String)
    (versions : List Id) : Database :=
  { db with
    documents := db.documents.mapRows (LibraryDocument.deactivate versions)
      (LibraryDocument.deactivate_id versions)
    log := db.log ++ [.deleted r.actor.organizationId workbookId] }

/-! ## Statements -/

inductive Task
  | save (r : WorkbookSave)
  /-- The workbook is locked. -/
  | saveLocked (r : WorkbookSave)
  /-- The operation was not saved before. -/
  | unseen (r : WorkbookSave)
  /-- The save is accepted; its file is stored. -/
  | storing (r : WorkbookSave)
  | delete (r : DeleteWorkbook)
  | found (r : DeleteWorkbook) (workbookId : String)
  /-- The workbook is locked. -/
  | deleteLocked (r : DeleteWorkbook) (workbookId : String)
  | deactivating (r : DeleteWorkbook) (workbookId : String) (versions : List Id)

/-- A request under way and the keys that it has locked. -/
structure Transaction where
  held : List Int
  task : Task

/-- `lock_workbook`. -/
def Task.wants (env : Env) : Task → List Int
  | .save r => [env.lockKey r.actor.organizationId r.workbook.id]
  | .found r workbookId => [env.lockKey r.actor.organizationId workbookId]
  | _ => []

/-- The request goes on with what it has locked, unless it raises. -/
def Transaction.proceed (env : Env) (db : Database) (t : Transaction)
    (next : Except AppError Task) : Database × Option Transaction :=
  match next with
  | .ok task => (db, some ⟨t.task.wants env ++ t.held, task⟩)
  | .error _ => (db, none)

/-- The statements of `save_workbook` and `delete_workbook`. -/
def Transaction.step (env : Env) (_others : List Transaction) (db : Database) (t : Transaction) :
    Database × Option Transaction :=
  match t.task with
  | .save r => t.proceed env db (.ok (.saveLocked r))
  | .saveLocked r =>
    match db.replay env r with
    | .ok none => t.proceed env db (.ok (.unseen r))
    | .ok (some version) => ({ db with log := db.log ++ [.repeated r version] }, none)
    | .error _ => (db, none)
  | .unseen r => t.proceed env db (do
      db.checkSave r
      .ok (.storing r))
  | .storing r => ((db.commitSave env r).getD db, none)
  | .delete r => t.proceed env db (do
      let workbookId ← db.findWorkbook r
      .ok (.found r workbookId))
  | .found r workbookId => t.proceed env db (.ok (.deleteLocked r workbookId))
  | .deleteLocked r workbookId => t.proceed env db (do
      let versions ← db.readVersions r workbookId
      .ok (.deactivating r workbookId versions))
  | .deactivating r workbookId versions => (db.commitDelete r workbookId versions, none)

/-- A statement waits for those who have locked its workbook. -/
def serving (env : Env) : Statement Database Transaction :=
  locking Transaction.held (fun _ t => t.task.wants env) (Transaction.step env)

/-- Whether a request begins. -/
def Task.isRequest : Task → Bool
  | .save _ | .delete _ => true
  | _ => false

def Transaction.IsRequest (t : Transaction) : Prop := t.held = [] ∧ t.task.isRequest = true

instance : DecidablePred Transaction.IsRequest :=
  fun t => inferInstanceAs (Decidable (t.held = [] ∧ t.task.isRequest = true))

/-- A library without workbooks. -/
structure Database.Initial (db : Database) : Prop where
  sources : ∀ d ∈ db.documents.rows, d.sourceType ≠ "workbook-sync"
  versions : ∀ organizationId workbookId, db.versions organizationId workbookId = []
  log : db.log = []

/-- The databases, with the requests under way, that some interleaving leads to. -/
abbrev Requests (env : Env) : Sessions Database Transaction → Prop :=
  Sessions.Interleaved Transaction.IsRequest (serving env) (fun _ _ _ => True) Database.Initial

end Cestos.Workbooks
