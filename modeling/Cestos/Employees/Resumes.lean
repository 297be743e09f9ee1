import Cestos.Core.Sessions
import Cestos.Employees.Contacts

/-!
# Resumes

Resumes of an employee are added with the next version, made current and archived. A request marks
its own resume and clears the flag of the others that it sees; it locks nothing before it reads, and
what it writes is seen by others when it commits.
-/

namespace Cestos.Employees

open Cestos.Core

/-- `EmployeeResumeCreate`. -/
structure EmployeeResumeCreate where
  title : String
  fileUrl : String
  fileName : Option String := none
  mimeType : Option String := none
  fileSize : Option Nat := none
  notes : Option String := none

structure EmployeeResume extends EmployeeResumeCreate where
  id : Id
  organizationId : Id
  employeeId : Id
  storagePath : Option String
  version : Nat
  isCurrent : Bool
  uploadedAt : Instant
  uploadedById : Id
  isActive : Bool
  archivedAt : Option Instant
  updatedAt : Instant

/-- A file as it was stored. -/
structure StoredFile where
  relativePath : String
  filename : String
  mimeType : String
  sizeBytes : Nat

/-- The resumes, and what the requests read besides. -/
structure ResumeBook where
  people : Database
  resumes : Table EmployeeResume.id

/-- A call of `add`, with the identifier that is generated. `upload` is what `storage.save` makes of
the data, if there are any and a storage is configured. -/
structure AddResume where
  caller : Requester
  employeeId : Id
  body : EmployeeResumeCreate
  upload : Option (Option (Except String StoredFile))
  resumeId : Id
  /-- The text of an identifier. -/
  text : Id → String

/-- A call of `set_current` or `archive`. -/
structure ResumeCall where
  caller : Requester
  resumeId : Id

/-! ## What the requests read -/

/-- The file of a new resume, stored or only described. -/
def AddResume.stored (r : AddResume) : Except AppError (Option StoredFile) :=
  match r.upload with
  | none => .ok none
  | some none => .error (.validation "File storage is not configured")
  | some (some (.error message)) => .error (.validation message)
  | some (some (.ok stored)) => .ok (some stored)

namespace ResumeBook

variable (book : ResumeBook) (caller : Requester)

/-- Whether a query of the request returns the resume. -/
def Shows (resume : EmployeeResume) : Prop :=
  resume.organizationId = caller.actor.organizationId ∧ caller.Sees book.people resume.employeeId

instance : DecidablePred (book.Shows caller) := fun _ => inferInstanceAs (Decidable (_ ∧ _))

/-- `_get_or_404`. -/
def getOr404 (resumeId : Id) : Except AppError EmployeeResume :=
  orError ((book.resumes.find? resumeId).filter fun resume => book.Shows caller resume)
    (.notFound "Resume not found")

/-- One more than the latest version. -/
def nextVersion (employeeId : Id) : Nat :=
  match ((book.resumes.rows.filter fun resume =>
      book.Shows caller resume ∧ resume.employeeId = employeeId).map (·.version)).max? with
  | some latest => latest + 1
  | none => 1

/-- The other resumes of the employee that are current, as `_only_current` reads them. -/
def others (resumeId employeeId : Id) : List Id :=
  (book.resumes.rows.filter fun other =>
    book.Shows caller other ∧ other.employeeId = employeeId ∧ other.id ≠ resumeId ∧
      other.isCurrent = true).map (·.id)

end ResumeBook

/-! ## What the requests write -/

/-- The new resume. -/
def AddResume.resume (r : AddResume) (stored : Option StoredFile) (version : Nat) :
    EmployeeResume :=
  { r.body with
    fileUrl := if stored.isSome then
      "/api/v1/employees/" ++ r.text r.employeeId ++ "/resumes/" ++ r.text r.resumeId ++ "/download"
      else r.body.fileUrl
    fileName := (stored.map (·.filename)).or r.body.fileName
    mimeType := (stored.map (·.mimeType)).or r.body.mimeType
    fileSize := (stored.map (·.sizeBytes)).or r.body.fileSize
    id := r.resumeId
    organizationId := r.caller.actor.organizationId
    employeeId := r.employeeId
    storagePath := stored.map (·.relativePath)
    version
    isCurrent := true
    uploadedAt := r.caller.now
    uploadedById := r.caller.actor.id
    isActive := true
    archivedAt := none
    updatedAt := r.caller.now }

/-- Two resumes that the unique index does not let stand side by side. -/
def EmployeeResume.Collides (resume other : EmployeeResume) : Prop :=
  resume.organizationId = other.organizationId ∧ resume.employeeId = other.employeeId ∧
    resume.version = other.version

instance (resume other : EmployeeResume) : Decidable (resume.Collides other) :=
  inferInstanceAs (Decidable (_ ∧ _ ∧ _))

/-- What `_only_current` makes of a resume. -/
def EmployeeResume.cleared (cleared : List Id) (now : Instant) (resume : EmployeeResume) :
    EmployeeResume :=
  if resume.id ∈ cleared then { resume with isCurrent := false, updatedAt := now } else resume

theorem EmployeeResume.cleared_id (cleared : List Id) (now : Instant) (resume : EmployeeResume) :
    (resume.cleared cleared now).id = resume.id := by
  unfold EmployeeResume.cleared
  split <;> rfl

/-- The resume is made current; what it was when it was read is not written. -/
def EmployeeResume.current (read : EmployeeResume) (now : Instant) (row : EmployeeResume) :
    EmployeeResume :=
  { row with isCurrent := overwrite (some true) read.isCurrent row.isCurrent, updatedAt := now }

/-- The resume is archived; what it was when it was read is not written. -/
def EmployeeResume.archived (read : EmployeeResume) (now : Instant) (row : EmployeeResume) :
    EmployeeResume :=
  { row with
    isActive := overwrite (some false) read.isActive row.isActive
    isCurrent := overwrite (some false) read.isCurrent row.isCurrent
    archivedAt := overwrite (some (some now)) read.archivedAt row.archivedAt
    updatedAt := now }

namespace ResumeBook

variable (book : ResumeBook)

def clear (cleared : List Id) (now : Instant) : ResumeBook :=
  { book with
    resumes := book.resumes.mapRows (EmployeeResume.cleared cleared now)
      (EmployeeResume.cleared_id cleared now) }

/-- A resume is inserted, unless the index or the key is in its way. -/
def insertResume (resume : EmployeeResume) : Option ResumeBook :=
  if ∃ other ∈ book.resumes.rows, resume.Collides other then none
  else (book.resumes.insert? resume).map fun resumes => { book with resumes }

/-- A row is written as it is when the request commits. -/
def writeResume (resumeId : Id) (write : EmployeeResume → EmployeeResume) : ResumeBook :=
  match book.resumes.find? resumeId with
  | none => book
  | some row => { book with resumes := book.resumes.set (write row) }

end ResumeBook

/-! ## Statements -/

inductive ResumeTask
  | add (r : AddResume)
  | versioning (r : AddResume) (stored : Option StoredFile)
  | listing (r : AddResume) (resume : EmployeeResume)
  | adding (r : AddResume) (resume : EmployeeResume) (cleared : List Id)
  | setCurrent (r : ResumeCall)
  | marking (r : ResumeCall) (read : EmployeeResume)
  | setting (r : ResumeCall) (read : EmployeeResume) (cleared : List Id)
  | archive (r : ResumeCall)
  | archiving (r : ResumeCall) (read : EmployeeResume)

/-- The request goes on, unless it raises. -/
def ResumeBook.proceed (book : ResumeBook) (next : Except AppError ResumeTask) :
    ResumeBook × Option ResumeTask :=
  (book, next.toOption)

/-- The statements of the three requests; the last of each is its commit, which is rolled back if it
fails. -/
def ResumeTask.step (book : ResumeBook) : ResumeTask → ResumeBook × Option ResumeTask
  | .add r => book.proceed (do
      let _ ← r.caller.employeeOr404 book.people r.employeeId
      let stored ← r.stored
      .ok (.versioning r stored))
  | .versioning r stored =>
    (book, some (.listing r (r.resume stored (book.nextVersion r.caller r.employeeId))))
  | .listing r resume => (book, some (.adding r resume (book.others r.caller resume.id r.employeeId)))
  | .adding r resume cleared =>
    (((book.insertResume resume).map fun book => book.clear cleared r.caller.now).getD book, none)
  | .setCurrent r => book.proceed (do
      let read ← book.getOr404 r.caller r.resumeId
      ensure (read.isActive = true ∧ read.archivedAt = none)
        (.conflict "Cannot mark an archived resume current")
      .ok (.marking r read))
  | .marking r read => (book, some (.setting r read (book.others r.caller read.id read.employeeId)))
  | .setting r read cleared =>
    ((book.writeResume read.id (read.current r.caller.now)).clear cleared r.caller.now, none)
  | .archive r => book.proceed (do
      let read ← book.getOr404 r.caller r.resumeId
      ensure (read.archivedAt = none ∧ read.isActive = true) (.conflict "Resume is already archived")
      .ok (.archiving r read))
  | .archiving r read => (book.writeResume read.id (read.archived r.caller.now), none)

/-- No statement waits for another request. -/
def resuming : Statement ResumeBook ResumeTask := fun _ book task => some (task.step book)

/-- Whether a request begins. -/
def ResumeTask.isRequest : ResumeTask → Bool
  | .add _ | .setCurrent _ | .archive _ => true
  | _ => false

/-- The resumes, with the requests under way, that some interleaving leads to whose statements meet
`admits`; at first there are no resumes. -/
abbrev ResumeRequests (admits : List ResumeTask → ResumeBook → ResumeTask → Prop) :
    Sessions ResumeBook ResumeTask → Prop :=
  Sessions.Interleaved (fun task => task.isRequest = true) resuming admits
    fun book => book.resumes.rows = []

end Cestos.Employees
