import Cestos.Core.Outcome
import Cestos.Core.Sessions
import Cestos.Employees.Rows
import Cestos.Errors

/-!
# Assignments of employees

Assignments are created, updated (which completes and cancels them too) and transferred. No
request locks anything before it checks: what is written at the end has been checked against
what the request read.
-/

namespace Cestos.Employees

open Cestos.Core

/-- The fields that are given; a value of `none` is an explicit null. -/
structure EmployeeAssignmentUpdate where
  projectId : Option (Option Id) := none
  locationId : Option (Option Id) := none
  positionId : Option (Option Id) := none
  roleOnProject : Option (Option String) := none
  supervisorId : Option (Option Id) := none
  assignmentType : Option (Option AssignmentType) := none
  startDate : Option (Option Date) := none
  endDate : Option (Option Date) := none
  isPrimary : Option (Option Bool) := none
  status : Option (Option AssignmentStatus) := none
  rotationPatternId : Option (Option Id) := none
  rotationPattern : Option (Option String) := none
  mobilizationDate : Option (Option Date) := none
  demobilizationDate : Option (Option Date) := none
  notes : Option (Option String) := none

structure EmployeeTransferRequest where
  projectId : Id
  locationId : Option Id
  positionId : Option Id
  roleOnProject : Option String
  supervisorId : Option Id
  assignmentType : AssignmentType
  startDate : Date
  rotationPatternId : Option Id
  notes : Option String

/-- A call of `create_assignment`, with the identifier that is generated. -/
structure CreateAssignment where
  actor : Actor
  today : Date
  employeeId : Id
  body : EmployeeAssignmentCreate
  assignmentId : Id
  now : Instant

/-- A call of `update_assignment`. -/
structure UpdateAssignment where
  actor : Actor
  today : Date
  assignmentId : Id
  body : EmployeeAssignmentUpdate
  now : Instant

/-- A call of `transfer`, with the identifier that is generated. -/
structure TransferEmployee where
  actor : Actor
  today : Date
  employeeId : Id
  body : EmployeeTransferRequest
  assignmentId : Id
  now : Instant

def completion (last : Date) : EmployeeAssignmentUpdate :=
  { status := some (some .completed), endDate := some (some last) }

/-- `complete_assignment`. -/
def completeAssignment (actor : Actor) (today : Date) (assignmentId : Id) (now : Instant) :
    UpdateAssignment :=
  ⟨actor, today, assignmentId, completion today, now⟩

/-- `cancel_assignment`. -/
def cancelAssignment (actor : Actor) (today : Date) (assignmentId : Id) (now : Instant) :
    UpdateAssignment :=
  ⟨actor, today, assignmentId, { status := some (some .cancelled) }, now⟩

/-! ## What the requests read and check -/

/-- The employee of a request, who must be at work. -/
def Database.employeeAtWork (db : Database) (actor : Actor) (today : Date) (employeeId : Id)
    (refusal : String) : Except AppError Employee := do
  let employee ← orError ((db.employees.find? employeeId).filter fun employee =>
    employee.organizationId = actor.organizationId ∧ db.Sees actor today true employee.id)
    (.notFound "Employee not found")
  ensure (employee.isActive = true ∧ employee.archivedAt = none) (.conflict refusal)
  .ok employee

/-- Whether the later queries of the request show the actor's own profile. -/
def Employee.isOwn (employee : Employee) (actor : Actor) : Bool := employee.userId = some actor.id

def Database.checkLocation (db : Database) (actor : Actor) (body : EmployeeAssignmentCreate) :
    Except AppError Unit :=
  match body.locationId with
  | none => .ok ()
  | some locationId => do
    let location ← orError ((db.locations.find? locationId).filter
      (·.organizationId = actor.organizationId)) (.notFound "Location not found")
    ensure (∀ projectId ∈ location.projectId, projectId = body.projectId)
      (.validation "Location does not belong to the given project")

/-- A reference to another row, which has to be of the organization. -/
def checkReference (reference : Option Id) (known : Id → Bool) (missing : String) :
    Except AppError Unit :=
  ensure (∀ id ∈ reference, known id = true) (.notFound missing)

/-- The active primary assignments of the employee that the actor sees. -/
def Database.leading (db : Database) (actor : Actor) (today : Date) (selfService : Bool)
    (employeeId : Id) : List EmployeeAssignment :=
  db.assignments.rows.filter fun assignment =>
    assignment.organizationId = actor.organizationId ∧ assignment.employeeId = employeeId ∧
      assignment.Leads ∧ db.Sees actor today selfService assignment.employeeId

/-- `_reject_primary_conflict`. -/
def Database.rejectPrimaryConflict (db : Database) (actor : Actor) (today : Date)
    (selfService : Bool) (employeeId : Id) (selfId : Option Id) : Except AppError Unit :=
  ensure (∀ assignment ∈ db.leading actor today selfService employeeId,
    some assignment.id = selfId)
    (.conflict "Employee already has an active primary assignment; complete it first")

/-- `_check_assignment_refs`. -/
def Database.checkAssignmentRefs (db : Database) (actor : Actor) (today : Date)
    (selfService : Bool) (body : EmployeeAssignmentCreate) (employeeId : Id)
    (selfId : Option Id) : Except AppError Unit := do
  let _ ← orError ((db.projects.find? body.projectId).filter
    (·.organizationId = actor.organizationId)) (.notFound "Project not found")
  db.checkLocation actor body
  checkReference body.positionId
    (fun id => (db.positions.find? id).any (·.organizationId = actor.organizationId))
    "Position not found"
  checkReference body.supervisorId
    (fun id => (db.employees.find? id).any (·.organizationId = actor.organizationId))
    "Supervisor not found"
  checkReference body.rotationPatternId
    (fun id => (db.rotationPatterns.find? id).any (·.organizationId = actor.organizationId))
    "Rotation pattern not found"
  ensure body.Ordered (.validation "Assignment end date cannot precede start date")
  if body.Leads then db.rejectPrimaryConflict actor today selfService employeeId selfId else .ok ()

/-- The assignment that `update_assignment` reads. -/
def Database.assignmentOr404 (db : Database) (r : UpdateAssignment) :
    Except AppError EmployeeAssignment :=
  orError ((db.assignments.find? r.assignmentId).filter fun assignment =>
    assignment.organizationId = r.actor.organizationId ∧
      db.Sees r.actor r.today false assignment.employeeId) (.notFound "Assignment not found")

/-- A field that has to have a value: an explicit null does not pass the schema. -/
def required {α : Type} (given : Option (Option α)) (current : α) : Except AppError α :=
  match given with
  | none => .ok current
  | some value => orError value .internal

theorem required_eq_ok {α : Type} {given : Option (Option α)} {current value : α}
    (h : required given current = .ok value) : given.join.getD current = value := by
  cases given with
  | none => exact Except.ok.inj h
  | some new =>
      have hnew : new = some value := orError_eq_ok.1 h
      rw [hnew]
      rfl

/-- `merged`: the assignment as `update_assignment` checks it. -/
def EmployeeAssignmentUpdate.merged (data : EmployeeAssignmentUpdate) (row : EmployeeAssignment) :
    Except AppError EmployeeAssignmentCreate := do
  let projectId ← required data.projectId row.projectId
  let assignmentType ← required data.assignmentType row.assignmentType
  let startDate ← required data.startDate row.startDate
  let isPrimary ← required data.isPrimary row.isPrimary
  let status ← required data.status row.status
  .ok {
    projectId := projectId
    locationId := data.locationId.getD row.locationId
    positionId := data.positionId.getD row.positionId
    roleOnProject := data.roleOnProject.getD row.roleOnProject
    supervisorId := data.supervisorId.getD row.supervisorId
    assignmentType := assignmentType
    startDate := startDate
    endDate := data.endDate.getD row.endDate
    isPrimary := isPrimary
    status := status
    rotationPatternId := data.rotationPatternId.getD row.rotationPatternId
    rotationPattern := data.rotationPattern.getD row.rotationPattern
    mobilizationDate := data.mobilizationDate.getD row.mobilizationDate
    demobilizationDate := data.demobilizationDate.getD row.demobilizationDate
    notes := none }

/-- `created`: the assignment that a transfer opens. -/
def EmployeeTransferRequest.created (body : EmployeeTransferRequest) : EmployeeAssignmentCreate where
  projectId := body.projectId
  locationId := body.locationId
  positionId := body.positionId
  roleOnProject := body.roleOnProject
  supervisorId := body.supervisorId
  assignmentType := body.assignmentType
  startDate := body.startDate
  endDate := none
  isPrimary := true
  status := .active
  rotationPatternId := body.rotationPatternId
  rotationPattern := none
  mobilizationDate := none
  demobilizationDate := none
  notes := body.notes

/-! ## What the requests write -/

/-- A column is written if the value differs from what the request read. -/
def overwrite {α : Type} [DecidableEq α] (value : Option α) (read row : α) : α :=
  match value with
  | none => row
  | some new => if new = read then row else new

/-- What becomes of the row when the fields that are given are set on what the request read. -/
def EmployeeAssignmentUpdate.write (data : EmployeeAssignmentUpdate) (actor : Actor) (now : Instant)
    (read row : EmployeeAssignment) : EmployeeAssignment :=
  { row with
    projectId := overwrite data.projectId.join read.projectId row.projectId
    locationId := overwrite data.locationId read.locationId row.locationId
    positionId := overwrite data.positionId read.positionId row.positionId
    roleOnProject := overwrite data.roleOnProject read.roleOnProject row.roleOnProject
    supervisorId := overwrite data.supervisorId read.supervisorId row.supervisorId
    assignmentType := overwrite data.assignmentType.join read.assignmentType row.assignmentType
    startDate := overwrite data.startDate.join read.startDate row.startDate
    endDate := overwrite data.endDate read.endDate row.endDate
    isPrimary := overwrite data.isPrimary.join read.isPrimary row.isPrimary
    status := overwrite data.status.join read.status row.status
    rotationPatternId := overwrite data.rotationPatternId read.rotationPatternId row.rotationPatternId
    rotationPattern := overwrite data.rotationPattern read.rotationPattern row.rotationPattern
    mobilizationDate := overwrite data.mobilizationDate read.mobilizationDate row.mobilizationDate
    demobilizationDate :=
      overwrite data.demobilizationDate read.demobilizationDate row.demobilizationDate
    notes := overwrite data.notes read.notes row.notes
    updatedById := overwrite (some actor.id) read.updatedById row.updatedById
    updatedAt := overwrite (some now) read.updatedAt row.updatedAt }

/-- A new assignment. -/
def EmployeeAssignmentCreate.assignment (body : EmployeeAssignmentCreate) (id : Id) (actor : Actor)
    (employeeId : Id) (now : Instant) : EmployeeAssignment :=
  { body with
    id := id
    organizationId := actor.organizationId
    employeeId := employeeId
    createdById := actor.id
    updatedById := actor.id
    updatedAt := now }

def Database.insertAssignment (db : Database) (row : EmployeeAssignment) : Option Database :=
  (db.assignments.insert? row).map fun assignments => { db with assignments := assignments }

def Database.writeAssignment (db : Database) (data : EmployeeAssignmentUpdate) (actor : Actor)
    (now : Instant) (read : EmployeeAssignment) : Database :=
  match db.assignments.find? read.id with
  | none => db
  | some row => { db with assignments := db.assignments.set (data.write actor now read row) }

/-- The current assignment of a transfer is completed the day the new one starts. -/
def Database.complete (db : Database) (r : TransferEmployee)
    (current : Option EmployeeAssignment) : Database :=
  match current with
  | none => db
  | some read => db.writeAssignment (completion r.body.startDate) r.actor r.now read

/-! ## Statements -/

inductive AssignmentTask
  | create (r : CreateAssignment)
  | checking (r : CreateAssignment) (selfService : Bool)
  | inserting (r : CreateAssignment)
  | update (r : UpdateAssignment)
  | merging (r : UpdateAssignment) (read : EmployeeAssignment)
  | writing (r : UpdateAssignment) (read : EmployeeAssignment) (merged : EmployeeAssignmentCreate)
  | transfer (r : TransferEmployee)
  | finding (r : TransferEmployee) (selfService : Bool)
  | completing (r : TransferEmployee) (selfService : Bool) (current : Option EmployeeAssignment)
  | opening (r : TransferEmployee) (current : Option EmployeeAssignment)

/-- The request goes on, unless it raises. -/
def proceed (db : Database) (next : Except AppError AssignmentTask) :
    Database × Option AssignmentTask :=
  match next with
  | .ok task => (db, some task)
  | .error _ => (db, none)

/-- The statements of the three requests. What a request writes is seen by itself at once and by
others when it commits; a commit that fails is rolled back. -/
def AssignmentTask.step (db : Database) : AssignmentTask → Database × Option AssignmentTask
  | .create r => proceed db (do
      let employee ← db.employeeAtWork r.actor r.today r.employeeId
        "Cannot assign an archived or inactive employee"
      .ok (.checking r (employee.isOwn r.actor)))
  | .checking r selfService => proceed db (do
      db.checkAssignmentRefs r.actor r.today selfService r.body r.employeeId none
      .ok (.inserting r))
  | .inserting r =>
    ((db.insertAssignment (r.body.assignment r.assignmentId r.actor r.employeeId r.now)).getD db,
      none)
  | .update r => proceed db (do
      let read ← db.assignmentOr404 r
      .ok (.merging r read))
  | .merging r read => proceed db (do
      let merged ← r.body.merged read
      db.checkAssignmentRefs r.actor r.today false merged read.employeeId (some read.id)
      .ok (.writing r read merged))
  | .writing r read _ => (db.writeAssignment r.body r.actor r.now read, none)
  | .transfer r => proceed db (do
      let employee ← db.employeeAtWork r.actor r.today r.employeeId
        "Cannot transfer an archived or inactive employee"
      .ok (.finding r (employee.isOwn r.actor)))
  | .finding r selfService =>
    (db, some (.completing r selfService
      (db.leading r.actor r.today selfService r.employeeId).head?))
  | .completing r selfService current => proceed db (do
      (db.complete r current).checkAssignmentRefs r.actor r.today selfService r.body.created
        r.employeeId (current.map (·.id))
      .ok (.opening r current))
  | .opening r current =>
    (((db.complete r current).insertAssignment
      (r.body.created.assignment r.assignmentId r.actor r.employeeId r.now)).getD db, none)

/-- No statement waits for another request. -/
def assigning : Statement Database AssignmentTask := fun _ db task => some (task.step db)

/-- Whether a request begins. -/
def AssignmentTask.isRequest : AssignmentTask → Bool
  | .create _ | .update _ | .transfer _ => true
  | _ => false

/-- The databases, with the requests under way, that some interleaving leads to whose statements
meet `admits`; at first there are no assignments. -/
abbrev AssignmentRequests (admits : List AssignmentTask → Database → AssignmentTask → Prop) :
    Sessions Database AssignmentTask → Prop :=
  Sessions.Interleaved (fun task => task.isRequest = true) assigning admits
    fun db => db.assignments.rows = []

end Cestos.Employees
