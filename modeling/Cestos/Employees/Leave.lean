import Cestos.Core.Locking
import Cestos.Core.Outcome
import Cestos.Employees.Rows
import Cestos.Errors

/-!
# Leave requests

Leave is requested for some days and approved or rejected later. A request locks the employee
before it reads the leave that the employee has; a decision locks the leave request only.
-/

namespace Cestos.Employees

open Cestos.Core

/-- What is asked for; that the end is not before the start is checked with the body. -/
structure LeaveRequestCreate where
  leaveType : Option String
  dates : NonemptyInterval Date
  reason : Option String
  attachment : Option String

/-- A call of `create`, with the identifier that is generated. -/
structure CreateLeave where
  actor : Actor
  today : Date
  /-- The request is for the actor's own profile, which then is among those the actor sees. -/
  selfService : Bool
  employeeId : Id
  body : LeaveRequestCreate
  leaveId : Id
  now : Instant

/-- What `update` reads of its body. -/
structure LeaveRequestUpdate where
  leaveType : Option String
  status : Option String

/-- A call of `update`, with the times that it writes. -/
structure UpdateLeave where
  actor : Actor
  today : Date
  leaveId : Id
  body : LeaveRequestUpdate
  approvedAt : Instant
  updatedAt : Instant

/-! ## What the requests check -/

/-- The query for the employee of a new leave request. -/
def Database.employee? (db : Database) (r : CreateLeave) : Option Employee :=
  (db.employees.find? r.employeeId).filter fun employee =>
    employee.organizationId = r.actor.organizationId ∧
      db.Sees r.actor r.today r.selfService employee.id

/-- `_employee_or_404`. -/
def Database.employeeOr404 (db : Database) (r : CreateLeave) : Except AppError Employee :=
  orError (db.employee? r) (.notFound "Employee not found")

/-- Whether the days of the leave are taken: it is pending or approved. -/
def LeaveRequest.Blocks (leave : LeaveRequest) : Prop := leave.status ≠ .rejected

instance : DecidablePred LeaveRequest.Blocks :=
  fun leave => inferInstanceAs (Decidable (leave.status ≠ .rejected))

/-- `existing`: the leave that is read under the lock. -/
def Database.existing (db : Database) (r : CreateLeave) : List LeaveRequest :=
  db.leaves.rows.filter fun leave => leave.organizationId = r.actor.organizationId ∧
    leave.employeeId = r.employeeId ∧ leave.Blocks ∧
      db.Sees r.actor r.today r.selfService leave.employeeId

def LeaveRequest.Overlaps (leave : LeaveRequest) (body : LeaveRequestCreate) : Prop :=
  leave.dates.fst ≤ body.dates.snd ∧ body.dates.fst ≤ leave.dates.snd

instance (leave : LeaveRequest) (body : LeaveRequestCreate) : Decidable (leave.Overlaps body) :=
  inferInstanceAs (Decidable (_ ∧ _))

/-- The loop over the existing leave. -/
def checkOverlap (body : LeaveRequestCreate) : List LeaveRequest → Except AppError Unit
  | [] => .ok ()
  | leave :: rest => do
    ensure (¬ leave.Overlaps body) (.validation "Leave request overlaps with an existing request")
    checkOverlap body rest

/-- The query of `update`. -/
def Database.leave? (db : Database) (r : UpdateLeave) : Option LeaveRequest :=
  (db.leaves.find? r.leaveId).filter fun leave =>
    leave.organizationId = r.actor.organizationId ∧
      db.Sees r.actor r.today false leave.employeeId

def Database.leaveOr404 (db : Database) (r : UpdateLeave) : Except AppError LeaveRequest :=
  orError (db.leave? r) (.notFound "Leave request not found")

/-- The checks of `update` on a status. -/
def checkDecision (leave : LeaveRequest) (status : Option String) : Except AppError Unit :=
  match status with
  | none => .ok ()
  | some text => do
    ensure (text = "APPROVED" ∨ text = "REJECTED") (.validation "Choose approve or reject")
    ensure (leave.status = .pending) (.conflict "Only pending leave requests can be decided")

/-! ## What the requests write -/

/-- `leave_type or "Annual Leave"`. -/
def LeaveRequestCreate.leaveTypeOrDefault (body : LeaveRequestCreate) : String :=
  match body.leaveType with
  | none | some "" => "Annual Leave"
  | some text => text

def CreateLeave.leave (r : CreateLeave) : LeaveRequest where
  id := r.leaveId
  organizationId := r.actor.organizationId
  employeeId := r.employeeId
  leaveType := some r.body.leaveTypeOrDefault
  dates := r.body.dates
  reason := r.body.reason
  status := .pending
  approvedById := none
  approvedAt := none
  attachmentUrl := r.body.attachment
  createdById := r.actor.id
  updatedById := r.actor.id
  updatedAt := r.now

def Database.commitLeave (db : Database) (r : CreateLeave) : Option Database :=
  (db.leaves.insert? r.leave).map fun leaves => { db with leaves := leaves }

/-- The status after an update, if what `checkDecision` checks is the case. -/
def UpdateLeave.status (r : UpdateLeave) (leave : LeaveRequest) : LeaveRequestStatus :=
  match r.body.status with
  | none => leave.status
  | some text => if text = "APPROVED" then .approved else .rejected

/-- What `update` makes of the leave. -/
def UpdateLeave.apply (r : UpdateLeave) (leave : LeaveRequest) : LeaveRequest :=
  { leave with
    leaveType := r.body.leaveType.or leave.leaveType
    status := r.status leave
    approvedById :=
      if r.body.status = some "APPROVED" then some r.actor.id else leave.approvedById
    approvedAt :=
      if r.body.status = some "APPROVED" then some r.approvedAt else leave.approvedAt
    updatedById := r.actor.id
    updatedAt := r.updatedAt }

def Database.commitUpdate (db : Database) (r : UpdateLeave) : Option Database :=
  (db.leaves.find? r.leaveId).map fun leave =>
    { db with leaves := db.leaves.set (r.apply leave) }

/-! ## Statements -/

/-- A row that is locked. -/
inductive LeaveLock
  | employee (id : Id)
  | leave (id : Id)
  deriving DecidableEq

inductive LeaveTask
  | create (r : CreateLeave)
  | locking (r : CreateLeave)
  /-- The employee is locked. -/
  | checking (r : CreateLeave)
  | inserting (r : CreateLeave)
  | update (r : UpdateLeave)
  /-- The leave is locked. -/
  | deciding (r : UpdateLeave)

/-- A request under way and the rows that it has locked. -/
structure LeaveTransaction where
  held : List LeaveLock
  task : LeaveTask

/-- The rows that the next statement locks: those that its query returns. -/
def LeaveTransaction.wants (db : Database) (t : LeaveTransaction) : List LeaveLock :=
  match t.task with
  | .locking r => (db.employee? r).toList.map fun employee => .employee employee.id
  | .update r => (db.leave? r).toList.map fun leave => .leave leave.id
  | _ => []

/-- The request goes on with what it has locked, unless it raises. -/
def LeaveTransaction.proceed (db : Database) (t : LeaveTransaction)
    (next : Except AppError LeaveTask) : Database × Option LeaveTransaction :=
  match next with
  | .ok task => (db, some ⟨t.wants db ++ t.held, task⟩)
  | .error _ => (db, none)

/-- The statements of `create` and `update`. A commit that fails is rolled back. -/
def LeaveTransaction.step (_others : List LeaveTransaction) (db : Database)
    (t : LeaveTransaction) : Database × Option LeaveTransaction :=
  match t.task with
  | .create r => t.proceed db (do
      let _ ← db.employeeOr404 r
      .ok (.locking r))
  | .locking r => t.proceed db (.ok (.checking r))
  | .checking r => t.proceed db (do
      checkOverlap r.body (db.existing r)
      .ok (.inserting r))
  | .inserting r => ((db.commitLeave r).getD db, none)
  | .update r => t.proceed db (do
      let leave ← db.leaveOr404 r
      checkDecision leave r.body.status
      .ok (.deciding r))
  | .deciding r => ((db.commitUpdate r).getD db, none)

/-- A statement waits for those who have locked its row. -/
def leaveServing : Statement Database LeaveTransaction :=
  locking LeaveTransaction.held (fun db t => t.wants db) LeaveTransaction.step

/-- Whether a request begins. -/
def LeaveTask.isRequest : LeaveTask → Bool
  | .create _ | .update _ => true
  | _ => false

def LeaveTransaction.IsRequest (t : LeaveTransaction) : Prop :=
  t.held = [] ∧ t.task.isRequest = true

instance : DecidablePred LeaveTransaction.IsRequest :=
  fun t => inferInstanceAs (Decidable (t.held = [] ∧ t.task.isRequest = true))

/-- One step of the requests side by side. -/
abbrev LeaveStep : Sessions Database LeaveTransaction →
    Sessions Database LeaveTransaction → Prop :=
  Sessions.Step LeaveTransaction.IsRequest leaveServing fun _ _ _ => True

/-- The databases, with the requests under way, that some interleaving leads to; at first nobody
has asked for leave. -/
abbrev LeaveRequests : Sessions Database LeaveTransaction → Prop :=
  Sessions.Interleaved LeaveTransaction.IsRequest leaveServing (fun _ _ _ => True)
    fun db => db.leaves.rows = []

end Cestos.Employees
