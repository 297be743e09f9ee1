import Cestos.Core.Decimal.Column
import Cestos.Core.Outcome
import Cestos.Core.Sessions
import Cestos.Core.Table

/-!
# Maintenance rows

Maintenance jobs, maintenance work orders with their cost lines, and the entries that are posted
for the lines to the cost subledger. Jobs and work orders share most of their columns, and the
field portal serves both alike.
-/

namespace Cestos.Maintenance

open Cestos.Core Cestos.Core.Decimal

abbrev Id := Nat

abbrev Instant := Nat

/-- Days. -/
abbrev Date := Nat

/-- A job is never `waitingParts`. -/
inductive Status
  | opened | inProgress | waitingParts | completed | cancelled
  deriving DecidableEq, Repr

/-- `maintenance_type` of a job, `work_type` of a work order. -/
inductive WorkType
  | preventive | corrective | inspection | service | other | emergency | overhaul
  deriving DecidableEq, Repr

inductive Priority
  | low | normal | medium | high | critical
  deriving DecidableEq, Repr

/-- An item of a checklist. -/
structure Task where
  id : String
  task : String
  completed : Bool
  deriving DecidableEq, Repr

/-- The columns of `asset_maintenance_jobs` that `maintenance_work_orders` has as well. -/
structure Work where
  id : Id
  assetId : Id
  projectId : Option Id
  title : String
  description : Option String
  workType : WorkType
  priority : Priority
  status : Status
  scheduledDate : Option Date
  /-- `assigned_employee_id` of a job, `assigned_technician_id` of a work order. -/
  assigneeId : Option Id
  startedAt : Option Instant
  completedAt : Option Instant
  checklist : List Task
  fieldNotes : Option String
  approvedAt : Option Instant
  approvedById : Option Id
  deriving DecidableEq, Repr

structure AssetMaintenanceJob extends Work where
  completionNotes : Option String
  cost : Column 18 2
  currency : String
  isRecurring : Bool
  recurrenceIntervalDays : Option Nat
  deriving DecidableEq

structure MaintenanceWorkOrder extends Work where
  woNumber : String
  createdAt : Instant
  isActive : Bool
  archived : Bool
  completedById : Option Id
  notes : Option String
  deriving DecidableEq

structure WorkOrderCostLine where
  id : Id
  workOrderId : Id
  costType : String
  description : String
  quantity : Column 14 2
  unitCost : Column 14 2
  totalCost : Column 14 2
  currency : String
  postedToSubledger : Bool
  deriving DecidableEq

inductive CostCategory
  | maintenanceParts | labour
  deriving DecidableEq, Repr

/-- An entry of the subledger whose source is a work order. -/
structure CostSubledgerEntry where
  projectId : Id
  rigId : Id
  costCategory : CostCategory
  description : String
  quantity : Column 14 2
  unitOfMeasure : String
  unitCost : Column 14 2
  totalCost : Column 14 2
  currency : String
  exchangeRateToBase : ℚ
  totalCostBase : Column 14 2
  sourceEntityId : Id
  postedAt : Instant
  createdById : Id
  deriving DecidableEq

structure Asset where
  id : Id
  /-- Neither archived nor disposed of. -/
  writable : Bool
  deriving DecidableEq, Repr

structure Database where
  assets : Table Asset.id
  projects : List Id
  employees : List Id
  jobs : Table fun job : AssetMaintenanceJob => job.id
  workOrders : Table fun order : MaintenanceWorkOrder => order.id
  costLines : Table WorkOrderCostLine.id
  entries : List CostSubledgerEntry
  /-- The jobs that were completed, each while it was recurring. -/
  completions : List Id
  /-- The jobs that were created as the next one of a job, with that job. -/
  successors : List (Id × Id)

/-- Who makes a request. -/
structure Actor where
  id : Id
  isFieldPortalOnly : Bool
  /-- Whether `is_supervisor` holds of them. -/
  supervisor : Bool
  /-- `own_employee_ids`. -/
  ownEmployees : List Id
  /-- `supervised_employee_ids`, with their own. -/
  supervisedEmployees : List Id
  /-- Those of them who are active and not archived. -/
  activeTeam : List Id
  deriving DecidableEq, Repr

/-- Time, new identifiers, and Python's functions of texts. -/
structure Env where
  now : Instant
  today : Date
  uuid : Nat → Id
  isoformat : Instant → String
  strip : String → String
  upper : String → String

inductive MaintenanceError
  | forbidden (message : String)
  | notFound (message : String)
  | conflict (message : String)
  | validation (message : String)
  | http (status : Nat) (detail : String)
  /-- "Work order {wo_id} not found." -/
  | workOrderNotFound (status : Nat) (woId : Id)
  /-- A value does not fit its column. -/
  | data
  | integrity
  deriving DecidableEq, Repr

abbrev Outcome := Except MaintenanceError

/-- A text that Python takes for true. -/
def truthy (text : Option String) : Option String := text.filter (· ≠ "")

/-- What an update sets a column to that takes no null. -/
def setRequired {α : Type} (value : Option (Option α)) (old : α) : Outcome α :=
  match value with
  | none => .ok old
  | some (some new) => .ok new
  | some none => .error .integrity

/-- The work is closed: neither the field portal nor a supervisor may change it any more. -/
def Work.closed (w : Work) : Bool :=
  w.approvedAt.isSome || w.status ∈ [.completed, .cancelled]

/-- Every task of the checklist is completed. -/
def Work.done (w : Work) : Bool := w.checklist.all Task.completed

def AssetMaintenanceJob.recurs (job : AssetMaintenanceJob) : Bool :=
  job.isRecurring && 0 < job.recurrenceIntervalDays.getD 0

namespace Database

def costLinesOf (db : Database) (woId : Id) : List WorkOrderCostLine :=
  db.costLines.rows.filter (·.workOrderId = woId)

def entriesOf (db : Database) (woId : Id) : List CostSubledgerEntry :=
  db.entries.filter (·.sourceEntityId = woId)

/-- `get_work_order`. -/
def workOrder? (db : Database) (woId : Id) : Option MaintenanceWorkOrder :=
  (db.workOrders.find? woId).filter fun order => ¬ order.archived

end Database

/-!
## Field work

The two requests of the field portal: the assignee works on a job or a work order, and the
supervisor approves or edits it. Both lock the row before they look at it and commit with the
lock held, so each is one step for the row.
-/

/-- `_work_access`: whether the actor is the assignee, and whether they supervise the assignee. -/
structure Access where
  own : Bool
  canReview : Bool

def workAccess (actor : Actor) (w : Work) : Outcome Access := do
  let own := w.assigneeId.any (· ∈ actor.ownEmployees)
  let canReview := actor.supervisor && w.assigneeId.any (· ∈ actor.supervisedEmployees)
  ensure (own || canReview) (.notFound "Work order not found")
  .ok ⟨own, canReview⟩

/-- The row the portal means by an identifier. -/
def Database.workRow (db : Database) (workId : Id) :
    Outcome (AssetMaintenanceJob ⊕ MaintenanceWorkOrder) :=
  match db.jobs.find? workId with
  | some job => .ok (.inl job)
  | none =>
    match (db.workOrders.find? workId).filter fun order => order.isActive ∧ ¬ order.archived with
    | some order => .ok (.inr order)
    | none => .error (.notFound "Work order not found")

/-- The job is written. -/
def Database.saveJob (db : Database) (job job' : AssetMaintenanceJob) : Database :=
  { db with
    jobs := db.jobs.set job'
    completions := db.completions ++
      if job.status ≠ .completed ∧ job'.status = .completed ∧ job'.recurs = true then [job'.id]
      else [] }

/-! ### Updates -/

inductive FieldStatus
  | inProgress | completed | approved
  deriving DecidableEq, Repr

structure FieldWorkUpdate where
  taskId : Option String := none
  completed : Option Bool := none
  note : Option String := none
  status : Option FieldStatus := none

/-- The task of the update is marked. -/
def Work.mark (w : Work) (body : FieldWorkUpdate) : Outcome Work :=
  match body.taskId, body.completed with
  | none, _ => .ok w
  | some taskId, some completed => do
    ensure (∃ item ∈ w.checklist, item.id = taskId)
      (.conflict "Select an existing checklist task and completion value")
    .ok { w with checklist := w.checklist.map fun item =>
      if item.id = taskId then { item with completed := completed } else item }
  | some _, none => .error (.conflict "Select an existing checklist task and completion value")

/-- The assignee reports a status. -/
def Work.report (env : Env) (w : Work) (status : Option FieldStatus) : Outcome Work :=
  match status with
  | some .completed => do
    ensure w.done (.conflict "Complete every checklist task before submitting for approval")
    .ok { w with status := .completed, completedAt := some env.now }
  | some .inProgress =>
    .ok { w with status := .inProgress, startedAt := w.startedAt.or (some env.now) }
  | _ => .ok w

/-- The work after an update, without the note; `none` if it was approved already. -/
def Work.update (env : Env) (actor : Actor) (access : Access) (w : Work)
    (body : FieldWorkUpdate) : Outcome (Option Work) :=
  if body.status = some .approved then do
    ensure (actor.supervisor ∧ access.canReview)
      (.forbidden "Only the team supervisor can approve completed work")
    ensure (w.status = .completed) (.conflict "Complete the work order before supervisor approval")
    ensure (body.taskId = none) (.conflict "Checklist cannot change during approval")
    .ok (if w.approvedAt.isSome then none
      else some { w with approvedAt := some env.now, approvedById := some actor.id })
  else do
    ensure access.own
      (.forbidden "Only the explicitly assigned employee can update this work")
    ensure (¬ w.closed) (.conflict "Completed or approved work cannot be edited")
    let marked ← w.mark body
    let reported ← marked.report env body.status
    .ok (some reported)

/-- The note is put after the notes there are. -/
def Work.note (env : Env) (earlier : Option String) (body : FieldWorkUpdate) (w : Work) : Work :=
  match body.note with
  | none => w
  | some note =>
    if env.strip note = "" then w
    else
      let added := "[" ++ env.isoformat env.now ++ "] " ++ env.strip note
      { w with fieldNotes := some (match (truthy w.fieldNotes).or (truthy earlier) with
        | some before => before ++ "\n" ++ added
        | none => added) }

/-- `update_work`. -/
def updateWork (env : Env) (db : Database) (actor : Actor) (workId : Id)
    (body : FieldWorkUpdate) : Outcome Database := do
  let row ← db.workRow workId
  match row with
  | .inl job => do
    let access ← workAccess actor job.toWork
    let updated ← job.toWork.update env actor access body
    match updated with
    | none => .ok db
    | some work =>
      let completionNotes :=
        if body.status = some .completed then body.note else job.completionNotes
      .ok (db.saveJob job { job with
        toWork := work.note env completionNotes body
        completionNotes := completionNotes })
  | .inr order => do
    let access ← workAccess actor order.toWork
    let updated ← order.toWork.update env actor access body
    match updated with
    | none => .ok db
    | some work =>
      .ok { db with workOrders := db.workOrders.set { order with
        toWork := work.note env order.notes body } }

/-! ### Edits -/

/-- Days between two jobs. -/
abbrev Interval := {n : Nat // 1 ≤ n ∧ n ≤ 365}

structure FieldWorkEdit where
  title : String
  description : Option String
  maintenanceType : WorkType
  priority : Priority
  scheduledDate : Option Date
  assignedEmployeeId : Id
  isRecurring : Bool
  recurrenceIntervalDays : Option Interval
  recurrence_requires_interval : isRecurring = true → recurrenceIntervalDays.isSome = true

/-- The columns that jobs and work orders share after an edit. -/
def Work.edit (actor : Actor) (access : Access) (w : Work) (allowedTypes : List WorkType)
    (allowedPriorities : List Priority) (body : FieldWorkEdit) : Outcome Work := do
  ensure (actor.supervisor ∧ access.canReview)
    (.forbidden "Only the team supervisor can edit work details")
  ensure (¬ w.closed) (.conflict "Completed, approved or cancelled work cannot be edited")
  ensure (w.assigneeId = some body.assignedEmployeeId ∨
    body.assignedEmployeeId ∈ actor.activeTeam)
    (.forbidden "Select an active employee from your supervised team")
  ensure (body.maintenanceType ∈ allowedTypes)
    (.validation "Invalid maintenance type for this work record")
  ensure (body.priority ∈ allowedPriorities)
    (.validation "Invalid priority for this work record")
  .ok { w with
    title := body.title
    description := body.description
    workType := body.maintenanceType
    priority := body.priority
    scheduledDate := body.scheduledDate
    assigneeId := some body.assignedEmployeeId }

/-- `edit_work`. -/
def editWork (db : Database) (actor : Actor) (workId : Id) (body : FieldWorkEdit) :
    Outcome Database := do
  let row ← db.workRow workId
  match row with
  | .inl job => do
    let access ← workAccess actor job.toWork
    let work ← job.toWork.edit actor access
      [.preventive, .corrective, .inspection, .service, .other] [.low, .normal, .high, .critical]
      body
    .ok (db.saveJob job { job with
      toWork := work
      isRecurring := body.isRecurring
      recurrenceIntervalDays :=
        if body.isRecurring then body.recurrenceIntervalDays.map (·.1) else none })
  | .inr order => do
    let access ← workAccess actor order.toWork
    let work ← order.toWork.edit actor access [.preventive, .corrective, .emergency, .overhaul]
      [.low, .medium, .high, .critical] body
    ensure (¬ body.isRecurring)
      (.validation "Recurrence is available only for maintenance schedules")
    .ok { db with workOrders := db.workOrders.set { order with toWork := work } }

end Cestos.Maintenance
