import Cestos.Maintenance.FieldWork

/-!
# Maintenance in the office

Jobs are created, edited and moved by two endpoints that lock the job's row. Work orders are
created, edited and completed by endpoints that read a row without a lock and, when they
commit, write the columns that differ from what they read. Meter readings, providers, defects,
the findings of a completion, notifications and audit rows are left out.
-/

namespace Cestos.Maintenance

open Cestos.Core Cestos.Core.Decimal

/-! ## Jobs -/

/-- `service.ref` of a project or an employee; null refers to nothing. -/
def requireRef (ids : List Id) (ref : Option (Option Id)) : Outcome Unit :=
  ensure (∀ r ∈ ref, ∀ id ∈ r, id ∈ ids) (.notFound "Related record not found")

/-- `writable_asset`. -/
def writableAsset (db : Database) (assetId : Id) : Outcome Unit := do
  let asset ← orError (db.assets.find? assetId) (.notFound "Related record not found")
  ensure asset.writable (.conflict "This asset is retired or archived")

structure MaintenanceCreate where
  checklist : List Task := []
  assetId : Option Id := none
  projectId : Option Id := none
  title : String
  description : Option String := none
  maintenanceType : WorkType := .service
  priority : Priority := .normal
  scheduledDate : Option Date := none
  cost : Column 18 2 := 0
  currency : String := "USD"
  assignedEmployeeId : Option Id := none
  isRecurring : Bool := false
  recurrenceIntervalDays : Option Interval := none

/-- `create_maintenance`. -/
def createMaintenance (env : Env) (db : Database) (actor : Actor) (assetId : Id)
    (body : MaintenanceCreate) : Outcome Database := do
  ensure (actor.isFieldPortalOnly → actor.supervisor)
    (.forbidden "Only supervisors can create field work orders")
  let targetAssetId := body.assetId.getD assetId
  writableAsset db targetAssetId
  requireRef db.projects (some body.projectId)
  requireRef db.employees (some body.assignedEmployeeId)
  let jobs ← orError (db.jobs.insert? {
    id := env.uuid 0
    assetId := targetAssetId
    projectId := body.projectId
    title := body.title
    description := body.description
    workType := body.maintenanceType
    priority := body.priority
    status := .opened
    scheduledDate := body.scheduledDate
    assigneeId := body.assignedEmployeeId
    startedAt := none
    completedAt := none
    checklist := body.checklist
    fieldNotes := none
    approvedAt := none
    approvedById := none
    completionNotes := none
    cost := body.cost
    currency := body.currency
    isRecurring := body.isRecurring
    recurrenceIntervalDays := body.recurrenceIntervalDays.map (·.1) }) .integrity
  .ok { db with jobs := jobs }

/-- The statuses a job may be moved to. -/
def allowed : Status → List Status
  | .opened => [.inProgress, .completed, .cancelled]
  | .inProgress => [.completed, .cancelled]
  | _ => []

/-- The fields that were sent, each with its value; a value may be null. -/
structure MaintenanceUpdate where
  projectId : Option (Option Id) := none
  title : Option (Option String) := none
  description : Option (Option String) := none
  maintenanceType : Option (Option WorkType) := none
  priority : Option (Option Priority) := none
  scheduledDate : Option (Option Date) := none
  cost : Option (Option (Column 18 2)) := none
  currency : Option (Option String) := none
  status : Option (Option Status) := none
  completionNotes : Option (Option String) := none
  assignedEmployeeId : Option (Option Id) := none
  isRecurring : Option (Option Bool) := none
  recurrenceIntervalDays : Option (Option Interval) := none

/-- The loop that sets the fields that were sent. -/
def AssetMaintenanceJob.setAll (job : AssetMaintenanceJob) (body : MaintenanceUpdate) :
    Outcome AssetMaintenanceJob := do
  let title ← setRequired body.title job.title
  let workType ← setRequired body.maintenanceType job.workType
  let priority ← setRequired body.priority job.priority
  let cost ← setRequired body.cost job.cost
  let currency ← setRequired body.currency job.currency
  let status ← setRequired body.status job.status
  let isRecurring ← setRequired body.isRecurring job.isRecurring
  .ok { job with
    projectId := body.projectId.getD job.projectId
    title := title
    description := body.description.getD job.description
    workType := workType
    priority := priority
    status := status
    scheduledDate := body.scheduledDate.getD job.scheduledDate
    assigneeId := body.assignedEmployeeId.getD job.assigneeId
    completionNotes := body.completionNotes.getD job.completionNotes
    cost := cost
    currency := currency
    isRecurring := isRecurring
    recurrenceIntervalDays := match body.recurrenceIntervalDays with
      | some days => days.map (·.1)
      | none => job.recurrenceIntervalDays }

/-- When work on the job started and ended. -/
def AssetMaintenanceJob.stamp (env : Env) (status : Option Status) (job : AssetMaintenanceJob) :
    AssetMaintenanceJob :=
  match status with
  | some .inProgress => { job with startedAt := job.startedAt.or (some env.now) }
  | some .completed => { job with completedAt := job.completedAt.or (some env.now) }
  | _ => job

/-- `next_job`. -/
def AssetMaintenanceJob.next (env : Env) (job : AssetMaintenanceJob) : AssetMaintenanceJob where
  id := env.uuid 0
  assetId := job.assetId
  projectId := job.projectId
  title := job.title
  description := job.description
  workType := job.workType
  priority := job.priority
  status := .opened
  scheduledDate := some (env.today + job.recurrenceIntervalDays.getD 0)
  assigneeId := job.assigneeId
  startedAt := none
  completedAt := none
  checklist := []
  fieldNotes := none
  approvedAt := none
  approvedById := none
  completionNotes := none
  cost := job.cost
  currency := job.currency
  isRecurring := true
  recurrenceIntervalDays := job.recurrenceIntervalDays

/-- The next job is created. -/
def Database.addNext (db : Database) (env : Env) (job : AssetMaintenanceJob) :
    Outcome Database := do
  let jobs ← orError (db.jobs.insert? (job.next env)) .integrity
  .ok { db with jobs := jobs, successors := db.successors ++ [(job.id, (job.next env).id)] }

/-- The job of an asset. -/
def Database.jobOf (db : Database) (assetId jobId : Id) : Outcome AssetMaintenanceJob :=
  orError ((db.jobs.find? jobId).filter fun job => job.assetId = assetId)
    (.notFound "Related record not found")

/-- `update_maintenance`. -/
def updateMaintenance (env : Env) (db : Database) (actor : Actor) (assetId jobId : Id)
    (body : MaintenanceUpdate) : Outcome Database := do
  ensure (¬ actor.isFieldPortalOnly)
    (.forbidden "Update assigned work through the Field Portal work-order endpoint")
  writableAsset db assetId
  let row ← db.jobOf assetId jobId
  ensure (∀ status ∈ body.status.join, status ≠ row.status → status ∈ allowed row.status)
    (.conflict "Maintenance cannot move to this status")
  requireRef db.projects body.projectId
  requireRef db.employees body.assignedEmployeeId
  let edited ← row.setAll body
  let row' := edited.stamp env body.status.join
  let saved := db.saveJob row row'
  if body.status.join = some .completed ∧ row'.recurs then saved.addNext env row' else .ok saved

/-- `MaintenanceStatus`; the status is in progress, completed or cancelled. -/
structure MaintenanceStatus where
  status : Status
  notes : String
  moves : status ∈ [.inProgress, .completed, .cancelled]

/-- `maintenance_status`. -/
def maintenanceStatus (env : Env) (db : Database) (actor : Actor) (assetId jobId : Id)
    (body : MaintenanceStatus) : Outcome Database := do
  ensure (¬ actor.isFieldPortalOnly)
    (.forbidden "Update assigned work through the Field Portal work-order endpoint")
  let _ ← orError (db.assets.find? assetId) (.notFound "Related record not found")
  let row ← db.jobOf assetId jobId
  if row.status = body.status then .ok db
  else do
    ensure (body.status ∈ allowed row.status) (.conflict "Maintenance cannot move to this status")
    .ok (db.saveJob row { row with
      status := body.status
      completionNotes := some body.notes
      startedAt := if body.status = .inProgress then row.startedAt.or (some env.now)
        else row.startedAt
      completedAt := if body.status = .completed then some env.now else row.completedAt })

/-! ## Work orders -/

structure WorkOrderCostLineCreate where
  costType : String
  description : String
  quantity : {x : ℚ // 0 < x}
  unitCost : {x : ℚ // 0 ≤ x}
  currency : String := "USD"

def newCostLine (ctx : Context 28 12) (env : Env) (id woId : Id)
    (payload : WorkOrderCostLineCreate) : Outcome WorkOrderCostLine := do
  ensure ((env.upper payload.costType).length ≤ 30) .data
  let quantity ← orError (Column.store 14 2 payload.quantity) .data
  let unitCost ← orError (Column.store 14 2 payload.unitCost) .data
  let totalCost ← orError (Column.store 14 2 (ctx.mul payload.quantity payload.unitCost)) .data
  .ok {
    id := id
    workOrderId := woId
    costType := env.upper payload.costType
    description := payload.description
    quantity := quantity
    unitCost := unitCost
    totalCost := totalCost
    currency := payload.currency
    postedToSubledger := false }

/-- One cost line is inserted. -/
def insertCostLine (ctx : Context 28 12) (env : Env) (woId : Id)
    (lines : Table WorkOrderCostLine.id) (payload : WorkOrderCostLineCreate × Nat) :
    Outcome (Table WorkOrderCostLine.id) := do
  let line ← newCostLine ctx env (env.uuid (payload.2 + 1)) woId payload.1
  orError (lines.insert? line) .integrity

structure MaintenanceWorkOrderCreate where
  assetId : Id
  projectId : Option Id := none
  title : String
  description : Option String := none
  workType : WorkType := .corrective
  priority : Priority := .medium
  assignedTechnicianId : Option Id := none
  scheduledDate : Option Date := none
  notes : Option String := none
  costLines : List WorkOrderCostLineCreate := []

/-- `create_work_order`, with the number that the counter gives. -/
def createWorkOrder (ctx : Context 28 12) (env : Env) (db : Database) (woNumber : String)
    (payload : MaintenanceWorkOrderCreate) : Outcome Database := do
  ensure ((db.assets.find? payload.assetId).isSome ∧ (∀ id ∈ payload.projectId, id ∈ db.projects) ∧
    ∀ id ∈ payload.assignedTechnicianId, id ∈ db.employees) .integrity
  let workOrders ← orError (db.workOrders.insert? {
    id := env.uuid 0
    assetId := payload.assetId
    projectId := payload.projectId
    title := payload.title
    description := payload.description
    workType := payload.workType
    priority := payload.priority
    status := .opened
    scheduledDate := payload.scheduledDate
    assigneeId := payload.assignedTechnicianId
    startedAt := none
    completedAt := none
    checklist := []
    fieldNotes := none
    approvedAt := none
    approvedById := none
    woNumber := woNumber
    createdAt := env.now
    isActive := true
    archived := false
    completedById := none
    notes := payload.notes }) .integrity
  let costLines ← payload.costLines.zipIdx.foldlM (insertCostLine ctx env (env.uuid 0)) db.costLines
  .ok { db with workOrders := workOrders, costLines := costLines }

/-- `add_cost_line_to_work_order`. No work order is removed, so it makes no difference when the
order is looked up. -/
def addCostLine (ctx : Context 28 12) (env : Env) (db : Database) (woId : Id)
    (payload : WorkOrderCostLineCreate) : Outcome Database := do
  let _ ← orError (db.workOrder? woId) (.workOrderNotFound 400 woId)
  let costLines ← insertCostLine ctx env woId db.costLines (payload, 0)
  .ok { db with costLines := costLines }

/-! ### Reading first, writing later -/

/-- What a flush leaves in a column: only what differs from what was read is written. -/
def written {α : Type} [DecidableEq α] (loaded edited row : α) : α :=
  if edited = loaded then row else edited

/-- The row of a work order after the flush of one that was read and edited. -/
def MaintenanceWorkOrder.flush (loaded edited row : MaintenanceWorkOrder) :
    MaintenanceWorkOrder :=
  { row with
    title := written loaded.title edited.title row.title
    description := written loaded.description edited.description row.description
    workType := written loaded.workType edited.workType row.workType
    priority := written loaded.priority edited.priority row.priority
    status := written loaded.status edited.status row.status
    scheduledDate := written loaded.scheduledDate edited.scheduledDate row.scheduledDate
    assigneeId := written loaded.assigneeId edited.assigneeId row.assigneeId
    completedAt := written loaded.completedAt edited.completedAt row.completedAt
    completedById := written loaded.completedById edited.completedById row.completedById
    notes := written loaded.notes edited.notes row.notes }

/-- The `UPDATE` of a work order; the technician has to exist. -/
def Database.flushWorkOrder (db : Database) (loaded edited : MaintenanceWorkOrder) :
    Outcome Database := do
  ensure (∀ id ∈ edited.assigneeId, edited.assigneeId = loaded.assigneeId ∨ id ∈ db.employees)
    .integrity
  let row ← orError (db.workOrders.find? loaded.id) .integrity
  .ok { db with workOrders := db.workOrders.set (loaded.flush edited row) }

/-- The fields that were sent, each with its value; a value may be null. -/
structure MaintenanceWorkOrderUpdate where
  title : Option (Option String) := none
  description : Option (Option String) := none
  workType : Option (Option WorkType) := none
  priority : Option (Option Priority) := none
  status : Option (Option Status) := none
  assignedTechnicianId : Option (Option Id) := none
  scheduledDate : Option (Option Date) := none
  notes : Option (Option String) := none

/-- `update_work_order` up to the commit: the order as it was read and as it was edited. -/
def editWorkOrder (env : Env) (db : Database) (woId : Id) (payload : MaintenanceWorkOrderUpdate) :
    Outcome (MaintenanceWorkOrder × MaintenanceWorkOrder) := do
  let wo ← orError (db.workOrder? woId) (.workOrderNotFound 404 woId)
  ensure (¬ wo.createdAt + 10 * 86400 < env.now)
    (.http 409 "Work orders can only be edited within 10 days of creation.")
  let title ← setRequired payload.title wo.title
  let workType ← setRequired payload.workType wo.workType
  let priority ← setRequired payload.priority wo.priority
  let status ← setRequired payload.status wo.status
  .ok (wo, { wo with
    title := title
    description := payload.description.getD wo.description
    workType := workType
    priority := priority
    status := status
    assigneeId := payload.assignedTechnicianId.getD wo.assigneeId
    scheduledDate := payload.scheduledDate.getD wo.scheduledDate
    notes := payload.notes.getD wo.notes })

/-- A request to complete a work order. -/
structure CompleteRequest where
  env : Env
  actorId : Id
  woId : Id
  notes : Option String

/-- The order as `complete_work_order` edits it. -/
def MaintenanceWorkOrder.complete (r : CompleteRequest) (wo : MaintenanceWorkOrder) :
    MaintenanceWorkOrder :=
  { wo with
    status := .completed
    completedAt := some r.env.now
    completedById := some r.actorId
    notes := match truthy r.notes with
      | some notes => some (wo.notes.getD "" ++ "\nCompletion notes: " ++ notes)
      | none => wo.notes }

/-- The category under which a line is posted. -/
def WorkOrderCostLine.category (env : Env) (line : WorkOrderCostLine) : CostCategory :=
  if env.upper line.costType = "PARTS" then .maintenanceParts else .labour

/-- The entry that is posted for a line. -/
def WorkOrderCostLine.entry (r : CompleteRequest) (wo : MaintenanceWorkOrder)
    (line : WorkOrderCostLine) : CostSubledgerEntry where
  projectId := wo.projectId.getD wo.assetId
  rigId := wo.assetId
  costCategory := line.category r.env
  description := "WO " ++ wo.woNumber ++ ": " ++ line.description
  quantity := line.quantity
  unitOfMeasure := if line.category r.env = .maintenanceParts then "EA" else "HRS"
  unitCost := line.unitCost
  totalCost := line.totalCost
  currency := line.currency
  exchangeRateToBase := 1
  totalCostBase := line.totalCost
  sourceEntityId := wo.id
  postedAt := r.env.now
  createdById := r.actorId

/-- The lines that are posted. -/
def unposted (lines : List WorkOrderCostLine) : List WorkOrderCostLine :=
  lines.filter fun line => ¬ line.postedToSubledger

def WorkOrderCostLine.post (posted : List WorkOrderCostLine) (line : WorkOrderCostLine) :
    WorkOrderCostLine :=
  if line.id ∈ posted.map (·.id) then { line with postedToSubledger := true } else line

theorem WorkOrderCostLine.post_id (posted : List WorkOrderCostLine) (line : WorkOrderCostLine) :
    (line.post posted).id = line.id := by
  unfold post
  split <;> rfl

/-- The commit of `complete_work_order`: the order, the entries and the lines that it read. -/
def Database.commitCompletion (db : Database) (r : CompleteRequest) (wo : MaintenanceWorkOrder)
    (lines : List WorkOrderCostLine) : Outcome Database := do
  let entries := (unposted lines).map (WorkOrderCostLine.entry r wo)
  ensure (∀ entry ∈ entries, entry.description.length ≤ 255) .data
  ensure (∀ entry ∈ entries, entry.projectId ∈ db.projects) .integrity
  let saved ← db.flushWorkOrder wo (wo.complete r)
  .ok { saved with
    costLines := db.costLines.mapRows (WorkOrderCostLine.post (unposted lines))
      (WorkOrderCostLine.post_id _)
    entries := db.entries ++ entries }

/-!
## Maintenance requests side by side

The requests of the field portal and of the office on one database, in any number and in any
order. The two that write a work order without a lock read it first and write it later; what
others do in between they do not see.
-/

inductive Call
  | createMaintenance (env : Env) (actor : Actor) (assetId : Id) (body : MaintenanceCreate)
  | updateMaintenance (env : Env) (actor : Actor) (assetId jobId : Id) (body : MaintenanceUpdate)
  | maintenanceStatus (env : Env) (actor : Actor) (assetId jobId : Id) (body : MaintenanceStatus)
  | updateWork (env : Env) (actor : Actor) (workId : Id) (body : FieldWorkUpdate)
  | editWork (actor : Actor) (workId : Id) (body : FieldWorkEdit)
  | createWorkOrder (env : Env) (woNumber : String) (payload : MaintenanceWorkOrderCreate)
  | addCostLine (env : Env) (woId : Id) (payload : WorkOrderCostLineCreate)

/-- The requests that are one step. -/
def Call.exec (ctx : Context 28 12) (db : Database) : Call → Outcome Database
  | .createMaintenance env actor assetId body =>
    Maintenance.createMaintenance env db actor assetId body
  | .updateMaintenance env actor assetId jobId body =>
    Maintenance.updateMaintenance env db actor assetId jobId body
  | .maintenanceStatus env actor assetId jobId body =>
    Maintenance.maintenanceStatus env db actor assetId jobId body
  | .updateWork env actor workId body => Maintenance.updateWork env db actor workId body
  | .editWork actor workId body => Maintenance.editWork db actor workId body
  | .createWorkOrder env woNumber payload =>
    Maintenance.createWorkOrder ctx env db woNumber payload
  | .addCostLine env woId payload => Maintenance.addCostLine ctx env db woId payload

/-- A request under way, with what it has read. -/
inductive Session
  | call (c : Call)
  | updateWorkOrder (env : Env) (woId : Id) (payload : MaintenanceWorkOrderUpdate)
  /-- The order is edited in memory. -/
  | updating (loaded edited : MaintenanceWorkOrder)
  | completeWorkOrder (r : CompleteRequest)
  /-- The order is read, its cost lines are not yet. -/
  | orderRead (r : CompleteRequest) (wo : MaintenanceWorkOrder)
  /-- The order is not completed and is edited in memory. -/
  | completing (r : CompleteRequest) (wo : MaintenanceWorkOrder) (lines : List WorkOrderCostLine)

/-- A request that raises is rolled back. -/
def commit (db : Database) (result : Outcome Database) : Database × Option Session :=
  match result with
  | .ok db' => (db', none)
  | .error _ => (db, none)

def serving (ctx : Context 28 12) : Statement Database Session := fun _ db session =>
  some <| match session with
  | .call c => commit db (c.exec ctx db)
  | .updateWorkOrder env woId payload =>
    match editWorkOrder env db woId payload with
    | .ok (loaded, edited) => (db, some (.updating loaded edited))
    | .error _ => (db, none)
  | .updating loaded edited => commit db (db.flushWorkOrder loaded edited)
  | .completeWorkOrder r =>
    match db.workOrder? r.woId with
    | some wo => (db, some (.orderRead r wo))
    | none => (db, none)
  | .orderRead r wo =>
    if wo.status = .completed then (db, none)
    else (db, some (.completing r wo (db.costLinesOf wo.id)))
  | .completing r wo lines => commit db (db.commitCompletion r wo lines)

def Session.IsRequest : Session → Prop
  | .call _ | .updateWorkOrder _ _ _ | .completeWorkOrder _ => True
  | _ => False

instance : DecidablePred Session.IsRequest
  | .call _ | .updateWorkOrder _ _ _ | .completeWorkOrder _ => .isTrue trivial
  | .updating _ _ | .orderRead _ _ | .completing _ _ _ => .isFalse id

/-- Nothing has been done yet: what jobs and work orders there are, are open. -/
structure Database.Initial (db : Database) : Prop where
  jobs : ∀ job ∈ db.jobs.rows, job.status = .opened ∧ job.approvedAt = none
  workOrders : ∀ order ∈ db.workOrders.rows, order.status = .opened ∧ order.approvedAt = none
  lines : ∀ line ∈ db.costLines.rows, line.postedToSubledger = false ∧
    (db.workOrders.find? line.workOrderId).isSome
  entries : db.entries = []
  completions : db.completions = []
  successors : db.successors = []

/-- The databases, with the requests under way, that some interleaving leads to when every
statement meets `admits`. -/
abbrev Requests (ctx : Context 28 12) (admits : List Session → Database → Session → Prop) :
    Sessions Database Session → Prop :=
  Sessions.Interleaved Session.IsRequest (serving ctx) admits Database.Initial

/-- Functions of texts that change nothing. -/
def Sample.python : Env where
  now := 0
  today := 0
  uuid := fun n => 100 + n
  isoformat := fun _ => ""
  strip := fun s => s
  upper := fun s => s

end Cestos.Maintenance
