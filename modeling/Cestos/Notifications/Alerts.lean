import Cestos.Core.Staged
import Cestos.Notifications.Once

/-!
# Scheduled alerts

A run tells of contracts that expire and of maintenance work that is due. What it tells has a key
that is made of the stage on the day of the run, and all of a run is one transaction.
-/

namespace Cestos.Notifications

open Cestos.Core

/-- Days, numbered. -/
abbrev Day := Int

structure AlertEnv extends Env where
  /-- `str` of a date. -/
  date : Day → String

/-- Identifiers are derived from different names apart, and texts of identifiers and of dates are
different and without colons. -/
structure AlertEnv.Lawful (env : AlertEnv) : Prop where
  uuid5 : ∀ root name root' name', env.uuid5 root name = env.uuid5 root' name' →
    root = root' ∧ name = name'
  text : Function.Injective env.text
  text_plain : ∀ id, ':' ∉ (env.text id).toList
  date : Function.Injective env.date
  date_plain : ∀ day, ':' ∉ (env.date day).toList

structure Organization where
  id : Id
  isActive : Bool

structure Account extends User where
  email : String

structure Employee where
  id : Id
  organizationId : Id
  firstName : String
  lastName : String
  isActive : Bool
  archivedAt : Option Instant
  contractEndDate : Option Day
  userId : Option Id
  workEmail : Option String

structure EmployeeDocument where
  organizationId : Id
  employeeId : Id
  documentType : String
  isActive : Bool
  verificationStatus : String
  expiryDate : Option Day

inductive WorkTable
  | assetMaintenanceJob
  | maintenanceWorkOrder
  deriving DecidableEq

def WorkTable.tablename : WorkTable → String
  | .assetMaintenanceJob => "asset_maintenance_jobs"
  | .maintenanceWorkOrder => "maintenance_work_orders"

/-- A job is never archived; an employee is assigned to it, or a technician to a work order. -/
structure MaintenanceWork where
  table : WorkTable
  id : Id
  organizationId : Id
  assetId : Id
  projectId : Option Id
  title : String
  status : String
  scheduledDate : Option Day
  assignedId : Option Id
  isActive : Bool
  archivedAt : Option Instant

/-! ## Stages -/

inductive ExpiryStage
  | days30
  | days14
  | days7
  | days1
  | expired
  deriving DecidableEq

def ExpiryStage.text : ExpiryStage → String
  | .days30 => "30d"
  | .days14 => "14d"
  | .days7 => "7d"
  | .days1 => "1d"
  | .expired => "expired"

def ExpiryStage.rank : ExpiryStage → Nat
  | .days30 => 0
  | .days14 => 1
  | .days7 => 2
  | .days1 => 3
  | .expired => 4

def expiryStage (expiry today : Int) : Option ExpiryStage :=
  let days := expiry - today
  if days < 0 then some .expired
  else if days ≤ 1 then some .days1
  else if days ≤ 7 then some .days7
  else if days ≤ 14 then some .days14
  else if days ≤ 30 then some .days30
  else none

inductive WorkStage
  | due
  | overdueWeek (week : Nat)
  deriving DecidableEq

def WorkStage.text : WorkStage → String
  | .due => "due"
  | .overdueWeek week => "overdue-week-" ++ toString week

def WorkStage.rank : WorkStage → Nat
  | .due => 0
  | .overdueWeek week => week + 1

def workStage (scheduled today : Int) : WorkStage :=
  if scheduled < today then .overdueWeek ((today - scheduled) / 7).toNat else .due

def contractKey (env : AlertEnv) (employeeId : Id) (expiry : Day) (stage : ExpiryStage) : String :=
  "contract:" ++ (env.text employeeId ++ ":" ++ (env.date expiry ++ ":" ++ stage.text))

def workKey (env : AlertEnv) (table : WorkTable) (id : Id) (scheduled : Day) (stage : WorkStage) :
    String :=
  "work-due:" ++ (table.tablename ++ ":" ++ (env.text id ++ ":" ++
    (env.date scheduled ++ ":" ++ stage.text)))

/-- Any other event. -/
abbrev OtherEvent := { e : EmitEvent //
  ¬ "contract:".toList <+: e.eventKey.toList ∧ ¬ "work-due:".toList <+: e.eventKey.toList }

/-! ## What a run reads and tells -/

/-- The rows, and what other queries return on that day: the users that supervise an employee or a
project, the projects in which an asset is in use, and what `generate_people_alerts` tells. -/
structure Tables where
  organizations : List Organization
  employees : List Employee
  documents : List EmployeeDocument
  works : List MaintenanceWork
  accounts : List Account
  supervisors : Id → Option Id → Option Id → List Id
  assetProjects : Id → Id → List Id
  peopleAlerts : Id → Day → List OtherEvent
  /-- When the clock is read for the e-mail to a user. -/
  now : Id → Instant

namespace Tables

variable (env : AlertEnv) (tables : Tables) (organizationId : Id) (today : Day)

/-- Whether the user is the one of the employee, by reference or else by e-mail. -/
def belongs (account : Account) (employee : Employee) : Prop :=
  employee.userId = some account.id ∨
    employee.userId = none ∧ employee.workEmail = some account.email

instance (account : Account) : DecidablePred (belongs account) :=
  fun _ => inferInstanceAs (Decidable (_ ∨ _ ∧ _))

/-- The active employees. -/
def people : List Employee :=
  tables.employees.filter fun person =>
    person.organizationId = organizationId ∧ person.isActive = true ∧ person.archivedAt = none

/-- `employee_recipients`. -/
def employeeRecipients (employeeId : Option Id) : List Id :=
  (tables.accounts.filter fun account =>
    (account.organizationId = organizationId ∧ account.isActive = true ∧
      account.archivedAt = none) ∧
    ∃ person ∈ tables.people organizationId,
      some person.id = employeeId ∧ belongs account person).map (·.id)

/-- `work_supervisors`. -/
def workSupervisors (work : MaintenanceWork) : List Id :=
  tables.supervisors work.organizationId work.assignedId work.projectId ++
    if work.assignedId = none ∧ work.projectId = none then
      (tables.assetProjects work.organizationId work.assetId).flatMap fun projectId =>
        tables.supervisors work.organizationId none (some projectId)
    else []

/-- A call of `emit_event` with what is left to default. -/
def emits (recipients : List Id) (eventKey message domain kind priority : String) : EmitEvent where
  organizationId := organizationId
  recipients := recipients
  eventKey := eventKey
  message := message
  domain := domain
  kind := kind
  priority := priority
  deliveryMethod := "BOTH"
  scheduleId := none
  actionUrl := .nowhere
  users := tables.accounts.map (·.toUser)
  now := tables.now

/-- The dates on which contracts expire, each once: of the employees themselves, and of their
contracts that are not rejected. -/
def expiries : List (Id × Day) :=
  let people := tables.people organizationId
  (people.filterMap (fun person => person.contractEndDate.map (person.id, ·)) ++
    (tables.documents.filter fun document =>
      document.organizationId = organizationId ∧ document.documentType = "EMPLOYMENT_CONTRACT" ∧
        document.isActive = true ∧ document.verificationStatus ≠ "REJECTED" ∧
        document.employeeId ∈ people.map (·.id)).filterMap fun document =>
      document.expiryDate.map (document.employeeId, ·)).dedup

def contractAlert (person : Employee) (expiry : Day) (stage : ExpiryStage) : EmitEvent :=
  tables.emits organizationId
    (tables.employeeRecipients organizationId (some person.id) ++
      tables.supervisors organizationId (some person.id) none)
    (contractKey env person.id expiry stage)
    ("Employment contract for " ++ person.firstName ++ " " ++ person.lastName ++ " " ++
      (if expiry < today then "expired" else "expires") ++ " on " ++ env.date expiry ++
      ". Contact HR to review renewal arrangements.")
    "WORKFORCE" "CONTRACT_EXPIRY" (if expiry < today then "CRITICAL" else "IMPORTANT")

def contractAlerts : List EmitEvent :=
  (tables.expiries organizationId).filterMap fun expiry =>
    (expiryStage expiry.2 today).bind fun stage =>
      ((tables.people organizationId).find? fun person => person.id = expiry.1).map fun person =>
        tables.contractAlert env organizationId today person expiry.2 stage

/-- Whether the work is open; a work order must not be archived. -/
def isOpen (table : WorkTable) (work : MaintenanceWork) : Prop :=
  work.table = table ∧ work.organizationId = organizationId ∧
    work.status ∈ ["OPEN", "IN_PROGRESS", "WAITING_PARTS"] ∧
    (table = .maintenanceWorkOrder → work.archivedAt = none ∧ work.isActive = true)

instance (table : WorkTable) : DecidablePred (isOpen organizationId table) :=
  fun _ => inferInstanceAs (Decidable (_ ∧ _ ∧ _ ∧ (_ → _ ∧ _)))

def workAlert (work : MaintenanceWork) (scheduled : Day) : EmitEvent :=
  let overdue : Bool := scheduled < today
  tables.emits organizationId
    (tables.employeeRecipients organizationId work.assignedId ++
      if overdue then tables.workSupervisors work else [])
    (workKey env work.table work.id scheduled (workStage scheduled today))
    ("Maintenance work order '" ++ work.title ++ "' is " ++
      (if overdue then "overdue" else "due soon") ++ " (scheduled due " ++ env.date scheduled ++
      "); current status: " ++ work.status ++ ".")
    "EQUIPMENT" (if overdue then "WORK_ORDER_OVERDUE" else "WORK_ORDER_DUE")
    (if overdue then "CRITICAL" else "IMPORTANT")

/-- The work that is due tomorrow, or before. -/
def workAlerts (table : WorkTable) : List EmitEvent :=
  (tables.works.filter (isOpen organizationId table ·)).filterMap fun work =>
    (work.scheduledDate.filter fun scheduled => scheduled ≤ today + 1).map fun scheduled =>
      tables.workAlert env organizationId today work scheduled

/-- The calls of `generate_field_alerts`, one organization after the other. -/
def fieldAlerts : List EmitEvent :=
  (tables.organizations.filter fun organization => organization.isActive).flatMap
    fun organization =>
      (tables.peopleAlerts organization.id today).map Subtype.val ++
        (tables.contractAlerts env organization.id today ++
          (tables.workAlerts env organization.id today .assetMaintenanceJob ++
            tables.workAlerts env organization.id today .maintenanceWorkOrder))

end Tables

/-! ## Transactions that nothing interrupts -/

/-- The e-mail, if the notification was inserted just now. -/
def Work.afterNotify (env : Env) (db : Database) : Progress Work Stage → Option Work
  | .goes w (.mail e user eligible) =>
    match emitEvent env db w (.mail e user eligible) with
    | .goes w _ => some w
    | _ => none
  | .goes w _ | .done w => some w
  | .fails => none

def Work.tell (env : Env) (db : Database) (e : EmitEvent) (w : Work) (user : User) : Option Work :=
  Work.afterNotify env db (emitEvent env db w (.notify e [user]))

/-- A call of `emit_event`, from its query to its last recipient. -/
def Work.emit (env : Env) (db : Database) (w : Work) (e : EmitEvent) : Option Work :=
  let w := { w with emissions := ⟨e, [], []⟩ :: w.emissions }
  if e.recipients = [] then some w
  else (e.users.filter fun user => e.eligible user).foldlM (Work.tell env db e) w

def Work.emitAll (env : Env) (db : Database) (calls : List EmitEvent) : Option Work :=
  calls.foldlM (Work.emit env db) ⟨[], [], [], []⟩

/-- How many notifications were inserted. -/
def Work.total (w : Work) : Nat := (w.emissions.map fun e => e.notified.length).sum

def generateFieldAlerts (env : AlertEnv) (db : Database) (tables : Tables) (today : Day) :
    Option (Database × Nat) :=
  (Work.emitAll env.toEnv db (tables.fieldAlerts env today)).map fun w => (db.commit w, w.total)

inductive Request
  /-- A run of `generate_field_alerts`. -/
  | run (tables : Tables) (today : Day)
  /-- A request that tells of other events. -/
  | others (calls : List OtherEvent)

def Request.calls (env : AlertEnv) : Request → List EmitEvent
  | .run tables today => tables.fieldAlerts env today
  | .others calls => calls.map Subtype.val

def Request.day : Request → Option Day
  | .run _ today => some today
  | .others _ => none

/-- A request whose call fails leaves nothing behind. -/
def Database.serve (env : AlertEnv) (db : Database) (request : Request) : Database :=
  ((Work.emitAll env.toEnv db (request.calls env)).map db.commit).getD db

end Cestos.Notifications
