import Cestos.Core.Calendar
import Cestos.Core.Locking
import Cestos.Core.Outcome
import Cestos.Errors
import Cestos.Notifications.Events

/-!
# Notification schedules

A schedule looks for alerts and tells its recipients of them. A run opens a period, or repairs the
period of the last one until the next is due. The scheduler goes over the schedules that are due at
the time at which its pass began and leaves out those that are locked; a manual run waits for the
lock and has a time of its own.
-/

namespace Cestos.Schedules

open Cestos.Core
open Cestos.Notifications (Id Instant User EmitEvent Emission Stage Work emitEvent)

structure NotificationSchedule where
  id : Id
  organizationId : Id
  title : String
  domain : String
  ruleType : String
  /-- The threshold amount of the criteria as a text. -/
  thresholdAmount : Option String
  leadTimeDays : Int
  frequency : String
  priorityTag : String
  deliveryMethod : String
  isActive : Bool
  lastRunAt : Option Moment
  nextRunAt : Option Moment
  deriving DecidableEq

/-- What `Decimal` makes of a text. What is not a number cannot be compared. -/
inductive DecimalText
  | invalid
  | notANumber
  | number (negative : Bool)
  deriving DecidableEq

structure Env extends Notifications.Env where
  decimal : String → DecimalText

/-- What a rule finds about an entity, with the users there are when it is told and the clock for
the e-mails. -/
structure Alert where
  entityId : String
  message : String
  users : List User
  clock : Id → Instant

/-- What an evaluation reads: the users it addresses and the alerts of its rule. -/
structure Readings where
  targets : List Id
  alerts : List Alert

/-- The periods that runs have opened, the last first, are kept beside the tables. -/
structure Database where
  schedules : Table NotificationSchedule.id
  runs : List (Id × Moment)
  told : Notifications.Database

def Database.periods (db : Database) (scheduleId : Id) : List Moment :=
  (db.runs.filter fun run => run.1 = scheduleId).map Prod.snd

/-! ## Checks -/

def rules : List (String × String) :=
  [("WORKFORCE_DOCUMENT_EXPIRY", "WORKFORCE"), ("WORKFORCE_ROTATION_DUE", "WORKFORCE"),
    ("WORKFORCE_LEAVE_PENDING", "WORKFORCE"), ("WORKFORCE_LEAVE_UPCOMING", "WORKFORCE"),
    ("WORKFORCE_TRAINING_DUE", "WORKFORCE"), ("WORKFORCE_TRAINING_EXPIRY", "WORKFORCE"),
    ("WORKFORCE_CONTRACT_EXPIRY", "WORKFORCE"), ("INVENTORY_CONSUMABLES_EXPIRY", "INVENTORY"),
    ("INVENTORY_LOW_STOCK", "INVENTORY"), ("EQUIPMENT_MAINTENANCE_DUE", "EQUIPMENT"),
    ("EQUIPMENT_STATUS_CHANGE", "EQUIPMENT"), ("PROJECT_MILESTONE_DUE", "PROJECTS"),
    ("FINANCE_EXPENSE_PAYMENT_PENDING", "FINANCE"),
    ("FINANCE_OPERATIONAL_EXPENSE_THRESHOLD", "FINANCE"),
    ("FINANCE_PURCHASE_ORDER_THRESHOLD", "FINANCE"),
    ("FINANCE_PURCHASE_ORDER_GOODS_RECEIVED", "FINANCE"), ("HSE_CORRECTIVE_ACTION_DUE", "HSE"),
    ("HSE_INCIDENT_FOLLOWUP_OVERDUE", "HSE")]

/-- Days between the runs. -/
def frequencies : List (String × Nat) :=
  [("ONCE", 0), ("DAILY", 1), ("EVERY_OTHER_DAY", 2), ("WEEKLY", 7), ("BIWEEKLY", 14), ("MONTHLY", 0)]

def NotificationSchedule.needsThreshold (schedule : NotificationSchedule) : Bool :=
  schedule.ruleType ∈
      ["FINANCE_OPERATIONAL_EXPENSE_THRESHOLD", "FINANCE_PURCHASE_ORDER_THRESHOLD"] ||
    (schedule.ruleType = "FINANCE_PURCHASE_ORDER_GOODS_RECEIVED" &&
      schedule.thresholdAmount ≠ none && schedule.thresholdAmount ≠ some "")

def checkThreshold (env : Env) (threshold : Option String) : Except AppError Unit :=
  match env.decimal (threshold.getD "None") with
  | .invalid => .error (.validation "Enter a valid amount threshold")
  | .notANumber => .error .internal
  | .number true => .error (.validation "Amount threshold cannot be negative")
  | .number false => .ok ()

def validateSchedule (env : Env) (schedule : NotificationSchedule) : Except AppError Unit := do
  ensure (rules.lookup schedule.ruleType = some schedule.domain)
    (.validation "Unsupported notification rule or domain mismatch")
  ensure (schedule.frequency ∈ frequencies.map Prod.fst)
    (.validation "Unsupported notification frequency")
  ensure (schedule.deliveryMethod ∈ ["BOTH", "EMAIL", "ON_PLATFORM"])
    (.validation "Unsupported delivery method")
  ensure (0 ≤ schedule.leadTimeDays ∧ schedule.leadTimeDays ≤ 365)
    (.validation "Lead time must be between 0 and 365 days")
  if schedule.needsThreshold then checkThreshold env schedule.thresholdAmount else .ok ()

/-! ## Evaluation -/

def nextRun (now : Moment) (frequency : String) : Option Moment :=
  if frequency = "ONCE" then none
  else if frequency = "MONTHLY" then some now.nextMonth
  else (frequencies.lookup frequency).map now.addDays

/-- The period that a run at a time belongs to, unless it opens one. -/
def NotificationSchedule.currentPeriod (schedule : NotificationSchedule) (now : Moment) :
    Option Moment :=
  schedule.lastRunAt.filter fun _ =>
    schedule.frequency = "ONCE" || schedule.nextRunAt.any fun next => now < next

def scheduleKey (env : Env) (scheduleId : Id) (period : Moment) (entityId : String) : String :=
  "schedule:" ++ env.text scheduleId ++ ":" ++ period.isoformat ++ ":" ++ entityId

/-- The call of `emit_event` for an alert. -/
def NotificationSchedule.event (env : Env) (schedule : NotificationSchedule) (period : Moment)
    (targets : List Id) (alert : Alert) : EmitEvent where
  organizationId := schedule.organizationId
  recipients := targets
  eventKey := scheduleKey env schedule.id period alert.entityId
  message := "[" ++ schedule.priorityTag ++ "] " ++ schedule.title ++ ": " ++ alert.message
  domain := schedule.domain
  kind := "SCHEDULED_ALERT"
  priority := schedule.priorityTag
  deliveryMethod := schedule.deliveryMethod
  scheduleId := some schedule.id
  actionUrl := .nowhere
  users := alert.users
  now := alert.clock

/-- An evaluation under way: the period that it opens, what it has told, the call under way and
those that are left. -/
structure Evaluation where
  scheduleId : Id
  opens : Option Moment
  work : Work
  stage : Option Stage
  rest : List EmitEvent

/-- What an evaluation does under the lock; a schedule that is not active is left alone. -/
def evaluate (env : Env) (schedule : NotificationSchedule) (now : Moment) (readings : Readings) :
    Except AppError (Option Evaluation) :=
  if schedule.isActive = false then .ok none
  else do
    validateSchedule env schedule
    ensure (readings.targets ≠ [])
      (.validation "Schedule has no active recipients in this organization")
    let period := (schedule.currentPeriod now).getD now
    .ok (some {
      scheduleId := schedule.id
      opens := if (schedule.currentPeriod now).isNone then some now else none
      work := ⟨[], [], [], []⟩
      stage := none
      rest := readings.alerts.map (schedule.event env period readings.targets) })

/-- The row after a run has opened a period. -/
def NotificationSchedule.openPeriod (schedule : NotificationSchedule) (now : Moment) :
    NotificationSchedule :=
  { schedule with lastRunAt := some now, nextRunAt := nextRun now schedule.frequency }

def Database.commit (db : Database) (e : Evaluation) : Database :=
  match e.opens, db.schedules.find? e.scheduleId with
  | some now, some schedule =>
    ⟨db.schedules.set (schedule.openPeriod now), (e.scheduleId, now) :: db.runs, db.told.commit e.work⟩
  | _, _ => { db with told := db.told.commit e.work }

/-! ## Passes and manual runs -/

structure ManualRun where
  organizationId : Id
  allowedDomains : List String
  scheduleId : Id
  now : Moment
  readings : Readings

/-- A pass of the scheduler, with the time at which it began. -/
structure Pass where
  now : Moment
  activeOrganizations : List Id
  readings : Id → Readings

inductive Runner
  | manual (r : ManualRun)
  | pass (p : Pass)
  /-- The schedules that were due are taken in turn. -/
  | next (p : Pass) (scheduleIds : List Id)
  | evaluating (e : Evaluation) (after : Option (Pass × List Id))

/-- A row that is locked. -/
inductive Lock
  | schedule (id : Id)
  | told (row : Notifications.Row)
  deriving DecidableEq

def NotificationSchedule.Due (schedule : NotificationSchedule) (now : Moment) : Prop :=
  schedule.isActive = true ∧ (schedule.lastRunAt = none ∨
    schedule.frequency ≠ "ONCE" ∧ ∀ next ∈ schedule.nextRunAt, next ≤ now)

instance (schedule : NotificationSchedule) (now : Moment) : Decidable (schedule.Due now) :=
  inferInstanceAs (Decidable (_ ∧ (_ ∨ _ ∧ _)))

def Database.dueIds (db : Database) (p : Pass) : List Id :=
  (db.schedules.rows.filter fun schedule =>
    schedule.Due p.now ∧ schedule.organizationId ∈ p.activeOrganizations).map (·.id)

def Database.schedule? (db : Database) (r : ManualRun) : Option NotificationSchedule :=
  (db.schedules.find? r.scheduleId).filter fun schedule =>
    schedule.organizationId = r.organizationId

/-- What a manual run does once it has the lock. -/
def Database.evaluateSchedule (db : Database) (env : Env) (r : ManualRun) :
    Except AppError (Option Evaluation) := do
  let schedule ← orError (db.schedule? r) (.notFound "Schedule not found")
  ensure (schedule.domain ∈ r.allowedDomains)
    (.forbidden "You do not have permission to manage schedules in this domain")
  evaluate env schedule r.now r.readings

/-- What a pass does with a schedule that nobody has locked. -/
def Database.runDue (db : Database) (env : Env) (p : Pass) (scheduleId : Id) :
    Except AppError (Option Evaluation) :=
  match (db.schedules.find? scheduleId).filter fun schedule => schedule.Due p.now with
  | none => .ok none
  | some schedule => evaluate env schedule p.now (p.readings scheduleId)

def Runner.held : Runner → List Lock
  | .evaluating e _ => .schedule e.scheduleId :: e.work.held.map .told
  | _ => []

def Runner.wants (env : Env) (db : Database) : Runner → List Lock
  | .manual r => (db.schedule? r).toList.map fun schedule => .schedule schedule.id
  | .evaluating e _ => e.stage.elim [] fun stage => (e.work.wants env.toEnv db.told stage).map .told
  | _ => []

/-- After a schedule, whether it was evaluated or not, a pass takes the next one. -/
def Runner.resume (after : Option (Pass × List Id)) : Option Runner :=
  after.map fun rest => .next rest.1 rest.2

def Runner.begin (after : Option (Pass × List Id)) :
    Except AppError (Option Evaluation) → Option Runner
  | .ok (some e) => some (.evaluating e after)
  | .ok none | .error _ => resume after

def Runner.step (env : Env) (others : List Runner) (db : Database) :
    Runner → Database × Option Runner
  | .manual r => (db, begin none (db.evaluateSchedule env r))
  | .pass p => (db, some (.next p (db.dueIds p)))
  | .next _ [] => (db, none)
  | .next p (scheduleId :: scheduleIds) =>
    if locked Runner.held others (.schedule scheduleId) then (db, some (.next p scheduleIds))
    else (db, begin (some (p, scheduleIds)) (db.runDue env p scheduleId))
  | .evaluating e after =>
    match e.stage with
    | some stage =>
      match emitEvent env.toEnv db.told e.work stage with
      | .goes work stage => (db, some (.evaluating { e with work, stage := some stage } after))
      | .done work => (db, some (.evaluating { e with work, stage := none } after))
      | .fails => (db, resume after)
    | none =>
      match e.rest with
      | [] => (db.commit e, resume after)
      | call :: rest => (db, some (.evaluating { e with stage := some (.select call), rest } after))

/-- Only a pass does not wait for a schedule that is locked. -/
def running (env : Env) : Statement Database Runner :=
  locking Runner.held (Runner.wants env) (Runner.step env)

def Runner.isRequest : Runner → Bool
  | .manual _ | .pass _ => true
  | _ => false

def Runner.IsRequest (t : Runner) : Prop := t.isRequest = true

instance : DecidablePred Runner.IsRequest := fun t => inferInstanceAs (Decidable (t.isRequest = true))

/-- No schedule has run, and nobody was told anything by one. -/
def Database.Fresh (db : Database) : Prop :=
  (∀ schedule ∈ db.schedules.rows, schedule.lastRunAt = none ∧ schedule.nextRunAt = none) ∧
    db.runs = [] ∧ db.told.emissions = []

/-- The databases, with the passes and manual runs under way, that some interleaving leads to. -/
abbrev ScheduleRuns (env : Env) : Sessions Database Runner → Prop :=
  Sessions.Interleaved Runner.IsRequest (running env) (fun _ _ _ => True) Database.Fresh

/-!
## Monthly schedules

A monthly schedule is next due a month after its run. The day of the month is not remembered: a
month that is too short moves it for good.
-/

/-- `next_run` from one date to the next, `n` times. -/
def runsAfter (frequency : String) : ℕ → Moment → Option Moment
  | 0, start => some start
  | n + 1, start => (runsAfter frequency n start).bind fun now => nextRun now frequency

theorem runsAfter_monthly (n : ℕ) (start : Moment) :
    runsAfter "MONTHLY" n start = some { start with date := start.date.laterMonths n } := by
  induction n with
  | zero => rfl
  | succ n ih =>
      rw [runsAfter, ih]
      rfl

end Cestos.Schedules
