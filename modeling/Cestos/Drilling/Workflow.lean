import Cestos.Drilling.Revenue

/-!
# The workflow of shift reports

Creation, correction, submission, approval, return and deletion of shift reports. Each is one
transaction that holds the row lock of its report, so on one report they run one after the
other.
-/

namespace Cestos.Drilling

open Cestos.Core Cestos.Core.Decimal

/-- The time of a request and the identifier a new report gets. -/
structure Env where
  now : Instant
  uuid : Id
  deriving DecidableEq

/-! ## Payloads -/

structure IntervalCreate where
  drillHoleId : Id
  fromDepthM : {x : ℚ // 0 ≤ x}
  toDepthM : {x : ℚ // 0 ≤ x}
  drillingMethod : Option String
  deriving DecidableEq

structure TimeSegmentCreate where
  category : TimeCategory
  hours : {x : ℚ // 0 < x ∧ x ≤ 24}
  deriving DecidableEq

structure ShiftReportCreate where
  siteLocationId : Option Id
  projectId : Id
  rigId : Id
  date : Day
  shiftType : ShiftType
  status : Option ShiftReportStatus
  notes : Option String
  intervals : List IntervalCreate
  timeSegments : List TimeSegmentCreate
  deriving DecidableEq

/-- Fields that are absent stay as they are; the site may be set to null. -/
structure ShiftReportUpdate where
  siteLocationId : Option (Option Id)
  projectId : Option Id
  rigId : Option Id
  date : Option Day
  shiftType : Option ShiftType
  notes : Option String
  correctionReason : Option String
  totalMetres : Option ℚ
  totalProductiveHours : Option ℚ
  totalNonproductiveHours : Option ℚ
  intervals : Option (List IntervalCreate)
  timeSegments : Option (List TimeSegmentCreate)
  deriving DecidableEq

/-! ## Rights -/

/-- Whether one of the words occurs in a text. -/
def mentions (lower : String → String) (words : List String) (text : String) : Bool :=
  words.any fun word => word.toList <:+: (lower text).toList

def supervisorKeywords : List String :=
  ["supervisor", "manager", "foreman", "lead", "superintendent", "admin", "driller"]

def isSupervisorRole (refs : References) (user : User) : Bool :=
  user.roles.any (fun role => mentions refs.lower supervisorKeywords role.name) ||
    user.employee.any fun emp =>
      mentions refs.lower supervisorKeywords (emp.jobTitle.getD "") ||
      emp.position.any (fun pos =>
        pos.isSupervisoryRole || mentions refs.lower supervisorKeywords pos.title) ||
      emp.supervises

/-- Who may create a report for a project. -/
def checkReporter (refs : References) (projectId : Id) (actorId : Option Id) : Outcome Unit :=
  match actorId.bind refs.users with
  | none => .ok ()
  | some user =>
    if user.isSuperuser then .ok () else do
      ensure (isSupervisorRole refs user) (.value
        "Only personnel with a supervisor or management role can create shift production reports.")
      let emp ← orError user.employee (.value
        ("No active employee profile associated with your user account. Cannot verify project " ++
          "assignment."))
      ensure (refs.projectManager projectId = some emp.id ∨ projectId ∈ emp.projects) (.value
        ("You are not assigned to this project. Supervisors can only submit shift reports for " ++
          "projects assigned to them."))

def approvalPermissions : List String :=
  ["drilling.shifts.approve", "reports.approve", "projects.manage", "projects.update",
    "drilling.approve"]

def approverKeywords : List String :=
  ["manager", "superintendent", "director", "supervisor", "client representative", "admin",
    "lead", "foreman"]

/-- Who may approve a report. -/
def checkApprover (refs : References) (userId : Id) : Outcome Unit :=
  match refs.users userId with
  | none => .ok ()
  | some user =>
    ensure (user.isSuperuser ∨
      (∃ role ∈ user.roles, ∃ code ∈ role.permissions, code ∈ approvalPermissions) ∨
      ∃ role ∈ user.roles, mentions refs.lower approverKeywords role.name) (.value
        ("You do not have permission to approve shift reports. Approval requires an authorized " ++
          "management/approval role or permission (drilling.shifts.approve / reports.approve)."))

/-! ## Sites and holes -/

def requireSite (refs : References) (projectId : Id) : Option Id → Outcome Unit
  | none => .ok ()
  | some site => ensure (refs.site projectId site) (.value "Select an active site linked to this project")

/-- The deepest end of an interval of a hole in other reports, or zero. -/
def previousDepth (db : Database) (shiftId : Option Id) (holeId : Id) : ℚ :=
  let ends := ((db.reports.rows.filter fun r => shiftId ≠ some r.id).flatMap fun r =>
    (r.intervals.filter (·.drillHoleId = holeId)).map (·.toDepthM.1))
  match ends with
  | [] => 0
  | d :: rest => rest.foldl max d

/-- `validate_site_intervals` for the holes and ends of intervals. -/
def validateSiteIntervals (refs : References) (db : Database) (projectId : Id) (site : Option Id)
    (intervals : List (Id × ℚ)) (shiftId : Option Id) : Outcome Unit := do
  requireSite refs projectId site
  let _ ← intervals.mapM fun (holeId, toDepth) => do
    let hole ← orError (db.holes.find? holeId)
      (.value "Every drill hole must belong to the selected project and site")
    ensure (hole.projectId = projectId ∧ ¬ hole.archived ∧ hole.siteLocationId = site)
      (.value "Every drill hole must belong to the selected project and site")
    let previous := if shiftId = none then
        max (previousDepth db shiftId holeId) (hole.finalDepthM.elim 0 (·.1))
      else previousDepth db shiftId holeId
    ensure (hole.targetDepthM.all fun target =>
        target.1 = 0 ∨ (previous < target.1 ∧ toDepth ≤ target.1))
      (.value ("Drill hole " ++ hole.holeNumber ++
        " has reached its target or the interval exceeds it"))
  .ok ()

/-! ## Intervals, segments and totals -/

/-- An interval in memory. -/
structure WorkingInterval where
  drillHoleId : Id
  fromDepthM : ℚ
  toDepthM : ℚ
  drillingMethod : Option String

structure WorkingSegment where
  category : TimeCategory
  hours : ℚ

def IntervalCreate.working (iv : IntervalCreate) : WorkingInterval :=
  ⟨iv.drillHoleId, iv.fromDepthM.1, iv.toDepthM.1, iv.drillingMethod⟩

def DrillingShiftInterval.working (iv : DrillingShiftInterval) : WorkingInterval :=
  ⟨iv.drillHoleId, iv.fromDepthM.1, iv.toDepthM.1, iv.drillingMethod⟩

def TimeSegmentCreate.working (ts : TimeSegmentCreate) : WorkingSegment := ⟨ts.category, ts.hours.1⟩

def DrillingShiftTimeSegment.working (ts : DrillingShiftTimeSegment) : WorkingSegment :=
  ⟨ts.category, ts.hours.1⟩

def WorkingInterval.drilled (ctx : Context 28 12) (iv : WorkingInterval) : ℚ :=
  ctx.add iv.toDepthM (-iv.fromDepthM)

/-- The columns an interval is flushed to. -/
def WorkingInterval.store (ctx : Context 28 12) (iv : WorkingInterval) :
    Outcome DrillingShiftInterval := do
  ensure (0 ≤ iv.drilled ctx) (.depths iv.fromDepthM iv.toDepthM)
  let fromDepthM ← orError (Column.store 18 2 iv.fromDepthM) .data
  let toDepthM ← orError (Column.store 18 2 iv.toDepthM) .data
  let drilledMetres ← orError (Column.store 18 2 (iv.drilled ctx)) .data
  if h : fromDepthM.1 ≤ toDepthM.1 ∧ 0 ≤ drilledMetres.1 then
    .ok ⟨iv.drillHoleId, fromDepthM, toDepthM, drilledMetres, iv.drillingMethod, h.1, h.2⟩
  else .error (.integrity "ck_interval_depth")

def WorkingSegment.store (ts : WorkingSegment) : Outcome DrillingShiftTimeSegment := do
  let hours ← orError (Column.store 18 2 ts.hours) .data
  .ok ⟨ts.category, hours⟩

def total (ctx : Context 28 12) (amounts : List ℚ) : ℚ := amounts.foldl ctx.add 0

/-- `recalculate_shift_totals`, with the flush of what it changes. -/
def recalculateShiftTotals (ctx : Context 28 12) (ivs : List WorkingInterval)
    (segments : List WorkingSegment) (report : DrillingShiftReport) :
    Outcome DrillingShiftReport := do
  let intervals ← ivs.mapM (·.store ctx)
  let timeSegments ← segments.mapM (·.store)
  let totalMetres ← orError (Column.store 18 2 (total ctx (ivs.map (·.drilled ctx)))) .data
  let totalProductiveHours ← orError (Column.store 18 2
    (total ctx ((segments.filter (·.category = .productive)).map (·.hours)))) .data
  let totalNonproductiveHours ← orError (Column.store 18 2
    (total ctx ((segments.filter (·.category ≠ .productive)).map (·.hours)))) .data
  .ok { report with
    intervals, timeSegments, totalMetres, totalProductiveHours, totalNonproductiveHours }

/-- No two reports of a rig are for the same shift of a day. -/
def checkUnique (db : Database) (report : DrillingShiftReport) : Outcome Unit :=
  ensure (∀ r ∈ db.reports.rows, r.id ≠ report.id →
      ¬ (r.rigId = report.rigId ∧ r.date = report.date ∧ r.shiftType = report.shiftType))
    (.integrity "uq_drilling_shifts_rig_date_shift")

def ShiftType.text : ShiftType → String
  | .day => "DAY"
  | .night => "NIGHT"

/-! ## The service functions -/

/-- A report as it is created, before its intervals and segments are added. -/
def newReport (env : Env) (payload : ShiftReportCreate) (actorId : Option Id) :
    DrillingShiftReport where
  id := env.uuid
  projectId := payload.projectId
  siteLocationId := payload.siteLocationId
  rigId := payload.rigId
  date := payload.date
  shiftType := payload.shiftType
  status := payload.status.getD .draft
  submittedAt := if payload.status = some .submitted then some env.now else none
  submittedById := if payload.status = some .submitted then actorId else none
  approvedAt := none
  approvedById := none
  returnReason := none
  correctionReason := none
  notes := payload.notes
  totalMetres := 0
  totalProductiveHours := 0
  totalNonproductiveHours := 0
  intervals := []
  timeSegments := []

def createShiftReport (ctx : Context 28 12) (refs : References) (env : Env) (db : Database)
    (payload : ShiftReportCreate) (actorId : Option Id) : Outcome Database := do
  checkReporter refs payload.projectId actorId
  validateSiteIntervals refs db payload.projectId payload.siteLocationId
    (payload.intervals.map fun iv => (iv.drillHoleId, iv.toDepthM.1)) none
  let rig ← orError (refs.rigs payload.rigId)
    (.value ("Rig asset " ++ toString payload.rigId ++ " not found."))
  ensure (∀ r ∈ db.reports.rows, ¬ (r.rigId = payload.rigId ∧ r.date = payload.date ∧
      r.shiftType = payload.shiftType)) (.value
    ("A shift report for rig '" ++ rig ++ "', date " ++ toString payload.date ++ ", and " ++
      payload.shiftType.text ++ " shift already exists."))
  let report ← recalculateShiftTotals ctx (payload.intervals.map (·.working))
    (payload.timeSegments.map (·.working)) (newReport env payload actorId)
  let reports ← orError (db.reports.insert? report) (.integrity "drilling_shift_reports_pkey")
  .ok { db with reports }

/-- The locked report; `title` is how the error text calls it. -/
def getShiftReport (db : Database) (shiftId : Id) (title : String) : Outcome DrillingShiftReport :=
  orError (db.reports.find? shiftId) (.value (title ++ " " ++ toString shiftId ++ " not found."))

/-- The columns an update sets directly. -/
def setFields (payload : ShiftReportUpdate) (report : DrillingShiftReport) : DrillingShiftReport :=
  { report with
    siteLocationId := payload.siteLocationId.getD report.siteLocationId
    projectId := payload.projectId.getD report.projectId
    rigId := payload.rigId.getD report.rigId
    date := payload.date.getD report.date
    shiftType := payload.shiftType.getD report.shiftType
    notes := payload.notes.or report.notes
    correctionReason := payload.correctionReason.or report.correctionReason }

/-- A total that the payload sets, or the one there is. -/
def setTotal (value : Option ℚ) (current : Column 18 2) : Outcome (Column 18 2) :=
  match value with
  | none => .ok current
  | some x => orError (Column.store 18 2 x) .data

/-- Intervals and segments that are given replace those there are. -/
def replaceParts (ctx : Context 28 12) (payload : ShiftReportUpdate)
    (report : DrillingShiftReport) : Outcome DrillingShiftReport :=
  if payload.intervals = none ∧ payload.timeSegments = none then .ok report
  else recalculateShiftTotals ctx
    (payload.intervals.elim (report.intervals.map (·.working)) (·.map (·.working)))
    (payload.timeSegments.elim (report.timeSegments.map (·.working)) (·.map (·.working))) report

def updateShiftReport (ctx : Context 28 12) (refs : References) (db : Database) (shiftId : Id)
    (payload : ShiftReportUpdate) : Outcome Database := do
  let report ← getShiftReport db shiftId "Shift Report"
  ensure (¬ (report.status = .approved ∧ ¬ given payload.correctionReason)) (.value
    "Audited corrections to an APPROVED shift report require a correction_reason.")
  validateSiteIntervals refs db (payload.projectId.getD report.projectId)
    (payload.siteLocationId.getD report.siteLocationId)
    (payload.intervals.elim (report.intervals.map fun iv => (iv.drillHoleId, iv.toDepthM.1))
      (·.map fun iv => (iv.drillHoleId, iv.toDepthM.1))) (some shiftId)
  let report ← replaceParts ctx payload (setFields payload report)
  let totalMetres ← setTotal payload.totalMetres report.totalMetres
  let totalProductiveHours ← setTotal payload.totalProductiveHours report.totalProductiveHours
  let totalNonproductiveHours ←
    setTotal payload.totalNonproductiveHours report.totalNonproductiveHours
  let report := { report with totalMetres, totalProductiveHours, totalNonproductiveHours }
  checkUnique db report
  .ok { db with reports := db.reports.set report }

def ShiftReportStatus.text : ShiftReportStatus → String
  | .draft => "DRAFT"
  | .submitted => "SUBMITTED"
  | .approved => "APPROVED"
  | .returned => "RETURNED"

/-- Notes of a transition are appended. -/
def appendNotes (notes : Option String) (title : String) (added : Option String) :
    Option String :=
  if given added then some (notes.getD "" ++ "\n" ++ title ++ ": " ++ added.getD "") else notes

def submitShiftReport (env : Env) (db : Database) (shiftId userId : Id) (notes : Option String) :
    Outcome Database := do
  let report ← getShiftReport db shiftId "Shift report"
  ensure (report.status ∈ [.draft, .returned]) (.value
    ("Shift report cannot be submitted from status '" ++ report.status.text ++ "'."))
  .ok { db with reports := db.reports.set { report with
    status := .submitted
    submittedAt := some env.now
    submittedById := some userId
    notes := appendNotes report.notes "Submit notes" notes } }

/-- The report as it is approved; an approval may stand for a missing submission. -/
def approved (env : Env) (userId : Id) (notes : Option String) (report : DrillingShiftReport) :
    DrillingShiftReport :=
  { report with
    submittedAt := if report.status ∈ [.draft, .returned] then report.submittedAt.or (some env.now)
      else report.submittedAt
    submittedById := if report.status ∈ [.draft, .returned] then
        report.submittedById.or (some userId)
      else report.submittedById
    status := .approved
    approvedAt := some env.now
    approvedById := some userId
    notes := appendNotes report.notes "Approval notes" notes }

/-- What an approval does to the hole of an interval. -/
def deepen (env : Env) (iv : DrillingShiftInterval) (hole : DrillHole) : DrillHole :=
  { hole with
    finalDepthM := if hole.finalDepthM.all (·.1 < iv.toDepthM.1) then some iv.toDepthM
      else hole.finalDepthM
    status := if hole.status = .planned then .inProgress else hole.status
    startedAt := if hole.status = .planned then hole.startedAt.or (some env.now)
      else hole.startedAt }

def deepenHoles (env : Env) (holes : Table DrillHole.id) (ivs : List DrillingShiftInterval) :
    Table DrillHole.id :=
  ivs.foldl (fun holes iv => match holes.find? iv.drillHoleId with
    | none => holes
    | some hole => holes.set (deepen env iv hole)) holes

/-- The guard of an approval. -/
def checkApprovable (report : DrillingShiftReport) : Outcome Unit :=
  ensure (report.status ∈ [.submitted, .draft, .returned]) (.value
    ("Shift report cannot be approved from status '" ++ report.status.text ++ "'."))

def approveShiftReport (ctx : Context 28 12) (refs : References) (env : Env) (db : Database)
    (shiftId userId : Id) (notes : Option String) : Outcome Database := do
  checkApprover refs userId
  let report ← getShiftReport db shiftId "Shift report"
  checkApprovable report
  let report := approved env userId notes report
  let entries ← calculateAndPostShiftRevenue ctx refs db.entries report
  .ok ⟨deepenHoles env db.holes report.intervals, db.reports.set report, entries⟩

def returnShiftReport (db : Database) (shiftId : Id) (reason : String) : Outcome Database := do
  let report ← getShiftReport db shiftId "Shift report"
  ensure (report.status = .submitted) (.value
    ("Shift report cannot be returned from status '" ++ report.status.text ++ "'."))
  .ok { db with reports := db.reports.set { report with
    status := .returned
    returnReason := some reason } }

/-- Revenue entries refer to their report, so a report with entries cannot go. -/
def deleteShiftReport (db : Database) (shiftId : Id) : Outcome Database := do
  let report ← getShiftReport db shiftId "Shift report"
  ensure (report.status ≠ .approved) (.value
    ("Approved shift production reports cannot be deleted. Only unapproved reports (Draft, " ++
      "Submitted, Returned) can be deleted."))
  ensure (∀ e ∈ db.entries, e.shiftReportId ≠ shiftId)
    (.integrity "revenue_subledger_entries_shift_report_id_fkey")
  .ok { db with reports := db.reports.removeIf (·.id = shiftId) }

/-! ## Runs -/

inductive Operation
  | create (payload : ShiftReportCreate) (actorId : Option Id)
  | update (shiftId : Id) (payload : ShiftReportUpdate)
  | submit (shiftId userId : Id) (notes : Option String)
  | approve (shiftId userId : Id) (notes : Option String)
  | giveBack (shiftId : Id) (reason : String)
  | delete (shiftId : Id)
  deriving DecidableEq

def exec (ctx : Context 28 12) (refs : References) (env : Env) (db : Database) :
    Operation → Outcome Database
  | .create payload actorId => createShiftReport ctx refs env db payload actorId
  | .update shiftId payload => updateShiftReport ctx refs db shiftId payload
  | .submit shiftId userId notes => submitShiftReport env db shiftId userId notes
  | .approve shiftId userId notes => approveShiftReport ctx refs env db shiftId userId notes
  | .giveBack shiftId reason => returnShiftReport db shiftId reason
  | .delete shiftId => deleteShiftReport db shiftId

/-- The runs, with the requests that succeeded, all of which meet `cond`. They start without
reports and entries. -/
inductive Run (ctx : Context 28 12) (refs : References) (cond : Database → Operation → Prop) :
    List (Env × Operation) → Database → Prop
  | init {db} : db.reports.rows = [] → db.entries = [] → Run ctx refs cond [] db
  | step {requests db db'} (env : Env) (op : Operation) : Run ctx refs cond requests db →
      cond db op → exec ctx refs env db op = .ok db' →
      Run ctx refs cond (requests ++ [(env, op)]) db'

/-- The requests of a schedule, one after the other; none of them may fail. -/
def execAll (ctx : Context 28 12) (refs : References) (cond : Database → Operation → Prop)
    [∀ db op, Decidable (cond db op)] (db : Database) (requests : List (Env × Operation)) :
    Option Database :=
  requests.foldlM (fun db r => if cond db r.2 then (exec ctx refs r.1 db r.2).toOption else none) db

theorem Run.execAll {ctx : Context 28 12} {refs : References}
    {cond : Database → Operation → Prop} [∀ db op, Decidable (cond db op)]
    {done requests : List (Env × Operation)} {db db' : Database} (h : Run ctx refs cond done db)
    (hexec : execAll ctx refs cond db requests = some db') :
    Run ctx refs cond (done ++ requests) db' := by
  induction requests generalizing done db with
  | nil =>
      obtain rfl := Option.some.inj hexec
      rwa [List.append_nil]
  | cons r rest ih =>
      simp only [Drilling.execAll, List.foldlM_cons, Option.bind_eq_bind,
        Option.bind_eq_some_iff, Option.ite_none_right_eq_some] at hexec
      obtain ⟨mid, ⟨hcond, hmid⟩, hrest⟩ := hexec
      have hok : exec ctx refs r.1 db r.2 = .ok mid := by
        cases hr : exec ctx refs r.1 db r.2 with
        | error e => simp [hr, Except.toOption] at hmid
        | ok out => simpa [hr, Except.toOption] using hmid
      have hstep := ih (h.step r.1 r.2 hcond hok) hrest
      rwa [List.append_assoc, List.singleton_append] at hstep

theorem Run.of_execAll (ctx : Context 28 12) (refs : References)
    (cond : Database → Operation → Prop) [∀ db op, Decidable (cond db op)] (db : Database)
    (requests : List (Env × Operation)) {p : Database → Bool}
    (hreports : db.reports.rows = []) (hentries : db.entries = [])
    (hexec : (Drilling.execAll ctx refs cond db requests).any p = true) :
    ∃ db', Run ctx refs cond requests db' ∧ p db' = true := by
  cases hdb : Drilling.execAll ctx refs cond db requests with
  | none => simp [hdb] at hexec
  | some db' =>
      rw [hdb, Option.any_some] at hexec
      exact ⟨db', (Run.init hreports hentries).execAll hdb, hexec⟩

end Cestos.Drilling
