import Cestos.Drilling.Workflow

/-!
# Reports with core recovery

Creation and correction of shift reports with the core that was recovered and the crew: what
the requests compute in memory, and what the database makes of it at the commit.
-/

namespace Cestos.Drilling.Cored

open Cestos.Core Cestos.Core.Decimal

/-- What ends a request. -/
inductive ShiftError
  | drilling (error : DrillingError)
  /-- Python's `decimal.InvalidOperation`. -/
  | invalidOperation
  deriving DecidableEq

abbrev Outcome := Except ShiftError

/-! ## Rows -/

structure DrillingShiftInterval extends Drilling.DrillingShiftInterval where
  coreRecoveredM : Option (Column 18 2)
  coreRecoveryPct : Option (Column 5 2)
  deriving DecidableEq

structure DrillingShiftCrew where
  employeeId : Id
  hoursWorked : Column 18 2
  deriving DecidableEq

/-- A report; `cored` are its intervals. -/
structure DrillingShiftReport extends Drilling.DrillingShiftReport where
  programId : Option Id
  supervisorId : Option Id
  avgCoreRecoveryPct : Option (Column 5 2)
  cored : List DrillingShiftInterval
  crewMembers : List DrillingShiftCrew
  matched : cored.map (·.toDrillingShiftInterval) = intervals
  /-- `ck_time_segment_hours`. -/
  hours_nonneg : ∀ ts ∈ timeSegments, 0 ≤ ts.hours.1
  deriving DecidableEq

abbrev reportId (r : DrillingShiftReport) : Id := r.id

structure Database where
  holes : Table DrillHole.id
  reports : Table reportId

theorem plain_nodup (reports : Table reportId) :
    ((reports.rows.map (·.toDrillingShiftReport)).map (·.id)).Nodup := by
  rw [List.map_map]
  exact reports.nodup

/-- The database as the checks of sites and holes see it. -/
def Database.plain (db : Database) : Drilling.Database :=
  ⟨db.holes, ⟨db.reports.rows.map (·.toDrillingShiftReport), plain_nodup db.reports⟩, []⟩

/-- What the requests read and never write; the predicates are the rows that foreign keys may
refer to. -/
structure References extends Drilling.References where
  projects : Id → Bool
  assets : Id → Bool
  programs : Id → Bool
  employees : Id → Bool

/-! ## Payloads -/

structure IntervalCreate extends Drilling.IntervalCreate where
  coreRecoveredM : Option {x : ℚ // 0 ≤ x}
  deriving DecidableEq

structure CrewCreate where
  employeeId : Id
  hoursWorked : {x : ℚ // 0 < x ∧ x ≤ 24}
  deriving DecidableEq

structure ShiftReportCreate where
  siteLocationId : Option Id
  projectId : Id
  rigId : Id
  programId : Option Id
  date : Day
  shiftType : ShiftType
  supervisorId : Option Id
  status : Option ShiftReportStatus
  notes : Option String
  intervals : List IntervalCreate
  timeSegments : List TimeSegmentCreate
  crewMembers : List CrewCreate
  deriving DecidableEq

/-- The body of an update. A total and its alias are absent, null or a number each. -/
structure ShiftReportUpdate where
  siteLocationId : Option (Option Id)
  projectId : Option Id
  rigId : Option Id
  programId : Option Id
  date : Option Day
  shiftType : Option ShiftType
  supervisorId : Option Id
  notes : Option String
  correctionReason : Option String
  totalMetres : Option (Option ℚ)
  totalMetresDrilled : Option (Option ℚ)
  avgCoreRecoveryPct : Option (Option ℚ)
  coreRecoveryPct : Option (Option ℚ)
  totalProductiveHours : Option (Option ℚ)
  productiveHours : Option (Option ℚ)
  totalNonproductiveHours : Option (Option ℚ)
  intervals : Option (List IntervalCreate)
  timeSegments : Option (List TimeSegmentCreate)
  crewMembers : Option (List CrewCreate)
  deriving DecidableEq

/-- `populate_date_alias` for one total: its alias counts when the total itself is absent. -/
def populated (field other : Option (Option ℚ)) : Option ℚ := (field.or other).join

def ShiftReportUpdate.metres (payload : ShiftReportUpdate) : Option ℚ :=
  populated payload.totalMetres payload.totalMetresDrilled

def ShiftReportUpdate.recoveryPct (payload : ShiftReportUpdate) : Option ℚ :=
  populated payload.avgCoreRecoveryPct payload.coreRecoveryPct

def ShiftReportUpdate.productive (payload : ShiftReportUpdate) : Option ℚ :=
  populated payload.totalProductiveHours payload.productiveHours

def ShiftReportUpdate.nonproductive (payload : ShiftReportUpdate) : Option ℚ :=
  payload.totalNonproductiveHours.join

/-- The payload without core recovery and crew. -/
def ShiftReportCreate.plain (payload : ShiftReportCreate) : Drilling.ShiftReportCreate where
  siteLocationId := payload.siteLocationId
  projectId := payload.projectId
  rigId := payload.rigId
  date := payload.date
  shiftType := payload.shiftType
  status := payload.status
  notes := payload.notes
  intervals := payload.intervals.map (·.toIntervalCreate)
  timeSegments := payload.timeSegments

def ShiftReportUpdate.plain (payload : ShiftReportUpdate) : Drilling.ShiftReportUpdate where
  siteLocationId := payload.siteLocationId
  projectId := payload.projectId
  rigId := payload.rigId
  date := payload.date
  shiftType := payload.shiftType
  notes := payload.notes
  correctionReason := payload.correctionReason
  totalMetres := payload.metres
  totalProductiveHours := payload.productive
  totalNonproductiveHours := payload.nonproductive
  intervals := payload.intervals.map (·.map (·.toIntervalCreate))
  timeSegments := payload.timeSegments

/-! ## Reports in memory -/

/-- An interval with the core it recovered. -/
structure MeasuredInterval extends WorkingInterval where
  coreRecoveredM : Option ℚ

/-- An interval in memory. -/
structure DraftInterval extends MeasuredInterval where
  drilledMetres : ℚ
  coreRecoveryPct : Option ℚ

structure DraftCrew where
  employeeId : Id
  hoursWorked : ℚ

/-- A report in memory. What the header has of totals, intervals and segments is what was
stored. -/
structure Draft where
  header : Drilling.DrillingShiftReport
  programId : Option Id
  supervisorId : Option Id
  totalMetres : ℚ
  totalProductiveHours : ℚ
  totalNonproductiveHours : ℚ
  avgCoreRecoveryPct : Option ℚ
  intervals : List DraftInterval
  timeSegments : List WorkingSegment
  crewMembers : List DraftCrew

section Memory

variable (ctx : Context 28 12)

def IntervalCreate.measured (iv : IntervalCreate) : MeasuredInterval :=
  ⟨iv.toIntervalCreate.working, iv.coreRecoveredM.map (·.1)⟩

def DrillingShiftInterval.measured (iv : DrillingShiftInterval) : MeasuredInterval :=
  ⟨iv.toDrillingShiftInterval.working, iv.coreRecoveredM.map (·.1)⟩

def DrillingShiftInterval.draft (iv : DrillingShiftInterval) : DraftInterval :=
  ⟨iv.measured, iv.drilledMetres.1, iv.coreRecoveryPct.map (·.1)⟩

def CrewCreate.draft (cm : CrewCreate) : DraftCrew := ⟨cm.employeeId, cm.hoursWorked.1⟩

def DrillingShiftCrew.draft (cm : DrillingShiftCrew) : DraftCrew :=
  ⟨cm.employeeId, cm.hoursWorked.1⟩

/-- The report that a locked row is loaded to. -/
def DrillingShiftReport.draft (report : DrillingShiftReport) : Draft where
  header := report.toDrillingShiftReport
  programId := report.programId
  supervisorId := report.supervisorId
  totalMetres := report.totalMetres.1
  totalProductiveHours := report.totalProductiveHours.1
  totalNonproductiveHours := report.totalNonproductiveHours.1
  avgCoreRecoveryPct := report.avgCoreRecoveryPct.map (·.1)
  intervals := report.cored.map (·.draft)
  timeSegments := report.timeSegments.map (·.working)
  crewMembers := report.crewMembers.map (·.draft)

/-- The recovered metres of an interval that was drilled. -/
def MeasuredInterval.recovered (iv : MeasuredInterval) : Option ℚ :=
  iv.coreRecoveredM.filter fun _ => 0 < iv.drilled ctx

def percentage (recovered drilled : ℚ) : ℚ := ctx.mul (ctx.div recovered drilled) 100

/-- The recovery of an interval before it is rounded. -/
def MeasuredInterval.recovery (iv : MeasuredInterval) : Option ℚ :=
  (iv.recovered ctx).map (percentage ctx · (iv.drilled ctx))

/-- The recovery over all intervals that say what was recovered, before it is rounded. -/
def averageRecovery (ivs : List MeasuredInterval) : Option ℚ :=
  let cored := ivs.filter fun iv => (iv.recovered ctx).isSome
  let drilled := total ctx (cored.map (·.drilled ctx))
  if 0 < drilled then
    some (percentage ctx (total ctx (cored.filterMap (·.recovered ctx))) drilled)
  else none

/-- `round(pct, 2)`; no result may have more than 28 digits. -/
def roundPct : Option ℚ → Outcome (Option ℚ)
  | none => .ok none
  | some pct => do
    ensure (|quantize 2 pct| < 10 ^ 26) .invalidOperation
    .ok (some (quantize 2 pct))

/-- An interval of a correction. -/
def replaceInterval (iv : IntervalCreate) : Outcome DraftInterval := do
  let coreRecoveryPct ← roundPct (iv.measured.recovery ctx)
  .ok ⟨iv.measured, iv.measured.drilled ctx, coreRecoveryPct⟩

/-- An interval of a creation. -/
def createInterval (iv : IntervalCreate) : Outcome DraftInterval := do
  ensure (0 ≤ iv.measured.drilled ctx)
    (.drilling (.value "to_depth_m cannot be less than from_depth_m."))
  replaceInterval ctx iv

def recalculateInterval (iv : DraftInterval) : Outcome DraftInterval := do
  ensure (0 ≤ iv.drilled ctx) (.drilling (.depths iv.fromDepthM iv.toDepthM))
  let coreRecoveryPct ← roundPct (iv.recovery ctx)
  .ok { iv with drilledMetres := iv.drilled ctx, coreRecoveryPct }

/-- `recalculate_shift_totals`. -/
def recalculateShiftTotals (report : Draft) : Outcome Draft := do
  let intervals ← report.intervals.mapM (recalculateInterval ctx)
  let avgCoreRecoveryPct ← roundPct (averageRecovery ctx (report.intervals.map (·.toMeasuredInterval)))
  .ok { report with
    intervals
    totalMetres := total ctx (report.intervals.map (·.drilled ctx))
    totalProductiveHours :=
      total ctx ((report.timeSegments.filter (·.category = .productive)).map (·.hours))
    totalNonproductiveHours :=
      total ctx ((report.timeSegments.filter (·.category ≠ .productive)).map (·.hours))
    avgCoreRecoveryPct }

end Memory

/-! ## The flush -/

def column (p s : ℕ) (x : ℚ) : Outcome (Column p s) :=
  orError (Column.store p s x) (.drilling .data)

def optionalColumn (p s : ℕ) : Option ℚ → Outcome (Option (Column p s))
  | none => .ok none
  | some x => do .ok (some (← column p s x))

theorem depths_ordered {start stop drilled : Column 18 2} (h : start.1 ≤ stop.1 ∧ 0 ≤ drilled.1) :
    start.1 ≤ stop.1 := h.1

theorem metres_nonneg {start stop drilled : Column 18 2} (h : start.1 ≤ stop.1 ∧ 0 ≤ drilled.1) :
    0 ≤ drilled.1 := h.2

def DraftInterval.flush (iv : DraftInterval) : Outcome DrillingShiftInterval := do
  let fromDepthM ← column 18 2 iv.fromDepthM
  let toDepthM ← column 18 2 iv.toDepthM
  let drilledMetres ← column 18 2 iv.drilledMetres
  let coreRecoveredM ← optionalColumn 18 2 iv.coreRecoveredM
  let coreRecoveryPct ← optionalColumn 5 2 iv.coreRecoveryPct
  if h : fromDepthM.1 ≤ toDepthM.1 ∧ 0 ≤ drilledMetres.1 then
    .ok ⟨⟨iv.drillHoleId, fromDepthM, toDepthM, drilledMetres, iv.drillingMethod,
      depths_ordered h, metres_nonneg h⟩, coreRecoveredM, coreRecoveryPct⟩
  else .error (.drilling (.integrity "ck_interval_depth"))

def DraftCrew.flush (refs : References) (cm : DraftCrew) : Outcome DrillingShiftCrew := do
  let hoursWorked ← column 18 2 cm.hoursWorked
  ensure (refs.employees cm.employeeId)
    (.drilling (.integrity "drilling_shift_crews_employee_id_fkey"))
  .ok ⟨cm.employeeId, hoursWorked⟩

def flushSegment (ts : WorkingSegment) : Outcome DrillingShiftTimeSegment := do
  let hours ← column 18 2 ts.hours
  .ok ⟨ts.category, hours⟩

/-- The foreign keys of a report. -/
def checkKeys (refs : References) (report : Draft) : Outcome Unit := do
  ensure (refs.projects report.header.projectId)
    (.drilling (.integrity "drilling_shift_reports_project_id_fkey"))
  ensure (refs.assets report.header.rigId)
    (.drilling (.integrity "drilling_shift_reports_rig_id_fkey"))
  ensure (report.programId.all refs.programs)
    (.drilling (.integrity "drilling_shift_reports_program_id_fkey"))
  ensure (report.supervisorId.all refs.employees)
    (.drilling (.integrity "drilling_shift_reports_supervisor_id_fkey"))

/-- The rows that a report and its parts are written to: the report, then the parts. -/
def Draft.flush (refs : References) (db : Database) (report : Draft) :
    Outcome DrillingShiftReport := do
  let totalMetres ← column 18 2 report.totalMetres
  let totalProductiveHours ← column 18 2 report.totalProductiveHours
  let totalNonproductiveHours ← column 18 2 report.totalNonproductiveHours
  let avgCoreRecoveryPct ← optionalColumn 5 2 report.avgCoreRecoveryPct
  (checkUnique db.plain report.header).mapError .drilling
  checkKeys refs report
  let cored ← report.intervals.mapM (·.flush)
  let timeSegments ← report.timeSegments.mapM flushSegment
  let crewMembers ← report.crewMembers.mapM (·.flush refs)
  if hours : ∀ ts ∈ timeSegments, 0 ≤ ts.hours.1 then
    .ok {
      toDrillingShiftReport := { report.header with
        totalMetres, totalProductiveHours, totalNonproductiveHours, timeSegments
        intervals := cored.map (·.toDrillingShiftInterval) }
      programId := report.programId
      supervisorId := report.supervisorId
      avgCoreRecoveryPct, cored, crewMembers
      matched := rfl
      hours_nonneg := hours }
  else .error (.drilling (.integrity "ck_time_segment_hours"))

/-! ## The service functions -/

def newDraft (env : Env) (payload : ShiftReportCreate) (actorId : Option Id)
    (intervals : List DraftInterval) : Draft where
  header := newReport env payload.plain actorId
  programId := payload.programId
  supervisorId := payload.supervisorId
  totalMetres := 0
  totalProductiveHours := 0
  totalNonproductiveHours := 0
  avgCoreRecoveryPct := none
  intervals := intervals
  timeSegments := payload.timeSegments.map (·.working)
  crewMembers := payload.crewMembers.map (·.draft)

/-- What a creation checks before it builds the report. -/
def checkCreate (refs : Drilling.References) (db : Drilling.Database)
    (payload : Drilling.ShiftReportCreate) (actorId : Option Id) : Drilling.Outcome Unit := do
  checkReporter refs payload.projectId actorId
  validateSiteIntervals refs db payload.projectId payload.siteLocationId
    (payload.intervals.map fun iv => (iv.drillHoleId, iv.toDepthM.1)) none
  let rig ← orError (refs.rigs payload.rigId)
    (.value ("Rig asset " ++ toString payload.rigId ++ " not found."))
  ensure (∀ r ∈ db.reports.rows, ¬ (r.rigId = payload.rigId ∧ r.date = payload.date ∧
      r.shiftType = payload.shiftType)) (.value
    ("A shift report for rig '" ++ rig ++ "', date " ++ toString payload.date ++ ", and " ++
      payload.shiftType.text ++ " shift already exists."))

def createShiftReport (ctx : Context 28 12) (refs : References) (env : Env) (db : Database)
    (payload : ShiftReportCreate) (actorId : Option Id) : Outcome Database := do
  (checkCreate refs.toReferences db.plain payload.plain actorId).mapError .drilling
  let intervals ← payload.intervals.mapM (createInterval ctx)
  let report ← recalculateShiftTotals ctx (newDraft env payload actorId intervals)
  let row ← report.flush refs db
  let reports ← orError (db.reports.insert? row)
    (.drilling (.integrity "drilling_shift_reports_pkey"))
  .ok { db with reports }

/-- What an update checks before it changes the report. -/
def checkUpdate (refs : Drilling.References) (db : Drilling.Database) (shiftId : Id)
    (payload : Drilling.ShiftReportUpdate) (report : Drilling.DrillingShiftReport) :
    Drilling.Outcome Unit := do
  ensure (¬ (report.status = .approved ∧ ¬ given payload.correctionReason)) (.value
    "Audited corrections to an APPROVED shift report require a correction_reason.")
  validateSiteIntervals refs db (payload.projectId.getD report.projectId)
    (payload.siteLocationId.getD report.siteLocationId)
    (payload.intervals.elim (report.intervals.map fun iv => (iv.drillHoleId, iv.toDepthM.1))
      (·.map fun iv => (iv.drillHoleId, iv.toDepthM.1))) (some shiftId)

/-- Segments and crew that are given replace those there are. -/
def replaceOthers (payload : ShiftReportUpdate) (report : Draft) : Draft :=
  { report with
    header := setFields payload.plain report.header
    programId := payload.programId.or report.programId
    supervisorId := payload.supervisorId.or report.supervisorId
    timeSegments := payload.timeSegments.elim report.timeSegments (·.map (·.working))
    crewMembers := payload.crewMembers.elim report.crewMembers (·.map (·.draft)) }

/-- Totals of the payload come last. -/
def setTotals (payload : ShiftReportUpdate) (report : Draft) : Draft :=
  { report with
    totalMetres := payload.metres.getD report.totalMetres
    avgCoreRecoveryPct := payload.recoveryPct.or report.avgCoreRecoveryPct
    totalProductiveHours := payload.productive.getD report.totalProductiveHours
    totalNonproductiveHours := payload.nonproductive.getD report.totalNonproductiveHours }

def replaceIntervals (ctx : Context 28 12) (payload : ShiftReportUpdate)
    (intervals : List DraftInterval) : Outcome (List DraftInterval) :=
  match payload.intervals with
  | none => .ok intervals
  | some ivs => ivs.mapM (replaceInterval ctx)

def recalculateIfGiven (ctx : Context 28 12) (payload : ShiftReportUpdate) (report : Draft) :
    Outcome Draft :=
  if payload.intervals = none ∧ payload.timeSegments = none then .ok report
  else recalculateShiftTotals ctx report

def updateShiftReport (ctx : Context 28 12) (refs : References) (db : Database) (shiftId : Id)
    (payload : ShiftReportUpdate) : Outcome Database := do
  let old ← orError (db.reports.find? shiftId)
    (.drilling (.value ("Shift Report " ++ toString shiftId ++ " not found.")))
  (checkUpdate refs.toReferences db.plain shiftId payload.plain
    old.toDrillingShiftReport).mapError .drilling
  let intervals ← replaceIntervals ctx payload old.draft.intervals
  let report ← recalculateIfGiven ctx payload { replaceOthers payload old.draft with intervals }
  let row ← (setTotals payload report).flush refs db
  .ok { db with reports := db.reports.set row }

inductive Request
  | create (payload : ShiftReportCreate) (actorId : Option Id)
  | update (shiftId : Id) (payload : ShiftReportUpdate)
  deriving DecidableEq

def exec (ctx : Context 28 12) (refs : References) (env : Env) (db : Database) :
    Request → Outcome Database
  | .create payload actorId => createShiftReport ctx refs env db payload actorId
  | .update shiftId payload => updateShiftReport ctx refs db shiftId payload

end Cestos.Drilling.Cored
