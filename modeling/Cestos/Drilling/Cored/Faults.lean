import Cestos.Drilling.Cored.Totals

/-!
# How a report fails to be stored

The tests that a creation and an update make, in their order, read off the payload and the stored
report. What is wrong with the request raises a `ValueError`; the others are numbers that are too
large for Python's decimals or for their columns, and rows that the keys of the database refuse.
-/

namespace Cestos.Drilling.Cored

open Cestos.Core Cestos.Core.Decimal

inductive Fault
  | value
  | number
  | key
  deriving DecidableEq

def ShiftError.fault : ShiftError → Fault
  | .drilling (.value _) | .drilling (.depths _ _) => .value
  | .drilling .data | .invalidOperation => .number
  | .drilling (.integrity _) => .key

/-- The column keeps the number: it is more than half a unit of the last decimal below the bound. -/
def columnTest (p s : ℕ) (x : ℚ) : Option Fault :=
  testOf (|x| < 10 ^ (p - s) - 1 / (2 * 10 ^ s)) .number

/-- `round(pct, 2)` has at most 28 digits. -/
def roundTest (pct : Option ℚ) : Option Fault :=
  pct.bind fun x => testOf (|x| < 10 ^ 26 - 1 / (2 * 10 ^ 2)) .number

/-- What a report is to be written with before it is rounded; `intervals` are those that are
recalculated. -/
structure Written where
  header : Drilling.DrillingShiftReport
  programId : Option Id
  supervisorId : Option Id
  metres : ℚ
  productive : ℚ
  nonproductive : ℚ
  recovery : Option ℚ
  intervals : List MeasuredInterval
  crew : List Id

section Tests

variable (ctx : Context 28 12) (refs : References) (db : Database)

def signTest (iv : MeasuredInterval) : Option Fault := testOf (0 ≤ iv.drilled ctx) .value

/-- The tests of an interval before anything is written. -/
def percentTests (iv : MeasuredInterval) : List (Option Fault) :=
  [signTest ctx iv, roundTest (iv.recovery ctx)]

def recalculationTests (ivs : List MeasuredInterval) : List (Option Fault) :=
  ivs.flatMap (percentTests ctx) ++ [roundTest (averageRecovery ctx ivs)]

def intervalTests (iv : MeasuredInterval) : List (Option Fault) :=
  [columnTest 18 2 iv.fromDepthM, columnTest 18 2 iv.toDepthM, columnTest 18 2 (iv.drilled ctx),
    iv.coreRecoveredM.bind (columnTest 18 2), (iv.recovery ctx).bind (columnTest 5 2)]

def totalTests (w : Written) : List (Option Fault) :=
  [columnTest 18 2 w.metres, columnTest 18 2 w.productive, columnTest 18 2 w.nonproductive,
    w.recovery.bind (columnTest 5 2)]

/-- No other report has the rig, date and shift, and what the report refers to exists. -/
def keyTests (w : Written) : List (Option Fault) :=
  [testOf (checkUnique db.plain w.header).isOk .key, testOf (refs.projects w.header.projectId) .key,
    testOf (refs.assets w.header.rigId) .key, testOf (w.programId.all refs.programs) .key,
    testOf (w.supervisorId.all refs.employees) .key]

def storageTests (w : Written) : List (Option Fault) :=
  totalTests w ++ (keyTests refs db w ++ (w.intervals.flatMap (intervalTests ctx) ++
    w.crew.map fun employeeId => testOf (refs.employees employeeId) .key))

/-! ## Creation -/

def createWritten (env : Env) (payload : ShiftReportCreate) (actorId : Option Id) : Written where
  header := newReport env payload.plain actorId
  programId := payload.programId
  supervisorId := payload.supervisorId
  metres := total ctx (payload.intervals.map (·.measured.drilled ctx))
  productive := hoursOf ctx (payload.timeSegments.map (·.working)) (· = .productive)
  nonproductive := hoursOf ctx (payload.timeSegments.map (·.working)) (· ≠ .productive)
  recovery := averageRecovery ctx (payload.intervals.map (·.measured))
  intervals := payload.intervals.map (·.measured)
  crew := payload.crewMembers.map (·.employeeId)

def createTests (env : Env) (payload : ShiftReportCreate) (actorId : Option Id) :
    List (Option Fault) :=
  testOf (checkCreate refs.toReferences db.plain payload.plain actorId).isOk .value ::
    (payload.intervals.flatMap (fun iv => percentTests ctx iv.measured) ++
      (recalculationTests ctx (payload.intervals.map (·.measured)) ++
        (storageTests ctx refs db (createWritten ctx env payload actorId) ++
          [testOf (env.uuid ∉ db.reports.rows.map reportId) .key])))

/-! ## Correction -/

def ShiftReportUpdate.Recalculates (payload : ShiftReportUpdate) : Prop :=
  ¬ (payload.intervals = none ∧ payload.timeSegments = none)

instance : DecidablePred ShiftReportUpdate.Recalculates :=
  fun _ => inferInstanceAs (Decidable (¬ (_ ∧ _)))

def updateIntervals (payload : ShiftReportUpdate) (old : DrillingShiftReport) :
    List MeasuredInterval :=
  payload.intervals.elim (old.cored.map (·.measured)) (·.map (·.measured))

def updateSegments (payload : ShiftReportUpdate) (old : DrillingShiftReport) :
    List WorkingSegment :=
  payload.timeSegments.elim (old.timeSegments.map (·.working)) (·.map (·.working))

/-- The totals that the payload does not give are recalculated, or stay what they are. -/
def updateWritten (payload : ShiftReportUpdate) (old : DrillingShiftReport) : Written where
  header := setFields payload.plain old.toDrillingShiftReport
  programId := payload.programId.or old.programId
  supervisorId := payload.supervisorId.or old.supervisorId
  metres := payload.metres.getD (if payload.Recalculates then
    total ctx ((updateIntervals payload old).map (·.drilled ctx)) else old.totalMetres.1)
  productive := payload.productive.getD (if payload.Recalculates then
    hoursOf ctx (updateSegments payload old) (· = .productive) else old.totalProductiveHours.1)
  nonproductive := payload.nonproductive.getD (if payload.Recalculates then
    hoursOf ctx (updateSegments payload old) (· ≠ .productive) else old.totalNonproductiveHours.1)
  recovery := payload.recoveryPct.or (if payload.Recalculates then
    averageRecovery ctx (updateIntervals payload old) else old.avgCoreRecoveryPct.map (·.1))
  intervals := if payload.Recalculates then updateIntervals payload old else []
  crew := payload.crewMembers.elim (old.crewMembers.map (·.employeeId)) (·.map (·.employeeId))

def updateTests (shiftId : Id) (payload : ShiftReportUpdate) (old : DrillingShiftReport) :
    List (Option Fault) :=
  testOf (checkUpdate refs.toReferences db.plain shiftId payload.plain
      old.toDrillingShiftReport).isOk .value ::
    ((payload.intervals.getD []).map (fun iv => roundTest (iv.measured.recovery ctx)) ++
      ((if payload.Recalculates then recalculationTests ctx (updateIntervals payload old) else []) ++
        storageTests ctx refs db (updateWritten ctx payload old)))

/-- The tests of a request. -/
def Request.tests (env : Env) : Request → List (Option Fault)
  | .create payload actorId => createTests ctx refs db env payload actorId
  | .update shiftId payload => match db.reports.find? shiftId with
    | none => [some .value]
    | some old => updateTests ctx refs db shiftId payload old

end Tests

/-! ## What the checks raise -/

section Raises

variable {kind : Fault}

/-- A computation all of whose errors are of one kind. -/
def Raises (kind : Fault) {α : Type} (x : Drilling.Outcome α) : Prop :=
  ∀ e, x = .error e → ShiftError.fault (.drilling e) = kind

variable {α β : Type} {x : Drilling.Outcome α}

theorem raises_ok {a : α} : Raises kind (.ok a) := fun _ h => nomatch h

theorem raises_ensure {p : Prop} [Decidable p] {e : DrillingError}
    (h : ShiftError.fault (.drilling e) = kind) : Raises kind (ensure p e) := by
  intro e' he
  obtain ⟨-, rfl⟩ := ensure_eq_error.1 he
  exact h

theorem raises_orError {x : Option α} {e : DrillingError}
    (h : ShiftError.fault (.drilling e) = kind) : Raises kind (orError x e) := by
  intro e' he
  obtain ⟨-, rfl⟩ := orError_eq_error.1 he
  exact h

theorem Raises.bind {f : α → Drilling.Outcome β} (h : Raises kind x)
    (hf : ∀ a, Raises kind (f a)) : Raises kind (x >>= f) := by
  intro e he
  rcases bind_eq_error.1 he with hx | ⟨a, -, hfa⟩
  · exact h e hx
  · exact hf a e hfa

theorem Raises.mapM {f : α → Drilling.Outcome β} (h : ∀ a, Raises kind (f a)) (l : List α) :
    Raises kind (l.mapM f) := by
  intro e he
  obtain ⟨a, -, ha⟩ := error_of_mapM he
  exact h a e ha

theorem Raises.faultOf {x : Drilling.Outcome Unit} (h : Raises kind x) :
    faultOf ShiftError.fault (x.mapError .drilling) = testOf x.isOk kind := by
  cases x with
  | ok a => rfl
  | error e => exact congrArg some (h e rfl)

theorem raises_requireSite {lookup : Drilling.References} {projectId : Id} {site : Option Id} :
    Raises .value (requireSite lookup projectId site) := by
  cases site with
  | none => exact raises_ok
  | some site => exact raises_ensure rfl

theorem raises_validateSiteIntervals {lookup : Drilling.References} {tables : Drilling.Database}
    {projectId : Id} {site : Option Id} {intervals : List (Id × ℚ)} {shiftId : Option Id} :
    Raises .value (validateSiteIntervals lookup tables projectId site intervals shiftId) := by
  refine raises_requireSite.bind fun _ => (Raises.mapM (fun _ => ?_) intervals).bind fun _ => raises_ok
  refine (raises_orError rfl).bind fun _ => (raises_ensure rfl).bind fun _ => raises_ensure rfl

theorem raises_checkReporter {lookup : Drilling.References} {projectId : Id} {actorId : Option Id} :
    Raises .value (checkReporter lookup projectId actorId) := by
  unfold checkReporter
  split
  · exact raises_ok
  · split
    · exact raises_ok
    · exact (raises_ensure rfl).bind fun _ => (raises_orError rfl).bind fun _ => raises_ensure rfl

theorem raises_checkCreate {lookup : Drilling.References} {tables : Drilling.Database}
    {payload : Drilling.ShiftReportCreate} {actorId : Option Id} :
    Raises .value (checkCreate lookup tables payload actorId) :=
  raises_checkReporter.bind fun _ => raises_validateSiteIntervals.bind fun _ =>
    (raises_orError rfl).bind fun _ => raises_ensure rfl

theorem raises_checkUpdate {lookup : Drilling.References} {tables : Drilling.Database}
    {shiftId : Id} {payload : Drilling.ShiftReportUpdate} {report : Drilling.DrillingShiftReport} :
    Raises .value (checkUpdate lookup tables shiftId payload report) :=
  (raises_ensure rfl).bind fun _ => raises_validateSiteIntervals

theorem raises_checkUnique {tables : Drilling.Database} {report : Drilling.DrillingShiftReport} :
    Raises .key (checkUnique tables report) := raises_ensure rfl

end Raises

end Cestos.Drilling.Cored
