import Mathlib.Data.Prod.Lex
import Cestos.Core.Latest
import Cestos.Core.Outcome
import Cestos.Equipment.Parents

/-!
# Assets

An asset with its assignments and its meter readings, which are of its organization, and what tells
whether it may be deployed. A datetime of a request without a time zone is refused, so there are
instants only; values of a meter are in hundredths, and a finer one is refused.
-/

namespace Cestos.Equipment

open Cestos.Core

abbrev Instant := Nat

abbrev MeterValue := Nat

inductive AssetStatus
  | available | assigned | operating | mobilizing | standby | underMaintenance | breakdown
  | outOfService | disposed | demobilizing | quarantined | lost | stolen
  deriving DecidableEq

def AssetStatus.value : AssetStatus → String
  | .available => "AVAILABLE"
  | .assigned => "ASSIGNED"
  | .operating => "OPERATING"
  | .mobilizing => "MOBILIZING"
  | .standby => "STANDBY"
  | .underMaintenance => "UNDER_MAINTENANCE"
  | .breakdown => "BREAKDOWN"
  | .outOfService => "OUT_OF_SERVICE"
  | .disposed => "DISPOSED"
  | .demobilizing => "DEMOBILIZING"
  | .quarantined => "QUARANTINED"
  | .lost => "LOST"
  | .stolen => "STOLEN"

inductive ReadingType
  | engineHours | operatingHours | odometerKm | odometerMiles | cycles
  deriving DecidableEq

inductive MeterType
  | engineHours | operatingHours | odometerKm | odometerMiles | cycles | none
  deriving DecidableEq

/-- `ReadingType(meter_type.value)`. -/
def MeterType.readingType : MeterType → Option ReadingType
  | .engineHours => some .engineHours
  | .operatingHours => some .operatingHours
  | .odometerKm => some .odometerKm
  | .odometerMiles => some .odometerMiles
  | .cycles => some .cycles
  | .none => Option.none

structure Asset where
  id : Id
  organizationId : Id
  categoryId : Id
  status : AssetStatus
  isActive : Bool
  archivedAt : Option Instant
  primaryOperatorId : Option Id
  meterType : MeterType
  currentMeterReading : Option MeterValue

inductive AssignmentStatus
  | planned | active | completed | cancelled
  deriving DecidableEq

structure AssetAssignment where
  id : Id
  projectId : Id
  locationId : Option Id
  responsibleEmployeeId : Option Id
  primaryOperatorId : Option Id
  assignedAt : Instant
  expectedReturnAt : Option Instant
  returnedAt : Option Instant
  startingMeter : Option MeterValue
  endingMeter : Option MeterValue
  status : AssignmentStatus

structure AssetMeterReading where
  id : Id
  reading : MeterValue
  recordedAt : Instant
  readingType : ReadingType
  source : Option String
  projectId : Option Id
  locationId : Option Id
  notes : Option String
  isAdjustment : Bool
  adjustmentReason : Option String
  previousReading : Option MeterValue
  meterReplaced : Bool
  /-- When the transaction began. -/
  createdAt : Instant

/-- An asset with the rows that are about it. -/
structure AssetFile where
  asset : Asset
  assignments : Table AssetAssignment.id
  readings : Table AssetMeterReading.id

/-! ## What is looked up -/

structure Project where
  isActive : Bool
  status : String

structure Location where
  projectId : Option Id

/-- What a request finds in other tables, of the organization of its actor, and the text functions
of Python. -/
structure Surroundings where
  project : Id → Option Project
  location : Id → Option Location
  employee : Id → Bool
  category : Id → Option AssetCategory
  /-- Whether the insurance of the asset is active today. -/
  insured : Bool
  /-- Whether the registration of the asset is active today. -/
  registered : Bool
  /-- Whether the table of assignments has the checks that its model declares: no migration adds
  them. -/
  checked : Bool
  strip : String → String

/-- The fields that `validate_fields` looks at. -/
structure Fields where
  projectId : Option Id := none
  locationId : Option Id := none
  responsibleEmployeeId : Option Id := none
  primaryOperatorId : Option Id := none
  assignedAt : Option Instant := none
  expectedReturnAt : Option Instant := none
  returnedAt : Option Instant := none

def Surroundings.validateFields (env : Surroundings) (data : Fields) : Except AppError Unit := do
  ensure (∀ id ∈ data.projectId, (env.project id).isSome = true) missing
  ensure (∀ id ∈ data.locationId, (env.location id).isSome = true) missing
  ensure (∀ id ∈ data.responsibleEmployeeId, env.employee id = true) missing
  ensure (∀ id ∈ data.primaryOperatorId, env.employee id = true) missing
  ensure (∀ first ∈ data.assignedAt, ∀ last ∈ data.expectedReturnAt, first ≤ last)
    (.validation "expected_return_at cannot precede assigned_at")
  ensure (∀ first ∈ data.assignedAt, ∀ last ∈ data.returnedAt, first ≤ last)
    (.validation "returned_at cannot precede assigned_at")
  ensure (∀ id ∈ data.locationId, ∀ projectId ∈ data.projectId, ∀ location ∈ env.location id,
      ∀ owner ∈ location.projectId, owner = projectId)
    (.validation "Location does not belong to the selected project")

/-- A project that equipment may be assigned to. -/
def Surroundings.openProject (env : Surroundings) (id : Id) : Except AppError Unit := do
  let project ← orError (env.project id) missing
  ensure (project.isActive = true ∧ project.status ∉ ["CLOSED", "COMPLETED", "CANCELLED"])
    (.conflict "Cannot assign to a closed project")

/-! ## Eligibility -/

/-- What the queries for an open critical defect and for the latest inspection have returned. -/
structure Seen where
  critical : Bool
  latest : Option String

inductive OperationalEligibility
  | eligible | warning | notEligible
  deriving DecidableEq

structure Eligibility where
  operationalEligibility : OperationalEligibility
  reasons : List String
  isDeployable : Bool
  operationalAvailability : String

/-- The statuses in which equipment is not operated. -/
def AssetStatus.stopped : AssetStatus → Bool
  | .disposed | .underMaintenance | .breakdown | .outOfService | .quarantined | .lost | .stolen =>
    true
  | _ => false

def Seen.unfit (seen : Seen) : Bool :=
  seen.latest.any fun condition => condition ∈ ["UNSAFE", "OUT_OF_SERVICE"]

def Asset.reasons (asset : Asset) (seen : Seen) : List String :=
  (if asset.isActive = false ∨ asset.archivedAt.isSome = true then ["Asset is archived or inactive"]
    else []) ++
  (if asset.status.stopped = true then ["Operational status: " ++ asset.status.value] else []) ++
  (if seen.critical = true then ["Open critical defect"] else []) ++
  (if seen.unfit = true then ["Latest inspection marked equipment unsafe"] else [])

def Asset.warnings (asset : Asset) (env : Surroundings) (category : AssetCategory)
    (active : Option AssetAssignment) : List String :=
  (if category.requiresInsurance = true ∧ env.insured = false then
    ["Insurance is missing or expired"] else []) ++
  (if category.requiresRegistration = true ∧ env.registered = false then
    ["Registration is missing or expired"] else []) ++
  (if category.requiresOperator = true ∧
      ((active.bind (·.primaryOperatorId)).or asset.primaryOperatorId) = none then
    ["Primary operator is not recorded"] else [])

def Asset.eligibility (asset : Asset) (env : Surroundings) (seen : Seen)
    (active : Option AssetAssignment) : Except AppError Eligibility := do
  let category ← orError (env.category asset.categoryId) missing
  let reasons := asset.reasons seen
  let warnings := asset.warnings env category active
  .ok {
    operationalEligibility := if reasons ≠ [] then .notEligible
      else if warnings ≠ [] then .warning else .eligible
    reasons := reasons ++ warnings
    isDeployable := reasons = [] ∧ active.isNone ∧ asset.status ∈ [.available, .standby]
    operationalAvailability := if reasons ≠ [] then "UNAVAILABLE"
      else if active.isSome then "ASSIGNED" else asset.status.value }

/-- The check before equipment is assigned. -/
def Asset.checkEligible (asset : Asset) (env : Surroundings) (seen : Seen)
    (active : Option AssetAssignment) : Except AppError Unit := do
  let eligibility ← asset.eligibility env seen active
  ensure (eligibility.operationalEligibility ≠ .notEligible)
    (.conflict ("Asset is not eligible: " ++ String.intercalate "; " eligibility.reasons))

/-! ## What the tables refuse -/

def conflicting : AppError :=
  .conflict "Record conflicts with existing data or required constraints"

/-- `asset_assignment_dates` and `asset_assignment_meters`. -/
def AssetAssignment.Permitted (row : AssetAssignment) : Prop :=
  (∀ returnedAt ∈ row.returnedAt, row.assignedAt ≤ returnedAt) ∧
    ∀ first ∈ row.startingMeter, ∀ last ∈ row.endingMeter, first ≤ last

/-- The constraints of the assignments: one is active at most. -/
def AssetFile.Permitted (env : Surroundings) (file : AssetFile) : Prop :=
  (env.checked = true → ∀ row ∈ file.assignments.rows, row.Permitted) ∧
    ∀ row ∈ file.assignments.rows, ∀ other ∈ file.assignments.rows, row.status = .active →
      other.status = .active → row.id = other.id

instance : DecidablePred AssetAssignment.Permitted :=
  fun row => inferInstanceAs (Decidable ((∀ returnedAt ∈ row.returnedAt, _) ∧
    ∀ first ∈ row.startingMeter, ∀ last ∈ row.endingMeter, _))

instance (env : Surroundings) : DecidablePred (AssetFile.Permitted env) :=
  fun file => inferInstanceAs (Decidable ((_ → ∀ row ∈ file.assignments.rows, row.Permitted) ∧
    ∀ row ∈ file.assignments.rows, ∀ other ∈ file.assignments.rows, _ → _ → _))

/-- The rows that were changed are written. -/
def AssetFile.flush (env : Surroundings) (file : AssetFile) (error : AppError) :
    Except AppError AssetFile := do
  ensure (file.Permitted env) error
  .ok file

theorem AssetFile.flush_eq_ok {env : Surroundings} {file file' : AssetFile} {error : AppError} :
    file.flush env error = .ok file' ↔ file.Permitted env ∧ file = file' := by
  simp [AssetFile.flush, ensure_bind_eq_ok]

def AssetFile.activeAssignment (file : AssetFile) : Option AssetAssignment :=
  file.assignments.rows.find? fun row => row.status = .active

/-- `status_event`. -/
def AssetFile.setStatus (file : AssetFile) (status : AssetStatus) : AssetFile :=
  { file with asset := { file.asset with status := status } }

/-!
## Meters

Meters are read on their own, or when an assignment starts or ends, or are reset. A reading is
compared with the latest one of its type. It can also be edited later.
-/

/-- The order of the query for the latest reading. -/
def AssetMeterReading.key (row : AssetMeterReading) : Instant ×ₗ Instant :=
  toLex (row.recordedAt, row.createdAt)

/-- What a request comes with: when its transaction began, when it runs, what it finds, and which
of the latest readings it is returned. -/
structure Call where
  begun : Instant
  now : Instant
  env : Surroundings
  mayOverride : Bool
  mayChangeStatus : Bool
  previous : LatestQuery AssetMeterReading.key

structure AssetMeterReadingCreate where
  reading : MeterValue
  recordedAt : Instant
  readingType : ReadingType
  source : Option String := none
  projectId : Option Id := none
  locationId : Option Id := none
  notes : Option String := none
  isCorrection : Bool := false
  isAdjustment : Bool := false
  adjustmentReason : Option String := none

/-- The readings of a type. -/
def AssetFile.readingsOf (file : AssetFile) (type : ReadingType) : List AssetMeterReading :=
  file.readings.rows.filter fun row => row.readingType = type

def AssetMeterReadingCreate.adjusts (body : AssetMeterReadingCreate) : Bool :=
  body.isAdjustment || body.isCorrection

/-- The reason that is given, or the notes. -/
def AssetMeterReadingCreate.reason (body : AssetMeterReadingCreate) : Option String :=
  (body.adjustmentReason.filter (· ≠ "")).or body.notes

def AssetMeterReadingCreate.row (body : AssetMeterReadingCreate) (call : Call) (id : Id)
    (previous : Option AssetMeterReading) (meterReplaced : Bool) : AssetMeterReading where
  id := id
  reading := body.reading
  recordedAt := body.recordedAt
  readingType := body.readingType
  source := body.source
  projectId := body.projectId
  locationId := body.locationId
  notes := body.notes
  isAdjustment := body.adjusts
  adjustmentReason := if body.adjusts then body.reason else none
  previousReading := previous.map (·.reading)
  meterReplaced := meterReplaced
  createdAt := call.begun

/-- A reading is written, and shown by the asset if it is of the type of its meter. -/
def AssetFile.insertReading (file : AssetFile) (row : AssetMeterReading) : Option AssetFile :=
  (file.readings.insert? row).map fun readings => { file with
    readings := readings
    asset := { file.asset with
      currentMeterReading := if file.asset.meterType.readingType = some row.readingType then
        some row.reading else file.asset.currentMeterReading } }

def noMeter : AppError := .validation "Asset has no meter"

/-- What is checked of an adjustment. -/
def checkAdjustment (call : Call) (body : AssetMeterReadingCreate) : Except AppError Unit :=
  if body.adjusts then do
    ensure (call.mayOverride = true) (.forbidden "Required permission is missing")
    ensure (∃ reason ∈ body.reason, reason ≠ "" ∧ call.env.strip reason ≠ "")
      (.validation "Meter adjustments require a reason")
  else .ok ()

/-- The comparison with the latest reading. -/
def checkPrevious (body : AssetMeterReadingCreate) (previous : Option AssetMeterReading) :
    Except AppError Unit := do
  ensure (∀ row ∈ previous, row.recordedAt ≤ body.recordedAt)
    (.validation "Readings must follow the latest reading of this type")
  ensure (∀ row ∈ previous, row.reading ≤ body.reading ∨ body.adjusts = true)
    (.validation "Meter reading cannot decrease without an authorized adjustment")

/-- `_meter`, with the identifier that is generated. A reset writes that the meter was replaced. -/
def AssetFile.meter (call : Call) (id : Id) (body : AssetMeterReadingCreate) (meterReplaced : Bool)
    (file : AssetFile) : Except AppError AssetFile := do
  call.env.validateFields { projectId := body.projectId, locationId := body.locationId }
  ensure (file.asset.meterType ≠ .none) noMeter
  let previous := call.previous.run (file.readingsOf body.readingType)
  checkAdjustment call body
  checkPrevious body previous
  orError (file.insertReading (body.row call id previous meterReplaced)) .internal

/-- `assignment_meter`. -/
def AssetFile.assignmentMeter (call : Call) (id : Id) (value : MeterValue) (recordedAt : Instant)
    (source : String) (file : AssetFile) : Except AppError AssetFile := do
  let readingType ← orError file.asset.meterType.readingType noMeter
  file.meter call id
    { reading := value, recordedAt := recordedAt, readingType := readingType,
      source := some source } false

/-! ### Recording, resetting and editing -/

structure MeterReset where
  oldReading : MeterValue
  newReading : MeterValue
  reason : String
  meterReplaced : Bool
  recordedAt : Instant

/-- `reset_meter`. -/
def AssetFile.resetMeter (call : Call) (id : Id) (body : MeterReset) (file : AssetFile) :
    Except AppError AssetFile := do
  ensure (call.mayOverride = true) (.forbidden "Required permission is missing")
  ensure (file.asset.currentMeterReading = some body.oldReading)
    (.conflict "Old reading does not match the current meter")
  let readingType ← orError file.asset.meterType.readingType noMeter
  file.meter call id
    { reading := body.newReading, recordedAt := body.recordedAt, readingType := readingType,
      isAdjustment := true, adjustmentReason := some body.reason, source := some "SERVICE" }
    body.meterReplaced

/-- The fields that are given; a value of `none` is an explicit null. -/
structure MeterReadingUpdate where
  reading : Option (Option MeterValue) := none
  recordedAt : Option (Option Instant) := none
  readingType : Option (Option String) := none
  source : Option (Option String) := none
  projectId : Option (Option Id) := none
  locationId : Option (Option Id) := none
  notes : Option (Option String) := none
  isAdjustment : Option (Option Bool) := none
  adjustmentReason : Option (Option String) := none

/-- The reading with the fields that are given. The types that the schema of the request admits are
none of those of the column. -/
def MeterReadingUpdate.apply (data : MeterReadingUpdate) (row : AssetMeterReading) :
    Except AppError AssetMeterReading := do
  ensure (data.readingType.join = none) .internal
  ensure (data.readingType = none) conflicting
  let reading ← orError (column data.reading row.reading) conflicting
  let recordedAt ← orError (column data.recordedAt row.recordedAt) conflicting
  let isAdjustment ← orError (column data.isAdjustment row.isAdjustment) conflicting
  .ok { row with
    reading := reading
    recordedAt := recordedAt
    isAdjustment := isAdjustment
    source := data.source.getD row.source
    projectId := data.projectId.getD row.projectId
    locationId := data.locationId.getD row.locationId
    notes := data.notes.getD row.notes
    adjustmentReason := data.adjustmentReason.getD row.adjustmentReason }

/-- `writable_asset`. -/
def Asset.checkWritable (asset : Asset) : Except AppError Unit :=
  ensure (asset.isActive = true ∧ asset.status ≠ .disposed)
    (.conflict "This asset is retired or archived")

/-- `update_meter_reading`. -/
def AssetFile.updateMeterReading (call : Call) (id : Id) (data : MeterReadingUpdate)
    (file : AssetFile) : Except AppError AssetFile := do
  file.asset.checkWritable
  let row ← orError (file.readings.find? id) missing
  ensure (∀ projectId ∈ data.projectId.join, (call.env.project projectId).isSome = true) missing
  ensure (∀ locationId ∈ data.locationId.join, (call.env.location locationId).isSome = true) missing
  let row ← data.apply row
  .ok { file with readings := file.readings.set row }

end Cestos.Equipment
