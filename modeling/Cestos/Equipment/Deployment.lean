import Cestos.Equipment.Assets

/-!
# Assignments of equipment

Equipment is assigned to a project, at once or later, returned, and transferred to another project.
An assignment that becomes active silently completes the one that is active. All these requests, like
those that archive, retire or restore an asset, run while they hold the row of the asset.
-/

namespace Cestos.Equipment

open Cestos.Core

structure AssetAssignmentCreate where
  projectId : Id
  locationId : Option Id := none
  responsibleEmployeeId : Option Id := none
  primaryOperatorId : Option Id := none
  assignedAt : Instant
  expectedReturnAt : Option Instant := none
  startingMeter : Option MeterValue := none
  status : AssignmentStatus := .active

/-- The identifiers that a new assignment and its reading are given. -/
structure Generated where
  assignmentId : Id
  readingId : Id

/-- The fields that are given; a value of `none` is an explicit null. -/
structure AssetAssignmentUpdate where
  locationId : Option (Option Id) := none
  responsibleEmployeeId : Option (Option Id) := none
  primaryOperatorId : Option (Option Id) := none
  expectedReturnAt : Option (Option Instant) := none
  returnedAt : Option (Option Instant) := none
  endingMeter : Option (Option MeterValue) := none
  status : Option (Option AssignmentStatus) := none

/-! ## New assignments -/

def AssetAssignmentCreate.fields (body : AssetAssignmentCreate) : Fields where
  projectId := some body.projectId
  locationId := body.locationId
  responsibleEmployeeId := body.responsibleEmployeeId
  primaryOperatorId := body.primaryOperatorId
  assignedAt := some body.assignedAt
  expectedReturnAt := body.expectedReturnAt

def AssetAssignmentCreate.row (body : AssetAssignmentCreate) (id : Id) : AssetAssignment where
  id := id
  projectId := body.projectId
  locationId := body.locationId
  responsibleEmployeeId := body.responsibleEmployeeId
  primaryOperatorId := body.primaryOperatorId
  assignedAt := body.assignedAt
  expectedReturnAt := body.expectedReturnAt
  returnedAt := none
  startingMeter := body.startingMeter
  endingMeter := none
  status := body.status

def AssetAssignment.closed (row : AssetAssignment) (returnedAt : Instant) : AssetAssignment :=
  { row with status := .completed, returnedAt := some returnedAt }

/-- The active assignment is completed, unless it is the one. -/
def AssetFile.closeActive (file : AssetFile) (self : Option Id) (returnedAt : Instant) : AssetFile :=
  match file.activeAssignment.filter fun row => some row.id ≠ self with
  | none => file
  | some row => { file with assignments := file.assignments.set (row.closed returnedAt) }

def AssetFile.insertAssignment (file : AssetFile) (row : AssetAssignment) : Option AssetFile :=
  (file.assignments.insert? row).map fun assignments => { file with assignments := assignments }

/-- What happens to the asset when an assignment becomes active. -/
def AssetFile.start (call : Call) (readingId : Id) (startingMeter : Option MeterValue)
    (assignedAt : Instant) (file : AssetFile) : Except AppError AssetFile :=
  match startingMeter with
  | none => .ok (file.setStatus .assigned)
  | some value =>
    (file.setStatus .assigned).assignmentMeter call readingId value assignedAt "ASSIGNMENT"

/-- `_assign`. -/
def AssetFile.assign (call : Call) (seen : Seen) (ids : Generated) (body : AssetAssignmentCreate)
    (file : AssetFile) : Except AppError AssetFile := do
  call.env.validateFields body.fields
  ensure (body.status = .active ∨ body.status = .planned)
    (.validation "New assignments must be active or planned")
  call.env.openProject body.projectId
  file.asset.checkEligible call.env seen file.activeAssignment
  let closed := if body.status = .active then file.closeActive none body.assignedAt else file
  ensure (∀ value ∈ body.startingMeter, ∀ current ∈ file.asset.currentMeterReading, current ≤ value)
    (.validation "Starting meter cannot decrease")
  let inserted ← orError (closed.insertAssignment (body.row ids.assignmentId)) .internal
  let flushed ← inserted.flush call.env .internal
  if body.status = .active then
    flushed.start call ids.readingId body.startingMeter body.assignedAt
  else .ok flushed

/-! ## Changes of assignments -/

/-- The end of an assignment that is completed, if it is not given. -/
def AssetAssignmentUpdate.withReturn (data : AssetAssignmentUpdate) (now : Instant) :
    AssetAssignmentUpdate :=
  if data.status = some (some .completed) then
    { data with returnedAt := some (data.returnedAt.getD (some now)) }
  else data

/-- The status after the update, if it is not an explicit null. -/
def AssetAssignmentUpdate.newStatus (data : AssetAssignmentUpdate) (row : AssetAssignment) :
    Option AssignmentStatus := column data.status row.status

/-- The assignment with the fields that are given, except for the status. -/
def AssetAssignmentUpdate.merged (data : AssetAssignmentUpdate) (row : AssetAssignment) :
    AssetAssignment :=
  { row with
    locationId := data.locationId.getD row.locationId
    responsibleEmployeeId := data.responsibleEmployeeId.getD row.responsibleEmployeeId
    primaryOperatorId := data.primaryOperatorId.getD row.primaryOperatorId
    expectedReturnAt := data.expectedReturnAt.getD row.expectedReturnAt
    returnedAt := data.returnedAt.getD row.returnedAt
    endingMeter := data.endingMeter.getD row.endingMeter }

def AssetAssignment.fields (row : AssetAssignment) : Fields where
  projectId := some row.projectId
  locationId := row.locationId
  responsibleEmployeeId := row.responsibleEmployeeId
  primaryOperatorId := row.primaryOperatorId
  assignedAt := some row.assignedAt
  expectedReturnAt := row.expectedReturnAt
  returnedAt := row.returnedAt

/-- If the assignment is active after the update: one that was not becomes so. -/
def AssetFile.activate (call : Call) (seen : Seen) (readingId : Id) (row merged : AssetAssignment)
    (newStatus : AssignmentStatus) (data : AssetAssignmentUpdate) (file : AssetFile) :
    Except AppError AssetFile :=
  if newStatus ≠ .active then .ok file
  else if row.status = .active then do
    call.env.openProject merged.projectId
    ensure (data.locationId = none)
      (.conflict "Use transfer to change an active assignment's project or location")
    .ok file
  else do
    let flushed ← (file.closeActive (some row.id) call.now).flush call.env .internal
    call.env.openProject merged.projectId
    flushed.asset.checkEligible call.env seen flushed.activeAssignment
    flushed.start call readingId merged.startingMeter merged.assignedAt

/-- The statuses that the end of an assignment changes. -/
def AssetStatus.deployed : AssetStatus → Bool
  | .assigned | .operating | .mobilizing | .standby => true
  | _ => false

/-- What happens to the asset when an assignment that was active is completed or cancelled. -/
def AssetFile.stop (call : Call) (readingId : Id) (row : AssetAssignment) (file : AssetFile) :
    Except AppError AssetFile :=
  let freed := if file.asset.status.deployed = true then file.setStatus .available else file
  match row.endingMeter.filter fun _ => row.status = .completed with
  | none => .ok freed
  | some value =>
    freed.assignmentMeter call readingId value (row.returnedAt.getD call.now) "RETURN"

/-- `_finish_or_update`. -/
def AssetFile.finishOrUpdate (call : Call) (seen : Seen) (readingId : Id) (row : AssetAssignment)
    (data : AssetAssignmentUpdate) (file : AssetFile) : Except AppError AssetFile := do
  ensure (row.status ≠ .completed ∧ row.status ≠ .cancelled)
    (.conflict "Completed or cancelled assignment history cannot be rewritten")
  let data := data.withReturn call.now
  let merged := data.merged row
  call.env.validateFields merged.fields
  ensure (∀ last ∈ merged.endingMeter, ∀ first ∈ merged.startingMeter, first ≤ last)
    (.validation "Ending meter cannot precede starting meter")
  let newStatus ← orError (data.newStatus row) conflicting
  let activated ← file.activate call seen readingId row merged newStatus data
  let written := { merged with status := newStatus }
  let updated := { activated with assignments := activated.assignments.set written }
  if row.status = .active ∧ (newStatus = .completed ∨ newStatus = .cancelled) then
    updated.stop call readingId written
  else .ok updated

/-- `update_assignment`, once it holds the asset. -/
def AssetFile.updateAssignment (call : Call) (seen : Seen) (readingId assignmentId : Id)
    (data : AssetAssignmentUpdate) (file : AssetFile) : Except AppError AssetFile := do
  let row ← orError (file.assignments.find? assignmentId) missing
  let updated ← file.finishOrUpdate call seen readingId row data
  updated.flush call.env conflicting

structure AssetTransfer extends AssetAssignmentCreate where
  endingMeter : Option MeterValue := none

/-- What the transfer writes of the assignment that it completes. -/
def AssetTransfer.completion (body : AssetTransfer) : AssetAssignmentUpdate where
  status := some (some .completed)
  returnedAt := some (some body.assignedAt)
  endingMeter := some body.endingMeter

/-- The new assignment starts at the ending meter, if nothing else is given. -/
def AssetTransfer.creation (body : AssetTransfer) : AssetAssignmentCreate :=
  { body.toAssetAssignmentCreate with startingMeter := body.startingMeter.or body.endingMeter }

/-- `transfer`, with the identifier of the reading at the return. -/
def AssetFile.transfer (call : Call) (seen : Seen) (ids : Generated) (returnId : Id)
    (body : AssetTransfer) (file : AssetFile) : Except AppError AssetFile := do
  let current ← orError file.activeAssignment (.conflict "No active assignment to transfer")
  ensure (body.status = .active) (.validation "Transfer must create an active assignment")
  ensure (∀ first ∈ body.startingMeter, ∀ last ∈ body.endingMeter, last ≤ first)
    (.validation "New starting meter cannot precede the return meter")
  let returned ← file.finishOrUpdate call seen returnId current body.completion
  let flushed ← returned.flush call.env .internal
  flushed.assign call seen ids body.creation

/-! ## Archiving -/

/-- `archive`. -/
def AssetFile.archive (call : Call) (file : AssetFile) : Except AppError AssetFile := do
  ensure (file.asset.isActive = true) (.conflict "Asset is already archived")
  ensure (file.activeAssignment = none)
    (.conflict "Complete the active assignment before archiving")
  .ok { file with asset := { file.asset with isActive := false, archivedAt := some call.now } }

/-- `retire_asset`, given whether there is an open maintenance job. -/
def AssetFile.retire (call : Call) (openJob : Bool) (file : AssetFile) :
    Except AppError AssetFile := do
  ensure (call.mayChangeStatus = true) (.forbidden "Required permission is missing")
  if file.asset.isActive = false then .ok file
  else do
    ensure (file.activeAssignment = none)
      (.conflict "Complete the active project assignment before retiring this asset")
    ensure (openJob = false)
      (.conflict "Complete or cancel open maintenance before retiring this asset")
    .ok { file with asset := { file.asset with
      status := if file.asset.status = .disposed then .disposed else .outOfService
      isActive := false
      archivedAt := some call.now } }

/-- `restore`. -/
def AssetFile.restore (file : AssetFile) : AssetFile :=
  { file with asset := { file.asset with isActive := true, archivedAt := none } }

/-- `validate_transition`. -/
def Asset.validateTransition (asset : Asset) (mayOverride : Bool) (new : AssetStatus) :
    Except AppError Unit := do
  ensure (asset.status = .disposed → new = .disposed)
    (.conflict "Disposed equipment cannot return to operation")
  ensure (asset.status ∈ [.outOfService, .quarantined, .lost, .stolen] →
      new ∈ [.operating, .available, .assigned] → mayOverride = true)
    (.forbidden "Required permission is missing")

/-- `change_status`, given whether the actor may override it. -/
def AssetFile.changeStatus (mayOverride : Bool) (new : AssetStatus) (file : AssetFile) :
    Except AppError AssetFile := do
  file.asset.validateTransition mayOverride new
  .ok (file.setStatus new)

/-! ## Requests -/

/-- The requests that hold the row of an asset. -/
inductive AssetRequest
  | createAssignment (ids : Generated) (body : AssetAssignmentCreate)
  | updateAssignment (assignmentId readingId : Id) (data : AssetAssignmentUpdate)
  | transfer (ids : Generated) (returnId : Id) (body : AssetTransfer)
  | archive
  | retire (openJob : Bool)
  | restore
  | changeStatus (mayOverride : Bool) (new : AssetStatus)
  | recordMeterReading (readingId : Id) (body : AssetMeterReadingCreate)
  | resetMeter (readingId : Id) (body : MeterReset)
  | updateMeterReading (readingId : Id) (data : MeterReadingUpdate)

/-- What a request makes of the rows of its asset, unless it raises. -/
def AssetFile.run (call : Call) (seen : Seen) (file : AssetFile) :
    AssetRequest → Except AppError AssetFile
  | .createAssignment ids body => file.assign call seen ids body
  | .updateAssignment assignmentId readingId data =>
    file.updateAssignment call seen readingId assignmentId data
  | .transfer ids returnId body => file.transfer call seen ids returnId body
  | .archive => file.archive call
  | .retire openJob => file.retire call openJob
  | .restore => .ok file.restore
  | .changeStatus mayOverride new => file.changeStatus mayOverride new
  | .recordMeterReading readingId body => file.meter call readingId body false
  | .resetMeter readingId body => file.resetMeter call readingId body
  | .updateMeterReading readingId data => file.updateMeterReading call readingId data

end Cestos.Equipment
