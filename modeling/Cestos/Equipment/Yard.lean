import Cestos.Core.Locking
import Cestos.Equipment.Deployment

/-!
# Requests about assets side by side

A request locks its asset, looks for open critical defects and for the latest inspection, and
commits. New defects and inspections lock the asset too; one that is edited is locked itself, the
asset is not.
-/

namespace Cestos.Equipment

open Cestos.Core

inductive DefectSeverity
  | low | medium | high | critical
  deriving DecidableEq

inductive DefectStatus
  | opened | acknowledged | resolved | cancelled
  deriving DecidableEq

structure AssetDefect where
  id : Id
  organizationId : Id
  assetId : Id
  severity : DefectSeverity
  status : DefectStatus

structure AssetInspection where
  id : Id
  organizationId : Id
  assetId : Id
  inspectionDate : Instant
  conditionStatus : String

structure Yard where
  files : Table fun file : AssetFile => file.asset.id
  defects : Table AssetDefect.id
  inspections : Table AssetInspection.id

/-- A request about an asset, or about an assignment of it. -/
structure FleetRequest where
  actor : Actor
  assetId : Id
  call : Call
  request : AssetRequest

/-- A defect or an inspection is added, or edited. The fields that are given are not null. -/
inductive RecordRequest
  | reportDefect (defect : AssetDefect)
  | inspect (inspection : AssetInspection)
  | updateDefect (id : Id) (severity : Option DefectSeverity) (status : Option DefectStatus)
  | resolveDefect (id : Id)
  | updateInspection (id : Id) (inspectionDate : Option Instant) (conditionStatus : Option String)

/-! ## What is read and written -/

/-- The asset that a request is about, with its rows. -/
def Yard.file? (db : Yard) (r : FleetRequest) : Option AssetFile :=
  (match r.request with
    | .updateAssignment id _ _ => db.files.rows.find? fun file : AssetFile =>
      (file.assignments.find? id).isSome
    | _ => db.files.find? r.assetId).filter (·.asset.organizationId = r.actor.organizationId)

def AssetDefect.Stops (row : AssetDefect) (asset : Asset) : Prop :=
  row.organizationId = asset.organizationId ∧ row.assetId = asset.id ∧
    (row.status = .opened ∨ row.status = .acknowledged) ∧ row.severity = .critical

instance (asset : Asset) : DecidablePred (AssetDefect.Stops · asset) :=
  fun _ => inferInstanceAs (Decidable (_ ∧ _ ∧ (_ ∨ _) ∧ _))

/-- Whether there is an open critical defect. -/
def Yard.critical (db : Yard) (asset : Asset) : Bool := db.defects.rows.any fun row => row.Stops asset

/-- The condition at the latest inspection. -/
def Yard.latest (q : LatestQuery AssetInspection.inspectionDate) (db : Yard) (asset : Asset) :
    Option String :=
  (q.run (db.inspections.rows.filter fun row =>
    row.organizationId = asset.organizationId ∧ row.assetId = asset.id)).map (·.conditionStatus)

/-- A defect whose history is not rewritten. -/
def DefectStatus.final : DefectStatus → Bool
  | .resolved | .cancelled => true
  | _ => false

/-- What is checked of the row that is edited. -/
def Yard.checkRecord (db : Yard) : RecordRequest → Except AppError Unit
  | .reportDefect defect => ensure ((db.files.find? defect.assetId).isSome = true) missing
  | .inspect inspection => ensure ((db.files.find? inspection.assetId).isSome = true) missing
  | .updateDefect id _ _ => do
    let row ← orError (db.defects.find? id) missing
    ensure (row.status.final = false) (.conflict "Resolved defect history cannot be rewritten")
  | .resolveDefect id => do
    let row ← orError (db.defects.find? id) missing
    ensure (row.status ≠ .resolved) (.conflict "Defect is already resolved")
  | .updateInspection id _ _ => do
    let _ ← orError (db.inspections.find? id) missing
    .ok ()

def Yard.insertDefect (db : Yard) (row : AssetDefect) : Option Yard :=
  (db.defects.insert? row).map fun defects => { db with defects := defects }

def Yard.insertInspection (db : Yard) (row : AssetInspection) : Option Yard :=
  (db.inspections.insert? row).map fun inspections => { db with inspections := inspections }

def AssetDefect.edited (row : AssetDefect) (severity : Option DefectSeverity)
    (status : Option DefectStatus) : AssetDefect :=
  { row with severity := severity.getD row.severity, status := status.getD row.status }

def AssetInspection.edited (row : AssetInspection) (inspectionDate : Option Instant)
    (conditionStatus : Option String) : AssetInspection :=
  { row with
    inspectionDate := inspectionDate.getD row.inspectionDate
    conditionStatus := conditionStatus.getD row.conditionStatus }

/-- What is committed, unless an insert fails. -/
def Yard.commitRecord (db : Yard) : RecordRequest → Option Yard
  | .reportDefect defect => db.insertDefect defect
  | .inspect inspection => db.insertInspection inspection
  | .updateDefect id severity status => do
    let row ← db.defects.find? id
    some { db with defects := db.defects.set (row.edited severity status) }
  | .resolveDefect id => do
    let row ← db.defects.find? id
    some { db with defects := db.defects.set (row.edited none (some .resolved)) }
  | .updateInspection id inspectionDate conditionStatus => do
    let row ← db.inspections.find? id
    some { db with inspections :=
      db.inspections.set (row.edited inspectionDate conditionStatus) }

/-! ## Statements -/

/-- A row that is locked. -/
inductive YardLock
  | asset (id : Id)
  | defect (id : Id)
  | inspection (id : Id)
  deriving DecidableEq

inductive YardTask
  | request (r : FleetRequest)
  /-- The asset is locked. -/
  | seekingDefect (r : FleetRequest) (file : AssetFile)
  | seekingInspection (r : FleetRequest) (file : AssetFile) (critical : Bool)
  | committing (r : FleetRequest) (file : AssetFile) (seen : Seen)
  | record (r : RecordRequest)
  /-- The asset is locked, or the row that is edited. -/
  | recording (r : RecordRequest)

/-- A request under way and the rows that it has locked. -/
structure YardTransaction where
  held : List YardLock
  task : YardTask

def RecordRequest.row : RecordRequest → YardLock
  | .reportDefect defect => .asset defect.assetId
  | .inspect inspection => .asset inspection.assetId
  | .updateDefect id _ _ => .defect id
  | .resolveDefect id => .defect id
  | .updateInspection id _ _ => .inspection id

/-- The row that the next statement locks. -/
def YardTransaction.wants (db : Yard) (t : YardTransaction) : List YardLock :=
  match t.task with
  | .request r => (db.file? r).toList.map (.asset ·.asset.id)
  | .record r => [r.row]
  | _ => []

/-- The request goes on with what it has locked, unless it raises. -/
def YardTransaction.proceed (db : Yard) (t : YardTransaction) (next : Except AppError YardTask) :
    Yard × Option YardTransaction :=
  match next with
  | .ok task => (db, some ⟨t.wants db ++ t.held, task⟩)
  | .error _ => (db, none)

section Serving

variable (q : LatestQuery AssetInspection.inspectionDate)

/-- The statements of the requests. One that does not look for defects and inspections commits what
it would without them. -/
def YardTransaction.step (_others : List YardTransaction) (db : Yard) (t : YardTransaction) :
    Yard × Option YardTransaction :=
  match t.task with
  | .request r => t.proceed db (do
      let file ← orError (db.file? r) missing
      .ok (.seekingDefect r file))
  | .seekingDefect r file => t.proceed db (.ok (.seekingInspection r file (db.critical file.asset)))
  | .seekingInspection r file critical =>
    t.proceed db (.ok (.committing r file ⟨critical, db.latest q file.asset⟩))
  | .committing r file seen =>
    match file.run r.call seen r.request with
    | .ok file => ({ db with files := db.files.set file }, none)
    | .error _ => (db, none)
  | .record r => t.proceed db (do
      db.checkRecord r
      .ok (.recording r))
  | .recording r => ((db.commitRecord r).getD db, none)

/-- A statement waits for those who have locked its row. -/
def yardServing : Statement Yard YardTransaction :=
  locking YardTransaction.held (fun db t => t.wants db) (YardTransaction.step q)

end Serving

/-- Whether a request begins. -/
def YardTask.isRequest : YardTask → Bool
  | .request _ | .record _ => true
  | _ => false

def YardTransaction.IsRequest (t : YardTransaction) : Prop := t.held = [] ∧ t.task.isRequest = true

instance : DecidablePred YardTransaction.IsRequest :=
  fun t => inferInstanceAs (Decidable (t.held = [] ∧ t.task.isRequest = true))

/-- The assets, with the requests under way, that some interleaving leads to whose statements meet
`admits`; at first there are no assignments. -/
abbrev YardRequests (q : LatestQuery AssetInspection.inspectionDate)
    (admits : List YardTransaction → Yard → YardTransaction → Prop) :
    Sessions Yard YardTransaction → Prop :=
  Sessions.Interleaved YardTransaction.IsRequest (yardServing q) admits
    fun db => ∀ file ∈ db.files.rows, file.assignments.rows = []

end Cestos.Equipment
