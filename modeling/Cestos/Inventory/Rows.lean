import Cestos.Core.Table
import Cestos.Core.Decimal.Context

/-!
# Rows of the inventory tables

The rows that posting reads or writes, for one organization. Identifiers stand
for uuids, an `Instant` is a `timestamptz`, a `Day` a date. Columns that no
posting function looks at (names, notes, business numbers, audit columns) are
left out.
-/

namespace Cestos.Inventory

open Cestos.Core Cestos.Core.Decimal

abbrev Id := Nat

/-- Seconds. -/
abbrev Instant := Nat

abbrev Day := Nat

/-- The detail of an exception that ends a request. -/
inductive ServiceError
  | notFound (detail : String)
  | validation (detail : String)
  | conflict (detail : String)
  /-- A constraint of the database refused a row. -/
  | integrity (constraint : String)
  /-- A number has more digits than its column. -/
  | overflow
  /-- An attribute that the row does not have was read. -/
  | attribute (name : String)
  deriving DecidableEq, Repr

abbrev Outcome := Except ServiceError

/-! ## Enumerations -/

inductive DocumentKind
  | receipts | issues | returns | transfers | requests | adjustments | stockCounts
  deriving DecidableEq, Repr

inductive DocumentStatus
  | draft | pendingApproval | submitted | approved | inProgress | inTransit | posted | received
  | rejected | cancelled | partiallyIssued | fulfilled
  deriving DecidableEq, Repr

inductive Action
  | post | dispatch | receive | approve | cancel | submit | start | restart | reject
  deriving DecidableEq, Repr

inductive Purpose
  | other | openingBalance | purchaseReceipt | otherReceipt | projectConsumption
  | assetConsumption | maintenance | employeeUse | ppe | tools | officeUse | campUse
  | positiveAdjustment | negativeAdjustment | damage | loss | writeOff | quarantine
  | releaseFromQuarantine
  deriving DecidableEq, Repr

inductive Condition
  | good | usedServiceable | damaged | defective | quarantine | scrap
  deriving DecidableEq, Repr

inductive TransactionType
  | openingBalance | purchaseReceipt | otherReceipt | issue | returnFromEmployee
  | transferOut | transferIn | stockCountAdjustment
  | positiveAdjustment | negativeAdjustment | damage | loss | writeOff | quarantine
  | releaseFromQuarantine | reservation | reservationRelease | reversal
  deriving DecidableEq, Repr

inductive TrackingMethod
  | quantity | batch | serialized
  deriving DecidableEq, Repr

/-- `ACTIVE` is the only status the service writes. -/
inductive LotStatus
  | active | unavailable
  deriving DecidableEq, Repr

inductive SerialStatus
  | inStock | reserved | issued | installed | inTransit | quarantined | scrapped | cancelled
  deriving DecidableEq, Repr

inductive ReservationStatus
  | active | fulfilled | released | expired | cancelled
  deriving DecidableEq, Repr

inductive CustodyStatus
  | issued | returned
  deriving DecidableEq, Repr

inductive ProjectStatus
  | planning | mobilizing | active | paused | completed | closed | cancelled
  deriving DecidableEq, Repr

/-! ## Master data -/

structure UnitOfMeasure where
  isActive : Bool
  precision : Fin 5
  deriving DecidableEq, Repr

structure UnitConversion where
  conversionFactor : ℚ
  isActive : Bool

structure InventoryBin where
  storeId : Id
  isActive : Bool
  deriving DecidableEq, Repr

structure Project where
  status : ProjectStatus
  isActive : Bool
  deriving DecidableEq, Repr

structure Item where
  id : Id
  isActive : Bool
  baseUnitId : Id
  trackingMethod : TrackingMethod
  requiresBatchTracking : Bool
  requiresSerialTracking : Bool
  requiresExpiryTracking : Bool
  requiresApprovalToIssue : Bool
  isReturnable : Bool
  standardUnitCost : Option ℚ
  defaultCurrency : String

/-- Every unit of the item has a serial number of its own. -/
def Item.serialized (item : Item) : Bool :=
  item.requiresSerialTracking || item.trackingMethod = .serialized

/-- The stock of the item is kept by lot. -/
def Item.batched (item : Item) : Bool :=
  item.requiresBatchTracking || item.requiresExpiryTracking || item.trackingMethod = .batch

structure Lot where
  id : Id
  itemId : Id
  lotNumber : Option String
  manufactureDate : Option Day
  expiryDate : Option Day
  status : LotStatus

structure Serial where
  id : Id
  itemId : Id
  serialNumber : Option String
  lotId : Option Id
  currentStoreId : Option Id
  currentBinId : Option Id
  status : SerialStatus
  assignedAssetId : Option Id
  deriving DecidableEq, Repr

/-! ## Operational documents -/

/-- A number as a column of four decimals keeps it. -/
abbrev Quantity := { x : ℚ // OnGrid 4 x }

structure Document where
  id : Id
  kind : DocumentKind
  status : DocumentStatus
  purpose : Purpose
  condition : Condition
  storeId : Option Id
  fromStoreId : Option Id
  toStoreId : Option Id
  supplierId : Option Id
  projectId : Option Id
  assetId : Option Id
  employeeId : Option Id
  originalIssueId : Option Id
  requestId : Option Id
  reservationId : Option Id
  approvedById : Option Id
  reason : Option String
  transactionDate : Instant

structure Line where
  id : Id
  documentId : Id
  itemId : Id
  unitId : Id
  quantity : ℚ
  normalizedQuantity : ℚ
  binId : Option Id
  fromBinId : Option Id
  toBinId : Option Id
  lotId : Option Id
  serialId : Option Id
  lotNumber : Option String
  serialNumber : Option String
  expiryDate : Option Day
  manufactureDate : Option Day
  unitCost : Option ℚ
  totalCost : Option ℚ
  systemQuantity : Option ℚ
  countedQuantity : Option Quantity
  quantityApproved : Option ℚ
  quantityIssued : ℚ

structure Reservation where
  id : Id
  itemId : Id
  storeId : Id
  binId : Option Id
  lotId : Option Id
  serialId : Option Id
  projectId : Option Id
  assetId : Option Id
  quantity : ℚ
  fulfilledQuantity : ℚ
  expiresAt : Option Instant
  status : ReservationStatus

structure Custody where
  id : Id
  itemId : Id
  serialId : Option Id
  employeeId : Option Id
  projectId : Option Id
  assetId : Option Id
  issueId : Id
  quantity : ℚ
  returnedQuantity : ℚ
  conditionAtReturn : Option Condition
  status : CustodyStatus

/-! ## The ledger -/

inductive BucketField
  | quantityOnHand | quantityReserved | quantityQuarantined | quantityInTransit
  | inventoryValue | transitValue
  deriving DecidableEq, Repr

/-- `BUCKET_FIELDS`. -/
def bucketFields : List BucketField :=
  [.quantityOnHand, .quantityReserved, .quantityQuarantined, .quantityInTransit,
    .inventoryValue, .transitValue]

theorem mem_bucketFields (f : BucketField) : f ∈ bucketFields := by
  cases f <;> decide

/-- `VALUE_SCALE` for the value columns, `SCALE` for the others. -/
def BucketField.scale : BucketField → ℕ
  | .inventoryValue | .transitValue => 8
  | _ => 4

/-- The digits of the column: `NUMERIC(24, 8)` or `NUMERIC(18, 4)`. -/
def BucketField.digits : BucketField → ℕ
  | .inventoryValue | .transitValue => 24
  | _ => 18

/-- A number for each column of a bucket. -/
abbrev BucketFields := BucketField → ℚ

/-- The keyword arguments of `effect`; a column that is not named stays zero. -/
structure Changes where
  quantityOnHand : ℚ := 0
  quantityReserved : ℚ := 0
  quantityQuarantined : ℚ := 0
  quantityInTransit : ℚ := 0
  inventoryValue : ℚ := 0
  transitValue : ℚ := 0

def Changes.fields (c : Changes) : BucketFields
  | .quantityOnHand => c.quantityOnHand
  | .quantityReserved => c.quantityReserved
  | .quantityQuarantined => c.quantityQuarantined
  | .quantityInTransit => c.quantityInTransit
  | .inventoryValue => c.inventoryValue
  | .transitValue => c.transitValue

/-- The key of a balance: an item in a store, bin and lot. -/
structure Bucket where
  itemId : Id
  storeId : Id
  binId : Option Id
  lotId : Option Id
  deriving DecidableEq, Repr

/-- A signed effect, as `effect` hands it to the database. -/
structure LedgerEntry where
  transactionId : Id
  bucket : Bucket
  changes : BucketFields

/-- What the columns of the ledger row keep. -/
def LedgerEntry.stored (e : LedgerEntry) : BucketFields :=
  fun f => numeric f.scale (e.changes f)

/-- Unique over all transactions. -/
inductive PostingKey
  | line (document line : Id) (kind : TransactionType)
  | reversal (transaction : Id)
  deriving DecidableEq, Repr

structure Transaction where
  id : Id
  postingKey : PostingKey
  type : TransactionType
  itemId : Id
  quantity : ℚ
  unitId : Id
  fromStoreId : Option Id
  toStoreId : Option Id
  fromBinId : Option Id
  toBinId : Option Id
  lotId : Option Id
  serialId : Option Id
  projectId : Option Id
  assetId : Option Id
  employeeId : Option Id
  supplierId : Option Id
  referenceId : Id
  reversalOfId : Option Id
  /-- As the `NUMERIC(18, 8)` column keeps it. -/
  unitCost : ℚ
  totalCost : ℚ
  currency : String
  transactionDate : Instant
  /-- The start of the database transaction that inserted the row. -/
  createdAt : Instant

end Cestos.Inventory
