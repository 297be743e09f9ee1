import Cestos.Core.Outcome
import Cestos.Core.Table
import Cestos.Core.Decimal.Column

/-!
# Rows of the drilling tables

Shift reports with their intervals and time segments, drill holes, project contracts with
their rate cards, and the revenue subledger, for one organization. Columns that no modelled
function looks at are left out.
-/

namespace Cestos.Drilling

open Cestos.Core Cestos.Core.Decimal

abbrev Id := Nat

abbrev Instant := Nat

abbrev Day := Nat

/-- What ends a request. -/
inductive DrillingError
  | value (detail : String)
  /-- `to_depth_m` is less than `from_depth_m`. -/
  | depths (fromDepth toDepth : ℚ)
  | integrity (constraint : String)
  /-- A number or a text is too long for its column. -/
  | data
  deriving DecidableEq

abbrev Outcome := Except DrillingError

inductive ShiftReportStatus
  | draft | submitted | approved | returned
  deriving DecidableEq, Repr

inductive ShiftType
  | day | night
  deriving DecidableEq, Repr

inductive TimeCategory
  | productive | standby | maintenance | nonProductive
  deriving DecidableEq, Repr

inductive DrillHoleStatus
  | planned | inProgress | completed | abandoned
  deriving DecidableEq, Repr

inductive ContractStatus
  | draft | active | expired | superseded
  deriving DecidableEq, Repr

inductive RateType
  | drillingMeter | standbyHourly | mobilizationFlat | demobilizationFlat | dayworkHourly
  deriving DecidableEq, Repr

inductive RevenueCategory
  | drillingMeterage | standbyTime | mobilization | daywork | reimbursable
  deriving DecidableEq, Repr

/-! ## Shift reports -/

structure DrillingShiftInterval where
  drillHoleId : Id
  fromDepthM : Column 18 2
  toDepthM : Column 18 2
  drilledMetres : Column 18 2
  drillingMethod : Option String
  /-- `ck_interval_depth`. -/
  ordered : fromDepthM.1 ≤ toDepthM.1
  drilled_nonneg : 0 ≤ drilledMetres.1
  deriving DecidableEq

structure DrillingShiftTimeSegment where
  category : TimeCategory
  hours : Column 18 2
  deriving DecidableEq

structure DrillingShiftReport where
  id : Id
  projectId : Id
  siteLocationId : Option Id
  rigId : Id
  date : Day
  shiftType : ShiftType
  status : ShiftReportStatus
  submittedAt : Option Instant
  submittedById : Option Id
  approvedAt : Option Instant
  approvedById : Option Id
  returnReason : Option String
  correctionReason : Option String
  notes : Option String
  totalMetres : Column 18 2
  totalProductiveHours : Column 18 2
  totalNonproductiveHours : Column 18 2
  intervals : List DrillingShiftInterval
  timeSegments : List DrillingShiftTimeSegment
  deriving DecidableEq

structure DrillHole where
  id : Id
  holeNumber : String
  projectId : Id
  siteLocationId : Option Id
  targetDepthM : Option (Column 18 2)
  finalDepthM : Option (Column 18 2)
  status : DrillHoleStatus
  startedAt : Option Instant
  archived : Bool
  deriving DecidableEq

/-! ## Contracts and revenue -/

structure ContractRateCard where
  id : Id
  rateType : RateType
  drillingMethod : Option String
  depthFromM : Option (Column 10 2)
  depthToM : Option (Column 10 2)
  unitRate : Column 14 2
  description : Option String
  deriving DecidableEq

structure ProjectContract where
  id : Id
  projectId : Id
  title : String
  currency : String
  startDate : Day
  status : ContractStatus
  archived : Bool
  rateCards : List ContractRateCard
  deriving DecidableEq

/-- The text of an entry: "Drilling meterage {from}m - {to}m", "Rig standby time ({hours}
hrs)", "Daywork / productive operational time ({hours} hrs)" and "Contract Mobilization
Flat Fee — {text}". -/
inductive EntryDescription
  | meterage (fromDepth toDepth : ℚ)
  | standby (hours : ℚ)
  | daywork (hours : ℚ)
  | mobilization (text : String)
  deriving DecidableEq

/-- An entry without its time and author. -/
structure RevenueSubledgerEntry where
  projectId : Id
  rigId : Id
  shiftReportId : Id
  contractId : Id
  rateCardId : Id
  revenueCategory : RevenueCategory
  description : EntryDescription
  quantity : ℚ
  unitRate : ℚ
  totalRevenue : ℚ
  currency : String
  exchangeRateToBase : ℚ
  totalRevenueBase : ℚ
  deriving DecidableEq

/-! ## Master data -/

structure Role where
  name : String
  permissions : List String

structure Position where
  isSupervisoryRole : Bool
  title : String

/-- An employee of a user, with the assignments that count: as a supervisor, and the
projects of the active or planned ones. -/
structure Employee where
  id : Id
  jobTitle : Option String
  position : Option Position
  supervises : Bool
  projects : List Id

structure User where
  isSuperuser : Bool
  /-- The roles of the organization or of no organization. -/
  roles : List Role
  employee : Option Employee

/-- What the shift workflow reads and never writes. -/
structure References where
  users : Id → Option User
  projectManager : Id → Option Id
  /-- `require_site`: an active site of the project. -/
  site : Id → Id → Bool
  /-- The names of the assets. -/
  rigs : Id → Option String
  contracts : List ProjectContract
  /-- Python's `str.lower`. -/
  lower : String → String

structure Database where
  holes : Table DrillHole.id
  reports : Table DrillingShiftReport.id
  entries : List RevenueSubledgerEntry

end Cestos.Drilling
