import Cestos.Core.Calendar
import Cestos.Drilling.Rows

/-!
# Rows behind the project reports

Field reports, shift reports with their intervals, drill holes and locations. Moments are those of
the database, in UTC.
-/

namespace Cestos.Reports

open Cestos.Core Cestos.Core.Decimal
open Cestos.Drilling (ShiftReportStatus ShiftType)

abbrev Id := Nat

inductive ReportType
  | drillingUpdate | progressUpdate | safetyReport | siteIssue
  deriving DecidableEq, Repr

structure ProjectReport where
  id : Id
  organizationId : Id
  projectId : Id
  siteId : Id
  siteName : String
  reportType : ReportType
  reportDate : CalendarDate
  title : String
  notes : Option String
  metres : Option (Column 18 2)
  drillHoles : Option Nat
  averageDepth : Option (Column 18 2)
  authorName : String
  storagePath : Option String
  fileName : Option String
  mimeType : Option String
  sizeBytes : Option Nat
  createdAt : Moment
  /-- `project_report_positive`. -/
  metres_nonneg : ∀ m ∈ metres, 0 ≤ m.1
  deriving DecidableEq

structure DrillingShiftInterval where
  drillHoleId : Id
  toDepthM : Column 18 2
  deriving DecidableEq

structure DrillingShiftReport where
  id : Id
  organizationId : Id
  projectId : Id
  siteLocationId : Option Id
  reportNumber : String
  date : CalendarDate
  shiftType : ShiftType
  status : ShiftReportStatus
  supervisorId : Option Id
  submittedById : Option Id
  archived : Bool
  totalMetres : Column 18 2
  avgCoreRecoveryPct : Option (Column 5 2)
  notes : Option String
  intervals : List DrillingShiftInterval
  createdAt : Moment
  deriving DecidableEq

structure DrillHole where
  id : Id
  organizationId : Id
  projectId : Id
  archived : Bool
  deriving DecidableEq

inductive LocationType
  | headOffice | workshop | warehouse | projectSite | yard | fuelStorage | other
  deriving DecidableEq, Repr

structure Location where
  id : Id
  organizationId : Id
  name : String
  locationType : LocationType
  isActive : Bool
  deriving DecidableEq

structure Tables where
  reports : Table ProjectReport.id
  shifts : Table DrillingShiftReport.id
  holes : Table DrillHole.id
  locations : Table Location.id

end Cestos.Reports
