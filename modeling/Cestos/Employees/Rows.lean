import Cestos.Core.Table
import Mathlib.Order.Interval.Basic

/-!
# Employees

Employees, their assignments to projects and their leave. A supervisor who has no other access is
shown only some employees: every query for employees, assignments and leave is narrowed to those
whom the supervisor supervises, or works with, on the day of the query.
-/

namespace Cestos.Employees

open Cestos.Core

abbrev Id := Nat

abbrev Date := Nat

abbrev Instant := Nat

structure Actor where
  id : Id
  organizationId : Id
  /-- `is_scoped_supervisor`. -/
  scopedSupervisor : Bool

structure Employee where
  id : Id
  organizationId : Id
  userId : Option Id
  supervisorId : Option Id
  isActive : Bool
  archivedAt : Option Instant

structure Project where
  id : Id
  organizationId : Id

structure Location where
  id : Id
  organizationId : Id
  projectId : Option Id

structure Position where
  id : Id
  organizationId : Id

structure RotationPattern where
  id : Id
  organizationId : Id

/-! ## Assignments -/

inductive AssignmentStatus
  | planned | active | completed | cancelled
  deriving DecidableEq

inductive AssignmentType
  | project | site | temporary | relief | training | office | other
  deriving DecidableEq

structure EmployeeAssignmentCreate where
  projectId : Id
  locationId : Option Id
  positionId : Option Id
  roleOnProject : Option String
  supervisorId : Option Id
  assignmentType : AssignmentType
  startDate : Date
  endDate : Option Date
  isPrimary : Bool
  status : AssignmentStatus
  rotationPatternId : Option Id
  rotationPattern : Option String
  mobilizationDate : Option Date
  demobilizationDate : Option Date
  notes : Option String

structure EmployeeAssignment extends EmployeeAssignmentCreate where
  id : Id
  organizationId : Id
  employeeId : Id
  createdById : Id
  updatedById : Id
  updatedAt : Instant

/-- Both active and primary. -/
def EmployeeAssignmentCreate.Leads (body : EmployeeAssignmentCreate) : Prop :=
  body.status = .active ∧ body.isPrimary = true

instance : DecidablePred EmployeeAssignmentCreate.Leads :=
  fun body => inferInstanceAs (Decidable (body.status = .active ∧ body.isPrimary = true))

/-- The end, if there is one, is not before the start. -/
def EmployeeAssignmentCreate.Ordered (body : EmployeeAssignmentCreate) : Prop :=
  ∀ last ∈ body.endDate, body.startDate ≤ last

instance : DecidablePred EmployeeAssignmentCreate.Ordered :=
  fun body => inferInstanceAs (Decidable (∀ last ∈ body.endDate, body.startDate ≤ last))

/-! ## Leave -/

inductive LeaveRequestStatus
  | pending | approved | rejected
  deriving DecidableEq

structure LeaveRequest where
  id : Id
  organizationId : Id
  employeeId : Id
  leaveType : Option String
  /-- From `start_date` to `end_date`. -/
  dates : NonemptyInterval Date
  reason : Option String
  status : LeaveRequestStatus
  approvedById : Option Id
  approvedAt : Option Instant
  attachmentUrl : Option String
  createdById : Id
  updatedById : Id
  updatedAt : Instant

structure Database where
  employees : Table Employee.id
  projects : Table Project.id
  locations : Table Location.id
  positions : Table Position.id
  rotationPatterns : Table RotationPattern.id
  assignments : Table EmployeeAssignment.id
  leaves : Table LeaveRequest.id

/-! ## Whom a supervisor sees -/

/-- The profiles of the actor. -/
def Database.ownIds (db : Database) (actor : Actor) : List Id :=
  (db.employees.rows.filter fun employee => employee.organizationId = actor.organizationId ∧
    employee.userId = some actor.id ∧ employee.isActive = true ∧ employee.archivedAt = none).map (·.id)

/-- The assignments of the organization that are active today. -/
def Database.currentAssignments (db : Database) (actor : Actor) (today : Date) :
    List EmployeeAssignment :=
  db.assignments.rows.filter fun assignment =>
    assignment.organizationId = actor.organizationId ∧ assignment.status = .active ∧
      assignment.startDate ≤ today ∧ ∀ last ∈ assignment.endDate, today ≤ last

/-- `active_assignments`. -/
def Database.supervisedIds (db : Database) (actor : Actor) (today : Date) : List Id :=
  ((db.currentAssignments actor today).filter fun assignment =>
    ∃ own ∈ db.ownIds actor, assignment.supervisorId = some own).map (·.employeeId)

def Database.teamProjectIds (db : Database) (actor : Actor) (today : Date) : List Id :=
  ((db.currentAssignments actor today).filter fun assignment =>
    (∃ own ∈ db.ownIds actor, assignment.supervisorId = some own) ∨
      assignment.employeeId ∈ db.ownIds actor).map (·.projectId)

def Database.coworkers (db : Database) (actor : Actor) (today : Date) : List Id :=
  ((db.currentAssignments actor today).filter fun assignment =>
    assignment.projectId ∈ db.teamProjectIds actor today).map (·.employeeId)

/-- `supervised_employee_ids`. -/
def Database.supervisedEmployeeIds (db : Database) (actor : Actor) (today : Date)
    (includeSelf : Bool) : List Id :=
  (db.employees.rows.filter fun employee => employee.organizationId = actor.organizationId ∧
    ((∃ own ∈ db.ownIds actor, employee.supervisorId = some own) ∨
      employee.id ∈ db.supervisedIds actor today ∨ employee.id ∈ db.coworkers actor today ∨
      includeSelf = true ∧ employee.userId = some actor.id)).map (·.id)

/-- Whether a query of the actor returns what belongs to the employee. -/
def Database.Sees (db : Database) (actor : Actor) (today : Date) (includeSelf : Bool)
    (employeeId : Id) : Prop :=
  actor.scopedSupervisor = true → employeeId ∈ db.supervisedEmployeeIds actor today includeSelf

instance (db : Database) (actor : Actor) (today : Date) (includeSelf : Bool) :
    DecidablePred (db.Sees actor today includeSelf) :=
  fun employeeId => inferInstanceAs (Decidable
    (_ → employeeId ∈ db.supervisedEmployeeIds actor today includeSelf))

/-- Whom an actor sees depends on the employees and the assignments only. -/
theorem Database.sees_congr {db db' : Database} (hemployees : db'.employees = db.employees)
    (hassignments : db'.assignments = db.assignments) {actor : Actor} {today : Date}
    {includeSelf : Bool} {employeeId : Id} (h : db.Sees actor today includeSelf employeeId) :
    db'.Sees actor today includeSelf employeeId := by
  obtain ⟨employees, projects, locations, positions, patterns, assignments, leaves⟩ := db
  obtain ⟨employees', projects', locations', positions', patterns', assignments', leaves'⟩ := db'
  obtain rfl := hemployees
  obtain rfl := hassignments
  exact h

end Cestos.Employees
