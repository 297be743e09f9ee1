import Cestos.Core.Decimal.Column
import Cestos.Core.Locking
import Cestos.Core.Outcome
import Cestos.Core.Period
import Cestos.Core.Table
import Cestos.Errors

/-!
# Salary requests

Salaries are added with a start and perhaps an end, and one without an end is ended later. Both
requests lock the row of the employee before they check anything that they rely on, and keep it
until they commit.
-/

namespace Cestos.Salaries

open Cestos.Core Cestos.Core.Decimal

abbrev Id := Nat

abbrev Date := Nat

/-- Amounts are not negative (`ge=0`). -/
abbrev Amount := {amount : Column 14 2 // 0 ≤ amount.1}

/-- Three capital letters. -/
abbrev Currency := {text : String // text.length = 3 ∧ text.toList.all Char.isUpper = true}

inductive PayPeriod
  | hourly | daily | weekly | monthly | annual

/-- Notes of at most 2000 characters. -/
abbrev Notes := {notes : Option String // ∀ text ∈ notes, text.length ≤ 2000}

structure Employee where
  id : Id
  organizationId : Id

structure Salary where
  id : Id
  organizationId : Id
  employeeId : Id
  amount : Amount
  currency : Currency
  payPeriod : PayPeriod
  /-- `start_date` and `end_date`, in order by the constraint `salary_dates`. -/
  period : Period Date
  notes : Notes
  createdById : Id

structure Database where
  employees : Table Employee.id
  salaries : Table Salary.id

structure Actor where
  id : Id
  organizationId : Id

structure SalaryCreate where
  amount : Amount
  currency : Currency
  payPeriod : PayPeriod
  period : Period Date
  notes : Notes

/-- A call of `add_salary`, with the identifier that is generated. -/
structure AddSalary where
  actor : Actor
  employeeId : Id
  body : SalaryCreate
  salaryId : Id

/-- A call of `end_salary`. -/
structure EndSalary where
  actor : Actor
  salaryId : Id
  endDate : Date

/-! ## What the requests check -/

/-- `employee_in_org`. -/
def Database.employeeInOrg (db : Database) (actor : Actor) (employeeId : Id) :
    Except AppError Employee :=
  orError ((db.employees.find? employeeId).filter fun employee =>
    employee.organizationId = actor.organizationId) (.notFound "Employee not found")

/-- The query of `add_salary`: whether a salary of the employee overlaps the new one. -/
def Database.Overlapped (db : Database) (r : AddSalary) : Prop :=
  ∃ salary ∈ db.salaries.rows, salary.organizationId = r.actor.organizationId ∧
    salary.employeeId = r.employeeId ∧ salary.period.Meets r.body.period

instance (db : Database) (r : AddSalary) : Decidable (db.Overlapped r) :=
  inferInstanceAs (Decidable (∃ _ ∈ _, _))

def Database.checkPeriods (db : Database) (r : AddSalary) : Except AppError Unit :=
  ensure (¬ db.Overlapped r)
    (.conflict "Salary periods cannot overlap. End the previous salary first.")

/-- The row that `end_salary` reads first. -/
def Database.salaryInOrg (db : Database) (r : EndSalary) : Except AppError Salary :=
  orError ((db.salaries.find? r.salaryId).filter fun salary =>
    salary.organizationId = r.actor.organizationId) (.notFound "Salary not found")

/-- The checks of `end_salary` on the refreshed row. -/
def checkEnd (r : EndSalary) (row : Salary) : Except AppError Unit := do
  ensure (row.period.stop = none) (.conflict "This salary period is already closed")
  ensure (row.period.start ≤ r.endDate) (.validation "End date must follow start date")

/-! ## What the requests write -/

def AddSalary.salary (r : AddSalary) : Salary where
  id := r.salaryId
  organizationId := r.actor.organizationId
  employeeId := r.employeeId
  amount := r.body.amount
  currency := r.body.currency
  payPeriod := r.body.payPeriod
  period := r.body.period
  notes := r.body.notes
  createdById := r.actor.id

def Database.commitSalary (db : Database) (r : AddSalary) : Option Database :=
  (db.salaries.insert? r.salary).map fun salaries => { db with salaries := salaries }

/-- The period of a salary ends. -/
def Salary.close (row : Salary) (endDate : Date) (h : row.period.start ≤ endDate) : Salary :=
  { row with period := row.period.close endDate h }

/-- The update of `end_date`, which the constraint of the table may refuse. -/
def Database.commitEnd (db : Database) (r : EndSalary) : Option Database :=
  (db.salaries.find? r.salaryId).bind fun row =>
    if h : row.period.start ≤ r.endDate then
      some { db with salaries := db.salaries.set (row.close r.endDate h) }
    else none

/-! ## Statements -/

inductive Task
  | addSalary (r : AddSalary)
  /-- The employee is locked. -/
  | checking (r : AddSalary)
  | inserting (r : AddSalary)
  | endSalary (r : EndSalary)
  | salaryRead (r : EndSalary) (row : Salary)
  /-- The employee of the salary is locked. -/
  | refreshing (r : EndSalary) (employeeId : Id)
  | closing (r : EndSalary) (employeeId : Id)

/-- A request under way and the employees that it has locked. -/
structure Transaction where
  held : List Id
  task : Task

def Task.wants : Task → List Id
  | .addSalary r => [r.employeeId]
  | .salaryRead _ row => [row.employeeId]
  | _ => []

/-- The request goes on with what it has locked, unless it raises. -/
def Transaction.proceed (db : Database) (t : Transaction) (next : Except AppError Task) :
    Database × Option Transaction :=
  match next with
  | .ok task => (db, some ⟨t.task.wants ++ t.held, task⟩)
  | .error _ => (db, none)

/-- A commit that fails is rolled back. -/
def commit (db : Database) (result : Option Database) : Database × Option Transaction :=
  (result.getD db, none)

/-- The statements of `add_salary` and `end_salary`. -/
def Transaction.step (_others : List Transaction) (db : Database) (t : Transaction) :
    Database × Option Transaction :=
  match t.task with
  | .addSalary r => t.proceed db (do
      let _ ← db.employeeInOrg r.actor r.employeeId
      .ok (.checking r))
  | .checking r => t.proceed db (do
      db.checkPeriods r
      .ok (.inserting r))
  | .inserting r => commit db (db.commitSalary r)
  | .endSalary r => t.proceed db (do
      let row ← db.salaryInOrg r
      .ok (.salaryRead r row))
  | .salaryRead r row => t.proceed db (do
      let _ ← db.employeeInOrg r.actor row.employeeId
      .ok (.refreshing r row.employeeId))
  | .refreshing r employeeId => t.proceed db (do
      let row ← orError (db.salaries.find? r.salaryId) .internal
      checkEnd r row
      .ok (.closing r employeeId))
  | .closing r _ => commit db (db.commitEnd r)

/-- A statement waits for those who have locked its employee. -/
def serving : Statement Database Transaction :=
  locking Transaction.held (fun _ t => t.task.wants) Transaction.step

/-- Whether a request begins. -/
def Task.isRequest : Task → Bool
  | .addSalary _ | .endSalary _ => true
  | _ => false

def Transaction.IsRequest (t : Transaction) : Prop := t.held = [] ∧ t.task.isRequest = true

instance : DecidablePred Transaction.IsRequest :=
  fun t => inferInstanceAs (Decidable (t.held = [] ∧ t.task.isRequest = true))

/-- The databases, with the requests under way, that some interleaving leads to; at first there
are no salaries. -/
abbrev Requests : Sessions Database Transaction → Prop :=
  Sessions.Interleaved Transaction.IsRequest serving (fun _ _ _ => True)
    fun db => db.salaries.rows = []

end Cestos.Salaries
