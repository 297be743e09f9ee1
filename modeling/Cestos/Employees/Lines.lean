import Cestos.Core.Hierarchy
import Cestos.Core.Runs
import Cestos.Employees.Links

/-!
# Lines of departments and of supervisors

A department may be below another one, and an employee under a supervisor. Updates refuse only a row
that is directly above itself. So the lines have no circles as long as no department is placed below
one that it is above, and no employee under one whom they supervise, directly or not.
-/

namespace Cestos.Employees

open Cestos.Core

structure DepartmentCreate where
  name : String
  code : Option String := none
  description : Option String := none
  managerEmployeeId : Option Id := none
  parentDepartmentId : Option Id := none

structure DepartmentRow extends Department, DepartmentCreate where
  isActive : Bool

/-- The fields that are set, perhaps to null. -/
structure DepartmentUpdate where
  name : Option (Option String) := none
  code : Option (Option String) := none
  description : Option (Option String) := none
  managerEmployeeId : Option (Option Id) := none
  parentDepartmentId : Option (Option Id) := none
  isActive : Option (Option Bool) := none

/-- What employees and departments are kept in. -/
structure Workforce (text : EmailText) where
  users : Table User.id
  profiles : Table fun profile : Profile => profile.id
  departments : Table fun row : DepartmentRow => row.id
  positions : Table Position.id
  locations : Table Location.id
  assignments : Table EmployeeAssignment.id
  constraints : Constraints text users profiles

variable {text : EmailText}

/-- The directory, to which departments are only what employees belong to. -/
def Workforce.directory (w : Workforce text) : Directory text where
  users := w.users
  profiles := w.profiles
  departments := ⟨w.departments.rows.map (·.toDepartment), by
    rw [List.map_map]
    exact w.departments.nodup⟩
  positions := w.positions
  locations := w.locations
  assignments := w.assignments
  constraints := w.constraints

/-- What a request about an employee has written. -/
def Workforce.withDirectory (w : Workforce text) (d : Directory text) : Workforce text :=
  { w with users := d.users, profiles := d.profiles, constraints := d.constraints }

/-! ## Departments -/

/-- `_check_refs`. -/
def Workforce.checkRefs (w : Workforce text) (caller : Caller)
    (managerId parentId selfId : Option Id) : Outcome Unit := do
  ensure (∀ id ∈ managerId, ∃ manager ∈ w.profiles.rows, manager.id = id ∧
      manager.organizationId = caller.organizationId ∧ w.directory.Shows caller false manager)
    (.notFound "Manager employee not found")
  ensure (parentId = none ∨ parentId ≠ selfId)
    (.validation "A department cannot be its own parent")
  checkRef w.departments (·.organizationId) caller.organizationId "Parent department not found"
    parentId

/-- The names of the departments of an organization differ. -/
def Workforce.writeDepartments (w : Workforce text)
    (departments : Table fun row : DepartmentRow => row.id) : Outcome (Workforce text) := do
  ensure (departments.UniqueOn fun row => some (row.organizationId, row.name)) integrityError
  .ok { w with departments := departments }

/-- `DepartmentService.create`. -/
def Workforce.createDepartment (w : Workforce text) (caller : Caller) (body : DepartmentCreate)
    (uuid : Id) : Outcome (Workforce text) := do
  w.checkRefs caller body.managerEmployeeId body.parentDepartmentId none
  let departments ← orError (w.departments.insert?
    { toDepartmentCreate := body, id := uuid, organizationId := caller.organizationId,
      isActive := true }) integrityError
  w.writeDepartments departments

/-- The row with the fields that are set. A name or a flag that is set to null is refused. -/
def DepartmentUpdate.apply (data : DepartmentUpdate) (row : DepartmentRow) :
    Outcome DepartmentRow := do
  let name ← orError (data.name.getD (some row.name)) integrityError
  let isActive ← orError (data.isActive.getD (some row.isActive)) integrityError
  .ok { row with
    name := name
    code := data.code.getD row.code
    description := data.description.getD row.description
    managerEmployeeId := data.managerEmployeeId.getD row.managerEmployeeId
    parentDepartmentId := data.parentDepartmentId.getD row.parentDepartmentId
    isActive := isActive }

/-- `DepartmentService.update`. -/
def Workforce.updateDepartment (w : Workforce text) (caller : Caller) (departmentId : Id)
    (data : DepartmentUpdate) : Outcome (Workforce text) := do
  let department ← orError (w.departments.rows.find? fun row => row.id = departmentId ∧
    row.organizationId = caller.organizationId) (.notFound "Department not found")
  w.checkRefs caller (data.managerEmployeeId.getD department.managerEmployeeId)
    (data.parentDepartmentId.getD department.parentDepartmentId) departmentId
  let saved ← data.apply department
  w.writeDepartments (w.departments.set saved)

inductive WorkforceRequest
  | createDepartment (caller : Caller) (body : DepartmentCreate) (uuid : Id)
  | updateDepartment (caller : Caller) (departmentId : Id) (data : DepartmentUpdate)
  | createEmployee (caller : Caller) (body : EmployeeCreate) (uuid account : Id)
  | updateEmployee (caller : Caller) (employeeId : Id) (body : EmployeeUpdate) (uuid : Id)

def Workforce.serve (w : Workforce text) : WorkforceRequest → Outcome (Workforce text)
  | .createDepartment caller body uuid => w.createDepartment caller body uuid
  | .updateDepartment caller departmentId data => w.updateDepartment caller departmentId data
  | .createEmployee caller body uuid account => do
    let d ← w.directory.createEmployee caller body uuid account
    .ok (w.withDirectory d)
  | .updateEmployee caller employeeId body uuid => do
    let d ← w.directory.updateEmployee caller employeeId body uuid
    .ok (w.withDirectory d)

/-! ## Lines -/

/-- The department that each one is below. -/
def Workforce.parent (w : Workforce text) : Id → Option Id :=
  w.departments.parent (·.parentDepartmentId)

/-- The supervisor of each employee. -/
def Workforce.supervisor (w : Workforce text) : Id → Option Id :=
  w.profiles.parent (·.supervisorId)

/-- No department is its own ancestor, and no employee their own supervisor, directly or not. -/
structure Workforce.NoCircles (w : Workforce text) : Prop where
  departments : Acyclic (Below w.parent)
  employees : Acyclic (Below w.supervisor)

/-- What is named exists as well. -/
structure Workforce.Lined (w : Workforce text) : Prop where
  departments : w.departments.Hierarchy (·.parentDepartmentId)
  employees : w.profiles.Hierarchy (·.supervisorId)

/-- An update places a department below none that it is above, and an employee under none whom they
supervise, directly or not. -/
def Workforce.Places (w : Workforce text) : WorkforceRequest → Prop
  | .updateDepartment _ departmentId data => ∀ id ∈ data.parentDepartmentId.join,
    ¬ Relation.ReflTransGen (Below w.parent) id departmentId
  | .updateEmployee _ employeeId body _ => ∀ id ∈ body.supervisorId.join,
    ¬ Relation.ReflTransGen (Below w.supervisor) id employeeId
  | _ => True

theorem Workforce.Lined.noCircles {w : Workforce text} (h : w.Lined) : w.NoCircles :=
  ⟨h.departments.acyclic, h.employees.acyclic⟩

variable {w w' : Workforce text} {caller : Caller} {uuid : Id}

theorem checkRef_ok {ρ κ : Type} {key : ρ → Id} {table : Table key} {organization : ρ → κ}
    [DecidableEq κ] {organizationId : κ} {message : String} {ref : Option Id}
    (h : checkRef table organization organizationId message ref = .ok ()) :
    ∀ id ∈ ref, ∃ row, table.find? id = some row := by
  intro id hid
  obtain rfl := Option.mem_def.1 hid
  obtain ⟨row, hrow, rfl, -⟩ := ensure_eq_ok.1 h
  exact ⟨row, Table.find?_of_mem hrow⟩

theorem Workforce.checkRefs_ok {managerId parentId selfId : Option Id}
    (h : w.checkRefs caller managerId parentId selfId = .ok ()) :
    ∀ id ∈ parentId, ∃ row, w.departments.find? id = some row := by
  simp only [Workforce.checkRefs, bind_eq_ok] at h
  obtain ⟨_, -, _, -, h⟩ := h
  exact checkRef_ok h

theorem Workforce.writeDepartments_ok {departments : Table fun row : DepartmentRow => row.id}
    (h : w.writeDepartments departments = .ok w') : w' = { w with departments := departments } := by
  obtain ⟨_, -, h⟩ := bind_eq_ok.1 h
  exact (Except.ok.inj h).symm

theorem DepartmentUpdate.apply_ok {data : DepartmentUpdate} {row saved : DepartmentRow}
    (h : data.apply row = .ok saved) : saved.id = row.id ∧
      saved.parentDepartmentId = data.parentDepartmentId.getD row.parentDepartmentId := by
  simp only [DepartmentUpdate.apply, bind_eq_ok] at h
  obtain ⟨_, -, _, -, h⟩ := h
  obtain rfl := Except.ok.inj h
  exact ⟨rfl, rfl⟩

theorem Workforce.createDepartment_lined {body : DepartmentCreate} (h : w.Lined)
    (hrun : w.createDepartment caller body uuid = .ok w') : w'.Lined := by
  simp only [Workforce.createDepartment, bind_eq_ok, orError_eq_ok] at hrun
  obtain ⟨_, hrefs, departments, hinsert, hwrite⟩ := hrun
  obtain rfl := Workforce.writeDepartments_ok hwrite
  exact ⟨h.departments.insert hinsert (Workforce.checkRefs_ok hrefs), h.employees⟩

theorem Workforce.updateDepartment_lined {departmentId : Id} {data : DepartmentUpdate}
    (h : w.Lined) (hrun : w.updateDepartment caller departmentId data = .ok w') :
    (w.Places (.updateDepartment caller departmentId data) → w'.Lined) ∧
      (w'.NoCircles → w.Places (.updateDepartment caller departmentId data)) := by
  simp only [Workforce.updateDepartment, bind_eq_ok, orError_eq_ok] at hrun
  obtain ⟨department, hfind, _, hrefs, saved, happly, hwrite⟩ := hrun
  obtain rfl := Workforce.writeDepartments_ok hwrite
  obtain ⟨hid, hparent⟩ := DepartmentUpdate.apply_ok happly
  have hkey := List.find?_some hfind
  simp only [decide_eq_true_eq] at hkey
  have hsaved : w.departments.find? saved.id = some department := by
    rw [hid]
    exact Table.find?_of_mem (List.mem_of_find?_eq_some hfind)
  have hexist : ∀ id ∈ data.parentDepartmentId.join, ∃ row, w.departments.find? id = some row := by
    intro id hmem
    have hgiven : data.parentDepartmentId = some (some id) := Option.join_eq_some_iff.1 hmem
    exact Workforce.checkRefs_ok hrefs id (by rw [hgiven]; rfl)
  obtain ⟨hforward, hback⟩ := h.departments.place hsaved hparent hexist
  have hsame : saved.id = departmentId := hid.trans hkey.1
  rw [hsame] at hforward hback
  exact ⟨fun hplaces => ⟨hforward hplaces, h.employees⟩, fun hnone => hback hnone.departments⟩

variable {d d' : Directory text} {employee : Profile}

theorem Directory.linkAccount_lines {old : Profile} (hfind : d.profiles.find? employee.id = some old)
    (hsame : employee.supervisorId = old.supervisorId)
    (h : d.linkAccount caller employee uuid = .ok d') :
    Table.SameLines (·.supervisorId) d.profiles d'.profiles := by
  unfold linkAccount at h
  split at h
  · obtain rfl := Except.ok.inj h
    exact .refl _
  · next raw _ =>
      simp only [bind_eq_ok] at h
      obtain ⟨renamed, hwrite, ⟨matched, account⟩, haccount, hlink⟩ := h
      let cleaned : Profile := { employee with workEmail := some (text.clean raw) }
      have hrenamed : Table.SameLines (·.supervisorId) d.profiles (d.profiles.set cleaned) :=
        .set hfind hsame
      have hcleaned : (d.profiles.set cleaned).find? employee.id = some cleaned :=
        Table.find?_set_self (show d.profiles.find? cleaned.id = some old from hfind)
      have hlinked : Table.SameLines (·.supervisorId) (d.profiles.set cleaned)
          ((d.profiles.set cleaned).set (employee.link account (text.clean raw))) :=
        .set (show (d.profiles.set cleaned).find? (employee.link account _).id = _ from hcleaned) rfl
      rw [write_profiles hlink, accountFor_profiles haccount, write_profiles hwrite]
      exact hrenamed.trans hlinked

theorem Directory.checkMasterRefs_ok
    {supervisorId departmentId positionId homeLocationId selfId : Option Id}
    (h : d.checkMasterRefs caller supervisorId departmentId positionId homeLocationId selfId =
      .ok ()) : ∀ id ∈ supervisorId, ∃ row, d.profiles.find? id = some row := by
  simp only [checkMasterRefs, bind_eq_ok] at h
  obtain ⟨_, -, _, hsupervisor, -⟩ := h
  exact checkRef_ok hsupervisor

theorem Directory.createEmployee_hierarchy {body : EmployeeCreate} {account : Id}
    (h : d.profiles.Hierarchy (·.supervisorId))
    (hrun : d.createEmployee caller body uuid account = .ok d') :
    d'.profiles.Hierarchy (·.supervisorId) := by
  simp only [createEmployee, bind_eq_ok, orError_eq_ok] at hrun
  obtain ⟨_, hrefs, _, -, _, -, _, -, profiles, hinsert, inserted, hwrite, hlink⟩ := hrun
  have hinserted := h.insert hinsert (checkMasterRefs_ok hrefs)
  rw [← write_profiles hwrite] at hinserted
  refine hinserted.congr (linkAccount_lines ?_ rfl hlink)
  rw [write_profiles hwrite]
  exact Table.find?_of_mem ((Table.mem_insert? hinsert).2 (.inr rfl))

theorem EmployeeUpdate.apply_supervisor {data : EmployeeUpdate} {saved : Profile}
    (h : data.apply employee = .ok saved) : saved.id = employee.id ∧
      saved.supervisorId = data.supervisorId.getD employee.supervisorId := by
  simp only [EmployeeUpdate.apply, bind_eq_ok] at h
  obtain ⟨_, -, _, -, _, -, h⟩ := h
  obtain rfl := Except.ok.inj h
  exact ⟨rfl, rfl⟩

/-- An employee is placed under another supervisor, or stays where they are. -/
theorem Directory.updateEmployee_hierarchy {employeeId : Id} {body : EmployeeUpdate}
    (h : d.profiles.Hierarchy (·.supervisorId))
    (hrun : d.updateEmployee caller employeeId body uuid = .ok d') :
    ((∀ id ∈ body.supervisorId.join, ¬ Relation.ReflTransGen
      (Below (d.profiles.parent (·.supervisorId))) id employeeId) →
        d'.profiles.Hierarchy (·.supervisorId)) ∧
    (Acyclic (Below (d'.profiles.parent (·.supervisorId))) →
      ∀ id ∈ body.supervisorId.join, ¬ Relation.ReflTransGen
        (Below (d.profiles.parent (·.supervisorId))) id employeeId) := by
  simp only [updateEmployee, checkUpdate, bind_eq_ok, orError_eq_ok] at hrun
  obtain ⟨employee, hfind, _, ⟨_, -, _, -, _, hrefs, -⟩, saved, happly, written, hwrite, hrest⟩ :=
    hrun
  have hkey := List.find?_some hfind
  simp only [decide_eq_true_eq] at hkey
  obtain ⟨hid, hsupervisor⟩ := EmployeeUpdate.apply_supervisor happly
  have hold : d.profiles.find? saved.id = some employee := by
    rw [hid]
    exact Table.find?_of_mem (List.mem_of_find?_eq_some hfind)
  have hexist : ∀ id ∈ body.supervisorId.join, ∃ row, d.profiles.find? id = some row := by
    intro id hmem
    have hgiven : body.supervisorId = some (some id) := Option.join_eq_some_iff.1 hmem
    refine checkMasterRefs_ok hrefs id ?_
    simp [EmployeeUpdate.cleaned, hgiven]
  have hsame : Table.SameLines (·.supervisorId) (d.profiles.set saved) d'.profiles := by
    rw [← write_profiles hwrite]
    split at hrest
    · rw [alignAccount_profiles hrest]
      exact .refl _
    · refine linkAccount_lines ?_ rfl hrest
      rw [write_profiles hwrite]
      exact Table.find?_set_self hold
  obtain ⟨hforward, hback⟩ := h.place hold hsupervisor hexist
  rw [hid, hkey.1] at hforward hback
  refine ⟨fun hplaces => (hforward hplaces).congr hsame, fun hacyclic => hback ?_⟩
  rwa [hsame.parent] at hacyclic

/-! ## Runs -/

/-- What a request leaves has no circles exactly if it places a row where it may be. -/
theorem Workforce.serve_lined {r : WorkforceRequest} (h : w.Lined) (hrun : w.serve r = .ok w') :
    (w.Places r → w'.Lined) ∧ (w'.NoCircles → w.Places r) := by
  cases r with
  | createDepartment caller body uuid =>
      exact ⟨fun _ => Workforce.createDepartment_lined h hrun, fun _ => trivial⟩
  | updateDepartment caller departmentId data => exact Workforce.updateDepartment_lined h hrun
  | createEmployee caller body uuid account =>
      obtain ⟨d, hcreate, hrun⟩ := bind_eq_ok.1 hrun
      obtain rfl := Except.ok.inj hrun
      have hemployees := Directory.createEmployee_hierarchy h.employees hcreate
      exact ⟨fun _ => ⟨h.departments, hemployees⟩, fun _ => trivial⟩
  | updateEmployee caller employeeId body uuid =>
      obtain ⟨d, hupdate, hrun⟩ := bind_eq_ok.1 hrun
      obtain rfl := Except.ok.inj hrun
      obtain ⟨hforward, hback⟩ := Directory.updateEmployee_hierarchy h.employees hupdate
      exact ⟨fun hplaces => ⟨h.departments, hforward hplaces⟩, fun hnone => hback hnone.employees⟩

/-- What is kept after a run of requests; one that is refused leaves it as it is. -/
def Workforce.after (w : Workforce text) (requests : List WorkforceRequest) : Workforce text :=
  requests.foldl (settled Workforce.serve) w

/-- In every run of requests that place departments and employees where they may be, their lines have
no circles, if they have none at first; and so they have none after one more request exactly if it
does so too. -/
theorem lines_without_circles (h : w.Lined) (requests : List WorkforceRequest)
    (hplaces : Meets (settled Workforce.serve) Workforce.Places w requests) :
    (w.after requests).NoCircles ∧ ∀ r w', (w.after requests).serve r = .ok w' →
      (w'.NoCircles ↔ (w.after requests).Places r) := by
  have hstep : ∀ (w : Workforce text) (r : WorkforceRequest), w.Lined → w.Places r →
      (settled Workforce.serve w r).Lined := fun w r h hcond =>
    settled_keeps h fun w' hrun => (Workforce.serve_lined h hrun).1 hcond
  have hrun := hplaces.keeps hstep h
  refine ⟨hrun.noCircles, fun r w' hnext => ?_⟩
  obtain ⟨hforward, hback⟩ := Workforce.serve_lined hrun hnext
  exact ⟨hback, fun hcond => (hforward hcond).noCircles⟩

namespace Lines

def company : Workforce Links.clean where
  users := .empty
  profiles := .empty
  departments := .empty
  positions := .empty
  locations := .empty
  assignments := .empty
  constraints := by decide

def hire (id : Id) (supervisorId : Option Id) : WorkforceRequest :=
  .createEmployee Links.administrator
    { firstName := "New", lastName := "Colleague", workEmail := none, personalEmail := none,
      supervisorId, departmentId := none, positionId := none, homeLocationId := none,
      hireDate := none, terminationDate := none, contractStartDate := none,
      contractEndDate := none } id 0

def assign (id supervisorId : Id) : WorkforceRequest :=
  .updateEmployee Links.administrator id
    { firstName := none, lastName := none, workEmail := none, personalEmail := none,
      supervisorId := some (some supervisorId), departmentId := none, positionId := none,
      homeLocationId := none, hireDate := none, terminationDate := none,
      contractStartDate := none, contractEndDate := none, roles := false } 0

def found (id : Id) (name : String) (parentId : Option Id) : WorkforceRequest :=
  .createDepartment Links.administrator { name, parentDepartmentId := parentId } id

def move (id parentId : Id) : WorkforceRequest :=
  .updateDepartment Links.administrator id { parentDepartmentId := some (some parentId) }

/-- A department is moved below another one, and an employee under a colleague. -/
def growth : List WorkforceRequest :=
  [found 1 "Drilling" none, found 2 "Operations" none, move 1 2, hire 10 none, hire 11 none,
    assign 10 11]

/-- The upper one is moved below the lower one. -/
def circle : List WorkforceRequest :=
  [found 1 "Operations" none, found 2 "Drilling" (some 1), move 1 2, hire 10 none, hire 11 (some 10),
    assign 10 11]

end Lines

theorem lines_without_circles_growth :
    [1, 2].map (Lines.company.after Lines.growth).parent = [some 2, none] ∧
    [10, 11].map (Lines.company.after Lines.growth).supervisor = [some 11, none] ∧
    (Lines.company.after Lines.growth).NoCircles := by
  have htop : ∀ {parent : Id → Option Id} {id node : Id}, parent id = none → id ≠ node →
      ¬ Relation.ReflTransGen (Below parent) id node := by
    intro parent id node hnone hne hchain
    rcases hchain.cases_head with heq | ⟨next, hstep, -⟩
    · exact hne heq
    · cases hnone.symm.trans hstep
  have hplaces : Meets (settled Workforce.serve) Workforce.Places Lines.company Lines.growth := by
    refine ⟨trivial, trivial, fun id hid => ?_, trivial, trivial, fun id hid => ?_, trivial⟩
    · obtain rfl := Option.some.inj hid
      exact htop (by decide +kernel) (by decide)
    · obtain rfl := Option.some.inj hid
      exact htop (by decide +kernel) (by decide)
  exact ⟨by decide +kernel, by decide +kernel, (lines_without_circles
    ⟨Table.hierarchy_of_empty rfl, Table.hierarchy_of_empty rfl⟩ Lines.growth hplaces).1⟩

theorem lines_with_circles :
    ¬ Acyclic (Below (Lines.company.after Lines.circle).parent) ∧
    ¬ Acyclic (Below (Lines.company.after Lines.circle).supervisor) := by
  have hcircle : ∀ {parent : Id → Option Id} {a b : Id}, parent a = some b → parent b = some a →
      ¬ Acyclic (Below parent) := fun hup hdown h => h _ (.tail (.single hup) hdown)
  exact ⟨hcircle (a := 1) (b := 2) (by decide +kernel) (by decide +kernel),
    hcircle (a := 10) (b := 11) (by decide +kernel) (by decide +kernel)⟩

end Cestos.Employees
