import Cestos.Core.Outcome
import Cestos.Core.Table
import Cestos.Employees.Rows
import Cestos.Errors

/-!
# Profiles and accounts

The profile of an employee may be linked to the account of a user. Accounts are matched by their
e-mail, against the work e-mail and the personal one of a profile: when a user is created, when a
profile is saved, when it is linked by hand, and when all profiles are synchronised.
-/

namespace Cestos.Employees

open Cestos.Core

/-- The functions of texts. -/
structure EmailText where
  lower : String → String
  strip : String → String
  /-- `lower` of the database. -/
  databaseLower : String → String

/-- `lower().strip()`. -/
def EmailText.clean (text : EmailText) (email : String) : String := text.strip (text.lower email)

/-- A value that is not empty. -/
def given (value : Option String) : Option String := value.filter (· ≠ "")

structure User where
  id : Id
  organizationId : Id
  email : String
  firstName : String
  lastName : String
  isSuperuser : Bool
  isActive : Bool
  archivedAt : Option Instant

/-- An account that is created. -/
def User.new (id organizationId : Id) (email firstName lastName : String) : User where
  id := id
  organizationId := organizationId
  email := email
  firstName := firstName
  lastName := lastName
  isSuperuser := false
  isActive := true
  archivedAt := none

structure Profile extends Employee where
  firstName : String
  lastName : String
  workEmail : Option String
  personalEmail : Option String
  departmentId : Option Id
  positionId : Option Id
  homeLocationId : Option Id
  hireDate : Option Date
  terminationDate : Option Date
  contractStartDate : Option Date
  contractEndDate : Option Date

structure Department where
  id : Id
  organizationId : Id

/-- Who sends a request, and when. -/
structure Caller extends Actor where
  isSuperuser : Bool
  today : Date

/-! ## The database -/

/-- What the database enforces. -/
structure Constraints (text : EmailText) (users : Table User.id)
    (profiles : Table fun profile : Profile => profile.id) : Prop where
  emails : users.UniqueOn fun user => some (user.organizationId, user.email)
  lowerEmails : ∀ user ∈ users.rows, user.email = text.databaseLower user.email
  workEmails : profiles.UniqueOn fun profile =>
    profile.workEmail.map fun email => (profile.organizationId, email)
  lowerWorkEmails : ∀ profile ∈ profiles.rows, ∀ email ∈ profile.workEmail,
    email = text.databaseLower email
  links : profiles.UniqueOn fun profile => profile.userId
  accounts : ∀ profile ∈ profiles.rows, ∀ account ∈ profile.userId, users.find? account ≠ none

instance (text : EmailText) (users : Table User.id)
    (profiles : Table fun profile : Profile => profile.id) :
    Decidable (Constraints text users profiles) :=
  decidable_of_iff
    ((users.UniqueOn fun user => some (user.organizationId, user.email)) ∧
      (∀ user ∈ users.rows, user.email = text.databaseLower user.email) ∧
      (profiles.UniqueOn fun profile =>
        profile.workEmail.map fun email => (profile.organizationId, email)) ∧
      (∀ profile ∈ profiles.rows, ∀ email ∈ profile.workEmail,
        email = text.databaseLower email) ∧
      (profiles.UniqueOn fun profile => profile.userId) ∧
      ∀ profile ∈ profiles.rows, ∀ account ∈ profile.userId, users.find? account ≠ none)
    ⟨fun ⟨h₁, h₂, h₃, h₄, h₅, h₆⟩ => ⟨h₁, h₂, h₃, h₄, h₅, h₆⟩,
      fun ⟨h₁, h₂, h₃, h₄, h₅, h₆⟩ => ⟨h₁, h₂, h₃, h₄, h₅, h₆⟩⟩

structure Directory (text : EmailText) where
  users : Table User.id
  profiles : Table fun profile : Profile => profile.id
  departments : Table Department.id
  positions : Table Position.id
  locations : Table Location.id
  assignments : Table EmployeeAssignment.id
  constraints : Constraints text users profiles

/-- The row that a query without an order returns first. -/
structure FirstRow (ρ : Type) where
  of : List ρ → Option ρ
  mem : ∀ rows row, of rows = some row → row ∈ rows
  empty : ∀ rows, of rows = none → rows = []

abbrev Outcome (α : Type) : Type := Except AppError α

def integrityError : AppError := .conflict "The request conflicts with existing data"

variable {text : EmailText}

namespace Directory

/-- The employees and the assignments, which decide whom a supervisor sees. -/
def toDatabase (d : Directory text) : Database where
  employees := ⟨d.profiles.rows.map (·.toEmployee), by
    rw [List.map_map]
    exact d.profiles.nodup⟩
  projects := .empty
  locations := d.locations
  positions := d.positions
  rotationPatterns := .empty
  assignments := d.assignments
  leaves := .empty

/-- Whether a query of the caller returns the profile. -/
def Shows (d : Directory text) (caller : Caller) (includeSelf : Bool) (profile : Profile) : Prop :=
  d.toDatabase.Sees caller.toActor caller.today includeSelf profile.id

instance (d : Directory text) (caller : Caller) (includeSelf : Bool) :
    DecidablePred (d.Shows caller includeSelf) :=
  fun profile => inferInstanceAs
    (Decidable (d.toDatabase.Sees caller.toActor caller.today includeSelf profile.id))

/-- The account that an employee is linked to. -/
def account? (d : Directory text) (employeeId : Id) : Option Id :=
  (d.profiles.find? employeeId).bind (·.userId)

/-- `flush`. -/
def write (d : Directory text) (users : Table User.id)
    (profiles : Table fun profile : Profile => profile.id) : Outcome (Directory text) :=
  if h : Constraints text users profiles then
    .ok { d with users := users, profiles := profiles, constraints := h }
  else .error integrityError

def userByEmail (d : Directory text) (organizationId : Id) (email : String) : Option User :=
  d.users.rows.find? fun user => user.organizationId = organizationId ∧ user.email = email

end Directory

/-! ## Linking -/

/-- `work_email or personal_email`. -/
def Profile.rawEmail (profile : Profile) : Option String :=
  (given profile.workEmail).or (given profile.personalEmail)

/-- The profile with an account, whose e-mail becomes the work e-mail. -/
def Profile.link (profile : Profile) (account : Id) (email : String) : Profile :=
  { profile with userId := some account, workEmail := some email }

/-- The account with the e-mail, which is created if there is none. -/
def Directory.accountFor (d : Directory text) (caller : Caller) (employee : Profile)
    (email : String) (uuid : Id) : Outcome (Directory text × Id) :=
  match d.userByEmail caller.organizationId email with
  | some user => do
    ensure (user.isSuperuser = true → caller.isSuperuser = true)
      (.forbidden "Only a superadmin can link a superadmin account")
    let d ← d.write (d.users.set { user with isActive := true, archivedAt := none }) d.profiles
    ensure (∀ other ∈ d.profiles.rows, d.Shows caller false other → other.userId = some user.id →
      other.id = employee.id) (.conflict "This account is already linked to another employee")
    .ok (d, user.id)
  | none => do
    let users ← orError (d.users.insert?
      (.new uuid caller.organizationId email employee.firstName employee.lastName)) integrityError
    let d ← d.write users d.profiles
    .ok (d, uuid)

def Directory.linkAccount (d : Directory text) (caller : Caller) (employee : Profile)
    (uuid : Id) : Outcome (Directory text) :=
  match employee.rawEmail with
  | none => .ok d
  | some raw => do
    let d ← d.write d.users (d.profiles.set { employee with workEmail := some (text.clean raw) })
    let (d, account) ← d.accountFor caller employee (text.clean raw) uuid
    d.write d.users (d.profiles.set (employee.link account (text.clean raw)))

/-- `link_existing`. -/
def Directory.linkExisting (d : Directory text) (caller : Caller) (employeeId uuid : Id) :
    Outcome (Directory text) := do
  let employee ← orError (d.profiles.rows.find? fun employee => employee.id = employeeId ∧
    employee.organizationId = caller.organizationId ∧ d.Shows caller false employee)
    (.notFound "Employee not found")
  ensure (employee.userId = none) (.conflict "Employee is already linked")
  ensure (employee.rawEmail ≠ none) (.validation "Set an employee email first")
  d.linkAccount caller employee uuid

/-- One turn of the loop of `sync_all_users_and_profiles`. -/
def Directory.syncProfile (d : Directory text) (employee : Profile) : Outcome (Directory text) :=
  match employee.rawEmail with
  | none => .ok d
  | some raw =>
    match d.userByEmail employee.organizationId (text.clean raw) with
    | none => .ok d
    | some user => d.write d.users (d.profiles.set (employee.link user.id (text.clean raw)))

def Directory.syncAllUsersAndProfiles (d : Directory text) : Outcome (Directory text) :=
  (d.profiles.rows.filter fun employee => employee.userId = none).foldlM Directory.syncProfile d

/-! ## Creating an account -/

structure UserCreate where
  email : String
  firstName : String
  lastName : String

/-- The profiles of the organization with the e-mail that the caller is shown. -/
def Directory.profilesByEmail (d : Directory text) (caller : Caller) (email : String) :
    List Profile :=
  d.profiles.rows.filter fun employee => employee.organizationId = caller.organizationId ∧
    (employee.workEmail = some email ∨ employee.personalEmail = some email) ∧
    d.Shows caller false employee

/-- `UserService.create`; `synced` is whether the account service takes the account. -/
def Directory.createUser (d : Directory text) (first : FirstRow Profile) (caller : Caller)
    (body : UserCreate) (uuid : Id) (synced : Bool) : Outcome (Directory text) := do
  let users ← orError (d.users.insert?
    (.new uuid caller.organizationId (text.clean body.email) body.firstName body.lastName))
    integrityError
  let d ← d.write users d.profiles
  ensure (synced = true) .internal
  match first.of (d.profilesByEmail caller (text.clean body.email)) with
  | none => .ok d
  | some employee =>
    d.write d.users (d.profiles.set (employee.link uuid (text.clean body.email)))

/-! ## Saving a profile -/

structure EmployeeCreate where
  firstName : String
  lastName : String
  workEmail : Option String
  personalEmail : Option String
  supervisorId : Option Id
  departmentId : Option Id
  positionId : Option Id
  homeLocationId : Option Id
  hireDate : Option Date
  terminationDate : Option Date
  contractStartDate : Option Date
  contractEndDate : Option Date

/-- The fields that are set, perhaps to null. -/
structure EmployeeUpdate where
  firstName : Option (Option String)
  lastName : Option (Option String)
  workEmail : Option (Option String)
  personalEmail : Option (Option String)
  supervisorId : Option (Option Id)
  departmentId : Option (Option Id)
  positionId : Option (Option Id)
  homeLocationId : Option (Option Id)
  hireDate : Option (Option Date)
  terminationDate : Option (Option Date)
  contractStartDate : Option (Option Date)
  contractEndDate : Option (Option Date)
  /-- Whether `roles` is set, which a profile does not let anyone set. -/
  roles : Bool

/-- One of the references of a profile is to a row of the organization. -/
def checkRef {ρ κ : Type} {key : ρ → Id} (table : Table key) (organization : ρ → κ)
    [DecidableEq κ] (organizationId : κ) (message : String) : Option Id → Outcome Unit
  | none => .ok ()
  | some id => ensure (∃ row ∈ table.rows, key row = id ∧ organization row = organizationId)
      (.notFound message)

/-- `_check_master_refs`. -/
def Directory.checkMasterRefs (d : Directory text) (caller : Caller)
    (supervisorId departmentId positionId homeLocationId selfId : Option Id) : Outcome Unit := do
  ensure (supervisorId = none ∨ supervisorId ≠ selfId)
    (.validation "An employee cannot supervise themselves")
  checkRef d.profiles (·.organizationId) caller.organizationId "Supervisor not found" supervisorId
  checkRef d.departments Department.organizationId caller.organizationId "Department not found"
    departmentId
  checkRef d.positions Position.organizationId caller.organizationId "Position not found" positionId
  checkRef d.locations Location.organizationId caller.organizationId "Home location not found"
    homeLocationId

/-- `last` is not before `start`. -/
def checkOrder (start last : Option Date) (message : String) : Outcome Unit :=
  ensure (∀ s ∈ start, ∀ l ∈ last, s ≤ l) (.validation message)

/-- `_check_work_email_unique`, for an e-mail that is given. -/
def Directory.checkWorkEmailUnique (d : Directory text) (caller : Caller) (includeSelf : Bool)
    (workEmail : Option String) (selfId : Option Id) : Outcome Unit :=
  ensure (∀ email ∈ workEmail, ∀ other ∈ d.profiles.rows,
    other.organizationId = caller.organizationId → other.workEmail = some (text.lower email) →
      d.Shows caller includeSelf other → some other.id = selfId)
    (.conflict "Work email is already used in this organization")

/-- `EmployeeService.create`; `account` is the key of the account that is created, if one is. -/
def Directory.createEmployee (d : Directory text) (caller : Caller) (body : EmployeeCreate)
    (uuid account : Id) : Outcome (Directory text) := do
  d.checkMasterRefs caller body.supervisorId body.departmentId body.positionId
    body.homeLocationId none
  checkOrder body.hireDate body.terminationDate "Termination date cannot precede hire date"
  checkOrder body.contractStartDate body.contractEndDate "Contract end cannot precede contract start"
  d.checkWorkEmailUnique caller false (given body.workEmail) none
  let employee : Profile :=
    { id := uuid
      organizationId := caller.organizationId
      userId := none
      supervisorId := body.supervisorId
      isActive := true
      archivedAt := none
      firstName := body.firstName
      lastName := body.lastName
      workEmail := (given body.workEmail).map text.lower
      personalEmail := (given body.personalEmail).map text.lower
      departmentId := body.departmentId
      positionId := body.positionId
      homeLocationId := body.homeLocationId
      hireDate := body.hireDate
      terminationDate := body.terminationDate
      contractStartDate := body.contractStartDate
      contractEndDate := body.contractEndDate }
  let profiles ← orError (d.profiles.insert? employee) integrityError
  let d ← d.write d.users profiles
  d.linkAccount caller employee account

/-- The fields as they are written, with clean e-mails. -/
def EmployeeUpdate.cleaned (text : EmailText) (body : EmployeeUpdate) : EmployeeUpdate :=
  { body with
    workEmail := body.workEmail.map (·.map text.clean)
    personalEmail := body.personalEmail.map (·.map text.clean) }

/-- The row with the fields that are set. A name that is set to null is refused. -/
def EmployeeUpdate.apply (data : EmployeeUpdate) (employee : Profile) : Outcome Profile := do
  ensure (data.roles = false) .internal
  let firstName ← orError (data.firstName.getD (some employee.firstName)) integrityError
  let lastName ← orError (data.lastName.getD (some employee.lastName)) integrityError
  .ok { employee with
    firstName := firstName
    lastName := lastName
    workEmail := data.workEmail.getD employee.workEmail
    personalEmail := data.personalEmail.getD employee.personalEmail
    supervisorId := data.supervisorId.getD employee.supervisorId
    departmentId := data.departmentId.getD employee.departmentId
    positionId := data.positionId.getD employee.positionId
    homeLocationId := data.homeLocationId.getD employee.homeLocationId
    hireDate := data.hireDate.getD employee.hireDate
    terminationDate := data.terminationDate.getD employee.terminationDate
    contractStartDate := data.contractStartDate.getD employee.contractStartDate
    contractEndDate := data.contractEndDate.getD employee.contractEndDate }

/-- The checks of `EmployeeService.update`. -/
def Directory.checkUpdate (d : Directory text) (caller : Caller) (employee : Profile)
    (data : EmployeeUpdate) : Outcome Unit := do
  d.checkWorkEmailUnique caller (employee.userId = some caller.id) data.workEmail.join employee.id
  ensure (data.supervisorId.join ≠ some employee.id)
    (.validation "An employee cannot supervise themselves")
  d.checkMasterRefs caller (data.supervisorId.getD employee.supervisorId)
    (data.departmentId.getD employee.departmentId) (data.positionId.getD employee.positionId)
    (data.homeLocationId.getD employee.homeLocationId) employee.id
  checkOrder (data.hireDate.getD employee.hireDate)
    (data.terminationDate.getD employee.terminationDate) "Termination date cannot precede hire date"
  checkOrder (data.contractStartDate.getD employee.contractStartDate)
    (data.contractEndDate.getD employee.contractEndDate) "Contract end cannot precede contract start"

/-- The account of a linked employee takes over the work e-mail when it is changed. -/
def Directory.alignAccount (d : Directory text) (before : Profile) (data : EmployeeUpdate)
    (account : Id) : Outcome (Directory text) :=
  match data.workEmail.join, d.users.find? account with
  | some email, some user =>
    if some email = before.workEmail then .ok d
    else d.write (d.users.set { user with email := email }) d.profiles
  | _, _ => .ok d

/-- `EmployeeService.update`. -/
def Directory.updateEmployee (d : Directory text) (caller : Caller) (employeeId : Id)
    (body : EmployeeUpdate) (uuid : Id) : Outcome (Directory text) := do
  let employee ← orError (d.profiles.rows.find? fun employee => employee.id = employeeId ∧
    employee.organizationId = caller.organizationId ∧ d.Shows caller true employee)
    (.notFound "Employee not found")
  let data := body.cleaned text
  d.checkUpdate caller employee data
  let saved ← data.apply employee
  let d ← d.write d.users (d.profiles.set saved)
  match saved.userId with
  | some account => d.alignAccount employee data account
  | none => d.linkAccount caller saved uuid

/-! ## Requests -/

inductive LinkRequest
  | createUser (caller : Caller) (body : UserCreate) (uuid : Id) (synced : Bool)
  | createEmployee (caller : Caller) (body : EmployeeCreate) (uuid account : Id)
  | updateEmployee (caller : Caller) (employeeId : Id) (body : EmployeeUpdate) (uuid : Id)
  | linkExisting (caller : Caller) (employeeId uuid : Id)
  | syncAllUsersAndProfiles

def LinkRequest.exec (first : FirstRow Profile) (d : Directory text) :
    LinkRequest → Outcome (Directory text)
  | .createUser caller body uuid synced => d.createUser first caller body uuid synced
  | .createEmployee caller body uuid account => d.createEmployee caller body uuid account
  | .updateEmployee caller employeeId body uuid => d.updateEmployee caller employeeId body uuid
  | .linkExisting caller employeeId uuid => d.linkExisting caller employeeId uuid
  | .syncAllUsersAndProfiles => d.syncAllUsersAndProfiles

/-- A request that raises is rolled back. -/
def serveLink (first : FirstRow Profile) (d : Directory text) (r : LinkRequest) : Directory text :=
  match r.exec first d with
  | .ok d' => d'
  | .error _ => d

def serveLinks (first : FirstRow Profile) (d : Directory text) (requests : List LinkRequest) :
    Directory text := requests.foldl (serveLink first) d

end Cestos.Employees
