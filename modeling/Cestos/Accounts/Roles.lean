import Cestos.Core.Outcome
import Cestos.Core.Runs
import Cestos.Core.Table
import Cestos.Errors

/-!
# Roles and permissions

The users of all organizations with their roles, what `require_permission` grants them, and the
requests that change either. Who acts in one organization changes nothing for the users of another
one, unless a superuser edits a system role; superusers are made by superusers alone.
-/

namespace Cestos.Accounts.Roles

open Cestos.Core

abbrev Id := Nat

structure Permission where
  code : String
  description : String

/-- A system role has no organization, any other one has. -/
structure Role where
  id : Id
  organizationId : Option Id
  name : String
  description : Option String
  isSystemRole : Bool
  permissions : List String
  system_scope : isSystemRole = organizationId.isNone

inductive PortalType
  | full | field | hr | finance | fieldAdmin | executive
  deriving DecidableEq

structure User where
  id : Id
  organizationId : Id
  email : String
  firstName : String
  lastName : String
  isActive : Bool
  archived : Bool
  isSuperuser : Bool
  portalType : PortalType
  isFieldPortalOnly : Bool
  tokenVersion : Nat
  setupRequired : Bool
  roles : List Id

structure Employee where
  id : Id
  organizationId : Id
  userId : Option Id
  workEmail : Option String
  personalEmail : Option String
  isActive : Bool
  archived : Bool

structure Directory where
  /-- The organizations that are active and not archived. -/
  organizations : List Id
  permissions : Table Permission.code
  roles : Table Role.id
  users : Table User.id
  employees : Table Employee.id

/-- What a token says about its bearer. -/
structure Caller where
  userId : Id
  organizationId : Id
  version : Nat

inductive Refusal
  | authentication (message : String)
  | app (error : AppError)
  deriving DecidableEq

/-- `str.lower`, and the form in which an e-mail is stored. -/
structure Env where
  lower : String → String
  cleanEmail : String → String

/-! ## Permissions -/

/-- `get_current_active_user`. -/
def currentUser (db : Directory) (caller : Caller) : Except Refusal User := do
  let user ← orError ((db.users.find? caller.userId).filter fun u =>
      u.organizationId = caller.organizationId ∧ u.setupRequired = false ∧
        u.tokenVersion = caller.version)
    (.authentication "User is unavailable")
  ensure (caller.organizationId ∈ db.organizations)
    (.authentication "Organization is unavailable")
  ensure (user.isActive = true ∧ user.archived = false) (.authentication "User is inactive")
  .ok user

/-- Whether a role counts in an organization. -/
def Role.InScope (organizationId : Id) (role : Role) : Prop :=
  role.isSystemRole = true ∧ role.organizationId = none ∨
    role.organizationId = some organizationId

instance (organizationId : Id) : DecidablePred (Role.InScope organizationId) := fun _ =>
  inferInstanceAs (Decidable (_ ∧ _ ∨ _))

/-- `scoped_roles`. -/
def scopedRoles (db : Directory) (user : User) : List Role :=
  (user.roles.filterMap db.roles.find?).filter fun role => role.InScope user.organizationId

def startsWith (text start : String) : Prop := start.toList <+: text.toList

instance (text start : String) : Decidable (startsWith text start) :=
  inferInstanceAs (Decidable (_ <+: _))

/-- Whether a text has one of the endings. -/
def endsWithAny (text : String) (endings : List String) : Prop :=
  ∃ ending ∈ endings, ending.toList <:+ text.toList

instance (text : String) (endings : List String) : Decidable (endsWithAny text endings) :=
  inferInstanceAs (Decidable (∃ _ ∈ _, _ <:+ _))

/-- The permissions to read assets, which field staff and employees need not have. -/
def ReadsAssets (code : String) : Prop :=
  code ∈ ["assets.read", "assets.read_assigned", "assets.read_assigned_only",
      "assets.documents.read", "asset_documents.read", "assets.insurance.read",
      "assets.registration.read", "assets.inspections.read", "assets.defects.read",
      "assets.media.read", "assets.meter.read", "assets.components.read", "assets.audit.read"] ∨
    startsWith code "assets." ∧ endsWithAny code [".read", ".view", "_assigned"]

instance (code : String) : Decidable (ReadsAssets code) :=
  inferInstanceAs (Decidable (_ ∨ _ ∧ _))

def leadKeywords : List String :=
  ["supervisor", "manager", "foreman", "lead", "driller", "superintendent", "engineer", "operator"]

def leads (env : Env) (role : Role) : Bool :=
  leadKeywords.any fun keyword => decide (keyword.toList <:+: (env.lower role.name).toList)

/-- Whether the user has a profile of an employee; of one who has, the assignments do not
matter. -/
def employed (db : Directory) (user : User) : Bool :=
  db.employees.rows.any fun e => e.organizationId = user.organizationId ∧
    e.userId = some user.id ∧ e.isActive = true ∧ e.archived = false

/-- `alias`. -/
def aliasFor (code : String) : String :=
  (([("assets.meter.record", "assets.record_meter"),
      ("assets.record_meter", "assets.meter.record"),
      ("assets.documents.read", "asset_documents.read"),
      ("asset_documents.read", "assets.documents.read"),
      ("assets.documents.manage", "asset_documents.manage"),
      ("asset_documents.manage", "assets.documents.manage"),
      ("departments.manage", "employees.update"),
      ("positions.manage", "employees.update"),
      ("employees.contracts.manage", "employees.documents.manage"),
      ("projects.tasks.manage", "projects.update"),
      ("assets.assignments.manage", "assets.update"),
      ("assets.transfers.manage", "assets.update"),
      ("assets.logs.write", "assets.update"),
      ("assets.read_write", "assets.update"),
      ("projects.financials.read", "projects.read"),
      ("intelligence.read", "projects.read"),
      ("roles.manage", "users.create"),
      ("employees.contracts.read", "employees.documents.read"),
      ("employees.contracts.write", "employees.documents.manage"),
      ("employees.salary.write", "employees.salary.manage"),
      ("projects.read_assigned", "projects.read"),
      ("assets.read_assigned", "assets.read"),
      ("inventory.read_assigned", "inventory.read")] : List (String × String)).lookup code).getD code

def assetCodes : List String :=
  ["assets.read", "assets.read_assigned", "assets.read_assigned_only", "assets.read_write",
    "assets.update", "assets.manage", "assets.write", "assets.create", "assets.assignments.manage",
    "assets.transfers.manage", "assets.logs.write", "assets.assign", "assets.transfer"]

def assetEdits : List String :=
  ["assets.manage", "assets.write", "assets.update", "assets.read_write", "assets.create",
    "assets.assignments.manage", "assets.transfers.manage"]

/-- `allowed_codes`: any of these permissions is enough. -/
def allowedCodes (code : String) : List String :=
  [code, aliasFor code] ++
    (if startsWith code "assets." ∨ startsWith code "asset_documents." then
      if endsWithAny code [".read", ".view", "_assigned", "_assigned_only"] then assetCodes
      else if endsWithAny code [".update", ".create", ".manage", ".assign", ".transfer",
          ".override", ".change", ".record"] then assetEdits
      else []
    else []) ++
    (if code = "projects.read" then ["projects.read_assigned"] else []) ++
    (if code = "inventory.read" then ["inventory.read_assigned"] else []) ++
    (if code = "employees.read" then ["employees.read_assigned"] else [])

/-- `require_permission` of a user. -/
def permits (env : Env) (db : Directory) (user : User) (code : String) : Bool :=
  user.isSuperuser ||
    (decide (ReadsAssets code) &&
      (user.isFieldPortalOnly || (scopedRoles db user).any (leads env) || employed db user)) ||
    (scopedRoles db user).any fun role => role.permissions.any (allowedCodes code).contains

def requirePermission (env : Env) (db : Directory) (caller : Caller) (code : String) :
    Except Refusal User := do
  let user ← currentUser db caller
  ensure (permits env db user code = true) (.app (.forbidden "Required permission is missing"))
  .ok user

/-! ## Requests -/

structure UserCreate where
  email : String
  firstName : String
  lastName : String
  portalType : PortalType

structure RoleCreate where
  name : String
  description : Option String
  permissionCodes : List String

/-- The fields that are given. -/
structure UserUpdate where
  firstName : Option String
  lastName : Option String
  isActive : Option Bool
  isSuperuser : Option Bool
  isFieldPortalOnly : Option Bool
  portalType : Option PortalType
  roleIds : Option (List Id)

inductive Request
  | listPermissions (caller : Caller)
  | createUser (caller : Caller) (body : UserCreate) (id : Id)
  | createRole (caller : Caller) (body : RoleCreate) (id : Id)
  | updateRolePermissions (caller : Caller) (roleId : Id) (permissionCodes : List String)
  | updateUser (caller : Caller) (userId : Id) (body : UserUpdate)

def Request.caller : Request → Caller
  | .listPermissions caller => caller
  | .createUser caller _ _ => caller
  | .createRole caller _ _ => caller
  | .updateRolePermissions caller _ _ => caller
  | .updateUser caller _ _ => caller

/-- The permission that the endpoint requires. -/
def Request.permission : Request → String
  | .listPermissions _ => "users.read"
  | _ => "users.create"

/-- `system_perms`. -/
def systemPermissions : List Permission := [
  ⟨"projects.read", "Read basic project information"⟩,
  ⟨"projects.read_all", "Read all organization projects without assignment restrictions"⟩,
  ⟨"projects.read_assigned", "Read only projects assigned to the user or their team"⟩,
  ⟨"projects.financials.read", "View sensitive project financials and budget values"⟩,
  ⟨"projects.create", "Create new projects"⟩,
  ⟨"projects.update", "Update project details and settings"⟩,
  ⟨"projects.tasks.manage", "Assign tasks to self/others and manage project task logs"⟩,
  ⟨"employees.read_basic", "View workforce records"⟩,
  ⟨"employees.create", "Create new employee profiles"⟩,
  ⟨"employees.write", "Update employee profile details"⟩,
  ⟨"employees.contracts.read", "View employment contract documents"⟩,
  ⟨"employees.contracts.write", "Upload, update, or archive employment contract documents"⟩,
  ⟨"employees.salary.read", "View salary records"⟩,
  ⟨"employees.salary.write", "Create or close salary periods"⟩,
  ⟨"employees.salary.manage", "Record or end salary periods"⟩,
  ⟨"employees.alerts.manage", "Manage contract alert rules"⟩,
  ⟨"departments.manage", "Create, update, or delete departments"⟩,
  ⟨"positions.manage", "Create, update, or delete positions"⟩,
  ⟨"assets.read", "View equipment register"⟩,
  ⟨"assets.read_assigned", "View only equipment assigned to the user or their team"⟩,
  ⟨"assets.read_write", "Read and update equipment details and operational status"⟩,
  ⟨"assets.create", "Add new equipment"⟩,
  ⟨"assets.update", "Update equipment details"⟩,
  ⟨"assets.assignments.manage", "Assign equipment to projects or operators"⟩,
  ⟨"assets.logs.write", "Record maintenance, fuel, and meter logs"⟩,
  ⟨"assets.transfers.manage", "Perform equipment transfers across sites/stores"⟩,
  ⟨"assets.archive", "Retire or archive equipment"⟩,
  ⟨"inventory.read", "View inventory catalog, stock balances, and stores"⟩,
  ⟨"inventory.read_assigned", "View only assigned stores, stock, or project inventory"⟩,
  ⟨"inventory.requests.create", "Submit material requests"⟩,
  ⟨"inventory.requests.manage", "Approve or reject material requests"⟩,
  ⟨"inventory.write", "Post receipts, issues, transfers, and adjustments"⟩,
  ⟨"inventory.audits.manage", "Conduct stock counts and audits"⟩,
  ⟨"inventory.manage", "Full inventory administration and access configuration"⟩,
  ⟨"users.read", "View system users and security roles"⟩,
  ⟨"users.create", "Create and update user accounts and role assignments"⟩,
  ⟨"roles.manage", "Manage roles and edit permission matrix"⟩,
  ⟨"drilling.shifts.create", "Create daily shift production reports"⟩,
  ⟨"drilling.shifts.approve",
    "Approve daily shift production reports and trigger commercial revenue posting"⟩,
  ⟨"reports.approve", "Approve field reports, operational updates, and shift production summaries"⟩,
  ⟨"documents.download", "Download raw files and sensitive attachments"⟩]

/-- The permissions with those that are missing. -/
@[irreducible] def withMissing (permissions : Table Permission.code) : Table Permission.code :=
  systemPermissions.foldl (fun t p => (t.insert? p).getD t) permissions

/-- `list_permissions`. -/
def listPermissions (db : Directory) : Directory :=
  { db with permissions := withMissing db.permissions }

@[simp] theorem listPermissions_users (db : Directory) :
    (listPermissions db).users = db.users := rfl

@[simp] theorem listPermissions_roles (db : Directory) :
    (listPermissions db).roles = db.roles := rfl

@[simp] theorem listPermissions_employees (db : Directory) :
    (listPermissions db).employees = db.employees := rfl

/-- The codes of those permissions that exist. -/
def existing (db : Directory) (codes : List String) : List String :=
  (db.permissions.rows.map (·.code)).filter (· ∈ codes)

/-- The employee whose e-mail the new user has. -/
def employeeWith (db : Directory) (organizationId : Id) (email : String) : Option Employee :=
  db.employees.rows.find? fun e => e.organizationId = organizationId ∧
    (e.workEmail = some email ∨ e.personalEmail = some email)

def createUser (env : Env) (db : Directory) (actor : User) (body : UserCreate) (id : Id) :
    Except Refusal Directory := do
  let email := env.cleanEmail body.email
  ensure (∀ u ∈ db.users.rows, ¬ (u.organizationId = actor.organizationId ∧ u.email = email))
    (.app .internal)
  let user : User := {
    id := id
    organizationId := actor.organizationId
    email := email
    firstName := body.firstName
    lastName := body.lastName
    isActive := true
    archived := false
    isSuperuser := false
    portalType := body.portalType
    isFieldPortalOnly := body.portalType = .field
    tokenVersion := 0
    setupRequired := true
    roles := [] }
  let users ← orError (db.users.insert? user) (.app .internal)
  let employee := employeeWith db actor.organizationId email
  ensure (∀ e ∈ employee, ∀ other ∈ db.employees.rows, other.organizationId = e.organizationId →
    other.workEmail = some email → other.id = e.id) (.app .internal)
  let employees := (employee.map fun e =>
    db.employees.set { e with userId := some id, workEmail := some email }).getD db.employees
  .ok { db with users, employees }

def createRole (db : Directory) (actor : User) (body : RoleCreate) (id : Id) :
    Except Refusal Directory := do
  ensure (∀ role ∈ db.roles.rows,
      ¬ (role.organizationId = some actor.organizationId ∧ role.name = body.name))
    (.app (.conflict ("A role named '" ++ body.name ++
      "' already exists in your organization")))
  let roles ← orError (db.roles.insert? ⟨id, some actor.organizationId, body.name,
    body.description, false, existing db body.permissionCodes, rfl⟩) (.app .internal)
  .ok { db with roles }

def updateRolePermissions (db : Directory) (actor : User) (roleId : Id)
    (permissionCodes : List String) : Except Refusal Directory := do
  let role ← orError ((db.roles.find? roleId).filter fun role =>
      role.organizationId = some actor.organizationId ∨ role.isSystemRole = true)
    (.app (.notFound "Role not found"))
  ensure (role.isSystemRole = true → actor.isSuperuser = true)
    (.app (.forbidden "System roles can only be modified by superadmins"))
  .ok { db with roles := db.roles.set { role with permissions := existing db permissionCodes } }

/-- The portal of a user, and whether it is the only one, after an update. -/
def portalAfter (user : User) (body : UserUpdate) : PortalType × Bool :=
  match body.portalType with
  | some portalType => (portalType, portalType = .field)
  | none =>
    match body.isFieldPortalOnly with
    | some only =>
      (if only = true ∧ user.portalType = .full then .field else user.portalType, only)
    | none => (user.portalType, user.isFieldPortalOnly)

def updateUser (db : Directory) (actor : User) (userId : Id) (body : UserUpdate) :
    Except Refusal Directory := do
  let user ← orError ((db.users.find? userId).filter fun u =>
    u.organizationId = actor.organizationId) (.app (.notFound "User not found"))
  ensure (body.isSuperuser ≠ none → actor.isSuperuser = true)
    (.app (.forbidden "Only superadmins can grant or revoke superuser status"))
  let found := db.roles.rows.filter fun role =>
    role.organizationId = some actor.organizationId ∨ role.isSystemRole = true
  .ok { db with users := db.users.set { user with
    firstName := body.firstName.getD user.firstName
    lastName := body.lastName.getD user.lastName
    isActive := body.isActive.getD user.isActive
    isSuperuser := body.isSuperuser.getD user.isSuperuser
    portalType := (portalAfter user body).1
    isFieldPortalOnly := (portalAfter user body).2
    roles := (body.roleIds.map fun ids =>
      (found.map (·.id)).filter (· ∈ ids)).getD user.roles } }

/-- Whether the request adds the permissions that are missing, which stays when it is refused. -/
def Request.seeds : Request → Bool
  | .listPermissions _ | .createRole .. | .updateRolePermissions .. => true
  | _ => false

/-- What a user asks for whom the endpoint admits. -/
def perform (env : Env) (db : Directory) (actor : User) : Request → Except Refusal Directory
  | .listPermissions _ => .ok db
  | .createUser _ body id => createUser env db actor body id
  | .createRole _ body id => createRole db actor body id
  | .updateRolePermissions _ roleId codes => updateRolePermissions db actor roleId codes
  | .updateUser _ userId body => updateUser db actor userId body

/-- What a request leaves, and whether it was refused. -/
def respond (env : Env) (db : Directory) (r : Request) : Directory × Except Refusal Unit :=
  match requirePermission env db r.caller r.permission with
  | .error e => (db, .error e)
  | .ok actor =>
    let seeded := if r.seeds then listPermissions db else db
    match perform env seeded actor r with
    | .error e => (seeded, .error e)
    | .ok db' => (db', .ok ())

def step (env : Env) (db : Directory) (r : Request) : Directory := (respond env db r).1

/-! ## What requests write -/

section Effects

variable {env : Env} {db db' : Directory} {actor : User}

/-- A row of a table is one of the rows that are written, or was there before. -/
theorem createUser_spec {body : UserCreate} {id : Id}
    (h : createUser env db actor body id = .ok db') :
    db'.roles = db.roles ∧
      (∃ user : User, user.organizationId = actor.organizationId ∧ user.isSuperuser = false ∧
        db.users.insert? user = some db'.users) ∧
      (db'.employees = db.employees ∨ ∃ e e' : Employee, db.employees.find? e'.id = some e ∧
        e.organizationId = actor.organizationId ∧ e'.organizationId = actor.organizationId ∧
          db'.employees = db.employees.set e') := by
  simp only [createUser, ensure_bind_eq_ok] at h
  obtain ⟨users, hinsert, h⟩ := bind_eq_ok.1 h.2
  simp only [ensure_bind_eq_ok, Except.ok.injEq] at h
  obtain ⟨-, rfl⟩ := h
  refine ⟨rfl, ⟨_, ?_, ?_, orError_eq_ok.1 hinsert⟩, ?_⟩
  · rfl
  · rfl
  cases hfound : employeeWith db actor.organizationId (env.cleanEmail body.email) with
  | none => exact .inl rfl
  | some e =>
      have horganization := List.find?_some hfound
      simp only [decide_eq_true_eq] at horganization
      exact .inr ⟨e, { e with userId := some id, workEmail := some (env.cleanEmail body.email) },
        Table.find?_of_mem (List.mem_of_find?_eq_some hfound), horganization.1, horganization.1, rfl⟩

theorem createRole_spec {body : RoleCreate} {id : Id}
    (h : createRole db actor body id = .ok db') :
    db'.users = db.users ∧ db'.employees = db.employees ∧
      ∃ role : Role, role.organizationId = some actor.organizationId ∧
        db.roles.insert? role = some db'.roles := by
  simp only [createRole, ensure_bind_eq_ok] at h
  obtain ⟨roles, hinsert, h⟩ := bind_eq_ok.1 h.2
  cases h
  exact ⟨rfl, rfl, _, rfl, orError_eq_ok.1 hinsert⟩

theorem updateRolePermissions_spec {roleId : Id} {codes : List String}
    (h : updateRolePermissions db actor roleId codes = .ok db') :
    db'.users = db.users ∧ db'.employees = db.employees ∧
      ∃ role role' : Role, db.roles.find? roleId = some role ∧ role'.id = roleId ∧
        role'.organizationId = role.organizationId ∧ role'.isSystemRole = role.isSystemRole ∧
        (role.isSystemRole = true ∧ actor.isSuperuser = true ∨
          role.organizationId = some actor.organizationId) ∧
        db'.roles = db.roles.set role' := by
  obtain ⟨role, hfind, h⟩ := bind_eq_ok.1 h
  simp only [ensure_bind_eq_ok, Except.ok.injEq] at h
  obtain ⟨hsuper, rfl⟩ := h
  obtain ⟨hrole, hscope⟩ := Option.filter_eq_some_iff.1 (orError_eq_ok.1 hfind)
  simp only [decide_eq_true_eq] at hscope
  have hid : role.id = roleId := Table.key_of_find? hrole
  refine ⟨rfl, rfl, role, { role with permissions := existing db codes }, hrole, hid, rfl, rfl,
    ?_, rfl⟩
  cases hscope with
  | inl horganization => exact .inr horganization
  | inr hsystem => exact .inl ⟨hsystem, hsuper hsystem⟩

theorem updateUser_spec {userId : Id} {body : UserUpdate}
    (h : updateUser db actor userId body = .ok db') :
    db'.roles = db.roles ∧ db'.employees = db.employees ∧
      ∃ user user' : User, db.users.find? user'.id = some user ∧
        user.organizationId = actor.organizationId ∧
        user'.organizationId = actor.organizationId ∧
        (user'.isSuperuser = user.isSuperuser ∨ actor.isSuperuser = true) ∧
        db'.users = db.users.set user' := by
  obtain ⟨user, hfind, h⟩ := bind_eq_ok.1 h
  simp only [ensure_bind_eq_ok, Except.ok.injEq] at h
  obtain ⟨hsuper, rfl⟩ := h
  obtain ⟨huser, horganization⟩ := Option.filter_eq_some_iff.1 (orError_eq_ok.1 hfind)
  simp only [decide_eq_true_eq] at horganization
  refine ⟨rfl, rfl, user, _, ?_, horganization, ?_, ?_, rfl⟩
  · exact (Table.key_of_find? huser).symm ▸ huser
  · exact horganization
  · cases hgiven : body.isSuperuser with
    | none => exact .inl rfl
    | some given => exact .inr (hsuper (by simp [hgiven]))

theorem requirePermission_spec {caller : Caller} {code : String}
    (h : requirePermission env db caller code = .ok actor) :
    db.users.find? caller.userId = some actor ∧
      actor.organizationId = caller.organizationId := by
  obtain ⟨user, huser, h⟩ := bind_eq_ok.1 h
  simp only [ensure_bind_eq_ok, Except.ok.injEq] at h
  obtain ⟨-, rfl⟩ := h
  obtain ⟨found, hfind, h⟩ := bind_eq_ok.1 huser
  simp only [ensure_bind_eq_ok, Except.ok.injEq] at h
  obtain ⟨-, -, rfl⟩ := h
  obtain ⟨hrow, hsame⟩ := Option.filter_eq_some_iff.1 (orError_eq_ok.1 hfind)
  simp only [decide_eq_true_eq] at hsame
  exact ⟨hrow, hsame.1⟩

end Effects

/-! ## Other organizations -/

/-- What the users of an organization are and what they may do is the same in two states. -/
structure Directory.SameFor (organizationId : Id) (db db' : Directory) : Prop where
  users : ∀ u : User, u.organizationId = organizationId →
    (u ∈ db'.users.rows ↔ u ∈ db.users.rows)
  roles : ∀ id, (db'.roles.find? id).filter (fun role => role.InScope organizationId) =
    (db.roles.find? id).filter fun role => role.InScope organizationId
  employees : ∀ e : Employee, e.organizationId = organizationId →
    (e ∈ db'.employees.rows ↔ e ∈ db.employees.rows)

variable {env : Env} {db db' : Directory} {organizationId : Id}

theorem Directory.SameFor.refl (db : Directory) : db.SameFor organizationId db :=
  ⟨fun _ _ => .rfl, fun _ => rfl, fun _ _ => .rfl⟩

theorem Directory.SameFor.trans {db'' : Directory} (h : db.SameFor organizationId db')
    (h' : db'.SameFor organizationId db'') : db.SameFor organizationId db'' where
  users u hu := (h'.users u hu).trans (h.users u hu)
  roles id := (h'.roles id).trans (h.roles id)
  employees e he := (h'.employees e he).trans (h.employees e he)

theorem scopedRoles_eq (user : User) : scopedRoles db user = user.roles.filterMap fun id =>
    (db.roles.find? id).filter fun role => role.InScope user.organizationId := by
  rw [scopedRoles, List.filter_filterMap]

theorem Directory.SameFor.permits (h : db.SameFor organizationId db') {user : User}
    (huser : user.organizationId = organizationId) (code : String) :
    permits env db' user code = permits env db user code := by
  subst huser
  have hscoped : scopedRoles db' user = scopedRoles db user := by
    rw [scopedRoles_eq, scopedRoles_eq]
    simp only [h.roles]
  have hemployed : employed db' user = employed db user := by
    rw [Bool.eq_iff_iff, employed, employed, List.any_eq_true, List.any_eq_true]
    constructor
    · intro hsome
      obtain ⟨e, he, hprofile⟩ := hsome
      exact ⟨e, (h.employees e (of_decide_eq_true hprofile).1).1 he, hprofile⟩
    · intro hsome
      obtain ⟨e, he, hprofile⟩ := hsome
      exact ⟨e, (h.employees e (of_decide_eq_true hprofile).1).2 he, hprofile⟩
  rw [Roles.permits, Roles.permits, hscoped, hemployed]

/-- Rows of one owner are written, and rows of another one stay. -/
theorem mem_set_other {ρ κ ω : Type} {key : ρ → κ} [DecidableEq κ] {t : Table key}
    (owner : ρ → ω) {old new row : ρ} (hold : t.find? (key new) = some old)
    (howner : owner old ≠ owner row) (hnew : owner new ≠ owner row) :
    row ∈ (t.set new).rows ↔ row ∈ t.rows := by
  rw [Table.mem_set_of_find? hold]
  constructor
  · intro h
    cases h with
    | inl hkept => exact hkept.1
    | inr heq => exact absurd (congrArg owner heq).symm hnew
  · intro h
    refine .inl ⟨h, fun hkey => howner ?_⟩
    have hsame := Table.find?_of_mem h
    rw [hkey, hold] at hsame
    exact congrArg owner (Option.some.inj hsame)

theorem filter_find?_set {role role' : Role} (hrole : db.roles.find? role'.id = some role)
    (hbefore : ¬ role.InScope organizationId) (hafter : ¬ role'.InScope organizationId) (id : Id) :
    ((db.roles.set role').find? id).filter (fun role => role.InScope organizationId) =
      (db.roles.find? id).filter fun role => role.InScope organizationId := by
  by_cases hid : role'.id = id
  · subst hid
    rw [Table.find?_set_self hrole, hrole]
    simp [Option.filter, hbefore, hafter]
  · rw [Table.find?_set_ne hid]

/-- A request to change a system role by a superuser. -/
def Request.EditsSystemRole (db : Directory) : Request → Prop
  | .updateRolePermissions caller roleId _ =>
      (∃ role ∈ db.roles.find? roleId, role.isSystemRole = true) ∧
        ∃ user ∈ db.users.find? caller.userId, user.isSuperuser = true
  | _ => False

/-- What a request from elsewhere must not be. -/
def Request.Elsewhere (organizationId : Id) (db : Directory) (r : Request) : Prop :=
  r.caller.organizationId ≠ organizationId ∧ ¬ r.EditsSystemRole db

theorem perform_sameFor {actor : User} {r : Request} (hactor : actor.organizationId ≠ organizationId)
    (hsystem : ∀ caller roleId codes, r = .updateRolePermissions caller roleId codes →
      ∀ role ∈ db.roles.find? roleId, role.isSystemRole = true → actor.isSuperuser = false)
    (h : perform env db actor r = .ok db') : db.SameFor organizationId db' := by
  cases r with
  | listPermissions caller =>
      cases h
      exact .refl db
  | createUser caller body id =>
      obtain ⟨hroles, ⟨user, huser, -, hinsert⟩, hemployees⟩ := createUser_spec h
      refine ⟨fun u hu => ?_, fun id => by rw [hroles], fun e he => ?_⟩
      · rw [Table.mem_insert? hinsert]
        refine ⟨fun hmem => hmem.resolve_right fun heq => ?_, .inl⟩
        exact hactor (huser.symm.trans (heq ▸ hu))
      · cases hemployees with
        | inl hsame => rw [hsame]
        | inr hset =>
            obtain ⟨old, new, hold, howner, hnew, hset⟩ := hset
            rw [hset]
            exact mem_set_other Employee.organizationId hold
              (fun heq => hactor (howner.symm.trans (heq.trans he)))
              (fun heq => hactor (hnew.symm.trans (heq.trans he)))
  | createRole caller body id =>
      obtain ⟨husers, hemployees, role, howner, hinsert⟩ := createRole_spec h
      refine ⟨fun u _ => by rw [husers], fun id => ?_, fun e _ => by rw [hemployees]⟩
      have hout : ¬ role.InScope organizationId := by
        simp [Role.InScope, howner, hactor]
      rw [Table.find?_insert? hinsert]
      split
      · next hid =>
        have hfresh : db.roles.find? id = none :=
          Table.find?_eq_none.2 fun other hother => hid ▸ Table.insert?_fresh hinsert hother
        simp [hfresh, Option.filter, hout]
      · rfl
  | updateRolePermissions caller roleId codes =>
      obtain ⟨husers, hemployees, role, role', hrole, hid, howner, hkind, hscope, hset⟩ :=
        updateRolePermissions_spec h
      refine ⟨fun u _ => by rw [husers], fun id => ?_, fun e _ => by rw [hemployees]⟩
      have horganization : role.organizationId = some actor.organizationId := by
        cases hscope with
        | inl hsuper =>
            have hnone := hsystem caller roleId codes rfl role hrole hsuper.1
            rw [hsuper.2] at hnone
            cases hnone
        | inr hown => exact hown
      rw [hset]
      exact filter_find?_set (hid ▸ hrole) (by simp [Role.InScope, horganization, hactor])
        (by simp [Role.InScope, howner, horganization, hactor]) id
  | updateUser caller userId body =>
      obtain ⟨hroles, hemployees, user, user', hfind, hold, hnew, -, hset⟩ := updateUser_spec h
      refine ⟨fun u hu => ?_, fun id => by rw [hroles], fun e _ => by rw [hemployees]⟩
      rw [hset]
      exact mem_set_other User.organizationId hfind
        (fun heq => hactor (hold.symm.trans (heq.trans hu)))
        (fun heq => hactor (hnew.symm.trans (heq.trans hu)))

theorem step_sameFor {r : Request} (h : r.Elsewhere organizationId db) :
    db.SameFor organizationId (step env db r) := by
  unfold step respond
  split
  · exact .refl db
  · next actor hactor =>
    obtain ⟨hrow, hown⟩ := requirePermission_spec hactor
    have hseeded : db.SameFor organizationId (if r.seeds then listPermissions db else db) := by
      split
      · constructor <;> simp
      · exact .refl db
    have hroles : (if r.seeds then listPermissions db else db).roles = db.roles := by
      split <;> simp
    dsimp only
    split
    · exact hseeded
    · next db' hperform =>
      refine hseeded.trans (perform_sameFor (by rw [hown]; exact h.1) ?_ hperform)
      intro caller roleId codes heq role hrole hkind
      rw [hroles] at hrole
      by_contra hsuper
      subst heq
      exact h.2 ⟨⟨role, hrole, hkind⟩, actor, hrow, by simpa using hsuper⟩

/-- Whatever is done in other organizations, short of a superuser editing a system role, an
organization keeps its users as they are, and what each of them may do. -/
theorem elsewhere_same {requests : List Request}
    (h : Meets (step env) (Request.Elsewhere organizationId) db requests) :
    ∀ u : User, u.organizationId = organizationId →
      (u ∈ (requests.foldl (step env) db).users.rows ↔ u ∈ db.users.rows) ∧
        ∀ code, permits env (requests.foldl (step env) db) u code = permits env db u code := by
  have hsame : db.SameFor organizationId (requests.foldl (step env) db) := by
    induction requests generalizing db with
    | nil => exact .refl db
    | cons r rest ih => exact (step_sameFor h.1).trans (ih h.2)
  intro u hu
  exact ⟨hsame.users u hu, hsame.permits hu⟩

namespace Sample

/-- A role with which users of the first organization manage its accounts. -/
def manager : Role := ⟨10, some 1, "Manager", none, false, ["users.create"], rfl⟩

def user (id organizationId : Id) (roles : List Id) : User where
  id := id
  organizationId := organizationId
  email := "a@b.c"
  firstName := "A"
  lastName := "B"
  isActive := true
  archived := false
  isSuperuser := false
  portalType := .full
  isFieldPortalOnly := false
  tokenVersion := 0
  setupRequired := false
  roles := roles

/-- Names and e-mails in lower case. -/
def lowerCase : Env := ⟨id, id⟩

/-- Two organizations with a user each. -/
def directory : Directory where
  organizations := [1, 2]
  permissions := .single ⟨"users.create", "Create and update user accounts and role assignments"⟩
  roles := .single manager
  users := ⟨[user 1 1 [10], user 2 2 []], by decide⟩
  employees := .empty

/-- The manager drops the permissions of the role, which no longer counts. -/
def dropping : Request := .updateRolePermissions ⟨1, 1, 0⟩ 10 []

theorem dropping_elsewhere :
    Meets (step lowerCase) (Request.Elsewhere 2) directory [dropping] := by
  refine ⟨⟨by decide, fun hsystem => ?_⟩, trivial⟩
  obtain ⟨⟨role, hrole, hkind⟩, -⟩ := hsystem
  obtain rfl : manager = role := by
    simpa [directory, Table.find?, Table.single, manager] using hrole
  cases hkind

end Sample

theorem elsewhere_same_dropping :
    permits Sample.lowerCase ([Sample.dropping].foldl (step Sample.lowerCase) Sample.directory)
      (Sample.user 2 2 []) "assets.read" =
        permits Sample.lowerCase Sample.directory (Sample.user 2 2 []) "assets.read" :=
  (elsewhere_same Sample.dropping_elsewhere (Sample.user 2 2 []) rfl).2 "assets.read"

/-! ## Superusers -/

/-- The user is a superuser of the organization. -/
def Directory.Superuser (organizationId userId : Id) (db : Directory) : Prop :=
  ∃ u, db.users.find? userId = some u ∧ u.organizationId = organizationId ∧ u.isSuperuser = true

/-- The request does not come from a superuser of the organization. -/
def Request.Ordinary (organizationId : Id) (db : Directory) (r : Request) : Prop :=
  ¬ db.Superuser organizationId r.caller.userId

theorem superuser_congr {userId : Id} (h : db'.users = db.users) :
    db'.Superuser organizationId userId ↔ db.Superuser organizationId userId := by
  rw [Directory.Superuser, Directory.Superuser, h]

theorem superuser_insert {user : User} (hinsert : db.users.insert? user = some db'.users)
    (hnew : user.isSuperuser = false) (userId : Id) :
    db'.Superuser organizationId userId ↔ db.Superuser organizationId userId := by
  unfold Directory.Superuser
  rw [Table.find?_insert? hinsert]
  split
  · next hid =>
    have hfresh : db.users.find? userId = none :=
      Table.find?_eq_none.2 fun other hother => hid ▸ Table.insert?_fresh hinsert hother
    simp [hfresh, hnew]
  · rfl

theorem superuser_set {user user' : User} (hfind : db.users.find? user'.id = some user)
    (hset : db'.users = db.users.set user') (horganization : user'.organizationId = user.organizationId)
    (hsame : user.organizationId = organizationId → user'.isSuperuser = user.isSuperuser)
    (userId : Id) : db'.Superuser organizationId userId ↔ db.Superuser organizationId userId := by
  unfold Directory.Superuser
  rw [hset]
  by_cases hid : user'.id = userId
  · subst hid
    rw [Table.find?_set_self hfind, hfind]
    simp only [Option.some.injEq, exists_eq_left', horganization]
    exact and_congr_right fun howner => by rw [hsame howner]
  · rw [Table.find?_set_ne hid]

theorem perform_superuser {actor : User} {r : Request} {userId : Id}
    (hactor : actor.organizationId = organizationId → actor.isSuperuser = false)
    (h : perform env db actor r = .ok db') :
    db'.Superuser organizationId userId ↔ db.Superuser organizationId userId := by
  cases r with
  | listPermissions caller =>
      cases h
      rfl
  | createUser caller body id =>
      obtain ⟨-, ⟨user, -, hnew, hinsert⟩, -⟩ := createUser_spec h
      exact superuser_insert hinsert hnew userId
  | createRole caller body id => exact superuser_congr (createRole_spec h).1
  | updateRolePermissions caller roleId codes =>
      exact superuser_congr (updateRolePermissions_spec h).1
  | updateUser caller id body =>
      obtain ⟨-, -, user, user', hfind, hold, hnew, hflag, hset⟩ := updateUser_spec h
      refine superuser_set hfind hset (hnew.trans hold.symm) (fun howner => ?_) userId
      cases hflag with
      | inl hsame => exact hsame
      | inr hsuper =>
          rw [hactor (hold.symm.trans howner)] at hsuper
          cases hsuper

theorem step_superuser {r : Request} {userId : Id} (h : r.Ordinary organizationId db) :
    (step env db r).Superuser organizationId userId ↔ db.Superuser organizationId userId := by
  unfold step respond
  split
  · rfl
  · next actor hactor =>
    have hseeded : (if r.seeds then listPermissions db else db).Superuser organizationId userId ↔
        db.Superuser organizationId userId := by
      split
      · exact superuser_congr (listPermissions_users db)
      · rfl
    dsimp only
    split
    · exact hseeded
    · next db' hperform =>
      refine (perform_superuser (fun howner => ?_) hperform).trans hseeded
      by_contra hsuper
      exact h ⟨actor, (requirePermission_spec hactor).1, howner, by simpa using hsuper⟩

/-- In a run without a request of a superuser of an organization its superusers stay the same:
nobody becomes one, and nobody ceases to be one. -/
theorem superusers_kept {requests : List Request}
    (h : Meets (step env) (Request.Ordinary organizationId) db requests) (userId : Id) :
    (requests.foldl (step env) db).Superuser organizationId userId ↔
      db.Superuser organizationId userId := by
  induction requests generalizing db with
  | nil => rfl
  | cons r rest ih => exact (ih h.2).trans (step_superuser h.1)

namespace Sample

theorem dropping_ordinary :
    Meets (step lowerCase) (Request.Ordinary 1) directory [dropping] := by
  refine ⟨fun hsuper => ?_, trivial⟩
  obtain ⟨u, hu, -, hflag⟩ := hsuper
  obtain rfl : user 1 1 [10] = u := by
    simpa [directory, dropping, Request.caller, Table.find?, user] using hu
  cases hflag

end Sample

theorem superusers_kept_dropping :
    ([Sample.dropping].foldl (step Sample.lowerCase) Sample.directory).Superuser 1 1 ↔
      Sample.directory.Superuser 1 1 :=
  superusers_kept Sample.dropping_ordinary 1

end Cestos.Accounts.Roles
