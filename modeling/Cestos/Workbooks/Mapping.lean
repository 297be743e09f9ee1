import Cestos.Core.Constraints
import Cestos.Core.Table

/-!
# Previews of mapped sheets

`catalog` finds the tables that a sheet can be mapped to, and `preview` checks the rows of a sheet
against such a table. Nothing is written.
-/

namespace Cestos.Workbooks.Mapping

open Cestos.Core Cestos.Core.Constraints

/-! ## Tables and schemas -/

/-- What a column refers to, and whether its table has the columns `organization_id` and
`archived_at`. -/
structure ForeignKey where
  table : String
  column : String
  hasOrganization : Bool
  hasArchivedAt : Bool

structure Column where
  name : String
  nullable : Bool
  /-- A `default` or a `server_default`. -/
  hasDefault : Bool := false
  unique : Bool := false
  foreignKeys : List ForeignKey := []

/-- The table of a model. Columns that refer to other tables have no defaults. -/
structure Model where
  tablename : String
  columns : Table Column.name
  uniqueConstraints : List (List String)
  /-- The columns of the indexes with `unique=True`. -/
  uniqueIndexes : List (List String)
  no_default : ∀ c ∈ columns.rows, c.hasDefault = true → c.foreignKeys = []

/-- What pydantic finds wrong. -/
structure Fault where
  loc : List String
  msg : String

/-- A model of pydantic, with what `model_validate` and `model_dump` make of data. It has no field
for the identifier. -/
structure Schema (ν : Type) where
  name : String
  fields : List String
  validate : List (String × String) → Except (List Fault) (Row String ν)
  dumped : ∀ data values, validate data = .ok values → ∀ name ∉ fields, values name = none
  id_notMem : "id" ∉ fields

/-! ## The catalog -/

/-- What a dependency of a route calls. -/
inductive Call
  | requirePermission (code : String)
  | requireRole (name : String)
  /-- Another function with the name `dependency`. -/
  | unknown
  | other

inductive Dependency
  | mk (call : Call) (dependencies : List Dependency)

/-- An account, with what `require_permission` and `require_role` let it do. -/
structure Account (ν : Type) where
  organizationId : ν
  hasPermission : String → Bool
  hasRole : String → Bool

structure Route (ν : Type) where
  path : String
  isApiRoute : Bool
  methods : List String
  /-- The annotations of the body parameters, if they are models of pydantic. -/
  bodyParams : List (Option (Schema ν))
  /-- Some query parameter is required. -/
  requiresQuery : Bool
  dependencies : List Dependency

/-- A schema with the table that has its fields. -/
structure Entry (ν : Type) where
  schema : Schema ν
  model : Model
  subset : ∀ name ∈ schema.fields, ∃ c ∈ model.columns.rows, c.name = name
  hasOrganization : ∃ c ∈ model.columns.rows, c.name = "organization_id"

variable {ν : Type}

def Account.allows (account : Account ν) : Call → Bool
  | .requirePermission code => account.hasPermission code
  | .requireRole name => account.hasRole name
  | .unknown => false
  | .other => true

mutual

/-- What is called for a route is allowed, and so is what that depends on. -/
def permitted (account : Account ν) : List Dependency → Bool
  | [] => true
  | dep :: rest => Dependency.permitted account dep && permitted account rest

def Dependency.permitted (account : Account ν) : Dependency → Bool
  | .mk call dependencies => account.allows call && Mapping.permitted account dependencies

end

/-- The class that a schema creates, by its name. -/
def created (name : String) : Option String :=
  if "Create".toList <:+ name.toList then
    some (String.ofList (name.toList.take (name.toList.length - 6)))
  else none

def excluded : List String := ["User", "Role", "Permission", "Organization"]

/-- A route that takes the data of one row. -/
def Route.creates (route : Route ν) : Prop :=
  route.isApiRoute = true ∧ "POST" ∈ route.methods ∧ '\x7b' ∉ route.path.toList ∧
    "/api/v1/".toList <+: route.path.toList ∧ route.requiresQuery = false

instance (route : Route ν) : Decidable route.creates := inferInstanceAs (Decidable (_ ∧ _))

/-- The table that has all fields of the schema of a route. -/
def Route.entry (models : String → Option Model) (route : Route ν) : Option (Entry ν) :=
  match route.bodyParams with
  | [some schema] => do
    let name ← created schema.name
    let model ← models name
    if h : (∀ field ∈ schema.fields, ∃ c ∈ model.columns.rows, c.name = field) ∧
        (∃ c ∈ model.columns.rows, c.name = "organization_id") ∧ name ∉ excluded then
      some ⟨schema, model, h.1, h.2.1⟩
    else none
  | _ => none

def catalog (models : String → Option Model) (account : Account ν) (routes : List (Route ν)) :
    List (String × Entry ν) :=
  routes.filterMap fun route =>
    if route.creates ∧ permitted account route.dependencies = true then
      (route.entry models).map (Prod.mk route.path)
    else none

/-- What is entered last under a path. -/
def destination (models : String → Option Model) (account : Account ν) (routes : List (Route ν))
    (table : String) : Option (Entry ν) :=
  ((catalog models account routes).reverse.find? (·.1 = table)).map Prod.snd

/-! ## Previews -/

structure MappingRequest where
  table : String
  /-- Fields, each with its column of the sheet. -/
  mapping : List (String × Int)
  rows : List (List String)

structure Issue where
  row : Nat
  field : String
  message : String
  deriving DecidableEq

structure HTTPException where
  status : Nat
  detail : String
  deriving DecidableEq

/-- What is found out about the rows so far. -/
structure Progress (ν : Type) where
  issues : List Issue
  prepared : List (Row String ν)

structure Report (ν : Type) where
  issues : List Issue
  count : Nat
  preview : List (Row String ν)
  writesEnabled : Bool

section Cells

variable (strip : String → String)

/-- A cell of a row, unless it is blank. -/
def cell (row : List String) (column : Int) : Option String :=
  (row[column.toNat]?).bind fun value => if strip value = "" then none else some (strip value)

def rowData (mapping : List (String × Int)) (row : List String) : List (String × String) :=
  mapping.filterMap fun field => (cell strip row field.2).map (Prod.mk field.1)

def isBlank (row : List String) : Bool := row.all fun value => strip value = ""

end Cells

/-- The columns of the table that are unique together, as the metadata of the table has them. -/
def Model.keys (model : Model) : List (List String) :=
  model.uniqueConstraints ++ (model.columns.rows.filter (·.unique)).map fun c => [c.name]

/-- The values of a row with the organization of the account. -/
def inScope (organizationId : ν) (values : Row String ν) : Row String ν := fun name =>
  if name = "organization_id" then some organizationId else values name

section Checks

variable [DecidableEq ν] (db : Tables String String ν) (organizationId : ν)

/-- The row that a value refers to is one of the organization, and it is not archived. -/
def Related (fk : ForeignKey) (value : ν) : Prop :=
  ∃ r ∈ db fk.table, r fk.column = some value ∧ r "organization_id" = some organizationId ∧
    (fk.hasArchivedAt = true → (r "archived_at").isNone = true)

instance (fk : ForeignKey) (value : ν) : Decidable (Related db organizationId fk value) :=
  inferInstanceAs (Decidable (∃ r ∈ db fk.table, _))

def relationIssues (index : Nat) (name : String) (value : ν) (fk : ForeignKey) : List Issue :=
  if fk.hasOrganization = false then
    [⟨index + 1, name, "This relationship requires review in the destination form"⟩]
  else if Related db organizationId fk value then []
  else [⟨index + 1, name, "Related record not found in your organization; enter its record ID"⟩]

/-- The value of a field against its column. -/
def columnIssues (index : Nat) (column : Column) : Option ν → List Issue
  | none =>
    if column.nullable = false ∧ column.hasDefault = false then
      [⟨index + 1, column.name, "Database field cannot be null"⟩]
    else []
  | some value => column.foreignKeys.flatMap (relationIssues db organizationId index column.name value)

/-- The values under a key against the rows of the organization and those of the sheet so far. -/
def keyIssues (tablename : String) (index : Nat) (prepared : List (Row String ν))
    (values : Row String ν) (names : List String) : List Issue :=
  let own := inScope organizationId values
  if ∀ name ∈ names, (own name).isSome = true then
    (if ∃ r ∈ db tablename, r "organization_id" = some organizationId ∧
        ∀ name ∈ names, r name = own name then
      [⟨index + 1, ", ".intercalate names, "Unique values already exist"⟩] else []) ++
    if ∃ prior ∈ prepared, ∀ name ∈ names, inScope organizationId prior name = own name then
      [⟨index + 1, ", ".intercalate names, "Duplicate unique values in sheet"⟩] else []
  else []

def valueIssues (entry : Entry ν) (index : Nat) (prepared : List (Row String ν))
    (values : Row String ν) : List Issue :=
  (entry.schema.fields.flatMap fun name =>
    (entry.model.columns.find? name).elim [] fun column =>
      columnIssues db organizationId index column (values name)) ++
  entry.model.keys.flatMap (keyIssues db organizationId entry.model.tablename index prepared values)

def faultIssue (index : Nat) (fault : Fault) : Issue :=
  ⟨index + 1, ".".intercalate fault.loc, fault.msg⟩

/-- A row with its number. -/
def previewRow (strip : String → String) (entry : Entry ν) (mapping : List (String × Int))
    (progress : Progress ν) (row : List String × Nat) : Progress ν :=
  if isBlank strip row.1 = true then progress else
    match entry.schema.validate (rowData strip mapping row.1) with
    | .error faults => { progress with issues := progress.issues ++ faults.map (faultIssue row.2) }
    | .ok values => {
        issues := progress.issues ++
          valueIssues db organizationId entry row.2 progress.prepared values
        prepared := progress.prepared ++ [values] }

def previewRows (strip : String → String) (entry : Entry ν) (body : MappingRequest) : Progress ν :=
  body.rows.zipIdx.foldl (previewRow db organizationId strip entry body.mapping) ⟨[], []⟩

end Checks

def Progress.report (progress : Progress ν) : Report ν where
  issues :=
    if progress.prepared.isEmpty = true ∧ progress.issues.isEmpty = true then
      [⟨0, "", "No data rows"⟩]
    else progress.issues
  count := progress.prepared.length
  preview := progress.prepared.take 10
  writesEnabled := false

def preview [DecidableEq ν] (strip : String → String) (models : String → Option Model)
    (routes : List (Route ν)) (db : Tables String String ν) (actor : Account ν)
    (body : MappingRequest) : Except HTTPException (Report ν) := do
  ensure (body.rows.length ≤ 2000) ⟨422, "List should have at most 2000 items after validation"⟩
  let entry ← orError (destination models actor routes body.table)
    ⟨403, "This table is not available for workbook mappings"⟩
  ensure ((∀ field ∈ body.mapping, field.1 ∈ entry.schema.fields) ∧
      (body.mapping.map Prod.snd).Nodup)
    ⟨422, "Map each sheet column to at most one supported database field"⟩
  ensure (∀ field ∈ body.mapping, 0 ≤ field.2 ∧ field.2 < 100) ⟨422, "Invalid sheet column"⟩
  ensure (∀ row ∈ body.rows, row.length ≤ 100 ∧ ∀ value ∈ row, value.length ≤ 32767)
    ⟨422, "Mapped records exceed cell limits"⟩
  ensure (body.mapping.length ≤ 100) ⟨422, "Map at most 100 fields"⟩
  pure (previewRows db actor.organizationId strip entry body).report

end Cestos.Workbooks.Mapping
