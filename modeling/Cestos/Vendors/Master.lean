import Cestos.Errors
import Cestos.Core.Table

/-!
# The vendor master

Finance creates and updates the vendors of an organization. Purchase orders and expenses name a
vendor; one of that name is taken back if it is archived, and one is created if there is none.
-/

namespace Cestos.Vendors

open Cestos.Core

abbrev Id := Nat

/-- Seconds. -/
abbrev Instant := Int

/-- How names are compared: `strip` and `lower` of Python, and `trim` of the database, which
removes blanks only. The database lowers as Python does. -/
structure Spelling where
  strip : String → String
  lower : String → String
  trim : String → String
  strip_strip : ∀ s, strip (strip s) = strip s
  strip_trim : ∀ s, strip (trim s) = strip s
  trim_strip : ∀ s, trim (strip s) = strip s
  strip_lower : ∀ s, strip (lower s) = lower (strip s)

structure Supplier where
  id : Id
  organizationId : Id
  name : String
  supplierNumber : Option String
  bankAccountType : Option String
  paymentMethod : Option String
  bankAccountDetails : Option String
  phone : Option String
  isActive : Bool
  archivedAt : Option Instant
  createdById : Option Id
  updatedById : Option Id

structure VendorInput where
  name : String
  supplierNumber : Option String := none
  bankAccountType : Option String := none
  paymentMethod : Option String := none
  bankAccountDetails : Option String := none

/-- What an expense knows about the vendor that it names. -/
structure VendorDetails where
  phone : Option String := none
  bankAccountDetails : Option String := none
  paymentMethod : Option String := none
  bankAccountType : Option String := none

structure Caller where
  userId : Id
  organizationId : Id
  hasFinanceAccess : Bool

/-- What a query for a vendor depends on: the row that is read first, and the id and the number of
one that is created. -/
structure Draw where
  first : Id
  newId : Id
  number : String

inductive VendorRequest
  | create (body : VendorInput) (draw ensureDraw : Draw)
  | update (vendorId : Id) (body : VendorInput)
  /-- A purchase order or an expense. -/
  | ensure (name : String) (details : VendorDetails) (draw : Draw)

/-- `value or None`. -/
def given (value : Option String) : Option String := value.filter (· ≠ "")

/-- A value for a field that has none. -/
def fill (current value : Option String) : Option String :=
  if (given value).isSome ∧ given current = none then value else current

namespace VendorInput

variable (names : Spelling) (body : VendorInput)

def data : VendorInput where
  name := names.strip body.name
  supplierNumber := given body.supplierNumber
  bankAccountType := given body.bankAccountType
  paymentMethod := given body.paymentMethod
  bankAccountDetails := given body.bankAccountDetails

end VendorInput

/-- The vendors. -/
abbrev Master := Table Supplier.id

namespace Master

variable (names : Spelling) (vendors : Master)

/-! ## Rows -/

/-- The vendors that a query by name finds, archived or not. -/
def named (organizationId : Id) (name : String) : List Supplier :=
  vendors.rows.filter fun row => row.organizationId = organizationId ∧
    names.lower (names.trim row.name) = names.lower name

/-- The first row of a result. -/
def scalar (rows : List Supplier) (first : Id) : Option Supplier :=
  (rows.find? (·.id = first)).or rows.head?

/-- No other vendor of the organization has the name or the number. -/
def Fits (row : Supplier) : Prop :=
  ∀ other ∈ vendors.rows, other.id ≠ row.id → other.organizationId = row.organizationId →
    other.name ≠ row.name ∧ ∀ number ∈ row.supplierNumber, other.supplierNumber ≠ some number

instance (row : Supplier) : Decidable (Fits vendors row) :=
  inferInstanceAs (Decidable (∀ other ∈ vendors.rows, _ → _ → _ ∧ ∀ number ∈ row.supplierNumber, _))

def add (row : Supplier) : Except AppError Master := do
  ensure (Fits vendors row) .internal
  orError (vendors.insert? row) .internal

def write (row : Supplier) : Except AppError Master := do
  ensure (Fits vendors row) .internal
  .ok (vendors.set row)

/-- The next number that no vendor of the organization has. -/
def nextSupplierNumber (organizationId : Id) (draw : Draw) : Except AppError String := do
  ensure (∀ row ∈ vendors.rows, row.organizationId = organizationId →
    row.supplierNumber ≠ some draw.number) .internal
  .ok draw.number

/-- The number that is given, or the next one. -/
def numberOr (organizationId : Id) (supplierNumber : Option String) (draw : Draw) :
    Except AppError String :=
  match supplierNumber with
  | some number => .ok number
  | none => nextSupplierNumber vendors organizationId draw

/-- No vendor but the owner has the number. -/
def checkNumber (organizationId : Id) (supplierNumber : Option String) (owner : Option Id) :
    Except AppError Unit :=
  ensure (∀ number ∈ supplierNumber, ∀ other ∈ vendors.rows, other.organizationId = organizationId →
    other.supplierNumber = some number → some other.id = owner)
    (.conflict "That supplier number is already in use")

/-! ## Requests -/

/-- The vendor with the details that it lacks. -/
def restored (row : Supplier) (number : String) (details : VendorDetails) : Supplier :=
  { row with
    isActive := true
    archivedAt := none
    supplierNumber := some number
    phone := fill row.phone details.phone
    bankAccountDetails := fill row.bankAccountDetails details.bankAccountDetails
    paymentMethod := fill row.paymentMethod details.paymentMethod
    bankAccountType := fill row.bankAccountType details.bankAccountType }

def ensureVendor (caller : Caller) (name : String) (details : VendorDetails) (draw : Draw) :
    Except AppError Master := do
  let cleanName := names.strip name
  if cleanName = "" then .ok vendors
  else
    match scalar (named names vendors caller.organizationId cleanName) draw.first with
    | none => do
        let number ← nextSupplierNumber vendors caller.organizationId draw
        add vendors { details with
          id := draw.newId
          organizationId := caller.organizationId
          name := cleanName
          supplierNumber := some number
          isActive := true
          archivedAt := none
          createdById := some caller.userId
          updatedById := none }
    | some row => do
        let number ← numberOr vendors caller.organizationId (given row.supplierNumber) draw
        write vendors (restored row number details)

/-- The new vendor of a creation. -/
def created (caller : Caller) (data : VendorInput) (number : String) (draw : Draw) : Supplier :=
  { data with
    id := draw.newId
    organizationId := caller.organizationId
    supplierNumber := some number
    phone := none
    isActive := true
    archivedAt := none
    createdById := some caller.userId
    updatedById := none }

/-- A vendor that a creation finds by its name, with the fields that are given. -/
def recreated (data : VendorInput) (row : Supplier) : Supplier :=
  { row with
    name := data.name
    supplierNumber := data.supplierNumber.or row.supplierNumber
    bankAccountType := data.bankAccountType.or row.bankAccountType
    paymentMethod := data.paymentMethod.or row.paymentMethod
    bankAccountDetails := data.bankAccountDetails.or row.bankAccountDetails
    isActive := true
    archivedAt := none }

/-- The vendor that a creation writes, with the vendors after it. -/
def takeVendor (caller : Caller) (data : VendorInput) (found : Option Supplier) (draw : Draw) :
    Except AppError (Supplier × Master) :=
  match found with
  | none => do
      let number ← numberOr vendors caller.organizationId data.supplierNumber draw
      let row := created caller data number draw
      let vendors ← add vendors row
      .ok (row, vendors)
  | some old => do
      let row := recreated data old
      let vendors ← write vendors row
      .ok (row, vendors)

def createVendor (caller : Caller) (body : VendorInput) (draw ensureDraw : Draw) :
    Except AppError Master := do
  ensure (caller.hasFinanceAccess = true) (.forbidden "Finance vendor access is required")
  let data := body.data names
  ensure (data.name ≠ "") (.validation "Business name is required")
  let found := scalar (named names vendors caller.organizationId data.name) draw.first
  checkNumber vendors caller.organizationId data.supplierNumber (found.map (·.id))
  let taken ← takeVendor vendors caller data found draw
  let row := taken.1
  ensureVendor names taken.2 caller data.name
    ⟨row.phone, row.bankAccountDetails, row.paymentMethod, row.bankAccountType⟩ ensureDraw

def updateVendor (caller : Caller) (vendorId : Id) (body : VendorInput) : Except AppError Master := do
  ensure (caller.hasFinanceAccess = true) (.forbidden "Finance vendor access is required")
  let row ← orError ((vendors.find? vendorId).filter fun row =>
    row.organizationId = caller.organizationId ∧ row.archivedAt = none)
    (.notFound "Vendor not found")
  let data := body.data names
  ensure (data.name ≠ "") (.validation "Business name is required")
  ensure (∀ other ∈ named names vendors caller.organizationId data.name, other.id ≠ row.id →
    other.archivedAt ≠ none) (.conflict "A vendor with this business name already exists")
  checkNumber vendors caller.organizationId data.supplierNumber (some row.id)
  write vendors { row with
    name := data.name
    supplierNumber := data.supplierNumber
    bankAccountType := data.bankAccountType
    paymentMethod := data.paymentMethod
    bankAccountDetails := data.bankAccountDetails
    updatedById := some caller.userId }

/-- A request is served, or refused. -/
def serve (call : Caller × VendorRequest) : Except AppError Master :=
  match call.2 with
  | .create body draw ensureDraw => createVendor names vendors call.1 body draw ensureDraw
  | .update vendorId body => updateVendor names vendors call.1 vendorId body
  | .ensure name details draw => ensureVendor names vendors call.1 name details draw

end Master

end Cestos.Vendors
