import Cestos.Employees.Assignments

/-!
# Emergency contacts

Contacts are created, updated, made primary and archived. A contact that is made primary takes the
flag from the other contacts of the employee; whether it is archived is looked at by nothing but
the archiving.
-/

namespace Cestos.Employees

open Cestos.Core

structure EmployeeFamilyMember where
  id : Id
  organizationId : Id
  employeeId : Id

structure EmergencyContactCreate where
  familyMemberId : Option Id := none
  fullName : String
  relationship : Option String := none
  primaryPhone : String
  secondaryPhone : Option String := none
  email : Option String := none
  address : Option String := none
  priority : Nat := 1
  isPrimary : Bool := false
  notes : Option String := none

/-- The fields that are given; a value of `none` is an explicit null. -/
structure EmergencyContactUpdate where
  familyMemberId : Option (Option Id) := none
  fullName : Option (Option String) := none
  relationship : Option (Option String) := none
  primaryPhone : Option (Option String) := none
  secondaryPhone : Option (Option String) := none
  email : Option (Option String) := none
  address : Option (Option String) := none
  priority : Option (Option Nat) := none
  isPrimary : Option (Option Bool) := none
  notes : Option (Option String) := none

structure EmployeeEmergencyContact extends EmergencyContactCreate where
  id : Id
  organizationId : Id
  employeeId : Id
  isActive : Bool
  archivedAt : Option Instant
  createdById : Id
  updatedById : Id
  updatedAt : Instant

/-- The contacts, and what the requests read besides. -/
structure ContactBook where
  people : Database
  familyMembers : Table EmployeeFamilyMember.id
  contacts : Table EmployeeEmergencyContact.id

/-- Whose request it is, when it is made, and `str.lower`. -/
structure Requester where
  actor : Actor
  today : Date
  now : Instant
  selfService : Bool
  lower : String → String

inductive ContactRequest
  | create (employeeId : Id) (body : EmergencyContactCreate) (contactId : Id)
  | update (contactId : Id) (body : EmergencyContactUpdate)
  | setPrimary (contactId : Id)
  | archive (contactId : Id)

/-! ## What the requests read -/

def Requester.Sees (caller : Requester) (people : Database) (employeeId : Id) : Prop :=
  people.Sees caller.actor caller.today caller.selfService employeeId

instance (caller : Requester) (people : Database) : DecidablePred (caller.Sees people) :=
  fun employeeId => inferInstanceAs
    (Decidable (people.Sees caller.actor caller.today caller.selfService employeeId))

/-- `_employee_or_404`. -/
def Requester.employeeOr404 (caller : Requester) (people : Database) (employeeId : Id) :
    Except AppError Employee :=
  orError ((people.employees.find? employeeId).filter fun employee =>
    employee.organizationId = caller.actor.organizationId ∧ caller.Sees people employee.id)
    (.notFound "Employee not found")

namespace ContactBook

variable (book : ContactBook) (caller : Requester)

/-- `_get_or_404`. -/
def getOr404 (contactId : Id) : Except AppError EmployeeEmergencyContact :=
  orError ((book.contacts.find? contactId).filter fun contact =>
    contact.organizationId = caller.actor.organizationId ∧
      caller.Sees book.people contact.employeeId) (.notFound "Emergency contact not found")

/-- `_family_or_404`. -/
def familyOr404 (memberId employeeId : Id) : Except AppError Unit := do
  let member ← orError ((book.familyMembers.find? memberId).filter fun member =>
    member.organizationId = caller.actor.organizationId ∧
      caller.Sees book.people member.employeeId) (.notFound "Family member not found")
  ensure (member.employeeId = employeeId)
    (.validation "Family member belongs to a different employee")

def checkFamily (memberId : Option Id) (employeeId : Id) : Except AppError Unit :=
  match memberId with
  | none => .ok ()
  | some memberId => book.familyOr404 caller memberId employeeId

/-! ## What the requests write -/

/-- Another contact of the employee that is primary. -/
def Rivals (contact other : EmployeeEmergencyContact) : Prop :=
  other.organizationId = caller.actor.organizationId ∧
    caller.Sees book.people other.employeeId ∧ other.employeeId = contact.employeeId ∧
    other.id ≠ contact.id ∧ other.isPrimary = true

instance (contact : EmployeeEmergencyContact) : DecidablePred (book.Rivals caller contact) :=
  fun _ => inferInstanceAs (Decidable (_ ∧ _ ∧ _ ∧ _ ∧ _))

/-- What becomes of a contact when another one is made primary. -/
def yielding (contact other : EmployeeEmergencyContact) : EmployeeEmergencyContact :=
  if book.Rivals caller contact other
  then { other with isPrimary := false, updatedAt := caller.now }
  else other

theorem yielding_id (contact other : EmployeeEmergencyContact) :
    (book.yielding caller contact other).id = other.id := by
  unfold yielding
  split <;> rfl

/-- `_exclusive_primary`. -/
def exclusivePrimary (contact : EmployeeEmergencyContact) : ContactBook :=
  { book with
    contacts := book.contacts.mapRows (book.yielding caller contact) (book.yielding_id caller contact) }

/-- A row is flushed. -/
def write (contact : EmployeeEmergencyContact) : ContactBook :=
  { book with contacts := book.contacts.set contact }

/-- A contact that is primary takes the flag from the others. -/
def settle (contact : EmployeeEmergencyContact) (primary : Bool) : ContactBook :=
  if primary then book.exclusivePrimary caller contact else book

end ContactBook

/-- The new contact. -/
def EmergencyContactCreate.contact (body : EmergencyContactCreate) (caller : Requester)
    (employeeId contactId : Id) : EmployeeEmergencyContact :=
  { body with
    email := (body.email.filter (· ≠ "")).map caller.lower
    id := contactId
    organizationId := caller.actor.organizationId
    employeeId := employeeId
    isActive := true
    archivedAt := none
    createdById := caller.actor.id
    updatedById := caller.actor.id
    updatedAt := caller.now }

/-- The contact with the fields that are given. -/
def EmergencyContactUpdate.apply (body : EmergencyContactUpdate) (caller : Requester)
    (contact : EmployeeEmergencyContact) : Except AppError EmployeeEmergencyContact := do
  let fullName ← required body.fullName contact.fullName
  let primaryPhone ← required body.primaryPhone contact.primaryPhone
  let priority ← required body.priority contact.priority
  let isPrimary ← required body.isPrimary contact.isPrimary
  .ok { contact with
    familyMemberId := body.familyMemberId.getD contact.familyMemberId
    fullName
    relationship := body.relationship.getD contact.relationship
    primaryPhone
    secondaryPhone := body.secondaryPhone.getD contact.secondaryPhone
    email := (body.email.map (·.map caller.lower)).getD contact.email
    address := body.address.getD contact.address
    priority
    isPrimary
    notes := body.notes.getD contact.notes
    updatedById := caller.actor.id
    updatedAt := caller.now }

namespace ContactBook

/-! ## Requests -/

variable (book : ContactBook) (caller : Requester)

def create (employeeId : Id) (body : EmergencyContactCreate) (contactId : Id) :
    Except AppError ContactBook := do
  let _ ← caller.employeeOr404 book.people employeeId
  book.checkFamily caller body.familyMemberId employeeId
  let contact := body.contact caller employeeId contactId
  let contacts ← orError (book.contacts.insert? contact) .internal
  .ok ({ book with contacts }.settle caller contact body.isPrimary)

def update (contactId : Id) (body : EmergencyContactUpdate) : Except AppError ContactBook := do
  let contact ← book.getOr404 caller contactId
  book.checkFamily caller body.familyMemberId.join contact.employeeId
  let contact ← body.apply caller contact
  .ok ((book.write contact).settle caller contact (body.isPrimary = some (some true)))

def setPrimary (contactId : Id) : Except AppError ContactBook := do
  let contact ← book.getOr404 caller contactId
  let contact := { contact with
    isPrimary := true, updatedById := caller.actor.id, updatedAt := caller.now }
  .ok ((book.write contact).settle caller contact true)

def archive (contactId : Id) : Except AppError ContactBook := do
  let contact ← book.getOr404 caller contactId
  ensure (contact.archivedAt = none ∧ contact.isActive = true)
    (.conflict "Emergency contact is already archived")
  .ok (book.write { contact with
    isActive := false, archivedAt := some caller.now, isPrimary := false,
    updatedById := caller.actor.id, updatedAt := caller.now })

/-- A request is served, or refused. -/
def serve (call : Requester × ContactRequest) : Except AppError ContactBook :=
  match call.2 with
  | .create employeeId body contactId => book.create call.1 employeeId body contactId
  | .update contactId body => book.update call.1 contactId body
  | .setPrimary contactId => book.setPrimary call.1 contactId
  | .archive contactId => book.archive call.1 contactId

end ContactBook

end Cestos.Employees
