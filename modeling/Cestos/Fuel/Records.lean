import Cestos.Employees.Assignments

/-!
# Fuel records

Deliveries of fuel to the sites of projects, and allocations of fuel to assets. What a new record
refers to is checked. An update is accepted for a time that counts from the `recorded_at` of the
record, and writes the fields that it gives.
-/

namespace Cestos.Fuel

open Cestos.Core
open Cestos.Employees (required required_eq_ok)

abbrev Id := Nat

/-- Seconds. -/
abbrev Instant := Int

structure Project where
  id : Id
  organizationId : Id

structure Location where
  id : Id
  organizationId : Id
  projectId : Option Id
  isActive : Bool
  archivedAt : Option Instant

structure Asset where
  id : Id
  organizationId : Id

inductive FuelType
  | diesel | petrol | other
  deriving DecidableEq

abbrev Litres := {x : ℚ // 0 < x}

structure FuelDeliveryCreate where
  projectId : Id
  siteLocationId : Id
  recordedAt : Option Instant := none
  fuelType : FuelType := .diesel
  quantityLitres : Litres
  supplier : Option String := none
  referenceNumber : Option String := none
  notes : Option String := none

structure FuelAllocationCreate where
  projectId : Id
  siteLocationId : Id
  assetId : Id
  deliveryId : Option Id := none
  recordedAt : Option Instant := none
  quantityLitres : Litres
  notes : Option String := none

/-- The fields that are given; a value of `none` is an explicit null. -/
structure FuelDeliveryUpdate where
  recordedAt : Option (Option Instant) := none
  fuelType : Option (Option FuelType) := none
  quantityLitres : Option (Option Litres) := none
  supplier : Option (Option String) := none
  referenceNumber : Option (Option String) := none
  notes : Option (Option String) := none

structure FuelAllocationUpdate where
  assetId : Option (Option Id) := none
  deliveryId : Option (Option Id) := none
  recordedAt : Option (Option Instant) := none
  quantityLitres : Option (Option Litres) := none
  notes : Option (Option String) := none

structure FuelDelivery where
  id : Id
  organizationId : Id
  projectId : Id
  siteLocationId : Id
  recordedAt : Instant
  fuelType : FuelType
  quantityLitres : Litres
  supplier : Option String
  referenceNumber : Option String
  notes : Option String
  archivedAt : Option Instant
  createdById : Id

structure FuelAllocation where
  id : Id
  organizationId : Id
  projectId : Id
  siteLocationId : Id
  assetId : Id
  deliveryId : Option Id
  recordedAt : Instant
  quantityLitres : Litres
  notes : Option String
  archivedAt : Option Instant
  createdById : Id

structure FuelBook where
  projects : Table Project.id
  locations : Table Location.id
  assets : Table Asset.id
  deliveries : Table FuelDelivery.id
  allocations : Table FuelAllocation.id

/-- Whose request it is, and when it is made. -/
structure Caller where
  userId : Id
  organizationId : Id
  now : Instant

inductive FuelRequest
  | createDelivery (body : FuelDeliveryCreate) (deliveryId : Id)
  | updateDelivery (deliveryId : Id) (body : FuelDeliveryUpdate)
  | createAllocation (body : FuelAllocationCreate) (allocationId : Id)
  | updateAllocation (allocationId : Id) (body : FuelAllocationUpdate)

/-! ## What the requests check -/

def minutes (n : Int) : Int := 60 * n

def days (n : Int) : Int := 86400 * n

/-- The record is not older than the window. -/
def checkWindow (caller : Caller) (recordedAt window : Int) (refusal : String) :
    Except AppError Unit :=
  ensure (caller.now - recordedAt ≤ window) (.forbidden refusal)

/-- `past_time` of the allocations. -/
def checkPast (caller : Caller) (recordedAt : Option Instant) : Except AppError Unit :=
  ensure (∀ time ∈ recordedAt, time ≤ caller.now + minutes 10)
    (.validation "Choose a timestamp that is not in the future")

namespace FuelBook

variable (book : FuelBook) (caller : Caller)

/-- The project, and an active site that belongs to it. -/
def checkSite (projectId siteLocationId : Id) : Bool :=
  (book.projects.find? projectId).any (·.organizationId = caller.organizationId) &&
    (book.locations.find? siteLocationId).any fun site =>
      site.projectId = some projectId ∧ site.organizationId = caller.organizationId ∧
        site.isActive = true ∧ site.archivedAt = none

/-- A delivery from the same site. -/
def suits (projectId siteLocationId : Id) (delivery : FuelDelivery) : Prop :=
  delivery.organizationId = caller.organizationId ∧ delivery.projectId = projectId ∧
    delivery.siteLocationId = siteLocationId ∧ delivery.archivedAt = none

instance (projectId siteLocationId : Id) : DecidablePred (suits caller projectId siteLocationId) :=
  fun _ => inferInstanceAs (Decidable (_ ∧ _ ∧ _ ∧ _))

def deliveryOr403 (deliveryId : Id) : Except AppError FuelDelivery :=
  orError ((book.deliveries.find? deliveryId).filter fun delivery =>
    delivery.organizationId = caller.organizationId ∧ delivery.archivedAt = none)
    (.forbidden "Fuel delivery record not found")

def allocationOr403 (allocationId : Id) : Except AppError FuelAllocation :=
  orError ((book.allocations.find? allocationId).filter fun allocation =>
    allocation.organizationId = caller.organizationId ∧ allocation.archivedAt = none)
    (.forbidden "Fuel allocation record not found")

variable {book caller}

theorem delivery_of_ok {deliveryId : Id} {delivery : FuelDelivery}
    (h : book.deliveryOr403 caller deliveryId = .ok delivery) :
    book.deliveries.find? deliveryId = some delivery ∧
      delivery.organizationId = caller.organizationId ∧ delivery.archivedAt = none := by
  obtain ⟨hfind, hvisible⟩ := Option.filter_eq_some_iff.1 (orError_eq_ok.1 h)
  exact ⟨hfind, of_decide_eq_true hvisible⟩

theorem allocation_of_ok {allocationId : Id} {allocation : FuelAllocation}
    (h : book.allocationOr403 caller allocationId = .ok allocation) :
    book.allocations.find? allocationId = some allocation ∧
      allocation.organizationId = caller.organizationId ∧ allocation.archivedAt = none := by
  obtain ⟨hfind, hvisible⟩ := Option.filter_eq_some_iff.1 (orError_eq_ok.1 h)
  exact ⟨hfind, of_decide_eq_true hvisible⟩

end FuelBook

/-! ## What the requests write -/

/-- The new delivery. -/
def FuelDeliveryCreate.delivery (body : FuelDeliveryCreate) (caller : Caller) (deliveryId : Id) :
    FuelDelivery :=
  { body with
    id := deliveryId
    organizationId := caller.organizationId
    recordedAt := body.recordedAt.getD caller.now
    archivedAt := none
    createdById := caller.userId }

/-- The new allocation. -/
def FuelAllocationCreate.allocation (body : FuelAllocationCreate) (caller : Caller)
    (allocationId : Id) : FuelAllocation :=
  { body with
    id := allocationId
    organizationId := caller.organizationId
    recordedAt := body.recordedAt.getD caller.now
    archivedAt := none
    createdById := caller.userId }

/-- The delivery with the fields that are given. -/
def FuelDeliveryUpdate.apply (body : FuelDeliveryUpdate) (delivery : FuelDelivery) :
    Except AppError FuelDelivery := do
  let recordedAt ← required body.recordedAt delivery.recordedAt
  let fuelType ← required body.fuelType delivery.fuelType
  let quantityLitres ← required body.quantityLitres delivery.quantityLitres
  .ok { delivery with
    recordedAt, fuelType, quantityLitres
    supplier := body.supplier.getD delivery.supplier
    referenceNumber := body.referenceNumber.getD delivery.referenceNumber
    notes := body.notes.getD delivery.notes }

/-- The allocation with the fields that are given. -/
def FuelAllocationUpdate.apply (body : FuelAllocationUpdate) (allocation : FuelAllocation) :
    Except AppError FuelAllocation := do
  let assetId ← required body.assetId allocation.assetId
  let recordedAt ← required body.recordedAt allocation.recordedAt
  let quantityLitres ← required body.quantityLitres allocation.quantityLitres
  .ok { allocation with
    assetId
    deliveryId := body.deliveryId.getD allocation.deliveryId
    recordedAt, quantityLitres
    notes := body.notes.getD allocation.notes }

theorem FuelDeliveryUpdate.apply_spec {body : FuelDeliveryUpdate} {old delivery : FuelDelivery}
    (h : body.apply old = .ok delivery) :
    delivery = { old with
      recordedAt := body.recordedAt.join.getD old.recordedAt
      fuelType := body.fuelType.join.getD old.fuelType
      quantityLitres := body.quantityLitres.join.getD old.quantityLitres
      supplier := body.supplier.getD old.supplier
      referenceNumber := body.referenceNumber.getD old.referenceNumber
      notes := body.notes.getD old.notes } := by
  obtain ⟨_, hrecorded, h⟩ := bind_eq_ok.1 h
  obtain ⟨_, htype, h⟩ := bind_eq_ok.1 h
  obtain ⟨_, hquantity, h⟩ := bind_eq_ok.1 h
  rw [required_eq_ok hrecorded, required_eq_ok htype, required_eq_ok hquantity]
  exact (Except.ok.inj h).symm

theorem FuelAllocationUpdate.apply_spec {body : FuelAllocationUpdate}
    {old allocation : FuelAllocation} (h : body.apply old = .ok allocation) :
    allocation = { old with
      assetId := body.assetId.join.getD old.assetId
      deliveryId := body.deliveryId.getD old.deliveryId
      recordedAt := body.recordedAt.join.getD old.recordedAt
      quantityLitres := body.quantityLitres.join.getD old.quantityLitres
      notes := body.notes.getD old.notes } := by
  obtain ⟨_, hasset, h⟩ := bind_eq_ok.1 h
  obtain ⟨_, hrecorded, h⟩ := bind_eq_ok.1 h
  obtain ⟨_, hquantity, h⟩ := bind_eq_ok.1 h
  rw [required_eq_ok hasset, required_eq_ok hrecorded, required_eq_ok hquantity]
  exact (Except.ok.inj h).symm

theorem FuelDeliveryUpdate.apply_id {body : FuelDeliveryUpdate} {old delivery : FuelDelivery}
    (h : body.apply old = .ok delivery) : delivery.id = old.id := by
  rw [body.apply_spec h]

theorem FuelAllocationUpdate.apply_id {body : FuelAllocationUpdate}
    {old allocation : FuelAllocation} (h : body.apply old = .ok allocation) :
    allocation.id = old.id := by
  rw [body.apply_spec h]

namespace FuelBook

variable (book : FuelBook) (caller : Caller)

/-! ## Requests -/

def createFuelDelivery (body : FuelDeliveryCreate) (deliveryId : Id) : Except AppError FuelBook := do
  ensure (∀ time ∈ body.recordedAt, time ≤ caller.now)
    (.validation "Choose a timestamp with timezone that is not in the future")
  ensure (book.checkSite caller body.projectId body.siteLocationId = true)
    (.forbidden "Select an active site belonging to the selected project")
  let deliveries ← orError (book.deliveries.insert? (body.delivery caller deliveryId)) .internal
  .ok { book with deliveries }

def updateFuelDelivery (deliveryId : Id) (body : FuelDeliveryUpdate) : Except AppError FuelBook := do
  let delivery ← book.deliveryOr403 caller deliveryId
  checkWindow caller delivery.recordedAt (days 2)
    "Fuel delivery records older than 2 days cannot be edited."
  let delivery ← body.apply delivery
  .ok { book with deliveries := book.deliveries.set delivery }

def createFuelAllocation (body : FuelAllocationCreate) (allocationId : Id) :
    Except AppError FuelBook := do
  checkPast caller body.recordedAt
  ensure (book.checkSite caller body.projectId body.siteLocationId = true ∧
    (book.assets.find? body.assetId).any (·.organizationId = caller.organizationId) = true)
    (.forbidden "Select a valid project site and vehicle")
  ensure (∀ deliveryId ∈ body.deliveryId, (book.deliveries.find? deliveryId).any
    (fun delivery => suits caller body.projectId body.siteLocationId delivery) = true)
    (.forbidden "Select a fuel delivery from the same project site")
  let allocations ← orError (book.allocations.insert? (body.allocation caller allocationId)) .internal
  .ok { book with allocations }

/-- The foreign keys have the rows that they refer to. -/
def checkKeys (allocation : FuelAllocation) : Except AppError Unit :=
  ensure ((book.assets.find? allocation.assetId).isSome ∧
    ∀ deliveryId ∈ allocation.deliveryId, (book.deliveries.find? deliveryId).isSome) .internal

def updateFuelAllocation (allocationId : Id) (body : FuelAllocationUpdate) :
    Except AppError FuelBook := do
  checkPast caller body.recordedAt.join
  let allocation ← book.allocationOr403 caller allocationId
  checkWindow caller allocation.recordedAt (days 1)
    "Fuel allocation records older than 1 day cannot be edited."
  let allocation ← body.apply allocation
  book.checkKeys allocation
  .ok { book with allocations := book.allocations.set allocation }

/-- A request is served, or refused. -/
def serve (call : Caller × FuelRequest) : Except AppError FuelBook :=
  match call.2 with
  | .createDelivery body deliveryId => book.createFuelDelivery call.1 body deliveryId
  | .updateDelivery deliveryId body => book.updateFuelDelivery call.1 deliveryId body
  | .createAllocation body allocationId => book.createFuelAllocation call.1 body allocationId
  | .updateAllocation allocationId body => book.updateFuelAllocation call.1 allocationId body

/-! ## What a request did that was accepted -/

variable {book caller} {book' : FuelBook}

theorem createFuelDelivery_ok {body : FuelDeliveryCreate} {deliveryId : Id}
    (h : book.createFuelDelivery caller body deliveryId = .ok book') :
    ∃ deliveries, book.deliveries.insert? (body.delivery caller deliveryId) = some deliveries ∧
      book' = { book with deliveries } := by
  obtain ⟨-, h⟩ := ensure_bind_eq_ok.1 h
  obtain ⟨-, h⟩ := ensure_bind_eq_ok.1 h
  obtain ⟨deliveries, hinsert, h⟩ := orError_bind_eq_ok.1 h
  exact ⟨deliveries, hinsert, (Except.ok.inj h).symm⟩

theorem updateFuelDelivery_ok {deliveryId : Id} {body : FuelDeliveryUpdate}
    (h : book.updateFuelDelivery caller deliveryId body = .ok book') :
    ∃ old delivery, book.deliveryOr403 caller deliveryId = .ok old ∧
      caller.now - old.recordedAt ≤ days 2 ∧ body.apply old = .ok delivery ∧
      book' = { book with deliveries := book.deliveries.set delivery } := by
  obtain ⟨old, hget, h⟩ := bind_eq_ok.1 h
  obtain ⟨hwindow, h⟩ := ensure_bind_eq_ok.1 h
  obtain ⟨delivery, happly, h⟩ := bind_eq_ok.1 h
  exact ⟨old, delivery, hget, hwindow, happly, (Except.ok.inj h).symm⟩

theorem createFuelAllocation_ok {body : FuelAllocationCreate} {allocationId : Id}
    (h : book.createFuelAllocation caller body allocationId = .ok book') :
    (book.assets.find? body.assetId).any (·.organizationId = caller.organizationId) = true ∧
      (∀ deliveryId ∈ body.deliveryId, (book.deliveries.find? deliveryId).any
        (fun delivery => suits caller body.projectId body.siteLocationId delivery) = true) ∧
      ∃ allocations, book.allocations.insert? (body.allocation caller allocationId) =
          some allocations ∧ book' = { book with allocations } := by
  obtain ⟨-, h⟩ := ensure_bind_eq_ok.1 h
  obtain ⟨⟨-, hasset⟩, h⟩ := ensure_bind_eq_ok.1 h
  obtain ⟨hdelivery, h⟩ := ensure_bind_eq_ok.1 h
  obtain ⟨allocations, hinsert, h⟩ := orError_bind_eq_ok.1 h
  exact ⟨hasset, hdelivery, allocations, hinsert, (Except.ok.inj h).symm⟩

theorem updateFuelAllocation_ok {allocationId : Id} {body : FuelAllocationUpdate}
    (h : book.updateFuelAllocation caller allocationId body = .ok book') :
    ∃ old allocation, book.allocationOr403 caller allocationId = .ok old ∧
      caller.now - old.recordedAt ≤ days 1 ∧ body.apply old = .ok allocation ∧
      book.checkKeys allocation = .ok () ∧
      book' = { book with allocations := book.allocations.set allocation } := by
  obtain ⟨-, h⟩ := ensure_bind_eq_ok.1 h
  obtain ⟨old, hget, h⟩ := bind_eq_ok.1 h
  obtain ⟨hwindow, h⟩ := ensure_bind_eq_ok.1 h
  obtain ⟨allocation, happly, h⟩ := bind_eq_ok.1 h
  obtain ⟨⟨⟩, hkeys, h⟩ := bind_eq_ok.1 h
  exact ⟨old, allocation, hget, hwindow, happly, hkeys, (Except.ok.inj h).symm⟩

end FuelBook

end Cestos.Fuel
