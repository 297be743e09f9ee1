import Cestos.Core.Defaults
import Cestos.Employees.Rows

/-!
# Availability

Whether employees are available is derived for all of them at once: from what they are, and from
the assignments, rotations and trainings that the queries return, in whatever order. It does not
depend on that order, and nobody is off rotation because of one rotation who works in another.
-/

namespace Cestos.Employees

open Cestos.Core

inductive EmploymentStatus
  | active | onLeave | offRotation | outOfContract | suspended | exited | resigned | terminated
  | retired | deceased
  deriving DecidableEq

inductive RotationStatus
  | planned | onSite | offRotation | completed | cancelled
  deriving DecidableEq

inductive TrainingStatus
  | planned | inProgress | completed | failed | expired | cancelled
  deriving DecidableEq

inductive AvailabilityStatus
  | available | assigned | onLeave | offRotation | training | suspended | unavailable
  deriving DecidableEq

/-- What `rotation_state` holds. -/
inductive RotationState
  | onSite | offRotation
  deriving DecidableEq

structure StaffMember extends Employee where
  employmentStatus : Option EmploymentStatus

structure EmployeeRotation where
  id : Id
  organizationId : Id
  employeeId : Id
  workStartDate : Date
  workEndDate : Date
  offStartDate : Date
  offEndDate : Date
  status : RotationStatus

structure EmployeeTrainingRecord where
  id : Id
  organizationId : Id
  employeeId : Id
  status : TrainingStatus

/-- The rows of the tables, in the order in which the queries return them. -/
structure StaffRows where
  assignments : List EmployeeAssignment
  rotations : List EmployeeRotation
  trainings : List EmployeeTrainingRecord

/-- A call of `availability_map`; `sees` tells the employees of whom the queries return anything. -/
structure AvailabilityCall where
  organizationId : Id
  today : Date
  sees : Id → Bool
  employees : List StaffMember

/-- `INACTIVE_STATUSES`. -/
def inactiveStatuses : List EmploymentStatus :=
  [.exited, .resigned, .terminated, .retired, .deceased]

/-- The rotation covers the day with its work period. -/
def EmployeeRotation.WorksOn (rotation : EmployeeRotation) (day : Date) : Prop :=
  rotation.workStartDate ≤ day ∧ day ≤ rotation.workEndDate

def EmployeeRotation.RestsOn (rotation : EmployeeRotation) (day : Date) : Prop :=
  rotation.offStartDate ≤ day ∧ day ≤ rotation.offEndDate

instance (rotation : EmployeeRotation) : DecidablePred rotation.WorksOn :=
  fun _ => inferInstanceAs (Decidable (_ ∧ _))

instance (rotation : EmployeeRotation) : DecidablePred rotation.RestsOn :=
  fun _ => inferInstanceAs (Decidable (_ ∧ _))

/-- What a rotation makes of `rotation_state`. -/
def EmployeeRotation.entry (today : Date) (rotation : EmployeeRotation) : Entry Id RotationState :=
  if rotation.WorksOn today then .sets rotation.employeeId .onSite
  else if rotation.RestsOn today then .defaults rotation.employeeId .offRotation
  else if rotation.status = .offRotation then .defaults rotation.employeeId .offRotation
  else .skips

namespace AvailabilityCall

variable (call : AvailabilityCall)

def ids : List Id := call.employees.map (·.id)

/-- Whether the rows of an employee are selected. -/
def Selects (organizationId employeeId : Id) : Prop :=
  organizationId = call.organizationId ∧ employeeId ∈ call.ids ∧ call.sees employeeId = true

instance (organizationId employeeId : Id) : Decidable (call.Selects organizationId employeeId) :=
  inferInstanceAs (Decidable (_ ∧ _ ∧ _))

def activeAssignments (rows : StaffRows) : List Id :=
  (rows.assignments.filter fun row =>
    call.Selects row.organizationId row.employeeId ∧ row.status = .active).map (·.employeeId)

def rotations (rows : StaffRows) : List EmployeeRotation :=
  rows.rotations.filter fun row =>
    call.Selects row.organizationId row.employeeId ∧ row.status ∈ [.onSite, .offRotation]

def rotationState (rows : StaffRows) : Id → Option RotationState :=
  ((call.rotations rows).map (EmployeeRotation.entry call.today)).foldl Entry.apply fun _ => none

def trainingIds (rows : StaffRows) : List Id :=
  (rows.trainings.filter fun row =>
    call.Selects row.organizationId row.employeeId ∧ row.status = .inProgress).map (·.employeeId)

/-- The availability of one of the employees. -/
def availability (rows : StaffRows) (employee : StaffMember) : AvailabilityStatus :=
  if employee.isActive = false ∨ employee.archivedAt ≠ none then .unavailable
  else if employee.employmentStatus = some .suspended then .suspended
  else if ∃ status ∈ employee.employmentStatus, status ∈ inactiveStatuses then .unavailable
  else if employee.employmentStatus = some .onLeave then .onLeave
  else if call.rotationState rows employee.id = some .offRotation then .offRotation
  else if employee.id ∈ call.activeAssignments rows ∨
    call.rotationState rows employee.id = some .onSite then .assigned
  else if employee.id ∈ call.trainingIds rows then .training
  else if employee.employmentStatus = some .offRotation then .offRotation
  else .available

/-- `availability_map`. -/
def availabilityMap (rows : StaffRows) : Id → Option AvailabilityStatus :=
  (call.employees.map fun employee =>
    Entry.sets employee.id (call.availability rows employee)).foldl Entry.apply fun _ => none

end AvailabilityCall

/-! ## The order of the rows -/

/-- The same rows in another order. -/
structure StaffRows.Perm (rows rows' : StaffRows) : Prop where
  assignments : rows.assignments.Perm rows'.assignments
  rotations : rows.rotations.Perm rows'.rotations
  trainings : rows.trainings.Perm rows'.trainings

theorem EmployeeRotation.value?_entry (today : Date) (rotation : EmployeeRotation)
    (employeeId : Id) : (rotation.entry today).value? employeeId =
      if rotation.employeeId = employeeId ∧ rotation.WorksOn today then some .onSite else none := by
  unfold EmployeeRotation.entry
  by_cases hworks : rotation.WorksOn today
  · simp [Entry.value?, hworks]
  · simp only [hworks, if_false, and_false]
    split
    · rfl
    · split <;> rfl

theorem EmployeeRotation.default?_entry (today : Date) (rotation : EmployeeRotation)
    (employeeId : Id) : (rotation.entry today).default? employeeId =
      if rotation.employeeId = employeeId ∧ ¬ rotation.WorksOn today ∧
        (rotation.RestsOn today ∨ rotation.status = .offRotation) then some .offRotation
      else none := by
  unfold EmployeeRotation.entry
  by_cases hworks : rotation.WorksOn today
  · simp [Entry.default?, hworks]
  · by_cases hrests : rotation.RestsOn today
    · simp [Entry.default?, hworks, hrests]
    · by_cases hoff : rotation.status = .offRotation <;>
        simp [Entry.default?, hworks, hrests, hoff]

namespace AvailabilityCall

variable {call : AvailabilityCall} {rows rows' : StaffRows}

/-- Who works in one of the rotations is on site; of the others, those are off rotation whom one of
the rotations has resting, or has as off rotation. -/
theorem rotationState_apply (rows : StaffRows) (employeeId : Id) :
    call.rotationState rows employeeId =
      if ∃ row ∈ call.rotations rows, row.employeeId = employeeId ∧ row.WorksOn call.today then
        some .onSite
      else if ∃ row ∈ call.rotations rows, row.employeeId = employeeId ∧
        ¬ row.WorksOn call.today ∧ (row.RestsOn call.today ∨ row.status = .offRotation) then
        some .offRotation
      else none := by
  unfold rotationState
  rw [Entry.foldl_apply_of_const .onSite .offRotation]
  · simp [EmployeeRotation.value?_entry, EmployeeRotation.default?_entry]
  · intro entry hentry v hv
    obtain ⟨row, -, rfl⟩ := List.mem_map.1 hentry
    rw [EmployeeRotation.value?_entry] at hv
    exact (Option.some.inj (Option.ite_none_right_eq_some.1 hv).2).symm
  · intro entry hentry v hv
    obtain ⟨row, -, rfl⟩ := List.mem_map.1 hentry
    rw [EmployeeRotation.default?_entry] at hv
    exact (Option.some.inj (Option.ite_none_right_eq_some.1 hv).2).symm

theorem rotationState_congr (h : rows.Perm rows') :
    call.rotationState rows = call.rotationState rows' := by
  have hmem : ∀ row, row ∈ call.rotations rows ↔ row ∈ call.rotations rows' :=
    fun row => (h.rotations.filter _).mem_iff
  funext employeeId
  simp only [rotationState_apply, hmem]

theorem availability_congr (h : rows.Perm rows') (employee : StaffMember) :
    call.availability rows employee = call.availability rows' employee := by
  have hassigned : ∀ id, id ∈ call.activeAssignments rows ↔ id ∈ call.activeAssignments rows' :=
    fun id => ((h.assignments.filter _).map _).mem_iff
  have htraining : ∀ id, id ∈ call.trainingIds rows ↔ id ∈ call.trainingIds rows' :=
    fun id => ((h.trainings.filter _).map _).mem_iff
  simp only [availability, rotationState_congr h, hassigned, htraining]

theorem availabilityMap_congr (h : rows.Perm rows') :
    call.availabilityMap rows = call.availabilityMap rows' := by
  simp only [availabilityMap, availability_congr h]

theorem availabilityMap_apply (rows : StaffRows) (hnodup : call.ids.Nodup) {employee : StaffMember}
    (hmem : employee ∈ call.employees) :
    call.availabilityMap rows employee.id = some (call.availability rows employee) := by
  have hset : ∃ entry ∈ call.employees.map fun other =>
      Entry.sets other.id (call.availability rows other), (entry.value? employee.id).isSome :=
    ⟨_, List.mem_map_of_mem hmem, by simp [Entry.value?]⟩
  unfold availabilityMap
  rw [Entry.foldl_apply_of_const (call.availability rows employee) .unavailable, if_pos hset]
  · intro entry hentry v hv
    obtain ⟨other, hother, rfl⟩ := List.mem_map.1 hentry
    obtain ⟨hid, hv⟩ := Option.ite_none_right_eq_some.1 hv
    rw [← Option.some.inj hv, List.inj_on_of_nodup_map hnodup hother hmem hid]
  · intro entry hentry v hv
    obtain ⟨other, -, rfl⟩ := List.mem_map.1 hentry
    cases hv

end AvailabilityCall

/-- The employee is active, and neither suspended nor inactive nor on leave. -/
def StaffMember.AtWork (employee : StaffMember) : Prop :=
  (employee.isActive = true ∧ employee.archivedAt = none) ∧
    employee.employmentStatus ≠ some .suspended ∧
    (∀ status ∈ employee.employmentStatus, status ∉ inactiveStatuses) ∧
    employee.employmentStatus ≠ some .onLeave

instance : DecidablePred StaffMember.AtWork :=
  fun _ => inferInstanceAs (Decidable ((_ ∧ _) ∧ _ ∧ (∀ status ∈ _, _) ∧ _))

/-- A rotation of the employee that is looked at covers the day with its work period. -/
def StaffRows.WorksIn (rows : StaffRows) (organizationId employeeId : Id) (day : Date) : Prop :=
  ∃ rotation ∈ rows.rotations, rotation.organizationId = organizationId ∧
    rotation.employeeId = employeeId ∧ rotation.status ∈ [.onSite, .offRotation] ∧
    rotation.WorksOn day

namespace AvailabilityCall

variable {call : AvailabilityCall} {rows rows' : StaffRows} {employee : StaffMember}

/-- Who works in a rotation is on site, if the rows of the employee are returned at all. -/
theorem rotationState_of_worksIn (hmem : employee ∈ call.employees)
    (hworks : rows.WorksIn call.organizationId employee.id call.today) :
    call.rotationState rows employee.id =
      if call.sees employee.id then some .onSite else none := by
  obtain ⟨rotation, hrotation, horganization, hemployee, hstatus, hday⟩ := hworks
  have hid : employee.id ∈ call.ids := List.mem_map_of_mem hmem
  rw [rotationState_apply]
  by_cases hsees : call.sees employee.id = true
  · have hselected : rotation ∈ call.rotations rows := by
      refine List.mem_filter.2 ⟨hrotation, decide_eq_true ⟨?_, hstatus⟩⟩
      exact ⟨horganization, hemployee ▸ hid, hemployee ▸ hsees⟩
    rw [if_pos ⟨rotation, hselected, hemployee, hday⟩, if_pos hsees]
  · have hnone : ∀ row ∈ call.rotations rows, row.employeeId ≠ employee.id := by
      intro row hrow heq
      obtain ⟨⟨-, -, hseen⟩, -⟩ := of_decide_eq_true (List.mem_filter.1 hrow).2
      exact hsees (heq ▸ hseen)
    rw [if_neg hsees, if_neg, if_neg]
    · rintro ⟨row, hrow, heq, -⟩
      exact hnone row hrow heq
    · rintro ⟨row, hrow, heq, -⟩
      exact hnone row hrow heq

end AvailabilityCall

/-- The availability does not depend on the order of the rows. An employee at work who is off rotation
is so because of a rotation or of the employment status, and because of a rotation only if none is a
work period today; with one, the employee is assigned, if the rows are returned at all. -/
theorem availability_sound {call : AvailabilityCall} {rows : StaffRows}
    (hnodup : call.ids.Nodup) :
    (∀ rows', rows.Perm rows' → call.availabilityMap rows = call.availabilityMap rows') ∧
      ∀ employee ∈ call.employees, employee.AtWork →
        (call.availabilityMap rows employee.id = some .offRotation →
          call.rotationState rows employee.id = some .offRotation ∨
            employee.employmentStatus = some .offRotation) ∧
        (call.rotationState rows employee.id = some .offRotation →
          call.availabilityMap rows employee.id = some .offRotation ∧
            ¬ rows.WorksIn call.organizationId employee.id call.today) ∧
        (rows.WorksIn call.organizationId employee.id call.today → call.sees employee.id = true →
          call.availabilityMap rows employee.id = some .assigned) := by
  refine ⟨fun rows' => AvailabilityCall.availabilityMap_congr, fun employee hmem hwork => ?_⟩
  obtain ⟨⟨hactive, harchived⟩, hsuspended, hinactive, hleave⟩ := hwork
  have hkept : ¬ (employee.isActive = false ∨ employee.archivedAt ≠ none) := by
    simp [hactive, harchived]
  have hstatus : ¬ ∃ status ∈ employee.employmentStatus, status ∈ inactiveStatuses :=
    fun ⟨status, hstatus, hin⟩ => hinactive status hstatus hin
  rw [AvailabilityCall.availabilityMap_apply rows hnodup hmem, AvailabilityCall.availability,
    if_neg hkept, if_neg hsuspended, if_neg hstatus, if_neg hleave]
  refine ⟨fun hoff => ?_, fun hoff => ?_, fun hworks hsees => ?_⟩
  · split at hoff
    · next hrotation => exact .inl hrotation
    · split at hoff
      · cases hoff
      · split at hoff
        · cases hoff
        · split at hoff
          · next hemployment => exact .inr hemployment
          · cases hoff
  · refine ⟨by rw [if_pos hoff], fun hworks => ?_⟩
    rw [AvailabilityCall.rotationState_of_worksIn hmem hworks] at hoff
    split at hoff <;> cases hoff
  · have hsite := AvailabilityCall.rotationState_of_worksIn hmem hworks
    rw [if_pos hsees] at hsite
    rw [hsite, if_neg (by simp), if_pos (.inr rfl)]

namespace Sample

/-- Two employees. -/
def shift : AvailabilityCall where
  organizationId := 1
  today := 110
  sees := fun _ => true
  employees := [⟨⟨3, 1, none, none, true, none⟩, some .active⟩, ⟨⟨4, 1, none, none, true, none⟩, some .active⟩]

/-- Both rest in a rotation, and one of them works in another. -/
def rotating : StaffRows where
  assignments := []
  rotations := [⟨10, 1, 3, 80, 99, 100, 120, .offRotation⟩, ⟨11, 1, 4, 80, 99, 100, 120, .onSite⟩,
    ⟨12, 1, 3, 105, 115, 116, 130, .onSite⟩]
  trainings := []

end Sample

/-- Who works in the other rotation is assigned, in whatever order the rows are returned. -/
theorem availability_sound_rotating :
    Sample.shift.availabilityMap Sample.rotating 3 = some .assigned ∧
      Sample.shift.availabilityMap Sample.rotating 4 = some .offRotation ∧
      ∀ rows, Sample.rotating.Perm rows →
        Sample.shift.availabilityMap Sample.rotating = Sample.shift.availabilityMap rows :=
  ⟨by decide, by decide, (availability_sound (by decide)).1⟩

end Cestos.Employees
