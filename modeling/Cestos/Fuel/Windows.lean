import Cestos.Fuel.Sites
import Mathlib.Algebra.Order.Group.Int

/-!
# How long a record can be edited

The last moment for an update counts from the `recorded_at` with which the record was created, as
long as no update gives a later one.
-/

namespace Cestos.Fuel

open Cestos.Core

inductive RecordKind
  | delivery | allocation
  deriving DecidableEq

/-- How long a record of the kind can be edited. -/
def RecordKind.window : RecordKind → Int
  | .delivery => days 2
  | .allocation => days 1

/-- What the check of an update reads of a record. -/
structure Entry where
  organizationId : Id
  recordedAt : Instant
  deriving DecidableEq

/-- The record, unless it is archived. -/
def FuelBook.findEntry (book : FuelBook) : RecordKind → Id → Option Entry
  | .delivery, id => ((book.deliveries.find? id).filter (·.archivedAt = none)).map
      fun delivery => ⟨delivery.organizationId, delivery.recordedAt⟩
  | .allocation, id => ((book.allocations.find? id).filter (·.archivedAt = none)).map
      fun allocation => ⟨allocation.organizationId, allocation.recordedAt⟩

/-- The `recorded_at` with which the request creates the record. -/
def creates (kind : RecordKind) (id : Id) (call : Caller × FuelRequest) : Option Instant :=
  match kind, call.2 with
  | .delivery, .createDelivery body deliveryId =>
      if deliveryId = id then some (body.recordedAt.getD call.1.now) else none
  | .allocation, .createAllocation body allocationId =>
      if allocationId = id then some (body.recordedAt.getD call.1.now) else none
  | _, _ => none

/-- What an update of the record gives for `recorded_at`; none if it is not such an update. -/
def FuelRequest.edits (kind : RecordKind) (id : Id) (request : FuelRequest) :
    Option (Option Instant) :=
  match kind, request with
  | .delivery, .updateDelivery deliveryId body =>
      if deliveryId = id then some body.recordedAt.join else none
  | .allocation, .updateAllocation allocationId body =>
      if allocationId = id then some body.recordedAt.join else none
  | _, _ => none

/-- An update of the record gives no `recorded_at` after `origin`. -/
def KeepsOrigin (kind : RecordKind) (id : Id) (origin : Instant) (call : Caller × FuelRequest) :
    Prop :=
  ∀ given ∈ call.2.edits kind id, ∀ time ∈ given, time ≤ origin

instance (kind : RecordKind) (id : Id) (origin : Instant) :
    DecidablePred (KeepsOrigin kind id origin) :=
  fun call => inferInstanceAs (Decidable (∀ given ∈ call.2.edits kind id, ∀ time ∈ given, _))

/-- No update of the record is accepted after `latest`. -/
def FuelBook.ClosedAfter (book : FuelBook) (kind : RecordKind) (id : Id) (latest : Instant) : Prop :=
  ∀ caller request, (request.edits kind id).isSome = true →
    (book.serve (caller, request)).isOk = true → caller.now ≤ latest

variable {book book' : FuelBook} {call : Caller × FuelRequest} {kind : RecordKind} {id : Id}
  {entry : Entry}

/-! ## What the requests do to a record -/

theorem edits_eq_some {request : FuelRequest} {given : Option Instant} :
    request.edits kind id = some given ↔
      (kind = .delivery ∧ ∃ body, request = .updateDelivery id body ∧
        body.recordedAt.join = given) ∨
      (kind = .allocation ∧ ∃ body, request = .updateAllocation id body ∧
        body.recordedAt.join = given) := by
  cases kind <;> cases request <;> simp [FuelRequest.edits, and_comm]

theorem creates_eq_some {caller : Caller} {request : FuelRequest} {origin : Instant} :
    creates kind id (caller, request) = some origin ↔
      (kind = .delivery ∧ ∃ body, request = .createDelivery body id ∧
        body.recordedAt.getD caller.now = origin) ∨
      (kind = .allocation ∧ ∃ body, request = .createAllocation body id ∧
        body.recordedAt.getD caller.now = origin) := by
  cases kind <;> cases request <;> simp [creates, and_comm]

namespace FuelBook

theorem findEntry_delivery : book.findEntry .delivery id = some entry ↔
    ∃ delivery, book.deliveries.find? id = some delivery ∧ delivery.archivedAt = none ∧
      ⟨delivery.organizationId, delivery.recordedAt⟩ = entry := by
  simp [findEntry, and_assoc]

theorem findEntry_allocation : book.findEntry .allocation id = some entry ↔
    ∃ allocation, book.allocations.find? id = some allocation ∧ allocation.archivedAt = none ∧
      ⟨allocation.organizationId, allocation.recordedAt⟩ = entry := by
  simp [findEntry, and_assoc]

/-- An update that is accepted comes within the window, and writes the time that it gives. -/
theorem edits_spec {given : Option Instant} (hedits : call.2.edits kind id = some given)
    (h : book.serve call = .ok book') :
    ∃ entry, book.findEntry kind id = some entry ∧ call.1.now - entry.recordedAt ≤ kind.window ∧
      book'.findEntry kind id = some { entry with recordedAt := given.getD entry.recordedAt } := by
  obtain ⟨caller, request⟩ := call
  rcases edits_eq_some.1 hedits with ⟨rfl, body, rfl, rfl⟩ | ⟨rfl, body, rfl, rfl⟩
  · obtain ⟨old, delivery, hget, hwindow, happly, rfl⟩ := updateFuelDelivery_ok h
    obtain ⟨hfind, -, harchived⟩ := delivery_of_ok hget
    have hid := (body.apply_id happly).trans (Table.key_of_find? hfind)
    refine ⟨_, findEntry_delivery.2 ⟨old, hfind, harchived, rfl⟩, hwindow, ?_⟩
    refine findEntry_delivery.2 ⟨delivery, ?_, ?_, ?_⟩
    · rw [← hid]
      exact Table.find?_set_self (hid ▸ hfind)
    · rw [body.apply_spec happly]
      exact harchived
    · rw [body.apply_spec happly]
  · obtain ⟨old, allocation, hget, hwindow, happly, -, rfl⟩ := updateFuelAllocation_ok h
    obtain ⟨hfind, -, harchived⟩ := allocation_of_ok hget
    have hid := (body.apply_id happly).trans (Table.key_of_find? hfind)
    refine ⟨_, findEntry_allocation.2 ⟨old, hfind, harchived, rfl⟩, hwindow, ?_⟩
    refine findEntry_allocation.2 ⟨allocation, ?_, ?_, ?_⟩
    · rw [← hid]
      exact Table.find?_set_self (hid ▸ hfind)
    · rw [body.apply_spec happly]
      exact harchived
    · rw [body.apply_spec happly]

theorem others_spec (hedits : call.2.edits kind id = none) (hentry : book.findEntry kind id = some entry)
    (h : book.serve call = .ok book') : book'.findEntry kind id = some entry := by
  obtain ⟨caller, request⟩ := call
  cases request with
  | createDelivery body deliveryId =>
      obtain ⟨deliveries, hinsert, rfl⟩ := createFuelDelivery_ok h
      cases kind with
      | allocation => exact hentry
      | delivery =>
          obtain ⟨delivery, hfind, hrest⟩ := findEntry_delivery.1 hentry
          exact findEntry_delivery.2 ⟨delivery, Table.find?_insert?_of_find? hinsert hfind, hrest⟩
  | updateDelivery deliveryId body =>
      obtain ⟨old, delivery, hget, -, happly, rfl⟩ := updateFuelDelivery_ok h
      cases kind with
      | allocation => exact hentry
      | delivery =>
          have hid := (body.apply_id happly).trans (Table.key_of_find? (delivery_of_ok hget).1)
          have hne : deliveryId ≠ id := by
            rintro rfl
            simp [FuelRequest.edits] at hedits
          obtain ⟨other, hfind, hrest⟩ := findEntry_delivery.1 hentry
          exact findEntry_delivery.2 ⟨other, (Table.find?_set_ne (hid ▸ hne)).trans hfind, hrest⟩
  | createAllocation body allocationId =>
      obtain ⟨-, -, allocations, hinsert, rfl⟩ := createFuelAllocation_ok h
      cases kind with
      | delivery => exact hentry
      | allocation =>
          obtain ⟨allocation, hfind, hrest⟩ := findEntry_allocation.1 hentry
          exact findEntry_allocation.2 ⟨allocation, Table.find?_insert?_of_find? hinsert hfind, hrest⟩
  | updateAllocation allocationId body =>
      obtain ⟨old, allocation, hget, -, happly, -, rfl⟩ := updateFuelAllocation_ok h
      cases kind with
      | delivery => exact hentry
      | allocation =>
          have hid := (body.apply_id happly).trans (Table.key_of_find? (allocation_of_ok hget).1)
          have hne : allocationId ≠ id := by
            rintro rfl
            simp [FuelRequest.edits] at hedits
          obtain ⟨other, hfind, hrest⟩ := findEntry_allocation.1 hentry
          exact findEntry_allocation.2 ⟨other, (Table.find?_set_ne (hid ▸ hne)).trans hfind, hrest⟩

/-! ## When the next update is accepted -/

/-- The record and what it refers to are there. -/
structure Stands (book : FuelBook) (kind : RecordKind) (id : Id) (entry : Entry) : Prop where
  entry : book.findEntry kind id = some entry
  keys : kind = .allocation → ∀ allocation ∈ book.allocations.find? id,
    book.checkKeys allocation = .ok ()

/-- The record is there, and is not recorded as of a time after `origin`. -/
def StandsBy (kind : RecordKind) (id : Id) (origin : Instant) (book : FuelBook) : Prop :=
  ∃ entry, book.Stands kind id entry ∧ entry.recordedAt ≤ origin

theorem checkKeys_mono {allocation : FuelAllocation} (h : book.checkKeys allocation = .ok ())
    (hassets : book'.assets = book.assets)
    (hdeliveries : ∀ id, (book.deliveries.find? id).isSome = true →
      (book'.deliveries.find? id).isSome = true) : book'.checkKeys allocation = .ok () := by
  obtain ⟨hasset, hdelivery⟩ := ensure_eq_ok.1 h
  refine ensure_eq_ok.2 ⟨hassets ▸ hasset, fun deliveryId hgiven => ?_⟩
  exact hdeliveries deliveryId (hdelivery deliveryId hgiven)

theorem checkKeys_create {caller : Caller} {body : FuelAllocationCreate}
    (hasset : (book.assets.find? body.assetId).any
      (·.organizationId = caller.organizationId) = true)
    (hdelivery : ∀ deliveryId ∈ body.deliveryId, (book.deliveries.find? deliveryId).any
      (fun delivery => suits caller body.projectId body.siteLocationId delivery) = true) :
    book.checkKeys (body.allocation caller id) = .ok () :=
  ensure_eq_ok.2 ⟨Option.isSome_of_any hasset, fun deliveryId hgiven =>
    Option.isSome_of_any (hdelivery deliveryId hgiven)⟩

/-- What the allocations refer to is there after a request if it was so before. -/
theorem keys_serve (h : book.serve call = .ok book') {allocation : FuelAllocation}
    (hkeys : ∀ old ∈ book.allocations.find? id, book.checkKeys old = .ok ())
    (hmem : book'.allocations.find? id = some allocation) :
    book'.checkKeys allocation = .ok () := by
  obtain ⟨caller, request⟩ := call
  cases request with
  | createDelivery body deliveryId =>
      obtain ⟨deliveries, hinsert, rfl⟩ := createFuelDelivery_ok h
      refine checkKeys_mono (hkeys allocation hmem) rfl fun other hsome => ?_
      obtain ⟨delivery, hfind⟩ := Option.isSome_iff_exists.1 hsome
      exact Option.isSome_iff_exists.2 ⟨delivery, Table.find?_insert?_of_find? hinsert hfind⟩
  | updateDelivery deliveryId body =>
      obtain ⟨old, delivery, -, -, -, rfl⟩ := updateFuelDelivery_ok h
      refine checkKeys_mono (hkeys allocation hmem) rfl fun other hsome => ?_
      show ((book.deliveries.set delivery).find? other).isSome = true
      rw [Table.find?_set]
      split <;> simpa using hsome
  | createAllocation body allocationId =>
      obtain ⟨hasset, hdelivery, allocations, hinsert, rfl⟩ := createFuelAllocation_ok h
      rw [Table.find?_insert? hinsert] at hmem
      split at hmem
      · obtain rfl := Option.some.inj hmem
        exact checkKeys_create hasset hdelivery
      · exact hkeys allocation hmem
  | updateAllocation allocationId body =>
      obtain ⟨old, updated, -, -, -, hnew, rfl⟩ := updateFuelAllocation_ok h
      rw [Table.find?_set] at hmem
      split at hmem
      · obtain ⟨-, -, rfl⟩ := Option.map_eq_some_iff.1 hmem
        exact hnew
      · exact hkeys allocation hmem

theorem Stands.serve (hstands : book.Stands kind id entry) (h : book.serve call = .ok book') :
    ∃ entry', book'.Stands kind id entry' ∧
      entry'.recordedAt = (call.2.edits kind id).join.getD entry.recordedAt := by
  have hkeys : kind = .allocation → ∀ allocation ∈ book'.allocations.find? id,
      book'.checkKeys allocation = .ok () := by
    intro hkind allocation hmem
    exact keys_serve h (hstands.keys hkind) hmem
  cases hedits : call.2.edits kind id with
  | none => exact ⟨entry, ⟨others_spec hedits hstands.entry h, hkeys⟩, rfl⟩
  | some given =>
      obtain ⟨old, hold, -, hnew⟩ := edits_spec hedits h
      obtain rfl := Option.some.inj (hold.symm.trans hstands.entry)
      exact ⟨_, ⟨hnew, hkeys⟩, rfl⟩

theorem creates_stands {origin : Instant} (hcreates : creates kind id call = some origin)
    (h : book.serve call = .ok book') :
    book'.Stands kind id ⟨call.1.organizationId, origin⟩ := by
  obtain ⟨caller, request⟩ := call
  rcases creates_eq_some.1 hcreates with ⟨rfl, body, rfl, rfl⟩ | ⟨rfl, body, rfl, rfl⟩
  · obtain ⟨deliveries, hinsert, rfl⟩ := createFuelDelivery_ok h
    have hfind := (Table.find?_insert? hinsert id).trans (if_pos rfl)
    exact ⟨findEntry_delivery.2 ⟨_, hfind, rfl, rfl⟩, nofun⟩
  · obtain ⟨hasset, hdelivery, allocations, hinsert, rfl⟩ := createFuelAllocation_ok h
    have hfind := (Table.find?_insert? hinsert id).trans (if_pos rfl)
    refine ⟨findEntry_allocation.2 ⟨_, hfind, rfl, rfl⟩, fun _ allocation hmem => ?_⟩
    obtain rfl := Option.some.inj (hfind.symm.trans hmem)
    exact checkKeys_create hasset hdelivery

theorem Stands.accepts (h : book.Stands kind id entry) {now : Instant}
    (hnow : now - entry.recordedAt ≤ kind.window) :
    ∃ request, request.edits kind id = some none ∧
      (book.serve (⟨0, entry.organizationId, now⟩, request)).isOk = true := by
  cases kind with
  | delivery =>
      obtain ⟨delivery, hfind, harchived, rfl⟩ := findEntry_delivery.1 h.entry
      have hget : book.deliveryOr403 ⟨0, delivery.organizationId, now⟩ id = .ok delivery := by
        simp [deliveryOr403, hfind, harchived]
      refine ⟨.updateDelivery id {}, by simp [FuelRequest.edits], ?_⟩
      refine isOk_iff.2 ⟨{ book with deliveries := book.deliveries.set delivery }, ?_⟩
      exact bind_eq_ok.2 ⟨delivery, hget, ensure_bind_eq_ok.2 ⟨hnow, rfl⟩⟩
  | allocation =>
      obtain ⟨allocation, hfind, harchived, rfl⟩ := findEntry_allocation.1 h.entry
      have hget : book.allocationOr403 ⟨0, allocation.organizationId, now⟩ id = .ok allocation := by
        simp [allocationOr403, hfind, harchived]
      refine ⟨.updateAllocation id {}, by simp [FuelRequest.edits], ?_⟩
      refine isOk_iff.2 ⟨{ book with allocations := book.allocations.set allocation }, ?_⟩
      have hkeys := h.keys rfl allocation hfind
      exact ensure_bind_eq_ok.2 ⟨by simp, bind_eq_ok.2 ⟨allocation, hget, ensure_bind_eq_ok.2 ⟨hnow,
        bind_eq_ok.2 ⟨allocation, rfl, bind_eq_ok.2 ⟨(), hkeys, rfl⟩⟩⟩⟩⟩

/-- No update is accepted after the window of `origin` exactly if the record is not younger. -/
theorem Stands.closedAfter_iff (h : book.Stands kind id entry) {origin : Instant} :
    book.ClosedAfter kind id (origin + kind.window) ↔ entry.recordedAt ≤ origin := by
  constructor
  · intro hclosed
    obtain ⟨request, hedits, hok⟩ := h.accepts (add_sub_cancel_left entry.recordedAt kind.window).le
    have hlast := hclosed _ request (by simp [hedits]) hok
    exact Int.le_of_add_le_add_right hlast
  · intro hrecorded caller request hedits hok
    obtain ⟨given, hgiven⟩ := Option.isSome_iff_exists.1 hedits
    obtain ⟨book', hserve⟩ := isOk_iff.1 hok
    obtain ⟨old, hold, hwindow, -⟩ := edits_spec hgiven hserve
    obtain rfl := Option.some.inj (hold.symm.trans h.entry)
    calc
      caller.now ≤ old.recordedAt + kind.window := sub_le_iff_le_add'.1 hwindow
      _ ≤ origin + kind.window := Int.add_le_add_right hrecorded kind.window

end FuelBook

theorem recorded_le_iff {recordedAt origin : Instant} (h : recordedAt ≤ origin) :
    (call.2.edits kind id).join.getD recordedAt ≤ origin ↔ KeepsOrigin kind id origin call := by
  unfold KeepsOrigin
  cases call.2.edits kind id with
  | none => simpa using h
  | some given => cases given <;> simp [h]

/-- From its creation on, no update of a record is accepted after the window of the `recorded_at`
with which it was created, as long as no update gives a later one; after the next request that is
accepted it stays so exactly if the request gives none. -/
theorem edits_within_window {book created : FuelBook} {call : Caller × FuelRequest}
    {calls : List (Caller × FuelRequest)} {kind : RecordKind} {id : Id} {origin : Instant}
    (hcreates : creates kind id call = some origin) (hserve : book.serve call = .ok created)
    (h : Meets (settled FuelBook.serve) (fun _ => KeepsOrigin kind id origin) created calls) :
    (calls.foldl (settled FuelBook.serve) created).ClosedAfter kind id (origin + kind.window) ∧
      ∀ next book', (calls.foldl (settled FuelBook.serve) created).serve next = .ok book' →
        (book'.ClosedAfter kind id (origin + kind.window) ↔ KeepsOrigin kind id origin next) := by
  have hstep : ∀ book : FuelBook, ∀ call, book.StandsBy kind id origin →
      KeepsOrigin kind id origin call →
      (settled FuelBook.serve book call).StandsBy kind id origin := by
    intro book call hstandsBy hkeeps
    refine settled_keeps hstandsBy fun book' hserve => ?_
    obtain ⟨entry, hstands, hle⟩ := hstandsBy
    obtain ⟨entry', hstands', hrecorded⟩ := hstands.serve hserve
    exact ⟨entry', hstands', hrecorded ▸ (recorded_le_iff hle).2 hkeeps⟩
  have hfirst : created.StandsBy kind id origin :=
    ⟨_, FuelBook.creates_stands hcreates hserve, le_refl origin⟩
  obtain ⟨entry, hstands, hle⟩ := h.keeps hstep hfirst
  refine ⟨hstands.closedAfter_iff.2 hle, fun next book' hserve => ?_⟩
  obtain ⟨entry', hstands', hrecorded⟩ := hstands.serve hserve
  rw [hstands'.closedAfter_iff, hrecorded, recorded_le_iff hle]

/-! ## A delivery that is corrected, and one that is postdated -/

namespace Sample

def filled : Caller × FuelRequest :=
  (fueller, .createDelivery { projectId := 2, siteLocationId := 3, quantityLitres := hundred } 10)

def full : FuelBook := settled FuelBook.serve depot filled

/-- After a number of days the delivery is recorded as of `time`. -/
def recorded (after : Int) (time : Instant) : Caller × FuelRequest :=
  (⟨7, 1, 100 + days after⟩, .updateDelivery 10 { recordedAt := some (some time) })

end Sample

/-- On its second day the delivery is recorded as of an earlier time, and on the third it cannot be. -/
theorem edits_within_window_corrected :
    ((Sample.full.serve (Sample.recorded 2 40)).toOption.isSome = true ∧
      (Sample.full.serve (Sample.recorded 3 40)).toOption.isSome = false) ∧
      ([Sample.recorded 2 40].foldl (settled FuelBook.serve) Sample.full).ClosedAfter .delivery 10
        (100 + RecordKind.delivery.window) := by
  refine ⟨by decide +kernel, ?_⟩
  have hfilled : Sample.depot.serve Sample.filled = .ok Sample.full := rfl
  have hcreates : creates .delivery 10 Sample.filled = some 100 := rfl
  exact (edits_within_window hcreates hfilled (by decide +kernel)).1

/-- A delivery that is recorded as of the next day can be changed for a day longer. -/
theorem edits_within_window_broken : ¬ ∀ (book created : FuelBook) (call : Caller × FuelRequest)
    (calls : List (Caller × FuelRequest)) (kind : RecordKind) (id : Id) (origin : Instant),
    creates kind id call = some origin → book.serve call = .ok created →
      (calls.foldl (settled FuelBook.serve) created).ClosedAfter kind id (origin + kind.window) := by
  intro h
  have hclosed := h Sample.depot Sample.full Sample.filled
    [Sample.recorded 1 (100 + days 1)] .delivery 10 100 rfl rfl
  have hlate := hclosed (Sample.recorded 3 0).1 (Sample.recorded 3 0).2 rfl (by decide +kernel)
  exact absurd hlate (by decide)

end Cestos.Fuel
