import Cestos.Core.Runs
import Cestos.Fuel.Records

/-!
# What the allocations refer to

An allocation is for an asset of its organization, and takes the fuel of a delivery to its own
site, as long as no update gives it another asset or delivery.
-/

namespace Cestos.Fuel

open Cestos.Core

namespace FuelBook

variable (book : FuelBook)

/-- An asset of the organization. -/
def HasAsset (organizationId assetId : Id) : Prop :=
  ∃ asset ∈ book.assets.find? assetId, asset.organizationId = organizationId

instance (organizationId assetId : Id) : Decidable (book.HasAsset organizationId assetId) :=
  inferInstanceAs (Decidable (∃ asset ∈ book.assets.find? assetId, _))

/-- A delivery for the organization, to the site of the project. -/
def HasDelivery (organizationId projectId siteLocationId deliveryId : Id) : Prop :=
  ∃ delivery ∈ book.deliveries.find? deliveryId, delivery.organizationId = organizationId ∧
    delivery.projectId = projectId ∧ delivery.siteLocationId = siteLocationId

instance (organizationId projectId siteLocationId deliveryId : Id) :
    Decidable (book.HasDelivery organizationId projectId siteLocationId deliveryId) :=
  inferInstanceAs (Decidable (∃ delivery ∈ book.deliveries.find? deliveryId, _))

/-- The allocation is for an asset of its organization, and from a delivery to its site if it
names one. -/
structure Refers (allocation : FuelAllocation) : Prop where
  asset : book.HasAsset allocation.organizationId allocation.assetId
  delivery : ∀ deliveryId ∈ allocation.deliveryId, book.HasDelivery allocation.organizationId
    allocation.projectId allocation.siteLocationId deliveryId

instance (allocation : FuelAllocation) : Decidable (book.Refers allocation) :=
  decidable_of_iff (book.HasAsset allocation.organizationId allocation.assetId ∧
      ∀ deliveryId ∈ allocation.deliveryId, book.HasDelivery allocation.organizationId
        allocation.projectId allocation.siteLocationId deliveryId)
    ⟨fun h => ⟨h.1, h.2⟩, fun h => ⟨h.asset, h.delivery⟩⟩

/-- All allocations refer to what belongs to them. -/
def References : Prop := ∀ allocation ∈ book.allocations.rows, book.Refers allocation

instance : Decidable book.References :=
  inferInstanceAs (Decidable (∀ allocation ∈ book.allocations.rows, _))

/-- What an update gives to an allocation belongs to it. -/
def Gives (body : FuelAllocationUpdate) (allocation : FuelAllocation) : Prop :=
  (∀ assetId ∈ body.assetId.join, book.HasAsset allocation.organizationId assetId) ∧
    ∀ deliveryId ∈ body.deliveryId.join, book.HasDelivery allocation.organizationId
      allocation.projectId allocation.siteLocationId deliveryId

instance (body : FuelAllocationUpdate) (allocation : FuelAllocation) :
    Decidable (book.Gives body allocation) := inferInstanceAs (Decidable (_ ∧ _))

/-- An update gives an allocation only what belongs to it. -/
def GivesWithin (call : Caller × FuelRequest) : Prop :=
  match call.2 with
  | .updateAllocation allocationId body =>
      ∀ allocation ∈ (book.allocationOr403 call.1 allocationId).toOption, book.Gives body allocation
  | .createDelivery _ _ | .updateDelivery _ _ | .createAllocation _ _ => True

instance : DecidablePred book.GivesWithin
  | (_, .updateAllocation _ body) =>
      inferInstanceAs (Decidable (∀ allocation ∈ _, book.Gives body allocation))
  | (_, .createDelivery _ _) | (_, .updateDelivery _ _) | (_, .createAllocation _ _) =>
      inferInstanceAs (Decidable True)

end FuelBook

variable {book book' : FuelBook} {caller : Caller}

/-! ## What becomes of what an allocation refers to -/

/-- The deliveries stay where they are. -/
structure FuelBook.Stays (book book' : FuelBook) : Prop where
  assets : book'.assets = book.assets
  deliveries : ∀ organizationId projectId siteLocationId deliveryId,
    book.HasDelivery organizationId projectId siteLocationId deliveryId →
      book'.HasDelivery organizationId projectId siteLocationId deliveryId

theorem FuelBook.Stays.refers (h : book.Stays book') {allocation : FuelAllocation}
    (hrefers : book.Refers allocation) : book'.Refers allocation := by
  obtain ⟨⟨asset, hasset, horganization⟩, hdelivery⟩ := hrefers
  refine ⟨⟨asset, h.assets ▸ hasset, horganization⟩, fun deliveryId hgiven => ?_⟩
  exact h.deliveries _ _ _ _ (hdelivery deliveryId hgiven)

theorem FuelBook.stays_insert {delivery : FuelDelivery} {deliveries : Table FuelDelivery.id}
    (h : book.deliveries.insert? delivery = some deliveries) :
    book.Stays { book with deliveries } := by
  refine ⟨rfl, fun _ _ _ deliveryId => ?_⟩
  rintro ⟨old, hold, hsite⟩
  exact ⟨old, Table.find?_insert?_of_find? h hold, hsite⟩

theorem FuelBook.stays_set {delivery old : FuelDelivery}
    (hold : book.deliveries.find? delivery.id = some old)
    (hsame : delivery.organizationId = old.organizationId ∧ delivery.projectId = old.projectId ∧
      delivery.siteLocationId = old.siteLocationId) :
    book.Stays { book with deliveries := book.deliveries.set delivery } := by
  refine ⟨rfl, fun _ _ _ deliveryId => ?_⟩
  rintro ⟨other, hother, rfl, rfl, rfl⟩
  by_cases hid : delivery.id = deliveryId
  · subst hid
    obtain rfl := Option.some.inj (hold.symm.trans hother)
    exact ⟨delivery, Table.find?_set_self hold, hsame⟩
  · exact ⟨other, (Table.find?_set_ne hid).trans hother, rfl, rfl, rfl⟩

/-! ## Requests -/

namespace FuelBook

/-- What an update writes belongs to the allocation exactly if what it gives does. -/
theorem refers_apply_iff {body : FuelAllocationUpdate} {old allocation : FuelAllocation}
    (hold : book.Refers old) (h : body.apply old = .ok allocation) :
    book.Refers allocation ↔ book.Gives body old := by
  obtain rfl := body.apply_spec h
  have hasset : book.HasAsset old.organizationId (body.assetId.join.getD old.assetId) ↔
      ∀ assetId ∈ body.assetId.join, book.HasAsset old.organizationId assetId := by
    cases body.assetId.join with
    | none => simpa using hold.asset
    | some assetId => simp
  have hdelivery : (∀ deliveryId ∈ body.deliveryId.getD old.deliveryId, book.HasDelivery
        old.organizationId old.projectId old.siteLocationId deliveryId) ↔
      ∀ deliveryId ∈ body.deliveryId.join, book.HasDelivery old.organizationId old.projectId
        old.siteLocationId deliveryId := by
    cases body.deliveryId with
    | none => simpa using hold.delivery
    | some given => simp
  constructor
  · rintro ⟨hasset', hdelivery'⟩
    exact ⟨hasset.1 hasset', hdelivery.1 hdelivery'⟩
  · rintro ⟨hasset', hdelivery'⟩
    exact ⟨hasset.2 hasset', hdelivery.2 hdelivery'⟩

theorem refers_create {body : FuelAllocationCreate} {allocationId : Id}
    (hasset : (book.assets.find? body.assetId).any
      (·.organizationId = caller.organizationId) = true)
    (hdelivery : ∀ deliveryId ∈ body.deliveryId, (book.deliveries.find? deliveryId).any
      (fun delivery => suits caller body.projectId body.siteLocationId delivery) = true) :
    book.Refers (body.allocation caller allocationId) := by
  refine ⟨?_, fun deliveryId hgiven => ?_⟩
  · obtain ⟨asset, hfind, horganization⟩ := (Option.any_eq_true _ _).1 hasset
    exact ⟨asset, hfind, of_decide_eq_true horganization⟩
  · obtain ⟨delivery, hfind, hsuits⟩ := (Option.any_eq_true _ _).1 (hdelivery deliveryId hgiven)
    obtain ⟨horganization, hproject, hsite, -⟩ := of_decide_eq_true hsuits
    exact ⟨delivery, hfind, horganization, hproject, hsite⟩

theorem refers_allocations {allocations : Table FuelAllocation.id} {allocation : FuelAllocation} :
    ({ book with allocations } : FuelBook).Refers allocation ↔ book.Refers allocation :=
  ⟨fun h => ⟨h.asset, h.delivery⟩, fun h => ⟨h.asset, h.delivery⟩⟩

/-- A request that is accepted keeps what the allocations refer to exactly if an update among
them gives only what belongs to its allocation. -/
theorem serve_references_iff (hrefs : book.References) {call : Caller × FuelRequest}
    (h : book.serve call = .ok book') : book'.References ↔ book.GivesWithin call := by
  obtain ⟨caller, request⟩ := call
  cases request with
  | createDelivery body deliveryId =>
      obtain ⟨deliveries, hinsert, rfl⟩ := createFuelDelivery_ok h
      exact iff_of_true (fun allocation hmem => (stays_insert hinsert).refers (hrefs allocation hmem))
        trivial
  | updateDelivery deliveryId body =>
      obtain ⟨old, delivery, hget, -, happly, rfl⟩ := updateFuelDelivery_ok h
      have hfind := (delivery_of_ok hget).1
      have hid : delivery.id = deliveryId := (body.apply_id happly).trans (Table.key_of_find? hfind)
      have hstays := stays_set (hid ▸ hfind) (by simp [body.apply_spec happly])
      exact iff_of_true (fun allocation hmem => hstays.refers (hrefs allocation hmem)) trivial
  | createAllocation body allocationId =>
      obtain ⟨hasset, hdelivery, allocations, hinsert, rfl⟩ := createFuelAllocation_ok h
      refine iff_of_true (fun allocation hmem => refers_allocations.2 ?_) trivial
      rcases (Table.mem_insert? hinsert).1 hmem with hold | rfl
      · exact hrefs allocation hold
      · exact refers_create hasset hdelivery
  | updateAllocation allocationId body =>
      obtain ⟨old, allocation, hget, -, happly, -, rfl⟩ := updateFuelAllocation_ok h
      have hfind := (allocation_of_ok hget).1
      have hid : allocation.id = allocationId :=
        (body.apply_id happly).trans (Table.key_of_find? hfind)
      have hrows := fun other => Table.mem_set_of_find? (s := other) (hid ▸ hfind)
      have hgives := refers_apply_iff (hrefs old (Table.mem_of_find? hfind)) happly
      have hcond : book.GivesWithin (caller, .updateAllocation allocationId body) ↔
          book.Gives body old := by
        simp [GivesWithin, hget, Except.toOption]
      rw [hcond, ← hgives]
      constructor
      · intro hafter
        exact refers_allocations.1 (hafter allocation ((hrows allocation).2 (.inr rfl)))
      · intro hrefers other hother
        refine refers_allocations.2 ?_
        rcases (hrows other).1 hother with ⟨hmem, -⟩ | rfl
        · exact hrefs other hmem
        · exact hrefers

end FuelBook

/-- As long as no update gives an allocation what does not belong to it, every allocation is for
an asset of its organization and from a delivery to its site; the next request that is accepted
keeps it so exactly if it gives no such thing. -/
theorem allocations_refer_within {book : FuelBook} {calls : List (Caller × FuelRequest)}
    (hempty : book.allocations.rows = [])
    (h : Meets (settled FuelBook.serve) FuelBook.GivesWithin book calls) :
    (calls.foldl (settled FuelBook.serve) book).References ∧
      ∀ call book', (calls.foldl (settled FuelBook.serve) book).serve call = .ok book' →
        (book'.References ↔ (calls.foldl (settled FuelBook.serve) book).GivesWithin call) := by
  have hstep : ∀ book : FuelBook, ∀ call, book.References → book.GivesWithin call →
      (settled FuelBook.serve book call).References := by
    intro book call hrefs hgives
    exact settled_keeps hrefs fun book' hserve =>
      (FuelBook.serve_references_iff hrefs hserve).2 hgives
  have hfirst : book.References := by simp [FuelBook.References, hempty]
  have hrefs := h.keeps hstep hfirst
  exact ⟨hrefs, fun call book' hserve => FuelBook.serve_references_iff hrefs hserve⟩

/-! ## A delivery that is replaced, and an asset of another organization -/

namespace Sample

/-- A site of a project, an asset, and an asset of another organization. -/
def depot : FuelBook where
  projects := .single ⟨2, 1⟩
  locations := .single ⟨3, 1, some 2, true, none⟩
  assets := ⟨[⟨4, 1⟩, ⟨5, 9⟩], by decide⟩
  deliveries := .empty
  allocations := .empty

def fueller : Caller := ⟨7, 1, 100⟩

theorem hundred_positive : (0 : ℚ) < 100 := by decide

def hundred : Litres := ⟨100, hundred_positive⟩

def tanked : List (Caller × FuelRequest) :=
  [(fueller, .createDelivery { projectId := 2, siteLocationId := 3, quantityLitres := hundred } 10),
    (fueller, .createAllocation
      { projectId := 2, siteLocationId := 3, assetId := 4, quantityLitres := hundred } 20)]

/-- The allocation is taken from the delivery afterwards. -/
def attributed : List (Caller × FuelRequest) :=
  tanked ++ [(fueller, .updateAllocation 20 { deliveryId := some (some 10) })]

end Sample

theorem allocations_refer_within_attributed :
    ((Sample.attributed.foldl (settled FuelBook.serve) Sample.depot).allocations.rows.map fun a =>
        (a.assetId, a.deliveryId)) = [(4, some 10)] ∧
      (Sample.attributed.foldl (settled FuelBook.serve) Sample.depot).References :=
  ⟨by decide +kernel, (allocations_refer_within rfl (by decide +kernel)).1⟩

/-- An update moves the allocation to an asset of another organization. -/
theorem allocations_refer_within_broken : ¬ ∀ (book : FuelBook)
    (calls : List (Caller × FuelRequest)), book.allocations.rows = [] →
      (calls.foldl (settled FuelBook.serve) book).References := by
  intro h
  exact absurd (h Sample.depot
    (Sample.tanked ++ [(Sample.fueller, .updateAllocation 20 { assetId := some (some 5) })]) rfl)
    (by decide +kernel)

end Cestos.Fuel
