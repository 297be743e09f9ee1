import Cestos.Core.Json
import Cestos.Core.Runs
import Cestos.Core.Table

/-!
# PM job cards

`create_card` and `update_card`. What a card refers to is looked up when it is written: the asset,
the work order, the site and its project. Columns that are copied as they are given are left out.
-/

namespace Cestos.JobCards

open Cestos.Core

abbrev Id := Nat

/-- Microseconds since some point in the past. -/
abbrev Instant := Nat

def tenDays : Instant := 10 * 86400000000

structure Asset where
  id : Id
  organizationId : Id

structure MaintenanceWorkOrder where
  id : Id
  organizationId : Id
  assetId : Id

structure Location where
  id : Id
  organizationId : Id
  projectId : Option Id

structure PMTemplate where
  id : Id
  organizationId : Id
  inspectionItems : List Json

/-- What cards may refer to. -/
structure World where
  assets : Table Asset.id
  workOrders : Table MaintenanceWorkOrder.id
  locations : Table Location.id
  templates : Table PMTemplate.id
  projects : List Id

inductive CardStatus
  | draft | inProgress | pendingSignoff | completed | cancelled
  deriving DecidableEq

structure PMJobCard where
  id : Id
  organizationId : Id
  jobCardNumber : String
  projectId : Option Id
  siteLocationId : Option Id
  assetId : Option Id
  workOrderId : Option Id
  templateId : Option Id
  status : CardStatus
  pmControl : Json.Members
  inspectionItems : List Json
  createdAt : Instant
  completedAt : Option Instant

abbrev Cards := Table PMJobCard.id

inductive CardError
  /-- 404 "Equipment not found". -/
  | equipmentNotFound
  /-- 422 "Enter an equipment name or select equipment from this project.". -/
  | equipmentName
  /-- 422 "A saved work order can only be linked to selected registered equipment.". -/
  | unregisteredEquipment
  /-- 404 "Work order not found for this equipment". -/
  | workOrderNotFound
  /-- 409 "That PM Job Card No. is already in use. Choose another number or generate one.". -/
  | numberInUse
  /-- 404 "PM job card not found". -/
  | cardNotFound
  /-- 409 "Job cards can only be edited within 10 days of creation". -/
  | tooOld
  /-- 404 "Selected project site not found". -/
  | siteNotFound
  /-- 422 "Selected site does not belong to this project". -/
  | siteOfOtherProject
  /-- 409 "That PM Job Card No. is already in use. Choose another number.". -/
  | numberTaken
  | integrity
  deriving DecidableEq

/-! ## Creation -/

/-- The length of a number is checked with the body. -/
abbrev CardNumber := {s : String // 1 ≤ s.length ∧ s.length ≤ 50}

structure PMJobCardCreate where
  jobCardNumber : Option CardNumber := none
  projectId : Option Id := none
  siteLocationId : Option Id := none
  assetId : Option Id := none
  workOrderId : Option Id := none
  templateId : Option Id := none
  pmControl : Json.Members := []
  inspectionItems : Option (List Json) := none

/-- The systems to inspect with their tasks, in order. -/
def inspectionTasks : List (String × List String) := [
  ("ENGINE", ["Oil level, leaks, filters", "V-belt, mounts"]),
  ("COOLING SYSTEM", ["Coolant, radiator cap", "Hoses / fan blades"]),
  ("FUEL SYSTEM", ["Filters / water", "Separator / fuel cap"]),
  ("HYDRAULIC SYSTEM", ["Oil level, hoses, fittings, leaks"]),
  ("ELECTRICAL SYSTEM", ["Batteries / terminals, charging, starter motor, lights"]),
  ("DRILLING SYSTEM", ["Feed, rotation winch, cylinders, controls"]),
  ("ROTATION HEAD", ["Lub oil level, chuck bolts, oil filter"]),
  ("CHASSIS / STRUCTURE", ["Bolts, cracks, pins, bushes, mounting points"]),
  ("SAFETY SYSTEM", ["E-stops, alarms, guards, fire equipment"]),
  ("LUBRICATION", ["Grease rotation head, wire / winch sheaves"]),
  ("UNDERCARRIAGE", ["Oil / idler, sprocket / wheel, track chain, roller"]),
  ("FUNCTION TEST", ["Run machine and verify operation"])]

/-- `DEFAULT_INSPECTION`. -/
def defaultInspection : List Json :=
  (inspectionTasks.zipIdx 1).map fun row => .obj [
    ("sequence", .int row.2),
    ("system_component", .str row.1.1),
    ("service_tasks", .arr (row.1.2.map .str)),
    ("condition", .null),
    ("action_taken", .str ""),
    ("parts_used", .arr []),
    ("remarks", .str "")]

/-- The text of any other value than a text is not blank. -/
def namesEquipment (strip : String → String) (pmControl : Json.Members) : Bool :=
  match (pmControl.find? (·.1 = "equipment")).map (·.2) with
  | none => false
  | some (Json.str name) => strip name ≠ ""
  | some _ => true

section Requests

variable (strip : String → String) (world : World)

def orderFor? (organizationId workOrderId assetId : Id) : Option MaintenanceWorkOrder :=
  (world.workOrders.find? workOrderId).filter fun order =>
    order.organizationId = organizationId ∧ order.assetId = assetId

def siteOf? (organizationId siteId : Id) : Option Location :=
  (world.locations.find? siteId).filter (·.organizationId = organizationId)

def hasAsset (organizationId assetId : Id) : Bool :=
  (world.assets.find? assetId).any (·.organizationId = organizationId)

/-- Equipment is an asset of the organization, or has a name. -/
def checkEquipment (organizationId : Id) (pmControl : Json.Members) :
    Option Id → Except CardError Unit
  | some assetId => ensure (hasAsset world organizationId assetId) .equipmentNotFound
  | none => ensure (namesEquipment strip pmControl) .equipmentName

/-- A saved work order is one of the organization for the asset. -/
def checkWorkOrder (organizationId : Id) (assetId : Option Id) :
    Option Id → Except CardError Unit
  | none => .ok ()
  | some workOrderId => do
    let id ← orError assetId .unregisteredEquipment
    ensure (orderFor? world organizationId workOrderId id).isSome .workOrderNotFound

/-- The foreign keys of a card. -/
def Refers (card : PMJobCard) : Prop :=
  (∀ id ∈ card.projectId, id ∈ world.projects) ∧
    (∀ id ∈ card.siteLocationId, (world.locations.find? id).isSome) ∧
    (∀ id ∈ card.assetId, (world.assets.find? id).isSome) ∧
    (∀ id ∈ card.workOrderId, (world.workOrders.find? id).isSome) ∧
    ∀ id ∈ card.templateId, (world.templates.find? id).isSome

instance (card : PMJobCard) : Decidable (Refers world card) :=
  inferInstanceAs (Decidable (_ ∧ _ ∧ _ ∧ _ ∧ _))

/-- `generated` is the number for a card without one. -/
def createCard (organizationId : Id) (now : Instant) (id : Id) (generated : String)
    (body : PMJobCardCreate) (cards : Cards) : Except CardError Cards := do
  checkEquipment strip world organizationId body.pmControl body.assetId
  checkWorkOrder world organizationId body.assetId body.workOrderId
  let template := (body.templateId.bind world.templates.find?).filter
    (·.organizationId = organizationId)
  let number := strip ((body.jobCardNumber.map (·.1)).getD generated)
  ensure (∀ card ∈ cards.rows, card.jobCardNumber ≠ number) .numberInUse
  let row : PMJobCard := {
    id
    organizationId
    jobCardNumber := number
    projectId := body.projectId
    siteLocationId := body.siteLocationId
    assetId := body.assetId
    workOrderId := body.workOrderId
    templateId := body.templateId
    status := .draft
    pmControl := body.pmControl
    inspectionItems :=
      body.inspectionItems.getD ((template.map (·.inspectionItems)).getD defaultInspection)
    createdAt := now
    completedAt := none }
  ensure (Refers world row) .integrity
  orError (cards.insert? row) .integrity

/-! ## Changes -/

/-- What a body does not set is `none`; what it sets to null is `some none`. -/
structure PMJobCardUpdate where
  jobCardNumber : Option (Option CardNumber) := none
  projectId : Option (Option Id) := none
  siteLocationId : Option (Option Id) := none
  assetId : Option (Option Id) := none
  status : Option (Option CardStatus) := none
  workOrderId : Option (Option Id) := none

/-- A site is one of the organization, and of the project if there is one. -/
def checkSite (organizationId : Id) (projectId : Option Id) : Option Id → Except CardError Unit
  | none => .ok ()
  | some siteId => do
    let site ← orError (siteOf? world organizationId siteId) .siteNotFound
    ensure (∀ id ∈ projectId, site.projectId = some id) .siteOfOtherProject

/-- A new number is not one of another card of the organization. -/
def checkNumber (cards : Cards) (row : PMJobCard) (number : Option String) :
    Except CardError Unit :=
  ensure (∀ wanted ∈ number, wanted ≠ row.jobCardNumber → ∀ card ∈ cards.rows,
    card.organizationId = row.organizationId → card.jobCardNumber = wanted → card.id = row.id)
    .numberTaken

/-- A column that may not be null. -/
def required {α : Type} (current : α) : Option (Option α) → Except CardError α
  | none => .ok current
  | some value => orError value .integrity

def complete (now : Instant) (row : PMJobCard) : PMJobCard :=
  if row.status = .completed ∧ row.completedAt = none then { row with completedAt := some now }
  else row

def updateCard (organizationId : Id) (now : Instant) (id : Id) (body : PMJobCardUpdate)
    (cards : Cards) : Except CardError Cards := do
  let row ← orError ((cards.find? id).filter (·.organizationId = organizationId)) .cardNotFound
  ensure (now ≤ row.createdAt + tenDays) .tooOld
  let assetId := body.assetId.getD row.assetId
  ensure (∀ id ∈ assetId, hasAsset world organizationId id) .equipmentNotFound
  let siteId := body.siteLocationId.getD row.siteLocationId
  let projectId := body.projectId.getD row.projectId
  checkSite world organizationId projectId siteId
  checkNumber cards row (body.jobCardNumber.join.map (·.1))
  checkWorkOrder world organizationId assetId body.workOrderId.join
  let number ← required row.jobCardNumber (body.jobCardNumber.map (·.map (·.1)))
  let status ← required row.status body.status
  let changed := complete now { row with
    jobCardNumber := number
    projectId
    siteLocationId := siteId
    assetId
    status
    workOrderId := body.workOrderId.getD row.workOrderId }
  ensure (Refers world changed ∧
    ∀ card ∈ cards.rows, card.jobCardNumber = number → card.id = row.id) .integrity
  .ok (cards.set changed)

inductive CardRequest
  | create (organizationId : Id) (now : Instant) (id : Id) (generated : String)
    (body : PMJobCardCreate)
  | update (organizationId : Id) (now : Instant) (id : Id) (body : PMJobCardUpdate)

def serve (cards : Cards) : CardRequest → Except CardError Cards
  | .create organizationId now id generated body =>
    createCard strip world organizationId now id generated body cards
  | .update organizationId now id body => updateCard world organizationId now id body cards

end Requests

/-!
## What job cards refer to

The work order of a card is one of its organization for its asset, and its site is one of the
organization and of its project. A creation does not look at the site, and a change of the asset
does not look at the work order that the card keeps.
-/

section Ties

variable {strip : String → String} {world : World} {cards cards' : Cards}

structure Tied (world : World) (card : PMJobCard) : Prop where
  workOrder : ∀ id ∈ card.workOrderId, ∃ order ∈ world.workOrders.find? id,
    order.organizationId = card.organizationId ∧ some order.assetId = card.assetId
  site : ∀ id ∈ card.siteLocationId, ∃ site ∈ world.locations.find? id,
    site.organizationId = card.organizationId ∧ ∀ p ∈ card.projectId, site.projectId = some p

def AllTied (world : World) (cards : Cards) : Prop := ∀ card ∈ cards.rows, Tied world card

/-- A site that may be given to a new card. -/
def SiteFits (world : World) (organizationId : Id) (projectId siteId : Option Id) : Prop :=
  ∀ id ∈ siteId, ∃ site ∈ world.locations.find? id,
    site.organizationId = organizationId ∧ ∀ p ∈ projectId, site.projectId = some p

/-- A new card is given a site of the organization and the project, and the asset of a card is
changed only together with its work order, if it has one. -/
def KeepsTies (world : World) (cards : Cards) : CardRequest → Prop
  | .create organizationId _ _ _ body =>
    SiteFits world organizationId body.projectId body.siteLocationId
  | .update _ _ id body => body.workOrderId = none → ∀ row ∈ cards.find? id,
    row.workOrderId ≠ none → body.assetId.getD row.assetId = row.assetId

theorem orderFor?_isSome {organizationId workOrderId assetId : Id} :
    (orderFor? world organizationId workOrderId assetId).isSome ↔
      ∃ order ∈ world.workOrders.find? workOrderId,
        order.organizationId = organizationId ∧ order.assetId = assetId := by
  simp [orderFor?, Option.isSome_filter, Option.any_eq_true]

theorem checkWorkOrder_eq_ok {organizationId : Id} {assetId workOrderId : Option Id} {u : Unit}
    (h : checkWorkOrder world organizationId assetId workOrderId = .ok u) :
    ∀ id ∈ workOrderId, ∃ order ∈ world.workOrders.find? id,
      order.organizationId = organizationId ∧ some order.assetId = assetId := by
  rintro id rfl
  simp only [checkWorkOrder, orError_bind_eq_ok, ensure_eq_ok, orderFor?_isSome] at h
  obtain ⟨asset, rfl, order, horder, horganization, rfl⟩ := h
  exact ⟨order, horder, horganization, rfl⟩

theorem checkSite_eq_ok {organizationId : Id} {projectId siteId : Option Id} {u : Unit}
    (h : checkSite world organizationId projectId siteId = .ok u) :
    SiteFits world organizationId projectId siteId := by
  rintro id rfl
  simp only [checkSite, orError_bind_eq_ok, ensure_eq_ok] at h
  obtain ⟨site, hsite, hproject⟩ := h
  obtain ⟨hfound, horganization⟩ := Option.filter_eq_some_iff.1 hsite
  exact ⟨site, hfound, of_decide_eq_true horganization, hproject⟩

theorem tied_complete {now : Instant} {card : PMJobCard} :
    Tied world (complete now card) ↔ Tied world card := by
  unfold complete
  split
  · exact ⟨fun h => ⟨h.workOrder, h.site⟩, fun h => ⟨h.workOrder, h.site⟩⟩
  · exact Iff.rfl

theorem allTied_insert {row : PMJobCard} (h : AllTied world cards)
    (hinsert : cards.insert? row = some cards') : AllTied world cards' ↔ Tied world row := by
  constructor
  · exact fun hall => hall row ((Table.mem_insert? hinsert).2 (.inr rfl))
  · intro hrow card hcard
    rcases (Table.mem_insert? hinsert).1 hcard with hold | rfl
    · exact h card hold
    · exact hrow

theorem allTied_set {row old : PMJobCard} (h : AllTied world cards)
    (hold : cards.find? row.id = some old) : AllTied world (cards.set row) ↔ Tied world row := by
  constructor
  · exact fun hall => hall row ((Table.mem_set_of_find? hold).2 (.inr rfl))
  · intro hrow card hcard
    rcases (Table.mem_set_of_find? hold).1 hcard with ⟨hcard, -⟩ | rfl
    · exact h card hcard
    · exact hrow

theorem createCard_tied {organizationId now id : Nat} {generated : String} {body : PMJobCardCreate}
    (h : AllTied world cards)
    (hrun : createCard strip world organizationId now id generated body cards = .ok cards') :
    AllTied world cards' ↔ SiteFits world organizationId body.projectId body.siteLocationId := by
  simp only [createCard, bind_eq_ok, orError_eq_ok] at hrun
  obtain ⟨_, -, _, horder, _, -, _, -, hinsert⟩ := hrun
  rw [allTied_insert h hinsert]
  exact ⟨fun hrow => hrow.site, fun hsite => ⟨checkWorkOrder_eq_ok horder, hsite⟩⟩

theorem updateCard_tied {organizationId now id : Nat} {body : PMJobCardUpdate}
    (h : AllTied world cards)
    (hrun : updateCard world organizationId now id body cards = .ok cards') :
    AllTied world cards' ↔ KeepsTies world cards (.update organizationId now id body) := by
  simp only [updateCard, bind_eq_ok, orError_eq_ok] at hrun
  obtain ⟨row, hrow, _, -, _, -, _, hsite, _, -, _, horder, number, -, status, -, _, -, hrun⟩ := hrun
  obtain ⟨hfound, horganization⟩ := Option.filter_eq_some_iff.1 hrow
  obtain rfl := of_decide_eq_true horganization
  obtain rfl := Except.ok.inj hrun
  obtain ⟨hmem, rfl⟩ := Table.find?_eq_some.1 hfound
  have horders := checkWorkOrder_eq_ok horder
  have hkept := (h row hmem).workOrder
  have hfind : ∀ card : PMJobCard, card.id = row.id →
      cards.find? (complete now card).id = some row := by
    intro card hid
    unfold complete
    split
    · exact (congrArg cards.find? hid).trans hfound
    · exact (congrArg cards.find? hid).trans hfound
  refine (allTied_set h (hfind _ ?_)).trans (tied_complete.trans ?_)
  · rfl
  constructor
  · intro htied hnone other hother hwork
    obtain rfl : other = row := Option.some.inj (hother.symm.trans hfound)
    obtain ⟨workOrderId, hid⟩ := Option.ne_none_iff_exists'.1 hwork
    obtain ⟨order, horder, -, hasset⟩ := hkept workOrderId hid
    have hnow : body.workOrderId.getD other.workOrderId = some workOrderId := by
      rw [hnone]
      exact hid
    obtain ⟨order', horder', -, hasset'⟩ := htied.workOrder workOrderId hnow
    obtain rfl : order' = order := Option.some.inj (horder'.symm.trans horder)
    exact hasset'.symm.trans hasset
  · intro hkeeps
    refine ⟨fun workOrderId hid => ?_, checkSite_eq_ok hsite⟩
    cases hgiven : body.workOrderId with
    | none =>
        have hown : workOrderId ∈ row.workOrderId := by
          rw [hgiven] at hid
          exact hid
        obtain ⟨order, horder, horganization, hasset⟩ := hkept workOrderId hown
        refine ⟨order, horder, horganization, hasset.trans ?_⟩
        exact (hkeeps hgiven row hfound (Option.ne_none_iff_exists'.2 ⟨_, hown⟩)).symm
    | some given =>
        refine horders workOrderId ?_
        rw [hgiven] at hid ⊢
        exact hid

/-- What a request leaves is tied exactly if the request keeps the ties. -/
theorem serve_tied {r : CardRequest} (h : AllTied world cards)
    (hrun : serve strip world cards r = .ok cards') :
    AllTied world cards' ↔ KeepsTies world cards r := by
  cases r with
  | create organizationId now id generated body => exact createCard_tied h hrun
  | update organizationId now id body => exact updateCard_tied h hrun

/-! ### Runs -/

variable (strip world) in
/-- The cards after a run of requests; one that raises changes nothing. -/
def after (cards : Cards) (requests : List CardRequest) : Cards :=
  requests.foldl (settled (serve strip world)) cards

/-- After a run of requests that keep the ties all cards are tied, and so they are after one more
request exactly if it keeps the ties too. -/
theorem cards_tied (h : AllTied world cards) (requests : List CardRequest)
    (hkeeps : Meets (settled (serve strip world)) (KeepsTies world) cards requests) :
    AllTied world (after strip world cards requests) ∧ ∀ r cards',
      serve strip world (after strip world cards requests) r = .ok cards' →
        (AllTied world cards' ↔ KeepsTies world (after strip world cards requests) r) := by
  have hstep : ∀ (cards : Cards) (r : CardRequest), AllTied world cards →
      KeepsTies world cards r → AllTied world (settled (serve strip world) cards r) :=
    fun cards r h hkeep => settled_keeps h fun cards' hrun => (serve_tied h hrun).2 hkeep
  have hrun := hkeeps.keeps hstep h
  exact ⟨hrun, fun r cards' hnext => serve_tied hrun hnext⟩

end Ties

instance (world : World) (organizationId : Id) (projectId siteId : Option Id) :
    Decidable (SiteFits world organizationId projectId siteId) :=
  inferInstanceAs (Decidable (∀ id ∈ siteId, ∃ site ∈ world.locations.find? id, _))

instance (world : World) (cards : Cards) : DecidablePred (KeepsTies world cards)
  | .create _ _ _ _ _ => inferInstanceAs (Decidable (SiteFits _ _ _ _))
  | .update _ _ id _ => inferInstanceAs (Decidable (_ → ∀ row ∈ cards.find? id, _ → _))

namespace Sample

/-- Two assets with a work order each, and a site of the project 1 and one of the project 2. -/
def yard : World where
  assets := ⟨[⟨1, 1⟩, ⟨2, 1⟩], by decide⟩
  workOrders := ⟨[⟨1, 1, 1⟩, ⟨2, 1, 2⟩], by decide⟩
  locations := ⟨[⟨1, 1, some 1⟩, ⟨2, 1, some 2⟩], by decide⟩
  templates := .empty
  projects := [1, 2]

def service (siteId : Id) : CardRequest :=
  .create 1 0 1 "PM-1" {
    projectId := some 1, siteLocationId := some siteId, assetId := some 1, workOrderId := some 1 }

/-- The card moves to the other asset with its work order, and then to the other site with its
project. -/
def moves : List CardRequest := [
  service 1,
  .update 1 1 1 { assetId := some (some 2), workOrderId := some (some 2) },
  .update 1 2 1 { projectId := some (some 2), siteLocationId := some (some 2) },
  .update 1 3 1 { status := some (some .completed) }]

end Sample

theorem cards_tied_moves : AllTied Sample.yard .empty ∧
    (after id Sample.yard .empty Sample.moves).rows.map
        (fun card => (card.assetId, card.workOrderId, card.siteLocationId, card.projectId)) =
      [(some 2, some 2, some 2, some 2)] ∧
    AllTied Sample.yard (after id Sample.yard .empty Sample.moves) :=
  have hfirst : AllTied Sample.yard .empty := fun _ h => absurd h List.not_mem_nil
  ⟨hfirst, by decide +kernel, (cards_tied hfirst Sample.moves (by decide +kernel)).1⟩

/-- A card is made for a site of another project. -/
theorem cards_not_tied : ¬ ∀ (strip : String → String) (world : World)
    (requests : List CardRequest), AllTied world (after strip world .empty requests) := by
  intro h
  have hrows : ∃ card ∈ (after id Sample.yard .empty [Sample.service 2]).rows,
      card.siteLocationId = some 2 ∧ card.projectId = some 1 := by
    decide +kernel
  obtain ⟨card, hcard, hsite, hproject⟩ := hrows
  obtain ⟨site, hfound, -, hties⟩ := (h id Sample.yard [Sample.service 2] card hcard).site 2 hsite
  have hother : Sample.yard.locations.find? 2 = some ⟨2, 1, some 2⟩ := rfl
  obtain rfl := Option.some.inj (hfound.symm.trans hother)
  exact absurd (hties 1 hproject) (by decide)

end Cestos.JobCards
