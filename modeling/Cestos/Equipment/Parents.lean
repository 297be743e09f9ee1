import Cestos.Core.Hierarchy
import Cestos.Errors

/-!
# Categories and components

Equipment categories and the components of an asset form hierarchies. A request that changes
the place of a row locks that row, walks up from the new place and reads the rows there as others
have committed them, each once.
-/

namespace Cestos.Equipment

open Cestos.Core

abbrev Id := Nat

abbrev Date := Nat

structure Actor where
  id : Id
  organizationId : Id

structure AssetCategory where
  id : Id
  organizationId : Id
  parentCategoryId : Option Id
  requiresRegistration : Bool
  requiresInsurance : Bool
  requiresOperator : Bool

inductive ComponentStatus
  | installed | removed | failed | available | underRepair | scrapped | replaced
  deriving DecidableEq

/-- What a client sets of a component. -/
structure AssetComponentCreate where
  parentComponentId : Option Id
  serialNumber : Option String
  installationDate : Option Date
  removalDate : Option Date
  status : ComponentStatus
  isActive : Bool

structure AssetComponent extends AssetComponentCreate where
  id : Id
  organizationId : Id
  assetId : Id

/-- An asset, as far as its components need it. -/
structure Owner where
  id : Id
  organizationId : Id

/-- The rows of the hierarchies. -/
structure Hierarchies where
  assets : Table Owner.id
  categories : Table AssetCategory.id
  components : Table AssetComponent.id

/-- The fields that are given; a value of `none` is an explicit null. -/
structure CategoryUpdate where
  parentCategoryId : Option (Option Id)
  requiresRegistration : Option (Option Bool)
  requiresInsurance : Option (Option Bool)
  requiresOperator : Option (Option Bool)

/-- The fields that are given; a value of `none` is an explicit null. -/
structure ComponentUpdate where
  parentComponentId : Option (Option Id) := none
  serialNumber : Option (Option String) := none
  installationDate : Option (Option Date) := none
  removalDate : Option (Option Date) := none
  status : Option (Option ComponentStatus) := none
  isActive : Option (Option Bool) := none

/-- A call of `create_category`, with the identifier that is generated. -/
structure CreateCategory where
  actor : Actor
  parentCategoryId : Option Id
  requiresRegistration : Bool
  requiresInsurance : Bool
  requiresOperator : Bool
  categoryId : Id

/-- A call of `update_category`. -/
structure UpdateCategory where
  actor : Actor
  categoryId : Id
  data : CategoryUpdate

/-- A call of `add_component`, with the identifier that is generated. -/
structure AddComponent where
  actor : Actor
  assetId : Id
  body : AssetComponentCreate
  componentId : Id

/-- A call of `change_component` without a replacement. -/
structure ChangeComponent where
  actor : Actor
  componentId : Id
  data : ComponentUpdate

/-- A call of `change_component` with a replacement, and the identifier that is generated. -/
structure ReplaceComponent where
  actor : Actor
  componentId : Id
  data : AssetComponentCreate
  replacementId : Id
  today : Date

/-- The removal of a component. -/
def removeComponent (actor : Actor) (componentId : Id) (removalDate : Date) : ChangeComponent :=
  ⟨actor, componentId,
    { removalDate := some (some removalDate), status := some (some .removed),
      isActive := some (some false) }⟩

/-! ## What the requests read and check -/

def missing : AppError := .notFound "Related record not found"

/-- `ref` for a category. -/
def Hierarchies.category? (db : Hierarchies) (actor : Actor) (id : Id) : Option AssetCategory :=
  (db.categories.find? id).filter (·.organizationId = actor.organizationId)

/-- `ref` for a component of the asset. -/
def Hierarchies.component? (db : Hierarchies) (actor : Actor) (assetId : Id) (id : Id) :
    Option AssetComponent :=
  (db.components.find? id).filter fun component =>
    component.organizationId = actor.organizationId ∧ component.assetId = assetId

/-- `ref` for a component that is named in the request. -/
def Hierarchies.ownComponent? (db : Hierarchies) (actor : Actor) (id : Id) :
    Option AssetComponent :=
  (db.components.find? id).filter (·.organizationId = actor.organizationId)

/-- The row above, if one is named, and what there is above it. -/
def loadParent (parent : Option Id) (above : Id → Option (Option Id)) :
    Except AppError (List (Id × Option Id)) :=
  match parent with
  | none => .ok []
  | some id => do
    let next ← orError (above id) missing
    .ok [(id, next)]

/-- What is above a category. -/
def Hierarchies.aboveCategory (db : Hierarchies) (actor : Actor) (id : Id) : Option (Option Id) :=
  (db.category? actor id).map (·.parentCategoryId)

/-- What is above a component of the asset. -/
def Hierarchies.aboveComponent (db : Hierarchies) (actor : Actor) (assetId id : Id) :
    Option (Option Id) :=
  (db.component? actor assetId id).map (·.parentComponentId)

/-- The dates that `validate_fields` compares. -/
def checkDates (installationDate removalDate : Option Date) : Except AppError Unit :=
  ensure (∀ first ∈ installationDate, ∀ last ∈ removalDate, first ≤ last)
    (.validation "removal_date cannot precede installation_date")

/-- One turn of the loop over the rows above. -/
def pass (w : Walk Id) (id : Id) (above : Id → Option (Option Id)) (cycle : String) :
    Except AppError (Walk Id) := do
  ensure (id ∉ w.seen) (.validation cycle)
  let current ← orError (above id) missing
  .ok (w.pass id current)

/-- A component that is no longer part of the asset. -/
def ComponentStatus.gone : ComponentStatus → Bool
  | .removed | .replaced | .scrapped => true
  | _ => false

/-- The serial number of a component is not changed. -/
def checkSerial (row : AssetComponent) (data : ComponentUpdate) : Except AppError Unit :=
  ensure (∀ new ∈ data.serialNumber, row.serialNumber = none ∨ row.serialNumber = some "" ∨
    new = row.serialNumber)
    (.validation "Use replace to preserve the old component serial number")

/-! ## What the requests write -/

/-- A column that has to have a value; the table refuses a null. -/
def column {α : Type} (given : Option (Option α)) (current : α) : Option α :=
  match given with
  | none => some current
  | some value => value

def CategoryUpdate.apply (data : CategoryUpdate) (row : AssetCategory) : Option AssetCategory := do
  let requiresRegistration ← column data.requiresRegistration row.requiresRegistration
  let requiresInsurance ← column data.requiresInsurance row.requiresInsurance
  let requiresOperator ← column data.requiresOperator row.requiresOperator
  some { row with
    parentCategoryId := data.parentCategoryId.getD row.parentCategoryId
    requiresRegistration := requiresRegistration
    requiresInsurance := requiresInsurance
    requiresOperator := requiresOperator }

def ComponentUpdate.apply (data : ComponentUpdate) (row : AssetComponent) :
    Option AssetComponent := do
  let status ← column data.status row.status
  let isActive ← column data.isActive row.isActive
  some { row with
    parentComponentId := data.parentComponentId.getD row.parentComponentId
    serialNumber := data.serialNumber.getD row.serialNumber
    installationDate := data.installationDate.getD row.installationDate
    removalDate := data.removalDate.getD row.removalDate
    status := status
    isActive := isActive }

def CreateCategory.category (r : CreateCategory) : AssetCategory where
  id := r.categoryId
  organizationId := r.actor.organizationId
  parentCategoryId := r.parentCategoryId
  requiresRegistration := r.requiresRegistration
  requiresInsurance := r.requiresInsurance
  requiresOperator := r.requiresOperator

def AssetComponentCreate.component (body : AssetComponentCreate) (actor : Actor) (assetId id : Id) :
    AssetComponent :=
  { body with id := id, organizationId := actor.organizationId, assetId := assetId }

/-- A component that has been replaced. -/
def AssetComponent.replaced (row : AssetComponent) (today : Date) : AssetComponent :=
  { row with status := .replaced, removalDate := some today, isActive := false }

def Hierarchies.insertCategory (db : Hierarchies) (row : AssetCategory) : Option Hierarchies :=
  (db.categories.insert? row).map fun categories => { db with categories := categories }

def Hierarchies.insertComponent (db : Hierarchies) (row : AssetComponent) : Option Hierarchies :=
  (db.components.insert? row).map fun components => { db with components := components }

def Hierarchies.commitCategory (db : Hierarchies) (r : UpdateCategory) : Option Hierarchies := do
  let row ← db.categories.find? r.categoryId
  let new ← r.data.apply row
  some { db with categories := db.categories.set new }

def Hierarchies.commitComponent (db : Hierarchies) (r : ChangeComponent) : Option Hierarchies := do
  let row ← db.components.find? r.componentId
  let new ← r.data.apply row
  some { db with components := db.components.set new }

def Hierarchies.commitReplacement (db : Hierarchies) (r : ReplaceComponent) :
    Option Hierarchies := do
  let row ← db.components.find? r.componentId
  Hierarchies.insertComponent { db with components := db.components.set (row.replaced r.today) }
    (r.data.component r.actor row.assetId r.replacementId)

/-! ## Statements -/

/-- A row that is locked. -/
inductive RowLock
  | asset (id : Id)
  | category (id : Id)
  | component (id : Id)
  deriving DecidableEq

inductive HierarchyTask
  | createCategory (r : CreateCategory)
  | insertingCategory (r : CreateCategory)
  | updateCategory (r : UpdateCategory)
  /-- The category is locked. -/
  | validatingCategory (r : UpdateCategory)
  | walkingCategory (r : UpdateCategory) (w : Walk Id)
  | addComponent (r : AddComponent)
  /-- The asset is locked. -/
  | validatingNew (r : AddComponent)
  | insertingComponent (r : AddComponent)
  | changeComponent (r : ChangeComponent)
  /-- The component is locked. -/
  | validatingComponent (r : ChangeComponent) (row : AssetComponent)
  | walkingComponent (r : ChangeComponent) (row : AssetComponent) (w : Walk Id)
  | replaceComponent (r : ReplaceComponent)
  /-- The component is locked. -/
  | validatingReplacement (r : ReplaceComponent) (row : AssetComponent)
  | replacing (r : ReplaceComponent)

/-- A request under way and the rows that it has locked. -/
structure HierarchyTransaction where
  held : List RowLock
  task : HierarchyTask

/-- The row that the next statement locks, if its query returns it. -/
def HierarchyTransaction.wants (db : Hierarchies) (t : HierarchyTransaction) : List RowLock :=
  match t.task with
  | .updateCategory r => (db.category? r.actor r.categoryId).toList.map (.category ·.id)
  | .addComponent r => ((db.assets.find? r.assetId).filter
      (·.organizationId = r.actor.organizationId)).toList.map (.asset ·.id)
  | .changeComponent r => (db.ownComponent? r.actor r.componentId).toList.map (.component ·.id)
  | .replaceComponent r => (db.ownComponent? r.actor r.componentId).toList.map (.component ·.id)
  | _ => []

/-- The request goes on with what it has locked, unless it raises. -/
def HierarchyTransaction.proceed (db : Hierarchies) (t : HierarchyTransaction)
    (next : Except AppError HierarchyTask) : Hierarchies × Option HierarchyTransaction :=
  match next with
  | .ok task => (db, some ⟨t.wants db ++ t.held, task⟩)
  | .error _ => (db, none)

/-- The statements of the requests. A commit that fails is rolled back. -/
def HierarchyTransaction.step (_others : List HierarchyTransaction) (db : Hierarchies)
    (t : HierarchyTransaction) : Hierarchies × Option HierarchyTransaction :=
  match t.task with
  | .createCategory r => t.proceed db (do
      let _ ← loadParent r.parentCategoryId (db.aboveCategory r.actor)
      .ok (.insertingCategory r))
  | .insertingCategory r => ((db.insertCategory r.category).getD db, none)
  | .updateCategory r => t.proceed db (do
      let _ ← orError (db.category? r.actor r.categoryId) missing
      .ok (.validatingCategory r))
  | .validatingCategory r => t.proceed db (do
      let loaded ← loadParent r.data.parentCategoryId.join (db.aboveCategory r.actor)
      .ok (.walkingCategory r (.start r.categoryId r.data.parentCategoryId.join loaded)))
  | .walkingCategory r w =>
    match w.next with
    | some id => t.proceed db (do
        let w ← pass w id (db.aboveCategory r.actor) "Category hierarchy cannot contain cycles"
        .ok (.walkingCategory r w))
    | none => ((db.commitCategory r).getD db, none)
  | .addComponent r => t.proceed db (do
      let _ ← orError ((db.assets.find? r.assetId).filter
        (·.organizationId = r.actor.organizationId)) missing
      .ok (.validatingNew r))
  | .validatingNew r => t.proceed db (do
      let _ ← loadParent r.body.parentComponentId (db.aboveComponent r.actor r.assetId)
      checkDates r.body.installationDate r.body.removalDate
      .ok (.insertingComponent r))
  | .insertingComponent r =>
    ((db.insertComponent (r.body.component r.actor r.assetId r.componentId)).getD db, none)
  | .changeComponent r => t.proceed db (do
      let row ← orError (db.ownComponent? r.actor r.componentId) missing
      .ok (.validatingComponent r row))
  | .validatingComponent r row => t.proceed db (do
      let loaded ← loadParent r.data.parentComponentId.join (db.aboveComponent r.actor row.assetId)
      checkDates r.data.installationDate.join r.data.removalDate.join
      ensure (row.status.gone = false)
        (.conflict "Removed component history cannot be rewritten")
      .ok (.walkingComponent r row (.start row.id r.data.parentComponentId.join loaded)))
  | .walkingComponent r row w =>
    match w.next with
    | some id => t.proceed db (do
        let w ← pass w id (db.aboveComponent r.actor row.assetId)
          "Component hierarchy cannot contain cycles"
        .ok (.walkingComponent r row w))
    | none =>
      match checkSerial row r.data, checkDates (r.data.installationDate.getD row.installationDate)
          (r.data.removalDate.getD row.removalDate) with
      | .ok (), .ok () => ((db.commitComponent r).getD db, none)
      | _, _ => (db, none)
  | .replaceComponent r => t.proceed db (do
      let row ← orError (db.ownComponent? r.actor r.componentId) missing
      .ok (.validatingReplacement r row))
  | .validatingReplacement r row => t.proceed db (do
      let _ ← loadParent r.data.parentComponentId (db.aboveComponent r.actor row.assetId)
      checkDates r.data.installationDate r.data.removalDate
      ensure (row.status.gone = false) (.conflict "Component is already removed")
      .ok (.replacing r))
  | .replacing r => ((db.commitReplacement r).getD db, none)

/-- A statement waits for those who have locked its row. -/
def hierarchyServing : Statement Hierarchies HierarchyTransaction :=
  locking HierarchyTransaction.held (fun db t => t.wants db) HierarchyTransaction.step

/-- Whether a request begins. -/
def HierarchyTask.isRequest : HierarchyTask → Bool
  | .createCategory _ | .updateCategory _ | .addComponent _ | .changeComponent _
  | .replaceComponent _ => true
  | _ => false

def HierarchyTransaction.IsRequest (t : HierarchyTransaction) : Prop :=
  t.held = [] ∧ t.task.isRequest = true

instance : DecidablePred HierarchyTransaction.IsRequest :=
  fun t => inferInstanceAs (Decidable (t.held = [] ∧ t.task.isRequest = true))

/-- The hierarchies, with the requests under way, that some interleaving leads to whose statements
meet `admits`; at first there are neither categories nor components. -/
abbrev HierarchyRequests
    (admits : List HierarchyTransaction → Hierarchies → HierarchyTransaction → Prop) :
    Sessions Hierarchies HierarchyTransaction → Prop :=
  Sessions.Interleaved HierarchyTransaction.IsRequest hierarchyServing admits
    fun db => db.categories.rows = [] ∧ db.components.rows = []

end Cestos.Equipment
