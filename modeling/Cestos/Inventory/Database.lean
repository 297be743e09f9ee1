import Mathlib.Data.List.Sort
import Cestos.Core.Outcome
import Cestos.Inventory.Rows

/-!
# The inventory database

The tables of one organization, the lookups every operation starts with, and the
checks that requests and documents share: `validate_refs` and `quantity`.
-/

namespace Cestos.Inventory

open Cestos.Core Cestos.Core.Decimal

/-- Master data that posting only reads. -/
structure References where
  units : Id → Option UnitOfMeasure
  /-- By item, from-unit and to-unit; no item stands for every item. -/
  conversions : Option Id → Id → Id → Option UnitConversion
  bins : Id → Option InventoryBin
  projects : Id → Option Project
  /-- For these tables only `is_active` matters. -/
  stores : Id → Option Bool
  suppliers : Id → Option Bool
  assets : Id → Option Bool
  employees : Id → Option Bool

def References.empty : References where
  units := fun _ => none
  conversions := fun _ _ _ => none
  bins := fun _ => none
  projects := fun _ => none
  stores := fun _ => none
  suppliers := fun _ => none
  assets := fun _ => none
  employees := fun _ => none

/-- The seven document tables are one table here, and so are their line tables. A
balance row that does not exist yet reads as zeros. The rows of `transactions` and
`ledger` stand in the order in which they were inserted. -/
structure Database where
  references : References
  items : Table Item.id
  documents : Table Document.id
  lines : Table Line.id
  lots : Table Lot.id
  serials : Table Serial.id
  reservations : Table Reservation.id
  custody : Table Custody.id
  transactions : Table Transaction.id
  balances : Bucket → BucketFields
  ledger : List LedgerEntry

def Database.empty : Database where
  references := .empty
  items := .empty
  documents := .empty
  lines := .empty
  lots := .empty
  serials := .empty
  reservations := .empty
  custody := .empty
  transactions := .empty
  balances := fun _ _ => 0
  ledger := []

/-- What a request takes from its surroundings. -/
structure Env where
  /-- PostgreSQL's `now()`: the start of the request's transaction. -/
  now : Instant
  /-- `datetime.now(UTC)` while the request runs. -/
  clock : Instant
  today : Day
  actorId : Id
  /-- `uuid4()` for the n-th row of a table. -/
  uuid : Nat → Id
  /-- Which of `n` matching rows a query without `ORDER BY` returns first. -/
  pick : Nat → Nat
  /-- `doc.transaction_date` of a reservation. `InventoryReservation` maps no such
  column, so as the code stands this is `none`, an `AttributeError`. -/
  reservationDate : Option Instant

/-- The first row of a query without `ORDER BY`. -/
def Env.first {α : Type} (env : Env) (rows : List α) : Option α :=
  rows[env.pick rows.length % rows.length]?

theorem Env.mem_of_first {α : Type} {env : Env} {rows : List α} {a : α}
    (h : env.first rows = some a) : a ∈ rows :=
  List.mem_of_getElem? h

theorem Env.first_eq_none {α : Type} {env : Env} {rows : List α} :
    env.first rows = none ↔ rows = [] := by
  cases rows with
  | nil => simp [first]
  | cons a rows =>
      simpa [first] using Nat.mod_lt (env.pick (rows.length + 1)) (Nat.succ_pos rows.length)

/-- `ref`: the row or a `NotFoundError`. -/
def found {α : Type} (row : Option α) : Outcome α :=
  orError row (.notFound "Related inventory record not found")

@[simp] theorem found_eq_ok {α : Type} {row : Option α} {a : α} :
    found row = .ok a ↔ row = some a := orError_eq_ok

@[simp] theorem found_bind_eq_ok {α β : Type} {row : Option α} {f : α → Outcome β} {b : β} :
    (found row >>= f) = .ok b ↔ ∃ a, row = some a ∧ f a = .ok b := orError_bind_eq_ok

namespace Database

variable (db : Database)

/-- A document of the given kind. -/
def document (kind : DocumentKind) (id : Id) : Option Document :=
  (db.documents.find? id).filter (·.kind = kind)

/-- The lines of a document, `ORDER BY item_id, id`. -/
def linesOf (documentId : Id) : List Line :=
  (db.lines.rows.filter (·.documentId = documentId)).insertionSort
    (fun a b => a.itemId < b.itemId ∨ a.itemId = b.itemId ∧ a.id ≤ b.id)

theorem mem_linesOf {db : Database} {documentId : Id} {line : Line} :
    line ∈ db.linesOf documentId ↔ line ∈ db.lines.rows ∧ line.documentId = documentId := by
  simp [linesOf, List.mem_insertionSort]

theorem document_eq_some {db : Database} {kind : DocumentKind} {id : Id} {doc : Document} :
    db.document kind id = some doc ↔ db.documents.find? id = some doc ∧ doc.kind = kind := by
  simp [document, Option.filter_eq_some_iff]

end Database

/-! ## `validate_refs` -/

/-- A `datetime` of a request body. -/
structure Timestamp where
  instant : Instant
  zoned : Bool

/-- The entries of a request or a row that `validate_refs` looks at. -/
structure RefData where
  baseUnitId : Option Id := none
  unitId : Option Id := none
  itemId : Option Id := none
  storeId : Option Id := none
  fromStoreId : Option Id := none
  toStoreId : Option Id := none
  binId : Option Id := none
  fromBinId : Option Id := none
  toBinId : Option Id := none
  supplierId : Option Id := none
  projectId : Option Id := none
  assetId : Option Id := none
  employeeId : Option Id := none
  lotId : Option Id := none
  serialId : Option Id := none
  originalIssueId : Option Id := none
  requestId : Option Id := none
  reservationId : Option Id := none
  transactionDate : Option Timestamp := none
  expiresAt : Option Timestamp := none
  expectedReturnAt : Option Timestamp := none

/-- A referenced row. Rows without `is_active` count as active. -/
structure RefRow where
  isActive : Bool := true
  /-- A project that is closed, completed or cancelled. -/
  isClosed : Bool := false

def Project.refRow (p : Project) : RefRow where
  isActive := p.isActive
  isClosed := p.status = .closed || p.status = .completed || p.status = .cancelled

def checkRef (key : String) (row : Id → Option RefRow) : Option Id → Outcome Unit
  | none => .ok ()
  | some id => do
    let row ← found (row id)
    ensure row.isActive (.validation (key ++ " is archived"))
    ensure (!row.isClosed) (.validation "Project is closed")

/-- The loop over `REFS`. -/
def checkRefs (db : Database) (d : RefData) : Outcome Unit := do
  let unit := fun id => (db.references.units id).map fun u => { isActive := u.isActive : RefRow }
  let item := fun id => (db.items.find? id).map fun i => { isActive := i.isActive : RefRow }
  let bin := fun id => (db.references.bins id).map fun b => { isActive := b.isActive : RefRow }
  let active := fun (rows : Id → Option Bool) id => (rows id).map fun a => { isActive := a : RefRow }
  let exists? := fun {α : Type} (rows : Id → Option α) id => (rows id).map fun _ => ({} : RefRow)
  checkRef "base_unit_id" unit d.baseUnitId
  checkRef "unit_id" unit d.unitId
  checkRef "item_id" item d.itemId
  checkRef "store_id" (active db.references.stores) d.storeId
  checkRef "from_store_id" (active db.references.stores) d.fromStoreId
  checkRef "to_store_id" (active db.references.stores) d.toStoreId
  checkRef "bin_id" bin d.binId
  checkRef "from_bin_id" bin d.fromBinId
  checkRef "to_bin_id" bin d.toBinId
  checkRef "supplier_id" (active db.references.suppliers) d.supplierId
  checkRef "project_id" (fun id => (db.references.projects id).map Project.refRow) d.projectId
  checkRef "asset_id" (active db.references.assets) d.assetId
  checkRef "employee_id" (active db.references.employees) d.employeeId
  checkRef "lot_id" (exists? db.lots.find?) d.lotId
  checkRef "serial_id" (exists? db.serials.find?) d.serialId
  checkRef "original_issue_id" (exists? (db.document .issues)) d.originalIssueId
  checkRef "request_id" (exists? (db.document .requests)) d.requestId
  checkRef "reservation_id" (exists? db.reservations.find?) d.reservationId

def checkBin (db : Database) (store : Option Id) : Option Id → Outcome Unit
  | none => .ok ()
  | some id => do
    let row ← found (db.references.bins id)
    ensure (∀ s ∈ store, row.storeId = s) (.validation "Bin belongs to another store")

def checkOwner (owner : Id → Option Id) (item : Option Id) : Option Id → Outcome Unit
  | none => .ok ()
  | some id =>
    match item with
    | none => .ok ()
    | some item => do
      let itemId ← found (owner id)
      ensure (itemId = item) (.validation "Lot or serial belongs to another item")

def checkZone (key : String) (time : Option Timestamp) : Outcome Unit :=
  ensure (∀ t ∈ time, t.zoned) (.validation (key ++ " must include a timezone"))

def validateRefs (env : Env) (db : Database) (d : RefData) : Outcome Unit := do
  checkRefs db d
  checkBin db d.storeId d.binId
  checkBin db d.fromStoreId d.fromBinId
  checkBin db d.toStoreId d.toBinId
  checkOwner (fun id => (db.lots.find? id).map (·.itemId)) d.itemId d.lotId
  checkOwner (fun id => (db.serials.find? id).map (·.itemId)) d.itemId d.serialId
  checkZone "transaction_date" d.transactionDate
  checkZone "expires_at" d.expiresAt
  checkZone "expected_return_at" d.expectedReturnAt
  ensure (∀ t ∈ d.transactionDate, t.instant ≤ env.clock + 60)
    (.validation "Stock movements cannot be posted in the future")

theorem checkOwner_eq_ok {owner : Id → Option Id} {item id : Id} {u : Unit}
    (h : checkOwner owner (some item) (some id) = .ok u) : owner id = some item := by
  simp only [checkOwner, found_bind_eq_ok, ensure_eq_ok] at h
  obtain ⟨itemId, hrow, rfl⟩ := h
  exact hrow

/-- A serial that passes belongs to the item it is used for. -/
theorem validateRefs_serial {env : Env} {db : Database} {d : RefData} {u : Unit} {item id : Id}
    (h : validateRefs env db d = .ok u) (hitem : d.itemId = some item)
    (hserial : d.serialId = some id) :
    ∃ serial, db.serials.find? id = some serial ∧ serial.itemId = item := by
  simp only [validateRefs, bind_eq_ok] at h
  obtain ⟨_, _, _, _, _, _, _, _, _, _, _, hown, _⟩ := h
  rw [hitem, hserial] at hown
  simpa using checkOwner_eq_ok hown

/-! ## `quantity` -/

/-- The conversion to the base unit, the one of the item itself before a general one. -/
def conversionOf (db : Database) (item : Item) (unitId : Id) : Option UnitConversion :=
  let row := fun owner =>
    (db.references.conversions owner unitId item.baseUnitId).filter (·.isActive)
  (row (some item.id)).or (row none)

def normalize (ctx : Context 28 12) (db : Database) (item : Item) (unitId : Id) (q : ℚ) :
    Outcome ℚ :=
  if unitId = item.baseUnitId then .ok q
  else do
    let conversion ← orError (conversionOf db item unitId)
      (.validation "No direct conversion to the item base unit")
    .ok (ctx.mul q conversion.conversionFactor)

/-- `quantity`: an amount of some unit in the base unit of the item. -/
def quantity (ctx : Context 28 12) (db : Database) (item : Item) (unitId : Id) (q : ℚ) :
    Outcome ℚ := do
  let unit ← found (db.references.units unitId)
  ensure unit.isActive (.validation "Unit is inactive")
  let normalized ← normalize ctx db item unitId q
  let base ← found (db.references.units item.baseUnitId)
  ensure (0 < normalized ∧ normalized = quantize base.precision normalized)
    (.validation "Quantity exceeds base-unit precision")
  .ok normalized

/-- A quantity that passes is positive and has at most four decimals. -/
theorem quantity_spec {ctx : Context 28 12} {db : Database} {item : Item} {unitId : Id} {q n : ℚ}
    (h : quantity ctx db item unitId q = .ok n) : 0 < n ∧ OnGrid 4 n := by
  simp only [quantity, bind_eq_ok, found_eq_ok, ensure_eq_ok, exists_const, Except.ok.injEq] at h
  obtain ⟨_, _, _, normalized, _, base, _, ⟨hpos, hgrid⟩, rfl⟩ := h
  exact ⟨hpos, (eq_quantize_iff.1 hgrid).mono (Nat.le_of_lt_succ base.precision.isLt)⟩

theorem quantity_base {ctx : Context 28 12} {db : Database} {item : Item} {q n : ℚ}
    (h : quantity ctx db item item.baseUnitId q = .ok n) : n = q := by
  simp only [quantity, normalize, if_true, bind_eq_ok, Except.ok.injEq] at h
  obtain ⟨_, _, _, _, _, rfl, _, _, _, _, rfl⟩ := h
  rfl

end Cestos.Inventory
