import Cestos.Core.Handlers
import Cestos.Core.Json
import Cestos.Core.Interleaving
import Cestos.Inventory.Csv
import Cestos.Inventory.System

/-!
# Imports

A CSV file is staged with the errors of its rows, which are found by applying the rows under a
savepoint that is rolled back; each row has a savepoint of its own. A staged import without errors
is confirmed: its rows are applied by the same services, and committed together.
-/

namespace Cestos.Inventory

open Cestos.Core Cestos.Core.Decimal

/-! ## Rows of the kinds of import -/

/-- `StockPolicyFields`. -/
structure StockLevels where
  minimum : ℚ
  maximum : Option ℚ
  reorderPoint : Option ℚ
  reorderQuantity : Option ℚ
  safetyStock : Option ℚ
  leadTimeDays : Option ℕ

/-- `InventoryItemCreate`: what posting depends on, and the other columns that are checked. -/
structure ItemImport where
  body : ItemBody
  sku : Option String
  categoryId : Id
  preferredSupplierId : Option Id
  levels : StockLevels

/-- `InventoryStockPolicyCreate`. -/
structure PolicyImport where
  itemId : Id
  storeId : Id
  isCritical : Bool
  levels : StockLevels

structure ItemDetail where
  itemId : Id
  sku : Option String
  categoryId : Id
  preferredSupplierId : Option Id
  levels : StockLevels

structure StockPolicy extends PolicyImport where
  id : Id

inductive ImportError
  | service (e : ServiceError)
  /-- `model_validate` has refused a row. -/
  | schema (messages : List String)
  | csv (e : Csv.CsvError)
  deriving DecidableEq

/-- What is imported into. -/
structure ImportStock where
  db : Database
  details : Table ItemDetail.itemId
  policies : Table StockPolicy.id
  /-- The categories, and whether they are active. -/
  categories : Id → Option Bool

/-- The functions of texts, and the schemas. -/
structure ImportEnv where
  strip : String → String
  /-- The text of an error. -/
  message : ImportError → String
  item : Json → Except (List String) ItemImport
  policy : Json → Except (List String) PolicyImport
  document : Json → Except (List String) DocumentBody

abbrev ImportOutcome (α : Type) : Type := Except ImportError α

def serviced {α : Type} : Outcome α → ImportOutcome α
  | .ok a => .ok a
  | .error e => .error (.service e)

/-- `model_validate`. -/
def validated {α : Type} : Except (List String) α → ImportOutcome α
  | .ok a => .ok a
  | .error messages => .error (.schema messages)

/-! ## Applying a row -/

/-- What the columns keep. -/
def StockLevels.stored (levels : StockLevels) : StockLevels where
  minimum := numeric 4 levels.minimum
  maximum := levels.maximum.map (numeric 4)
  reorderPoint := levels.reorderPoint.map (numeric 4)
  reorderQuantity := levels.reorderQuantity.map (numeric 4)
  safetyStock := levels.safetyStock.map (numeric 4)
  leadTimeDays := levels.leadTimeDays

def StockLevels.numbers (levels : StockLevels) : List ℚ :=
  levels.minimum :: [levels.maximum, levels.reorderPoint, levels.reorderQuantity,
    levels.safetyStock].reduceOption

def StockLevels.check (levels : StockLevels) (constraint : String) : Outcome StockLevels := do
  ensure (∀ maximum ∈ levels.maximum, levels.minimum ≤ maximum)
    (.validation "Maximum stock must be at least minimum stock")
  ensure (∀ number ∈ levels.numbers, Fits 18 4 number) .overflow
  ensure (∀ days ∈ levels.leadTimeDays, days < 2 ^ 31) .overflow
  ensure (0 ≤ levels.stored.minimum) (.integrity constraint)
  .ok levels.stored

/-- `master_save` for a new item. -/
def saveItem (env : Env) (s : ImportStock) (body : ItemImport) : Outcome ImportStock := do
  checkRef "category_id" (fun id => (s.categories id).map fun active => { isActive := active })
    (some body.categoryId)
  validateRefs env s.db { baseUnitId := body.body.baseUnitId }
  checkRef "preferred_supplier_id"
    (fun id => (s.db.references.suppliers id).map fun active => { isActive := active })
    body.preferredSupplierId
  let levels ← body.levels.check "item_nonnegative"
  let db ← itemSave env s.db body.body none
  ensure (∀ sku ∈ body.sku, ∀ other ∈ s.details.rows, other.sku ≠ some sku)
    (.integrity "uq_inventory_items_sku")
  let details ← orError (s.details.insert? ⟨env.uuid s.db.items.size, body.sku, body.categoryId,
    body.preferredSupplierId, levels⟩) (.integrity "pk_inventory_items")
  .ok { s with db := db, details := details }

/-- `master_save` for a new stock policy. -/
def savePolicy (env : Env) (s : ImportStock) (body : PolicyImport) : Outcome ImportStock := do
  validateRefs env s.db { itemId := some body.itemId, storeId := some body.storeId }
  let levels ← body.levels.check "policy_nonnegative"
  ensure (∀ other ∈ s.policies.rows, other.itemId = body.itemId → other.storeId ≠ body.storeId)
    (.integrity "inventory_stock_policies_item_id_store_id_key")
  let policies ← orError (s.policies.insert?
    { body with id := env.uuid s.policies.size, levels := levels })
    (.integrity "pk_inventory_stock_policies")
  .ok { s with policies := policies }

/-- A receipt that is saved and posted. -/
def openStock (ctx : Context 28 12) (env : Env) (s : ImportStock) (body : DocumentBody) :
    Outcome ImportStock := do
  let (id, db) ← documentSave ctx env s.db .receipts body none
  let db ← action ctx env db .receipts id .post {}
  .ok { s with db := db }

/-- `apply_row`. -/
def applyRow (x : ImportEnv) (ctx : Context 28 12) (env : Env) (kind : String) (s : ImportStock)
    (row : Json) : ImportOutcome ImportStock :=
  if kind = "items" then do
    let body ← validated (x.item row)
    serviced (saveItem env s body)
  else if kind = "stock-policies" then do
    let body ← validated (x.policy row)
    serviced (savePolicy env s body)
  else if kind = "opening-stock" then do
    let body ← validated (x.document row)
    serviced (openStock ctx env s body)
  else .error (.service (.validation "Supported imports: items, stock-policies, opening-stock"))

/-! ## Reading the file -/

/-- The cells that are not blank. -/
def cleanCells (x : ImportEnv) (cells : Csv.Dict) : List (String × String) :=
  cells.filterMap fun (key, value) =>
    ((value.filter (· ≠ "")).map x.strip).bind fun value => if value = "" then none else some (key, value)

/-- The entries of the document that a row of opening stock gives itself. -/
def headerKeys : List String := ["store_id", "supplier_id", "reference_number"]

def jsonCells (cells : List (String × String)) : Json.Members :=
  cells.map fun (key, value) => (key, .str value)

def importRow (x : ImportEnv) (kind : String) (row : Csv.Row) : Json :=
  let cleaned := cleanCells x row.cells
  if kind = "opening-stock" then
    let header := headerKeys.filterMap fun key => (cleaned.lookup key).map (key, ·)
    .obj (jsonCells header ++ [("purpose", .str "OPENING_BALANCE"),
      ("items", .arr [.obj (jsonCells (cleaned.filter fun cell => cell.1 ∉ headerKeys))])])
  else .obj (jsonCells cleaned)

/-- The loop over the rows of the file; the first of them is on the second line. -/
def readRows (x : ImportEnv) (kind : String) : ℕ → List Csv.Row → ImportOutcome (List Json)
  | _, [] => .ok []
  | index, row :: rest => do
    ensure (index ≤ 201) (.service (.validation "Import at most 200 rows per file"))
    ensure (row.tooLong = false) (.service (.validation "CSV row has too many columns"))
    let rows ← readRows x kind (index + 1) rest
    .ok (importRow x kind row :: rows)

/-- `decode("utf-8-sig")`. -/
def decode (data : ByteArray) : Option (List Char) :=
  (String.fromUTF8? data).map fun text =>
    match text.toList with
    | '\ufeff' :: rest => rest
    | chars => chars

/-- The rows of a file. -/
def readFile (x : ImportEnv) (kind : String) (data : ByteArray) : ImportOutcome (List Json) := do
  let text ← orError (decode data) (.service (.validation "CSV must use UTF-8 encoding"))
  let (records, failure) := Csv.dictReader text
  let rows ← readRows x kind 2 records
  match failure with
  | some e => .error (.csv e)
  | none => do
    ensure (rows ≠ []) (.service (.validation "CSV contains no data rows"))
    .ok rows

/-! ## Staging -/

structure RowError where
  row : ℕ
  message : String

structure InventoryImport where
  id : Id
  kind : String
  filename : String
  rows : List Json
  errors : List RowError
  createdById : Id
  /-- Whether the status is `COMPLETED`. -/
  completed : Bool
  completedAt : Option Instant

structure ImportState where
  stock : ImportStock
  imports : Table InventoryImport.id

abbrev ImportHandler (α : Type) : Type := Handler (Pending ImportState) ImportError α

/-- A service call, flushed by `InventoryBatchService.commit`. -/
def flushRow (x : ImportEnv) (ctx : Context 28 12) (env : Env) (kind : String) (row : Json) :
    ImportHandler Unit :=
  Pending.flushes fun s => do
    let stock ← applyRow x ctx env kind s.stock row
    .ok ((), { s with stock := stock })

/-- The rows one after the other, each under a savepoint, and the errors of those that fail. -/
def previewRows (x : ImportEnv) (ctx : Context 28 12) (env : Env) (kind : String) :
    ℕ → List Json → ImportHandler (List RowError)
  | _, [] => pure []
  | index, row :: rest => do
    let result ← Pending.savepoint (flushRow x ctx env kind row)
    let errors ← previewRows x ctx env kind (index + 1) rest
    match result with
    | .ok _ => pure errors
    | .error e => pure (⟨index, String.ofList ((x.message e).toList.take 300)⟩ :: errors)

def stageImport (env : Env) (kind filename : String) (rows : List Json) (errors : List RowError)
    (s : ImportState) : ImportOutcome (InventoryImport × ImportState) := do
  ensure (kind.length ≤ 30 ∧ filename.length ≤ 255) (.service .overflow)
  let stage : InventoryImport :=
    ⟨env.uuid s.imports.size, kind, filename, rows, errors, env.actorId, false, none⟩
  let imports ← orError (s.imports.insert? stage) (.service (.integrity "pk_inventory_imports"))
  .ok (stage, { s with imports := imports })

/-- `preview`, with the lock held. -/
def preview (x : ImportEnv) (ctx : Context 28 12) (env : Env) (kind : String) (data : ByteArray)
    (filename : String) : ImportHandler InventoryImport := do
  let rows ← .reads fun _ => readFile x kind data
  let errors ← Pending.undone (previewRows x ctx env kind 2 rows)
  let stage ← Pending.flushes (stageImport env kind filename rows errors)
  Pending.commit
  pure stage

/-! ## Confirming -/

def flushRows (x : ImportEnv) (ctx : Context 28 12) (env : Env) (kind : String) :
    List Json → ImportHandler Unit
  | [] => pure ()
  | row :: rest => do
    flushRow x ctx env kind row
    flushRows x ctx env kind rest

def InventoryImport.complete (stage : InventoryImport) (now : Instant) : InventoryImport :=
  { stage with completed := true, completedAt := some now }

def completeImport (env : Env) (stage : InventoryImport) (s : ImportState) :
    ImportOutcome (Unit × ImportState) :=
  .ok ((), { s with imports := s.imports.set (stage.complete env.clock) })

/-- `confirm`, with the lock held: the number of rows. -/
def confirm (x : ImportEnv) (ctx : Context 28 12) (env : Env) (identifier : Id) :
    ImportHandler ℕ := do
  let stage ← .reads fun w => serviced (found (w.flushed.imports.find? identifier))
  if stage.completed then pure stage.rows.length
  else do
    .reads fun _ => ensure (stage.errors.length = 0)
      (.service (.conflict "Correct the file errors and upload a new preview"))
    flushRows x ctx env stage.kind stage.rows
    Pending.flushes (completeImport env stage)
    Pending.commit
    pure stage.rows.length

variable {x : ImportEnv} {ctx : Context 28 12} {env : Env} {kind : String}

/-! ## Runs of rows -/

theorem leaves_flushRow {row : Json} {w : Pending ImportState}
    {ok : Unit → Pending ImportState → Prop} {raised : Pending ImportState → Prop}
    (hok : ∀ stock, applyRow x ctx env kind w.flushed.stock row = .ok stock →
      ok () ⟨w.committed, { w.flushed with stock := stock }⟩) (hraised : raised w) :
    (flushRow x ctx env kind row).Leaves w ok raised := by
  refine Pending.leaves_flushes (fun a s h => ?_) hraised
  obtain ⟨stock, happly, heq⟩ := bind_eq_ok.1 h
  obtain ⟨rfl, rfl⟩ := Prod.mk.inj (Except.ok.inj heq)
  exact hok stock happly

/-- A preview without errors has applied each row to what the rows before it have made. -/
theorem leaves_previewRows (rows : List Json) (index : ℕ) (w : Pending ImportState) :
    (previewRows x ctx env kind index rows).Leaves w
      (fun errors w' => w'.committed = w.committed ∧ w'.flushed.imports = w.flushed.imports ∧
        (errors = [] →
          rows.foldlM (applyRow x ctx env kind) w.flushed.stock = .ok w'.flushed.stock))
      fun _ => False := by
  induction rows generalizing index w with
  | nil => exact ⟨rfl, rfl, fun _ => rfl⟩
  | cons row rest ih =>
      rw [previewRows, Handler.leaves_bind]
      refine Pending.leaves_savepoint (leaves_flushRow (fun stock happly => ?_) fun e => ?_)
      · rw [Handler.leaves_bind]
        refine (ih (index + 1) _).mono (fun errors w' ⟨hcommitted, himports, hrows⟩ => ?_)
          fun _ h => h
        refine Handler.leaves_pure.2 ⟨hcommitted, himports, fun hnone => ?_⟩
        rw [List.foldlM_cons, happly]
        exact hrows hnone
      · rw [Handler.leaves_bind]
        refine (ih (index + 1) _).mono (fun errors w' ⟨hcommitted, himports, _⟩ => ?_)
          fun _ h => h
        exact Handler.leaves_pure.2 ⟨hcommitted, himports, fun hnone => nomatch hnone⟩

theorem flushRow_ok {row : Json} {w : Pending ImportState} {stock : ImportStock}
    (h : applyRow x ctx env kind w.flushed.stock row = .ok stock) :
    flushRow x ctx env kind row w =
      (.ok (), ⟨w.committed, { w.flushed with stock := stock }⟩) :=
  Pending.flushes_ok (bind_eq_ok.2 ⟨stock, h, rfl⟩)

/-- Rows that can be applied one after the other are applied without savepoints as well. -/
theorem flushRows_ok {rows : List Json} {w : Pending ImportState} {stock : ImportStock}
    (h : rows.foldlM (applyRow x ctx env kind) w.flushed.stock = .ok stock) :
    flushRows x ctx env kind rows w =
      (.ok (), ⟨w.committed, { w.flushed with stock := stock }⟩) := by
  induction rows generalizing w with
  | nil =>
      obtain rfl := Except.ok.inj h
      rfl
  | cons row rest ih =>
      rw [List.foldlM_cons, bind_eq_ok] at h
      obtain ⟨next, happly, hrest⟩ := h
      rw [flushRows, Handler.bind_apply_ok (flushRow_ok happly)]
      exact ih hrest

theorem leaves_flushRows (rows : List Json) (w : Pending ImportState) :
    (flushRows x ctx env kind rows).Leaves w
      (fun _ w' => ∃ stock,
        rows.foldlM (applyRow x ctx env kind) w.flushed.stock = .ok stock ∧
        w' = ⟨w.committed, { w.flushed with stock := stock }⟩)
      fun w' => w'.committed = w.committed := by
  induction rows generalizing w with
  | nil => exact ⟨w.flushed.stock, rfl, rfl⟩
  | cons row rest ih =>
      rw [flushRows, Handler.leaves_bind]
      refine leaves_flushRow (fun stock happly => ?_) rfl
      refine (ih _).mono (fun _ w' ⟨last, hrest, hw⟩ => ⟨last, ?_, hw⟩) fun _ h => h
      rw [List.foldlM_cons, happly]
      exact hrest

/-! ## What a preview stages -/

/-- The staged import has the rows of the file and the errors that they have given under the
savepoint, and nothing else is new. -/
structure Stages (x : ImportEnv) (ctx : Context 28 12) (env : Env) (kind : String)
    (data : ByteArray) (s : ImportState) (stage : InventoryImport) (s' : ImportState) : Prop where
  rows : readFile x kind data = .ok stage.rows
  sameKind : stage.kind = kind
  errors : (previewRows x ctx env kind 2 stage.rows ⟨s, s⟩).1 = .ok stage.errors
  stock : s'.stock = s.stock
  imports : s'.imports.rows = s.imports.rows ++ [stage]
  found : s'.imports.find? stage.id = some stage
  staged : stage.completed = false

/-- A preview changes nothing but the staged import. -/
def PreviewKeeps (x : ImportEnv) (ctx : Context 28 12) : Prop :=
  ∀ env kind data filename s, (preview x ctx env kind data filename).Leaves ⟨s, s⟩
    (fun stage w => Stages x ctx env kind data s stage w.committed) fun w => w.committed = s

theorem previewKeeps (x : ImportEnv) (ctx : Context 28 12) : PreviewKeeps x ctx := by
  intro env kind data filename s
  rw [preview, Handler.leaves_bind]
  refine Handler.leaves_of_reads (fun rows hrows => ?_) fun _ _ => rfl
  rw [Handler.leaves_bind, Pending.leaves_undone]
  refine (leaves_previewRows rows 2 ⟨s, s⟩).run.mono (fun errors w ⟨hkeeps, hrun⟩ => ?_)
    fun _ h => h.elim
  rw [Handler.leaves_bind, hkeeps.1]
  refine Pending.leaves_flushes (fun stage staged hstage => ?_) rfl
  simp only [stageImport, ensure_bind_eq_ok, orError_bind_eq_ok] at hstage
  obtain ⟨-, imports, hinsert, heq⟩ := hstage
  obtain ⟨rfl, rfl⟩ := Prod.mk.inj (Except.ok.inj heq)
  exact
    { rows := hrows
      sameKind := rfl
      errors := congrArg Prod.fst hrun
      stock := rfl
      imports := Table.insert?_rows hinsert
      found := (Table.find?_insert? hinsert _).trans (if_pos rfl)
      staged := rfl }

/-! ## What a confirmation applies -/

/-- A request to confirm a staged import. -/
structure Confirmation where
  env : Env
  identifier : Id

/-- All the rows of a staged import, and its completion. -/
def importAll (x : ImportEnv) (ctx : Context 28 12) (s : ImportState) (r : Confirmation) :
    ImportOutcome ImportState := do
  let stage ← serviced (found (s.imports.find? r.identifier))
  let stock ← stage.rows.foldlM (applyRow x ctx r.env stage.kind) s.stock
  let (_, s) ← completeImport r.env stage { s with stock := stock }
  .ok s

/-- The staged import has been completed. -/
def Completed (s : ImportState) (identifier : Id) : Prop :=
  ∃ stage, s.imports.find? identifier = some stage ∧ stage.completed = true

/-- A confirmation applies all the rows of a staged import that is not completed, or changes
nothing. -/
def ConfirmAtomic (x : ImportEnv) (ctx : Context 28 12) : Prop :=
  ∀ r s, (confirm x ctx r.env r.identifier).Leaves ⟨s, s⟩
    (fun _ w => Completed s r.identifier ∧ w.committed = s ∨
      ¬ Completed s r.identifier ∧ importAll x ctx s r = .ok w.committed)
    fun w => w.committed = s

theorem found_stage {s : ImportState} {identifier : Id} {stage : InventoryImport} :
    serviced (found (s.imports.find? identifier)) = .ok stage ↔
      s.imports.find? identifier = some stage := by
  cases s.imports.find? identifier <;> simp [found, orError, serviced]

theorem confirmAtomic (x : ImportEnv) (ctx : Context 28 12) : ConfirmAtomic x ctx := by
  intro r s
  rw [confirm, Handler.leaves_bind]
  refine Handler.leaves_of_reads (fun stage hstage => ?_) fun _ _ => rfl
  rw [found_stage] at hstage
  split
  · next hcompleted => exact .inl ⟨⟨stage, hstage, hcompleted⟩, rfl⟩
  · next hopen =>
    rw [Handler.leaves_bind]
    refine Handler.leaves_of_reads (fun _ _ => ?_) fun _ _ => rfl
    rw [Handler.leaves_bind]
    refine (leaves_flushRows stage.rows ⟨s, s⟩).mono (fun _ w hw => ?_) fun _ h => h
    obtain ⟨stock, hrows, rfl⟩ := hw
    rw [Handler.leaves_bind]
    refine Pending.leaves_flushes (fun _ last hlast => .inr ⟨fun hdone => ?_, ?_⟩) rfl
    · obtain ⟨other, hother, hcompleted⟩ := hdone
      rw [hstage] at hother
      obtain rfl := Option.some.inj hother
      exact hopen hcompleted
    · simp only [importAll, bind_eq_ok]
      exact ⟨stage, found_stage.2 hstage, stock, hrows, ⟨(), last⟩, hlast, rfl⟩

/-- Where a preview has reported no errors, a confirmation of the staged import succeeds on the
same state, and has the effect that the rows had under the savepoint. -/
def ConfirmRepeats (x : ImportEnv) (ctx : Context 28 12) : Prop :=
  ∀ env kind data filename s, (preview x ctx env kind data filename).Leaves ⟨s, s⟩
    (fun stage _ => stage.errors = [] → ∀ t : ImportState, t.stock = s.stock →
      t.imports.find? stage.id = some stage →
        (confirm x ctx env stage.id).Leaves ⟨t, t⟩
          (fun count w => count = stage.rows.length ∧ w.committed.stock =
            (previewRows x ctx env kind 2 stage.rows ⟨s, s⟩).2.flushed.stock)
          fun _ => False)
    fun _ => True

theorem rows_of_preview {index : ℕ} {rows : List Json} {w : Pending ImportState}
    (h : (previewRows x ctx env kind index rows w).1 = .ok []) :
    rows.foldlM (applyRow x ctx env kind) w.flushed.stock =
      .ok (previewRows x ctx env kind index rows w).2.flushed.stock := by
  have hleaves : (previewRows x ctx env kind index rows).Leaves w _ _ :=
    leaves_previewRows rows index w
  unfold Handler.Leaves at hleaves
  generalize previewRows x ctx env kind index rows w = run at h hleaves
  obtain ⟨result, w'⟩ := run
  obtain rfl : result = .ok [] := h
  exact hleaves.2.2 rfl

theorem confirmRepeats (x : ImportEnv) (ctx : Context 28 12) : ConfirmRepeats x ctx := by
  intro env kind data filename s
  refine (previewKeeps x ctx env kind data filename s).mono (fun stage w hstages => ?_)
    fun _ _ => trivial
  intro hnone t hstock hfind
  have hrows := rows_of_preview (hnone ▸ hstages.errors)
  obtain rfl := hstages.sameKind
  have hread : (Handler.reads fun w : Pending ImportState =>
      serviced (found (w.flushed.imports.find? stage.id))) ⟨t, t⟩ = (.ok stage, ⟨t, t⟩) :=
    congrArg (·, _) (found_stage.2 hfind)
  rw [confirm, Handler.leaves_bind_ok hread, if_neg (by simp [hstages.staged]), hnone]
  have hflush := flushRows_ok (w := ⟨t, t⟩) (hstock.symm ▸ hrows)
  show (flushRows x ctx env stage.kind stage.rows >>= _).Leaves ⟨t, t⟩ _ _
  exact (Handler.leaves_bind_ok hflush).2 ⟨rfl, rfl⟩

/-! ## Confirmations that interleave -/

/-- The committed state after a request. -/
def Confirmation.serve (x : ImportEnv) (ctx : Context 28 12) (s : ImportState)
    (r : Confirmation) : ImportState :=
  (confirm x ctx r.env r.identifier ⟨s, s⟩).2.committed

theorem serve_atomic (x : ImportEnv) (ctx : Context 28 12) (s : ImportState) (r : Confirmation) :
    r.serve x ctx s = s ∨
      ¬ Completed s r.identifier ∧ importAll x ctx s r = .ok (r.serve x ctx s) := by
  have hleaves : (confirm x ctx r.env r.identifier).Leaves ⟨s, s⟩
      (fun _ w => w.committed = s ∨
        ¬ Completed s r.identifier ∧ importAll x ctx s r = .ok w.committed)
      fun w => w.committed = s ∨
        ¬ Completed s r.identifier ∧ importAll x ctx s r = .ok w.committed :=
    (confirmAtomic x ctx r s).mono (fun _ _ h => h.imp And.right id) fun _ h => .inl h
  exact Handler.leaves_iff.1 hleaves

theorem importAll_eq_ok {s s' : ImportState} {r : Confirmation} :
    importAll x ctx s r = .ok s' ↔ ∃ stage stock, s.imports.find? r.identifier = some stage ∧
      stage.rows.foldlM (applyRow x ctx r.env stage.kind) s.stock = .ok stock ∧
      s' = ⟨stock, s.imports.set (stage.complete r.env.clock)⟩ := by
  simp only [importAll, completeImport, bind_eq_ok, found_stage]
  constructor
  · rintro ⟨stage, hstage, stock, hrows, ⟨_, last⟩, hlast, heq⟩
    obtain rfl := (Prod.mk.inj (Except.ok.inj hlast)).2
    exact ⟨stage, stock, hstage, hrows, (Except.ok.inj heq).symm⟩
  · rintro ⟨stage, stock, hstage, hrows, rfl⟩
    exact ⟨stage, hstage, stock, hrows, _, rfl, rfl⟩

theorem find?_set_eq {t : Table InventoryImport.id} {stage old : InventoryImport} {k : Id}
    (hk : stage.id = k) (h : t.find? k = some old) : (t.set stage).find? k = some stage := by
  subst hk
  exact Table.find?_set_self h

/-- An import that is applied is completed then, and stays completed. -/
theorem once_confirm (x : ImportEnv) (ctx : Context 28 12) :
    Once Confirmation.identifier Completed (importAll x ctx) (fun s r => r.serve x ctx s) where
  serves s r := serve_atomic x ctx s r
  uses s r s' h := by
    obtain ⟨stage, stock, hstage, -, rfl⟩ := importAll_eq_ok.1 h
    have hid : stage.id = r.identifier := Table.key_of_find? hstage
    exact ⟨stage.complete r.env.clock, find?_set_eq hid hstage, rfl⟩
  keeps s r s' k h hused := by
    obtain ⟨stage, stock, hstage, -, rfl⟩ := importAll_eq_ok.1 h
    obtain ⟨other, hother, hcompleted⟩ := hused
    by_cases hk : stage.id = k
    · exact ⟨stage.complete r.env.clock, find?_set_eq hk hother, rfl⟩
    · have hkeeps := Table.find?_set_ne (t := s.imports) (r := stage.complete r.env.clock) hk
      exact ⟨other, hkeeps.trans hother, hcompleted⟩

/-- The confirmations of an organization while they begin and wait for its advisory lock. -/
abbrev ImportsInterleaved (x : ImportEnv) (ctx : Context 28 12) (init : ImportState) :
    Service ImportState Confirmation → Prop :=
  Service.Interleaved (fun r => r.env.now) (fun s r => r.serve x ctx s) (fun _ _ => True) init

/-- What confirmations have done is what some of them do one after the other, no two of these for
the same staged import. -/
def ConfirmsOnce (x : ImportEnv) (ctx : Context 28 12) : Prop :=
  ∀ init service, ImportsInterleaved x ctx init service →
    ∃ applied : List Confirmation, (applied.map Confirmation.identifier).Nodup ∧
      (∀ r ∈ applied, ¬ Completed init r.identifier) ∧
      applied.foldlM (importAll x ctx) init = .ok service.state

theorem confirmsOnce (x : ImportEnv) (ctx : Context 28 12) : ConfirmsOnce x ctx := by
  intro init service hrun
  obtain ⟨applied, happlied⟩ := (once_confirm x ctx).interleaved hrun
  exact ⟨applied, happlied.once, happlied.fresh, happlied.effect⟩

end Cestos.Inventory
