import Mathlib.Algebra.Order.BigOperators.Group.List
import Cestos.Core.Lookup
import Cestos.Inventory.Journal

/-!
# Consumption

Issues count as consumption, returns and reversed issues against it. With a store only what went
out of that store counts, and a return goes out of none: the stores together have consumed what all
returns have brought back.
-/

namespace Cestos.Inventory

open Cestos.Core Cestos.Core.Decimal

/-- The filters of `consumption_aggregate`. -/
structure ConsumptionFilters where
  storeId : Option Id
  projectId : Option Id
  assetId : Option Id
  employeeId : Option Id

namespace ConsumptionFilters

variable (filters : ConsumptionFilters)

/-- The filters besides that of the store. -/
def selects (tx : Transaction) : Prop :=
  (∀ id ∈ filters.projectId, tx.projectId = some id) ∧
    (∀ id ∈ filters.assetId, tx.assetId = some id) ∧
    ∀ id ∈ filters.employeeId, tx.employeeId = some id

instance (tx : Transaction) : Decidable (filters.selects tx) :=
  inferInstanceAs (Decidable ((∀ id ∈ _, _ = some id) ∧ (∀ id ∈ _, _ = some id) ∧
    ∀ id ∈ _, _ = some id))

end ConsumptionFilters

namespace Database

variable (db : Database)

/-- The transaction that is reversed, if there is one. -/
def original (tx : Transaction) : Option Transaction := tx.reversalOfId.bind db.transactions.find?

/-- How a transaction counts. No service writes a transaction of the type `CONSUMPTION`. -/
def consumptionSign (tx : Transaction) : ℚ :=
  match tx.type with
  | .issue => 1
  | .returnFromEmployee => -1
  | .reversal => if (db.original tx).any (·.type = .issue) then -1 else 0
  | _ => 0

/-- `consumption_aggregate` since the beginning of the window: for every item the quantity that
was consumed, and its cost. -/
def consumptionAggregate (since : Instant) (filters : ConsumptionFilters) : List (Id × ℚ × ℚ) :=
  groupSums ((db.transactions.rows.filter fun tx => since ≤ tx.transactionDate ∧
    (∀ id ∈ filters.storeId, tx.fromStoreId = some id) ∧ filters.selects tx).map fun tx =>
      (tx.itemId, tx.quantity * db.consumptionSign tx, tx.totalCost * db.consumptionSign tx))

/-- The consumption of an item as it is reported; an item without a row has none. -/
def consumption (since : Instant) (filters : ConsumptionFilters) (itemId : Id) : ℚ :=
  (sumOf (db.consumptionAggregate since filters) itemId).1

/-! ## Stores -/

/-- The transactions of an item in the window, of whatever store. -/
def counted (since : Instant) (filters : ConsumptionFilters) (itemId : Id) : List Transaction :=
  db.transactions.rows.filter fun tx =>
    since ≤ tx.transactionDate ∧ filters.selects tx ∧ tx.itemId = itemId

variable {db} {since : Instant} {filters : ConsumptionFilters} {itemId : Id}

theorem mem_counted {tx : Transaction} : tx ∈ db.counted since filters itemId ↔
    tx ∈ db.transactions.rows ∧ since ≤ tx.transactionDate ∧ filters.selects tx ∧
      tx.itemId = itemId := by
  simp [counted]

theorem consumption_eq : db.consumption since filters itemId =
    (((db.counted since filters itemId).filter fun tx =>
      ∀ id ∈ filters.storeId, tx.fromStoreId = some id).map fun tx =>
        tx.quantity * db.consumptionSign tx).sum := by
  rw [consumption, consumptionAggregate, sumOf_groupSums, sumOf]
  refine (map_list_sum (AddMonoidHom.fst ℚ ℚ) _).trans ?_
  rw [counted, List.filter_map, List.filter_filter, List.filter_filter, List.map_map, List.map_map]
  refine congrArg₂ (fun p l => (List.map p l).sum) rfl (List.filter_congr fun tx _ => ?_)
  simp only [Function.comp_apply, ← Bool.decide_and]
  refine decide_eq_decide.2 ?_
  tauto

theorem consumption_all : db.consumption since { filters with storeId := none } itemId =
    ((db.counted since filters itemId).map fun tx => tx.quantity * db.consumptionSign tx).sum := by
  rw [consumption_eq]
  refine congrArg (fun l => (List.map _ l).sum) (List.filter_eq_self.2 fun tx _ => ?_)
  simp

theorem consumption_store (store : Id) :
    db.consumption since { filters with storeId := some store } itemId =
      sumOf ((db.counted since filters itemId).map fun tx =>
        (tx.fromStoreId, tx.quantity * db.consumptionSign tx)) (some store) := by
  rw [consumption_eq, sumOf, List.filter_map, List.map_map]
  refine congrArg₂ (fun p l => (List.map p l).sum) rfl (List.filter_congr fun tx _ => ?_)
  simp

/-- What all stores have consumed besides what went out of none. -/
theorem sum_consumption_store {stores : List Id} (hnodup : stores.Nodup)
    (hstores : ∀ tx ∈ db.transactions.rows, ∀ store ∈ tx.fromStoreId, store ∈ stores) :
    db.consumption since { filters with storeId := none } itemId =
      (stores.map fun store =>
        db.consumption since { filters with storeId := some store } itemId).sum +
      (((db.counted since filters itemId).filter (·.fromStoreId = none)).map fun tx =>
        tx.quantity * db.consumptionSign tx).sum := by
  simp only [consumption_store, consumption_all]
  have hkeys : (stores.map some).Nodup := hnodup.map (Option.some_injective _)
  have hsum := sum_sumOf hkeys ((db.counted since filters itemId).map fun tx =>
    (tx.fromStoreId, tx.quantity * db.consumptionSign tx))
  rw [List.map_map] at hsum
  refine Eq.trans ?_ (congrArg (· + _) hsum.symm)
  rw [List.filter_map, List.map_map,
    ← List.sum_map_filter_add_sum_map_filter_not (fun tx => tx.fromStoreId ≠ none)]
  have hin : ∀ tx ∈ db.counted since filters itemId,
      tx.fromStoreId ≠ none ↔ tx.fromStoreId ∈ stores.map some := by
    intro tx htx
    cases hstore : tx.fromStoreId with
    | none => simp
    | some store => simpa using hstores tx (mem_counted.1 htx).1 store hstore
  congr 1
  · refine congrArg (fun l => (List.map _ l).sum) (List.filter_congr fun tx htx => ?_)
    exact decide_eq_decide.2 (hin tx htx)
  · refine congrArg (fun l => (List.map _ l).sum) (List.filter_congr fun tx _ => ?_)
    simp

end Database

/-! ## What goes out of no store -/

/-- Issues go out of a store, and a reversal names the store of what it reverses. -/
structure Sourced (db : Database) : Prop where
  issue : ∀ tx ∈ db.transactions.rows, tx.type = .issue → tx.fromStoreId ≠ none
  reversal : ∀ tx ∈ db.transactions.rows, tx.type = .reversal → ∃ original,
    db.transactions.find? original.id = some original ∧ tx.reversalOfId = some original.id ∧
      tx.fromStoreId = original.fromStoreId

variable {ctx : Context 28 12} {env : Env} {cond : CallCondition} {db db' : Database}

theorem Records.issue_source {items : Table Item.id} {doc : Document} {line : Entry} {cost q : ℚ}
    {tx : Transaction} {store : Id} (h : Records ctx env items doc.origin line .issue cost q tx)
    (hstore : sourceStore .issues doc = some store) : tx.fromStoreId ≠ none := by
  have hdoc : doc.storeId = some store := hstore
  rw [h.source.1]
  show doc.fromStoreId.or doc.storeId ≠ none
  rw [hdoc]
  cases doc.fromStoreId <;> simp

/-- A transaction that a call writes is no issue, or it names the store it goes out of. -/
theorem CallPosted.issue_source {c : Call} (h : CallPosted ctx env db c db') {tx : Transaction}
    (htx : tx ∈ db'.transactions.rows) (htype : tx.type = .issue) :
    tx ∈ db.transactions.rows ∨ tx.fromStoreId ≠ none := by
  have hother : ∀ {new : Transaction}, Inserted db.transactions new db'.transactions →
      new.type ≠ .issue → tx ∈ db.transactions.rows := by
    intro new hinserted hnew
    rcases (Table.mem_insert? hinserted.insert).1 htx with hold | rfl
    · exact hold
    · exact absurd htype hnew
  cases h with
  | line _ _ _ hprepared hmove =>
      obtain ⟨lots, serials, rfl⟩ := hprepared.frame
      cases hmove with
      | receipt h => exact .inl (hother h.movement.inserted (h.records.type ▸ receiptType_ne_issue _))
      | issue h =>
          rcases (Table.mem_insert? h.movement.inserted.insert).1 htx with hold | rfl
          · exact .inl hold
          · exact .inr (h.records.issue_source hprepared.source)
      | returned h => exact .inl (hother h.movement.inserted (by rw [h.records.type]; decide))
      | dispatch h => exact .inl (hother h.movement.inserted (by rw [h.records.type]; decide))
      | receive h => exact .inl (hother h.movement.inserted (by rw [h.records.type]; decide))
      | adjustment hkind _ h =>
          exact .inl (hother h.movement.inserted (h.records.type ▸ adjustmentType_ne_issue hkind))
      | count _ _ _ _ h => exact .inl (hother h.movement.inserted (by rw [h.records.type]; decide))
      | unchanged => exact .inl htx
  | reserve h => exact .inl (hother h.movement.inserted (by rw [h.records.type]; decide))
  | release h => exact .inl (hother h.movement.inserted (by rw [h.records.type]; decide))
  | reverse h => exact .inl (hother h.movement.inserted (by rw [h.row]; simp [reversalRow]))
  | nothing => exact .inl htx

theorem Sourced.turn (h : Sourced db) (hturn : Turn ctx env cond db db') : Sourced db' := by
  constructor
  · intro tx htx htype
    cases hturn with
    | bookkeeping hkeep => exact h.issue tx (hkeep.stock.transactions ▸ htx) htype
    | call hvalid _ hrun =>
        exact ((Call.posted hvalid hrun).issue_source htx htype).elim (h.issue tx · htype) id
  · intro tx htx htype
    rcases hturn.written with ⟨hsame, -⟩ | ⟨new, entries, hwritten⟩
    · rw [hsame] at htx ⊢
      exact h.reversal tx htx htype
    · have hinsert := hwritten.movement.inserted.insert
      have hstays : ∀ {original : Transaction}, db.transactions.find? original.id = some original →
          db'.transactions.find? original.id = some original :=
        fun hfound => Table.find?_insert?_of_find? hinsert hfound
      rcases (Table.mem_insert? hinsert).1 htx with hold | rfl
      · obtain ⟨original, hfound, hof, hstore⟩ := h.reversal tx hold htype
        exact ⟨original, hstays hfound, hof, hstore⟩
      · rcases hwritten.reversal with ⟨-, hnot⟩ | ⟨env, original, hposted⟩
        · exact absurd htype hnot
        · refine ⟨original, hstays hposted.found, ?_, ?_⟩
          · rw [hposted.row]
            rfl
          · rw [hposted.row]
            rfl

theorem Passes.sourced (h : Passes ctx (· = .empty) cond db) : Sourced db :=
  h.invariant (fun db (hdb : db = .empty) => hdb ▸
    ⟨fun tx htx => (by cases htx), fun tx htx => (by cases htx)⟩)
    fun _ _ _ _ hdb hturn => hdb.turn hturn

theorem Sourced.sign_eq_zero (h : Sourced db) {tx : Transaction} (htx : tx ∈ db.transactions.rows)
    (hstore : tx.fromStoreId = none) (htype : tx.type ≠ .returnFromEmployee) :
    db.consumptionSign tx = 0 := by
  unfold Database.consumptionSign
  cases hkind : tx.type with
  | issue => exact absurd hstore (h.issue tx htx hkind)
  | returnFromEmployee => exact absurd hkind htype
  | reversal =>
      obtain ⟨original, hfound, hof, hsame⟩ := h.reversal tx htx hkind
      have hnot : original.type ≠ .issue := fun hissue =>
        h.issue original (Table.mem_of_find? hfound) hissue (hsame.symm.trans hstore)
      simp [Database.original, hof, hfound, hnot]
  | _ => rfl

theorem sum_eq_zero_iff_of_nonpos {α : Type} {l : List α} {f : α → ℚ} (h : ∀ a ∈ l, f a ≤ 0) :
    (l.map f).sum = 0 ↔ ∀ a ∈ l, f a = 0 := by
  induction l with
  | nil => simp
  | cons a l ih =>
      obtain ⟨ha, hl⟩ := List.forall_mem_cons.1 h
      have hrest : (l.map f).sum ≤ 0 := (List.sum_le_sum hl).trans_eq (by simp)
      rw [List.map_cons, List.sum_cons, List.forall_mem_cons, ← ih hl]
      constructor
      · intro hsum
        constructor <;> linarith
      · rintro ⟨hzero, hsum⟩
        rw [hzero, hsum, add_zero]

/-- In every state that is reached the consumption of an item is the sum of what all stores report
if and only if every return of the item in the window goes out of a store. -/
theorem consumption_stores {stores : List Id} (h : Reachable ctx db) (hnodup : stores.Nodup)
    (hstores : ∀ tx ∈ db.transactions.rows, ∀ store ∈ tx.fromStoreId, store ∈ stores)
    (since : Instant) (filters : ConsumptionFilters) (itemId : Id) :
    db.consumption since { filters with storeId := none } itemId =
      (stores.map fun store =>
        db.consumption since { filters with storeId := some store } itemId).sum ↔
    ∀ tx ∈ db.transactions.rows, since ≤ tx.transactionDate → filters.selects tx →
      tx.itemId = itemId → tx.type = .returnFromEmployee → tx.fromStoreId ≠ none := by
  have hsourced := (Reachable.passes h).sourced
  have hpositive := (Reachable.passes h).journal.positive
  rw [Database.sum_consumption_store hnodup hstores, add_eq_left]
  have hmem : ∀ {tx : Transaction},
      tx ∈ (db.counted since filters itemId).filter (·.fromStoreId = none) ↔
        (tx ∈ db.transactions.rows ∧ since ≤ tx.transactionDate ∧ filters.selects tx ∧
          tx.itemId = itemId) ∧ tx.fromStoreId = none := by
    intro tx
    rw [List.mem_filter, Database.mem_counted, decide_eq_true_iff]
  rw [sum_eq_zero_iff_of_nonpos fun tx htx => ?_]
  · constructor
    · intro hzero tx htx hsince hselects hitem htype hstore
      have hamount := hzero tx (hmem.2 ⟨⟨htx, hsince, hselects, hitem⟩, hstore⟩)
      rw [Database.consumptionSign, htype] at hamount
      have := hpositive tx htx
      linarith
    · intro hreturns tx htx
      obtain ⟨⟨htx, hsince, hselects, hitem⟩, hstore⟩ := hmem.1 htx
      rw [hsourced.sign_eq_zero htx hstore fun htype =>
        hreturns tx htx hsince hselects hitem htype hstore, mul_zero]
  · obtain ⟨⟨htx, -⟩, hstore⟩ := hmem.1 htx
    by_cases htype : tx.type = .returnFromEmployee
    · rw [Database.consumptionSign, htype]
      have := hpositive tx htx
      linarith
    · rw [hsourced.sign_eq_zero htx hstore htype, mul_zero]

namespace Sample

/-- Five units are issued from the first store and three come back to it. -/
def broughtBack (source : Option Id) : List Request := received ++ [
  postNew 3 .issues 2 (document (line five)),
  postNew 4 .returns 3
    { document (line three) with originalIssueId := some 2, fromStoreId := source }]

def unfiltered : ConsumptionFilters := ⟨none, none, none, none⟩

end Sample

/-- A return that says which store it is booked against. -/
theorem consumption_stores_named :
    (serveAll pythonContext .empty (Sample.broughtBack (some 1))).consumption 0 Sample.unfiltered 1 =
        2 ∧
      (serveAll pythonContext .empty (Sample.broughtBack (some 1))).consumption 0
          { Sample.unfiltered with storeId := none } 1 =
        ([1, 2].map fun store =>
          (serveAll pythonContext .empty (Sample.broughtBack (some 1))).consumption 0
            { Sample.unfiltered with storeId := some store } 1).sum :=
  ⟨by decide +kernel, (consumption_stores (reachable_serveAll pythonContext _) (by decide)
    (by decide +kernel) 0 Sample.unfiltered 1).2 (by decide +kernel)⟩

/-- Two of five units were consumed, but the stores have consumed five. -/
theorem consumption_stores_fails : Reachable pythonContext
      (serveAll pythonContext .empty (Sample.broughtBack none)) ∧
    (serveAll pythonContext .empty (Sample.broughtBack none)).consumption 0 Sample.unfiltered 1 = 2 ∧
    [1, 2].map (fun store =>
      (serveAll pythonContext .empty (Sample.broughtBack none)).consumption 0
        { Sample.unfiltered with storeId := some store } 1) = [5, 0] :=
  ⟨reachable_serveAll pythonContext _, by decide +kernel, by decide +kernel⟩

end Cestos.Inventory
