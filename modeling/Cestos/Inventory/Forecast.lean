import Cestos.Core.Decimal.Context
import Cestos.Inventory.Rows

/-!
# Forecasts

The report of what to reorder selects items in the database and recommends a quantity in Python.
The database compares with what is needed, Python with what is missing, and only Python takes a
consumption below zero for none.
-/

namespace Cestos.Inventory

open Cestos.Core Cestos.Core.Decimal

/-- The columns of `item_query` that a forecast is made of. -/
structure ItemRow where
  quantityOnHand : ℚ
  quantityAvailable : ℚ
  inventoryValue : ℚ
  maximumStockLevel : Option ℚ
  reorderPoint : ℚ
  safetyStock : ℚ
  reorderQuantity : ℚ
  leadTimeDays : ℕ
  consumption : ℚ

inductive ForecastStatus
  | noRecentConsumption | stockoutBeforeSupplierLeadTime | normal
  deriving DecidableEq, Repr

structure Forecast where
  averageDailyConsumption : ℚ
  daysRemaining : Option ℚ
  estimatedStockoutDate : Option ℤ
  forecastStatus : ForecastStatus
  recommendedOrderQuantity : ℚ
  averageUnitCost : ℚ

namespace ItemRow

variable (ctx : Context 28 12) (divide : ℚ → ℚ → ℚ) (row : ItemRow) (days : ℕ)

/-- Consumption a day; more returns than issues are no consumption. -/
def usage : ℚ := ctx.div (max 0 row.consumption) days

/-- What is needed until an order arrives, as Python computes it. -/
def demand : ℚ := ctx.add (ctx.mul (row.usage ctx days) row.leadTimeDays) row.safetyStock

/-- `forecast_row` on a day. -/
def forecastRow (today : ℤ) : Forecast :=
  let usage := row.usage ctx days
  let available := row.quantityAvailable
  let remaining := if usage = 0 then none else some (ctx.div available usage)
  let target := max row.reorderPoint (row.demand ctx days)
  let needed := max 0 (ctx.add target (-available))
  let recommended := if 0 < needed then max needed row.reorderQuantity else 0
  { averageDailyConsumption := usage
    daysRemaining := remaining
    estimatedStockoutDate := remaining.map fun remaining => today + min 36500 ⌈remaining⌉
    forecastStatus :=
      if usage = 0 then .noRecentConsumption
      else if remaining.any (· < (row.leadTimeDays : ℚ)) then .stockoutBeforeSupplierLeadTime
      else .normal
    recommendedOrderQuantity := row.maximumStockLevel.elim recommended fun maximum =>
      min recommended (max 0 (ctx.add maximum (-available)))
    averageUnitCost :=
      if row.quantityOnHand = 0 then 0 else ctx.div row.inventoryValue row.quantityOnHand }

/-- What is needed until an order arrives, as the database computes it: it divides by `divide`, and
it adds and multiplies exactly. -/
def databaseDemand : ℚ := divide row.consumption days * row.leadTimeDays + row.safetyStock

/-- The filter of the reorder recommendations. -/
def SelectedForReorder : Prop :=
  row.quantityAvailable ≤ max row.reorderPoint (row.databaseDemand divide days)

instance : Decidable (row.SelectedForReorder divide days) := inferInstanceAs (Decidable (_ ≤ _))

/-- An order does not exceed the maximum level at once. -/
def HasRoom : Prop := ∀ maximum ∈ row.maximumStockLevel, row.quantityAvailable < maximum

instance : Decidable row.HasRoom := inferInstanceAs (Decidable (∀ maximum ∈ _, _ < _))

/-- The item is not at its reorder point without a need beyond, the available quantity is not within
what the database needs and Python has, and not within what Python needs and the database has. -/
structure SidesAgree : Prop where
  reorderPoint : row.quantityAvailable = row.reorderPoint →
    row.quantityAvailable < row.demand ctx days
  database : row.reorderPoint ≤ row.quantityAvailable →
    row.quantityAvailable ≤ row.databaseDemand divide days →
      row.quantityAvailable < row.demand ctx days
  python : row.reorderPoint < row.quantityAvailable →
    row.quantityAvailable < row.demand ctx days →
      row.quantityAvailable ≤ row.databaseDemand divide days

end ItemRow

/-- `alerts` for reorder recommendations. -/
def reorderRecommendations (ctx : Context 28 12) (divide : ℚ → ℚ → ℚ) (rows : List ItemRow)
    (days : ℕ) (today : ℤ) : List (ItemRow × Forecast) :=
  (rows.filter fun row => row.SelectedForReorder divide days).map fun row =>
    (row, row.forecastRow ctx days today)

theorem python_round_pos {x : ℚ} : 0 < Context.python.round x ↔ 0 < x := by
  constructor
  · intro h
    by_contra hx
    have hmono := Context.python.mono (not_lt.1 hx)
    rw [Context.round_zero] at hmono
    linarith
  · intro h
    exact lt_of_lt_of_le (zpow_pos (by norm_num) _) (roundSignificant_bounds (by norm_num) h).1

/-- A quantity is missing exactly if there is less than the target. -/
theorem missing_pos {target available : ℚ} :
    0 < max 0 (Context.python.add target (-available)) ↔ available < target := by
  rw [lt_max_iff, Context.add, python_round_pos, ← sub_eq_add_neg, sub_pos]
  simp

theorem recommended_pos {row : ItemRow} {days : ℕ} {today : ℤ} (hroom : row.HasRoom) :
    0 < (row.forecastRow .python days today).recommendedOrderQuantity ↔
      row.quantityAvailable < max row.reorderPoint (row.demand .python days) := by
  have hneeded : ∀ needed : ℚ,
      0 < (if 0 < needed then max needed row.reorderQuantity else 0) ↔ 0 < needed := by
    intro needed
    split
    · next hpos => exact iff_of_true (lt_max_of_lt_left hpos) hpos
    · next hnone => exact iff_of_false (lt_irrefl 0) hnone
  refine Iff.trans ?_ ((hneeded _).trans missing_pos)
  unfold ItemRow.forecastRow
  cases hmaximum : row.maximumStockLevel with
  | none => exact Iff.rfl
  | some maximum =>
      have hlevel := hroom maximum hmaximum
      exact lt_min_iff.trans (and_iff_left (missing_pos.2 hlevel))

namespace Sample

/-- An item without a maximum level: two are used a day, an order takes five days. -/
def itemRow (available consumption : ℚ) : ItemRow where
  quantityOnHand := available
  quantityAvailable := available
  inventoryValue := 0
  maximumStockLevel := none
  reorderPoint := 5
  safetyStock := 2
  reorderQuantity := 0
  leadTimeDays := 5
  consumption := consumption

end Sample

end Cestos.Inventory
