import Cestos.Drilling.Rows

/-!
# Revenue of a shift

`calculate_and_post_shift_revenue`: the entries a shift report earns under the active
contract of its project. Depths are column values, so their sums and differences are exact;
products are rounded by the decimal context.
-/

namespace Cestos.Drilling

open Cestos.Core Cestos.Core.Decimal

/-- The contract that is used: the active one that started last. -/
def activeContract (refs : References) (projectId : Id) : Option ProjectContract :=
  (refs.contracts.filter fun c => c.projectId = projectId ∧ c.status = .active ∧ ¬ c.archived).foldl
    (fun best c => match best with
      | none => some c
      | some b => if b.startDate < c.startDate then some c else some b) none

/-- Truth of an optional text. -/
def given : Option String → Bool
  | none => false
  | some text => text ≠ ""

/-- The entry of a quantity that a card prices. -/
def earned (ctx : Context 28 12) (contract : ProjectContract) (report : DrillingShiftReport)
    (card : ContractRateCard) (category : RevenueCategory) (description : EntryDescription)
    (quantity : ℚ) : RevenueSubledgerEntry where
  projectId := report.projectId
  rigId := report.rigId
  shiftReportId := report.id
  contractId := contract.id
  rateCardId := card.id
  revenueCategory := category
  description := description
  quantity := quantity
  unitRate := card.unitRate
  totalRevenue := ctx.mul quantity card.unitRate
  currency := contract.currency
  exchangeRateToBase := 1
  totalRevenueBase := ctx.mul quantity card.unitRate

/-! ## Meterage -/

/-- Whether a card is for the drilling method of an interval. -/
def methodMatches (lower : String → String) (card : ContractRateCard)
    (iv : DrillingShiftInterval) : Bool :=
  ¬ (given card.drillingMethod ∧ given iv.drillingMethod ∧
    card.drillingMethod.map lower ≠ iv.drillingMethod.map lower)

def bandFrom (card : ContractRateCard) : ℚ := card.depthFromM.elim 0 (·.1)

def bandTo (card : ContractRateCard) : ℚ := card.depthToM.elim 999999 (·.1)

def overlapFrom (card : ContractRateCard) (iv : DrillingShiftInterval) : ℚ :=
  max iv.fromDepthM.1 (bandFrom card)

def overlapTo (card : ContractRateCard) (iv : DrillingShiftInterval) : ℚ :=
  min iv.toDepthM.1 (bandTo card)

def overlapQty (card : ContractRateCard) (iv : DrillingShiftInterval) : ℚ :=
  max 0 (overlapTo card iv - overlapFrom card iv)

section Meterage

variable (ctx : Context 28 12) (lower : String → String) (contract : ProjectContract)
  (report : DrillingShiftReport)

/-- The turns of the loop over the cards that reach the interval. -/
def bandEntries (cards : List ContractRateCard) (iv : DrillingShiftInterval) :
    List RevenueSubledgerEntry :=
  (cards.filter fun card => methodMatches lower card iv ∧ 0 < overlapQty card iv).map fun card =>
    earned ctx contract report card .drillingMeterage
      (.meterage (overlapFrom card iv) (overlapTo card iv)) (overlapQty card iv)

/-- One turn of the loop over the intervals; the first card is the fallback. -/
def intervalEntries (cards : List ContractRateCard) (iv : DrillingShiftInterval) :
    List RevenueSubledgerEntry :=
  if iv.drilledMetres.1 ≤ 0 then []
  else
    let entries := bandEntries ctx lower contract report cards iv
    if (entries.map (·.quantity)).sum = 0 then
      entries ++ cards.head?.toList.map fun card =>
        earned ctx contract report card .drillingMeterage
          (.meterage iv.fromDepthM.1 iv.toDepthM.1) iv.drilledMetres.1
    else entries

def meterCards : List ContractRateCard :=
  contract.rateCards.filter (·.rateType = .drillingMeter)

def meterageEntries : List RevenueSubledgerEntry :=
  report.intervals.flatMap (intervalEntries ctx lower contract report (meterCards contract))

end Meterage

/-! ## Hours -/

section Hours

variable (ctx : Context 28 12) (contract : ProjectContract) (report : DrillingShiftReport)

def firstCard (rateType : RateType) : Option ContractRateCard :=
  contract.rateCards.find? (·.rateType = rateType)

def hoursOf (category : TimeCategory) : ℚ :=
  ((report.timeSegments.filter (·.category = category)).map (·.hours.1)).sum

/-- The hours of the first card of a type, if there are any. -/
def hourEntries (rateType : RateType) (category : RevenueCategory)
    (description : ℚ → EntryDescription) (hours : ℚ) : List RevenueSubledgerEntry :=
  match firstCard contract rateType with
  | none => []
  | some card =>
    if 0 < hours then [earned ctx contract report card category (description hours) hours] else []

/-- The report has no `standby_hours` of its own. -/
def standbyEntries : List RevenueSubledgerEntry :=
  hourEntries ctx contract report .standbyHourly .standbyTime .standby (hoursOf report .standby)

def dayworkHours : ℚ :=
  if hoursOf report .productive = 0 then report.totalProductiveHours.1
  else hoursOf report .productive

def dayworkEntries : List RevenueSubledgerEntry :=
  hourEntries ctx contract report .dayworkHourly .daywork .daywork (dayworkHours report)

end Hours

/-! ## Posting -/

/-- What a report earns apart from the mobilization fee. -/
def shiftEntries (ctx : Context 28 12) (lower : String → String) (contract : ProjectContract)
    (report : DrillingShiftReport) : List RevenueSubledgerEntry :=
  meterageEntries ctx lower contract report ++ standbyEntries ctx contract report ++
    dayworkEntries ctx contract report

/-- The fee of the contract, unless an entry for it exists. -/
def mobilizationEntries (ctx : Context 28 12) (contract : ProjectContract)
    (report : DrillingShiftReport) (ledger : List RevenueSubledgerEntry) :
    List RevenueSubledgerEntry :=
  match firstCard contract .mobilizationFlat with
  | none => []
  | some card =>
    if ∃ e ∈ ledger, e.contractId = contract.id ∧ e.revenueCategory = .mobilization then []
    else
      [{ earned ctx contract report card .mobilization
          (.mobilization (if given card.description then card.description.getD "" else
            contract.title)) 1 with
        totalRevenue := card.unitRate.1
        totalRevenueBase := card.unitRate.1 }]

/-- Whether a text fits its column; only the mobilization text may be too long. -/
def EntryDescription.fits : EntryDescription → Bool
  | .mobilization text => ("Contract Mobilization Flat Fee — " ++ text).length ≤ 255
  | .meterage _ _ | .standby _ | .daywork _ => true

/-- The columns an entry is flushed to. -/
def storeEntry (e : RevenueSubledgerEntry) : Outcome RevenueSubledgerEntry := do
  ensure e.description.fits .data
  let quantity ← orError (Column.store 14 2 e.quantity) .data
  let totalRevenue ← orError (Column.store 14 2 e.totalRevenue) .data
  let totalRevenueBase ← orError (Column.store 14 2 e.totalRevenueBase) .data
  .ok { e with
    quantity := quantity.1, totalRevenue := totalRevenue.1,
    totalRevenueBase := totalRevenueBase.1 }

/-- `calculate_and_post_shift_revenue`. -/
def calculateAndPostShiftRevenue (ctx : Context 28 12) (refs : References)
    (ledger : List RevenueSubledgerEntry) (report : DrillingShiftReport) :
    Outcome (List RevenueSubledgerEntry) :=
  match activeContract refs report.projectId with
  | none => .ok ledger
  | some contract => do
    let kept := ledger.filter (·.shiftReportId ≠ report.id)
    let posted := shiftEntries ctx refs.lower contract report
    let fee := mobilizationEntries ctx contract report (kept ++ posted)
    let stored ← (posted ++ fee).mapM storeEntry
    .ok (kept ++ stored)

end Cestos.Drilling
