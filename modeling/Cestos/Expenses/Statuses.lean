import Cestos.Expenses.Balance

/-!
# Statuses of expenses

The list of the expenses shows a status for each of them, and the list of the purchase orders one
for the expenses that are linked to an order. Both are derived from the total, the stored status
and the payments.
-/

namespace Cestos.Expenses

open Cestos.Core Cestos.Core.Decimal

/-- An expense as both lists read it. -/
structure BilledExpense extends OperationalExpense where
  purchaseOrderId : Option Id
  payments : List OperationalExpensePayment
  /-- `operational_expense_payment_positive`. -/
  payments_positive : ∀ p ∈ payments, 0 < p.amount.1

namespace BilledExpense

/-- `SUM(amount)`, or zero if there are no payments. -/
def paid (e : BilledExpense) : ℚ := (e.payments.map (·.amount.1)).sum

/-- Nothing is left to pay. -/
def Settled (e : BilledExpense) : Prop := e.totalCost.1.1 ≤ e.paid

/-- The stored status is one of a completion. -/
def CompletedBefore (e : BilledExpense) : Prop := e.status = .paid ∨ e.status = .completed

instance : DecidablePred Settled := fun e => inferInstanceAs (Decidable (e.totalCost.1.1 ≤ e.paid))

instance : DecidablePred CompletedBefore := fun e =>
  inferInstanceAs (Decidable (e.status = .paid ∨ e.status = .completed))

end BilledExpense

/-! ## The list of the expenses -/

inductive ListedStatus
  | completed | partiallyPaid | paymentReconciliationRequired | submitted
  /-- The stored status as it is. -/
  | stored (status : ExpenseStatus)
  deriving DecidableEq

/-- The status that `list_expenses` shows. -/
def listedStatus (ctx : Context 28 12) (e : BilledExpense) : ListedStatus :=
  let paidAmount := paidToDate ctx e.payments
  if e.payments ≠ [] then
    if balanceDue ctx e.toOperationalExpense paidAmount = 0 then .completed else .partiallyPaid
  else if e.CompletedBefore then .paymentReconciliationRequired
  else if e.status = .partiallyPaid ∧ paidAmount = 0 then .submitted
  else .stored e.status

def ListedStatus.SaysCompleted (s : ListedStatus) : Prop := s = .completed ∨ s = .stored .completed

def ListedStatus.SaysPartiallyPaid (s : ListedStatus) : Prop :=
  s = .partiallyPaid ∨ s = .stored .partiallyPaid

/-! ## The list of the purchase orders -/

inductive OrderExpenseStatus
  | paid | partiallyPaid | raised
  deriving DecidableEq

/-- The state of one linked expense. -/
def expenseState (e : BilledExpense) : OrderExpenseStatus :=
  if e.totalCost.1.1 ≤ e.paid then .paid
  else if 0 < e.paid then .partiallyPaid
  else if e.CompletedBefore then .partiallyPaid
  else .raised

/-- The status shown for the states of the linked expenses. -/
def foldedStatus (states : List OrderExpenseStatus) : Option OrderExpenseStatus :=
  if states ≠ [] ∧ ∀ state ∈ states, state = .paid then some .paid
  else if .partiallyPaid ∈ states then some .partiallyPaid
  else if states ≠ [] then some .raised
  else none

/-- The expenses that are linked to an order. -/
def linkedTo (expenses : List BilledExpense) (poId : Id) : List BilledExpense :=
  expenses.filter fun e => e.purchaseOrderId = some poId

/-- `expense_status` of an order in `list_purchase_orders`. -/
def expenseStatus (expenses : List BilledExpense) (poId : Id) : Option OrderExpenseStatus :=
  foldedStatus ((linkedTo expenses poId).map expenseState)

/-! ## Payments of an expense -/

variable {ctx : Context 28 12} {e : BilledExpense}

theorem BilledExpense.paid_nonneg (e : BilledExpense) : 0 ≤ e.paid := by
  refine List.sum_nonneg fun x hx => ?_
  obtain ⟨p, hp, rfl⟩ := List.mem_map.1 hx
  exact (e.payments_positive p hp).le

theorem BilledExpense.paid_pos_iff : 0 < e.paid ↔ e.payments ≠ [] := by
  constructor
  · intro hpos hnone
    rw [paid, hnone] at hpos
    exact lt_irrefl 0 hpos
  · intro hsome
    obtain ⟨p, rest, hpayments⟩ := List.exists_cons_of_ne_nil hsome
    have hfirst := e.payments_positive p (hpayments ▸ List.mem_cons_self)
    have hrest : 0 ≤ (rest.map (·.amount.1)).sum := by
      refine List.sum_nonneg fun x hx => ?_
      obtain ⟨q, hq, rfl⟩ := List.mem_map.1 hx
      exact (e.payments_positive q (hpayments ▸ List.mem_cons_of_mem p hq)).le
    rw [paid, hpayments, List.map_cons, List.sum_cons]
    linarith

theorem BilledExpense.totalCost_le (e : BilledExpense) : |e.totalCost.1.1| ≤ 10 ^ (18 - 2) :=
  e.totalCost.1.2.2.le

theorem BilledExpense.onGrid_paid (e : BilledExpense) : OnGrid 2 e.paid :=
  Column.onGrid_sum fun p _ => p.amount.2.1

/-- The balance that the list computes is zero when nothing is left to pay. -/
theorem balanceDue_eq_zero_iff :
    balanceDue ctx e.toOperationalExpense (paidToDate ctx e.payments) = 0 ↔ e.Settled := by
  constructor
  · intro hzero
    by_contra hopen
    have hlt : e.paid < e.totalCost.1.1 := not_le.1 hopen
    have hpaid : paidToDate ctx e.payments = e.paid := paidToDate_eq e.payments_positive hlt.le
    rw [hpaid, balanceDue_eq e.onGrid_paid e.paid_nonneg hlt.le] at hzero
    exact hlt.ne (sub_eq_zero.1 hzero).symm
  · intro hsettled
    have hreached : e.totalCost.1.1 ≤ paidToDate ctx e.payments := by
      refine Column.le_foldl_of_le_sum ctx (s := 2) (p := 18) (by omega) (by omega)
        (f := fun p : OperationalExpensePayment => p.amount.1) (fun p _ => p.amount.2.1)
        (fun p hp => (e.payments_positive p hp).le) e.totalCost.1.2.1 e.totalCost_le
        (OnGrid.zero 2) le_rfl ?_
      rw [zero_add]
      exact hsettled
    have hround : ctx.add e.totalCost.1.1 (-paidToDate ctx e.payments) ≤ ctx.round 0 :=
      ctx.mono (by linarith)
    rw [ctx.round_zero] at hround
    exact max_eq_left hround

/-! ## One expense in both lists -/

/-- What both lists say of an expense is the same. -/
structure StatusesAgree (ctx : Context 28 12) (e : BilledExpense) : Prop where
  paid : expenseState e = .paid ↔ (listedStatus ctx e).SaysCompleted
  partiallyPaid : expenseState e = .partiallyPaid ↔ (listedStatus ctx e).SaysPartiallyPaid

theorem expenseState_eq_paid : expenseState e = .paid ↔ e.Settled := by
  unfold expenseState BilledExpense.Settled
  split_ifs <;> simp_all

theorem expenseState_eq_partiallyPaid : expenseState e = .partiallyPaid ↔
    ¬ e.Settled ∧ (0 < e.paid ∨ e.CompletedBefore) := by
  unfold expenseState BilledExpense.Settled
  split_ifs <;> simp_all

theorem listedStatus_of_payments (h : e.payments ≠ []) :
    listedStatus ctx e = if e.Settled then .completed else .partiallyPaid := by
  unfold listedStatus
  simp only [h, ne_eq, not_false_eq_true, if_true, balanceDue_eq_zero_iff]

variable (ctx) in
theorem listedStatus_of_none (h : e.payments = []) :
    ¬ (listedStatus ctx e).SaysCompleted ∧ ¬ (listedStatus ctx e).SaysPartiallyPaid := by
  have hpaid : paidToDate ctx [] = 0 := rfl
  unfold listedStatus ListedStatus.SaysCompleted ListedStatus.SaysPartiallyPaid
  simp only [h, hpaid, ne_eq, not_true_eq_false, if_false, and_true]
  split_ifs with hbefore hunder
  · simp
  · simp
  · simp only [BilledExpense.CompletedBefore, not_or] at hbefore
    simp [hbefore.2, hunder]

/-- Both lists say the same of an expense that has payments, or that costs something and is not
stored as completed. -/
theorem statuses_agree_iff (ctx : Context 28 12) (e : BilledExpense) :
    StatusesAgree ctx e ↔ e.payments ≠ [] ∨ 0 < e.totalCost.1.1 ∧ ¬ e.CompletedBefore := by
  by_cases hpayments : e.payments = []
  · have hpaid : e.paid = 0 := by rw [BilledExpense.paid, hpayments]; rfl
    obtain ⟨hcompleted, hunder⟩ := listedStatus_of_none ctx hpayments
    have hsettled : e.Settled ↔ ¬ 0 < e.totalCost.1.1 := by
      rw [BilledExpense.Settled, hpaid, not_lt]
    constructor
    · rintro ⟨hpaid', hpartially⟩
      rw [expenseState_eq_paid] at hpaid'
      rw [expenseState_eq_partiallyPaid] at hpartially
      have hopen : ¬ e.Settled := fun h => hcompleted (hpaid'.1 h)
      refine .inr ⟨not_not.1 (hsettled.not.1 hopen), fun hbefore => ?_⟩
      exact hunder (hpartially.1 ⟨hopen, .inr hbefore⟩)
    · rintro (hsome | ⟨hcost, hbefore⟩)
      · exact absurd hpayments hsome
      · have hopen : ¬ e.Settled := fun h => hsettled.1 h hcost
        refine ⟨?_, ?_⟩
        · simp [expenseState_eq_paid, hopen, hcompleted]
        · simp [expenseState_eq_partiallyPaid, hpaid, hbefore, hunder]
  · have hpos : 0 < e.paid := BilledExpense.paid_pos_iff.2 hpayments
    refine ⟨fun _ => .inl hpayments, fun _ => ⟨?_, ?_⟩⟩
    · rw [expenseState_eq_paid, listedStatus_of_payments hpayments]
      by_cases hsettled : e.Settled <;> simp [hsettled, ListedStatus.SaysCompleted]
    · rw [expenseState_eq_partiallyPaid, listedStatus_of_payments hpayments]
      by_cases hsettled : e.Settled <;> simp [hsettled, hpos, ListedStatus.SaysPartiallyPaid]

/-! ## The expenses of an order -/

/-- What an order shows agrees with what is paid and due on its expenses. -/
structure OrderStatusAgrees (expenses : List BilledExpense) (poId : Id) : Prop where
  paid : expenseStatus expenses poId = some .paid ↔
    linkedTo expenses poId ≠ [] ∧ ∀ e ∈ linkedTo expenses poId, e.Settled
  partiallyPaid : expenseStatus expenses poId = some .partiallyPaid ↔
    (∃ e ∈ linkedTo expenses poId, 0 < e.paid) ∧ ∃ e ∈ linkedTo expenses poId, ¬ e.Settled
  raised : expenseStatus expenses poId = some .raised ↔
    linkedTo expenses poId ≠ [] ∧ ∀ e ∈ linkedTo expenses poId, e.paid = 0

theorem foldedStatus_eq_paid {states : List OrderExpenseStatus} :
    foldedStatus states = some .paid ↔ states ≠ [] ∧ ∀ state ∈ states, state = .paid := by
  unfold foldedStatus
  split_ifs with hpaid
  · exact iff_of_true rfl hpaid
  · simp [hpaid]
  · simp [hpaid]
  · simp [hpaid]

theorem foldedStatus_eq_partiallyPaid {states : List OrderExpenseStatus} :
    foldedStatus states = some .partiallyPaid ↔ .partiallyPaid ∈ states := by
  unfold foldedStatus
  split_ifs with hpaid hunder
  · simp only [Option.some.injEq, reduceCtorEq, false_iff]
    intro hmem
    cases hpaid.2 _ hmem
  · simp [hunder]
  · simp [hunder]
  · simp [hunder]

theorem foldedStatus_eq_raised {states : List OrderExpenseStatus} :
    foldedStatus states = some .raised ↔
      (∃ state ∈ states, state ≠ .paid) ∧ .partiallyPaid ∉ states := by
  unfold foldedStatus
  split_ifs with hpaid hunder hsome
  · simpa using fun state hstate hne => absurd (hpaid.2 state hstate) hne
  · simp [hunder]
  · simp only [true_iff]
    simp only [not_and, not_forall] at hpaid
    obtain ⟨state, hstate, hne⟩ := hpaid hsome
    exact ⟨⟨state, hstate, hne⟩, hunder⟩
  · simp only [ne_eq, not_not] at hsome
    simp [hsome]

/-- Where something has been paid, all is settled, or an expense that is still due has a payment of
its own or is stored as completed. Where nothing has been paid, something is due, and nothing that
is due is stored as completed. -/
structure OrderPaymentsFit (expenses : List BilledExpense) (poId : Id) : Prop where
  begun : (∃ e ∈ linkedTo expenses poId, 0 < e.paid) →
    (∀ e ∈ linkedTo expenses poId, e.Settled) ∨
      ∃ e ∈ linkedTo expenses poId, ¬ e.Settled ∧ (0 < e.paid ∨ e.CompletedBefore)
  unpaid : linkedTo expenses poId ≠ [] → (∀ e ∈ linkedTo expenses poId, e.paid = 0) →
    (∃ e ∈ linkedTo expenses poId, ¬ e.Settled) ∧
      ∀ e ∈ linkedTo expenses poId, e.CompletedBefore → e.Settled

variable {expenses : List BilledExpense} {poId : Id}

theorem expenseStatus_eq_paid : expenseStatus expenses poId = some .paid ↔
    linkedTo expenses poId ≠ [] ∧ ∀ e ∈ linkedTo expenses poId, e.Settled := by
  simp [expenseStatus, foldedStatus_eq_paid, expenseState_eq_paid]

theorem expenseStatus_eq_partiallyPaid : expenseStatus expenses poId = some .partiallyPaid ↔
    ∃ e ∈ linkedTo expenses poId, ¬ e.Settled ∧ (0 < e.paid ∨ e.CompletedBefore) := by
  simp [expenseStatus, foldedStatus_eq_partiallyPaid, expenseState_eq_partiallyPaid]

theorem expenseStatus_eq_raised : expenseStatus expenses poId = some .raised ↔
    (∃ e ∈ linkedTo expenses poId, ¬ e.Settled) ∧
      ¬ ∃ e ∈ linkedTo expenses poId, ¬ e.Settled ∧ (0 < e.paid ∨ e.CompletedBefore) := by
  simp [expenseStatus, foldedStatus_eq_raised, expenseState_eq_paid, expenseState_eq_partiallyPaid]

theorem unpaid_iff : (∀ e ∈ linkedTo expenses poId, e.paid = 0) ↔
    ¬ ∃ e ∈ linkedTo expenses poId, 0 < e.paid := by
  constructor
  · rintro hzero ⟨e, he, hpos⟩
    exact hpos.ne' (hzero e he)
  · intro hnone e he
    exact le_antisymm (not_lt.1 fun hpos => hnone ⟨e, he, hpos⟩) e.paid_nonneg

/-- The status of an order agrees with the sums that are shown beside it exactly when its payments
fit. -/
theorem order_status_agrees_iff (expenses : List BilledExpense) (poId : Id) :
    OrderStatusAgrees expenses poId ↔ OrderPaymentsFit expenses poId := by
  constructor
  · intro h
    refine ⟨fun hbegun => ?_, fun hlinked hunpaid => ?_⟩
    · by_cases hdue : ∃ e ∈ linkedTo expenses poId, ¬ e.Settled
      · exact .inr (expenseStatus_eq_partiallyPaid.1 (h.partiallyPaid.2 ⟨hbegun, hdue⟩))
      · exact .inl (by simpa using hdue)
    · obtain ⟨hdue, hnone⟩ := expenseStatus_eq_raised.1 (h.raised.2 ⟨hlinked, hunpaid⟩)
      refine ⟨hdue, fun e he hbefore => ?_⟩
      by_contra hopen
      exact hnone ⟨e, he, hopen, .inr hbefore⟩
  · intro h
    refine ⟨expenseStatus_eq_paid, expenseStatus_eq_partiallyPaid.trans ⟨?_, ?_⟩,
      expenseStatus_eq_raised.trans ⟨?_, ?_⟩⟩
    · rintro ⟨e, he, hopen, hstarted⟩
      refine ⟨?_, e, he, hopen⟩
      by_contra hnone
      have hunpaid := unpaid_iff.2 hnone
      rcases hstarted with hpos | hbefore
      · exact hnone ⟨e, he, hpos⟩
      · exact hopen ((h.unpaid (List.ne_nil_of_mem he) hunpaid).2 e he hbefore)
    · rintro ⟨hbegun, e, he, hopen⟩
      rcases h.begun hbegun with hsettled | hstarted
      · exact absurd (hsettled e he) hopen
      · exact hstarted
    · rintro ⟨⟨e, he, hopen⟩, hnone⟩
      refine ⟨List.ne_nil_of_mem he, unpaid_iff.2 fun hbegun => ?_⟩
      rcases h.begun hbegun with hsettled | hstarted
      · exact hopen (hsettled e he)
      · exact hnone hstarted
    · rintro ⟨hlinked, hunpaid⟩
      obtain ⟨hdue, hbefore⟩ := h.unpaid hlinked hunpaid
      refine ⟨hdue, ?_⟩
      rintro ⟨e, he, hopen, hpos | hcompleted⟩
      · exact unpaid_iff.1 hunpaid ⟨e, he, hpos⟩
      · exact hopen (hbefore e he hcompleted)

/-! ## One order, two expenses -/

namespace Sample

/-- An expense of a hundred dollars that is linked to an order. -/
def hundred (id : Id) (status : ExpenseStatus) (payments : List OperationalExpensePayment)
    (hpositive : ∀ p ∈ payments, 0 < p.amount.1) : BilledExpense where
  id := id
  submittedById := 1
  details := ⟨"Fuel", 0, "CASH", none⟩
  totalCost := ⟨⟨100, by decide +kernel⟩, by decide +kernel⟩
  status := status
  receipt := ⟨none, none, none, none⟩
  paidById := none
  paidAt := none
  purchaseOrderId := some 9
  payments := payments
  payments_positive := hpositive

def inFull : OperationalExpensePayment :=
  ⟨1, 1, ⟨100, by decide +kernel⟩, ⟨none, none, none, none⟩, 2⟩

end Sample

/-- One of two expenses is paid in full: the order shows that nothing has been paid. -/
theorem order_status_agrees_fails : ¬ ∀ expenses poId, OrderStatusAgrees expenses poId := by
  intro hall
  have hpartially := (hall [Sample.hundred 1 .completed [Sample.inFull] (by decide +kernel),
    Sample.hundred 2 .submitted [] (by simp)] 9).partiallyPaid
  revert hpartially
  decide +kernel

/-- A completion that was stored without a payment is partly paid in one list and to be reconciled
in the other. -/
theorem statuses_agree_fails : ¬ ∀ e, StatusesAgree .python e := by
  intro hall
  have hagree := (hall (Sample.hundred 1 .completed [] (by simp))).partiallyPaid
  revert hagree
  unfold ListedStatus.SaysPartiallyPaid
  decide +kernel

end Cestos.Expenses
