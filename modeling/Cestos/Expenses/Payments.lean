import Cestos.Core.Outcome
import Cestos.Core.Sessions
import Cestos.Core.Table
import Cestos.Core.Decimal.Column

/-!
# Expense payments

Operational expenses, the payments recorded on them, and the two requests that write an
expense: `complete_expense` and `update_expense`. Both lock the row of the expense before
they read anything else of it.
-/

namespace Cestos.Expenses

open Cestos.Core Cestos.Core.Decimal

abbrev Id := Nat

abbrev Instant := Nat

/-- Statuses up to case. `paid` is a legacy status, `other` any text the service does not
know. -/
inductive ExpenseStatus
  | submitted | partiallyPaid | completed | paid
  | other (text : String)
  deriving DecidableEq, Repr

/-- The columns of a stored receipt. -/
structure Receipt where
  path : Option String
  name : Option String
  mimeType : Option String
  sizeBytes : Option Nat
  deriving DecidableEq, Repr

/-- The columns an edit may change besides the total. -/
structure Details where
  payToName : String
  expenseDate : Nat
  paymentMethod : String
  category : Option String
  deriving DecidableEq, Repr

/-- Costs are not negative (`ge=0`). -/
abbrev Cost := {c : Column 18 2 // 0 ≤ c.1}

structure OperationalExpense where
  id : Id
  submittedById : Id
  details : Details
  totalCost : Cost
  status : ExpenseStatus
  receipt : Receipt
  paidById : Option Id
  paidAt : Option Instant
  deriving DecidableEq

structure OperationalExpensePayment where
  id : Id
  expenseId : Id
  amount : Column 18 2
  receipt : Receipt
  paidById : Id
  deriving DecidableEq

structure Database where
  expenses : Table OperationalExpense.id
  payments : Table OperationalExpensePayment.id

/-- Who makes a request, and whether `is_finance` holds of them. -/
structure Actor where
  id : Id
  finance : Bool
  deriving DecidableEq, Repr

/-- How a request fails. -/
inductive ExpenseError
  | http (status : Nat) (detail : String)
  /-- The payment is not positive or exceeds the remaining balance, which the text names. -/
  | balance (remaining : ℚ)
  /-- The decimal context cannot represent the amount in hundredths. -/
  | invalidOperation
  deriving DecidableEq

/-! ## Recording a payment -/

/-- The file sent with a payment, as far as it could be stored. -/
inductive Upload
  | empty
  | refused (detail : String)
  | stored (receipt : Receipt)
  deriving DecidableEq, Repr

/-- The form of `complete_expense`. -/
structure PaymentForm where
  expenseId : Id
  amount : ℚ
  upload : Option Upload
  actor : Actor
  /-- The identifier the payment row gets. -/
  paymentId : Id
  now : Instant
  deriving DecidableEq

def Database.paymentsOf (db : Database) (expenseId : Id) : List OperationalExpensePayment :=
  db.payments.rows.filter (·.expenseId = expenseId)

/-- `SUM(amount)` over the payments of an expense. -/
def Database.recordedPaid (db : Database) (expenseId : Id) : ℚ :=
  ((db.paymentsOf expenseId).map (·.amount.1)).sum

/-- `paid_to_date`. -/
def paidToDate (ctx : Context 28 12) (prior : List OperationalExpensePayment) : ℚ :=
  prior.foldl (fun sum p => ctx.add sum p.amount) 0

/-- `max(Decimal("0"), row.total_cost - paid)`. -/
def balanceDue (ctx : Context 28 12) (row : OperationalExpense) (paid : ℚ) : ℚ :=
  max 0 (ctx.add row.totalCost.1 (-paid))

/-- The checks of the amount. -/
def checkAmount (ctx : Context 28 12) (row : OperationalExpense) (paid amount : ℚ) :
    Except ExpenseError Unit := do
  ensure (|quantize 2 amount| < 10 ^ 26) .invalidOperation
  ensure (amount = quantize 2 amount)
    (.http 422 "Payment amount can have at most two decimal places")
  ensure (¬ (amount ≤ 0 ∨ balanceDue ctx row paid < amount)) (.balance (balanceDue ctx row paid))

def named (text : Option String) : Bool := text.any (· ≠ "")

/-- The receipt of a payment: the file sent, or what a legacy expense already has. -/
def chooseReceipt (row : OperationalExpense) (prior : List OperationalExpensePayment) :
    Option Upload → Except ExpenseError Receipt
  | some .empty => .error (.http 422 "Attach a non-empty payment receipt")
  | some (.refused detail) => .error (.http 422 detail)
  | some (.stored receipt) => .ok receipt
  | none =>
    if prior = [] ∧ named row.receipt.path ∧ named row.receipt.name then .ok row.receipt
    else .error (.http 422 "Attach a receipt for this payment installment")

/-- The first flush: the row before the payment is inserted. -/
def markPaid (r : PaymentForm) (row : OperationalExpense) (receipt : Receipt) :
    OperationalExpense :=
  { row with
    status := .partiallyPaid
    paidById := some r.actor.id
    paidAt := some r.now
    receipt := receipt }

/-- The last flush: the status after the payment. -/
def settle (ctx : Context 28 12) (row : OperationalExpense) (paidTotal : ℚ) : OperationalExpense :=
  { row with
    status := if balanceDue ctx row paidTotal = 0 then .completed else .partiallyPaid }

/-- `enforce_operational_expense_paid_balance`: whether the trigger lets a row pass. -/
def paidBalanceHolds (row : OperationalExpense) (recordedPaid : ℚ) : Bool :=
  row.status ≠ .completed ∨ row.totalCost.1 ≤ recordedPaid

/-! ## Editing -/

/-- `OperationalExpenseUpdate`: a field that is absent or null stays as it is. -/
structure EditForm where
  expenseId : Id
  payToName : Option String
  expenseDate : Option Nat
  paymentMethod : Option String
  category : Option String
  totalCost : Option Cost
  actor : Actor
  deriving DecidableEq

def editExpense (r : EditForm) (row : OperationalExpense) :
    Except ExpenseError OperationalExpense := do
  ensure (row.submittedById = r.actor.id ∨ r.actor.finance) (.http 404 "Expense not found")
  ensure (row.paidAt = none ∧ row.status ∉ [.paid, .completed, .partiallyPaid])
    (.http 409 "Expenses with recorded payments cannot be edited")
  ensure (row.submittedById = r.actor.id) (.http 403 "Only the submitter can edit this expense")
  .ok { row with
    details := {
      payToName := r.payToName.getD row.details.payToName
      expenseDate := r.expenseDate.getD row.details.expenseDate
      paymentMethod := r.paymentMethod.getD row.details.paymentMethod
      category := r.category.or row.details.category }
    totalCost := r.totalCost.getD row.totalCost }

/-! ## The requests under way -/

inductive Session
  | completing (r : PaymentForm)
  /-- The row is locked, the earlier payments are not read yet. -/
  | locked (r : PaymentForm) (row : OperationalExpense)
  /-- The row is flushed as partially paid. -/
  | marked (r : PaymentForm) (row : OperationalExpense) (amount : Column 18 2) (paid : ℚ)
  /-- The payment is flushed as well. -/
  | inserted (row : OperationalExpense) (payment : OperationalExpensePayment) (paidTotal : ℚ)
  | updating (r : EditForm)
  | editing (r : EditForm) (row : OperationalExpense)
  deriving DecidableEq

/-- The expense whose row a session has locked. -/
def Session.locks : Session → Option Id
  | .locked _ row | .marked _ row _ _ | .inserted row _ _ | .editing _ row => some row.id
  | .completing _ | .updating _ => none

/-- `SELECT ... FOR UPDATE`: waits while another session holds the row. -/
def lockRow (others : List Session) (db : Database) (id : Id)
    (next : OperationalExpense → Session) : Option (Database × Option Session) :=
  if ∃ u ∈ others, u.locks = some id then none
  else some (db, (db.expenses.find? id).map next)

/-- The commit, which the deferred trigger may still refuse. -/
def commitPayment (ctx : Context 28 12) (db : Database) (row : OperationalExpense)
    (payment : OperationalExpensePayment) (paidTotal : ℚ) : Option Database :=
  match db.payments.insert? payment with
  | none => none
  | some payments =>
    let db' : Database := ⟨db.expenses.set (settle ctx row paidTotal), payments⟩
    if paidBalanceHolds (settle ctx row paidTotal) (db'.recordedPaid row.id) then some db'
    else none

/-- The statements of `complete_expense` and `update_expense`. A request that raises, or
whose commit is refused, ends without effect. -/
def expense (ctx : Context 28 12) : Statement Database Session := fun others db session =>
  match session with
  | .completing r =>
    if r.actor.finance then lockRow others db r.expenseId (.locked r) else some (db, none)
  | .locked r row =>
    let prior := db.paymentsOf row.id
    match (do checkAmount ctx row (paidToDate ctx prior) r.amount
              chooseReceipt row prior r.upload : Except ExpenseError Receipt),
        Column.store 18 2 r.amount with
    | .ok receipt, some amount =>
      some (db, some (.marked r (markPaid r row receipt) amount (paidToDate ctx prior)))
    | _, _ => some (db, none)
  | .marked r row amount paid =>
    some (db, some (.inserted row ⟨r.paymentId, row.id, amount, row.receipt, r.actor.id⟩
      (ctx.add paid amount)))
  | .inserted row payment paidTotal =>
    some ((commitPayment ctx db row payment paidTotal).getD db, none)
  | .updating r => lockRow others db r.expenseId (.editing r)
  | .editing r row =>
    match editExpense r row with
    | .ok row' => some ({ db with expenses := db.expenses.set row' }, none)
    | .error _ => some (db, none)

def Session.IsCall : Session → Prop
  | .completing _ | .updating _ => True
  | _ => False

instance : DecidablePred Session.IsCall
  | .completing _ | .updating _ => .isTrue trivial
  | .locked _ _ | .marked _ _ _ _ | .inserted _ _ _ | .editing _ _ => .isFalse id

/-- Expenses without payments, whatever their status is. -/
def Database.Unpaid (db : Database) : Prop := db.payments.rows = []

/-- The databases, with the requests under way, that some interleaving leads to. -/
abbrev Interleavings (ctx : Context 28 12) : Sessions Database Session → Prop :=
  Sessions.Interleaved Session.IsCall (expense ctx) (fun _ _ _ => True) Database.Unpaid

end Cestos.Expenses
