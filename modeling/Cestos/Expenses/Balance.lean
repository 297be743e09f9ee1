import Cestos.Expenses.Payments

/-!
# The balance of an expense

While a session holds the row of an expense, neither the row nor the payments of the
expense change, so what it read is still so when it commits.
-/

namespace Cestos.Expenses

open Cestos.Core Cestos.Core.Decimal

variable {ctx : Context 28 12} {db db' : Database}

/-! ## Sums of payments -/

theorem paymentsOf_insert? {payment : OperationalExpensePayment} {expenses : Table OperationalExpense.id}
    {payments : Table OperationalExpensePayment.id}
    (h : db.payments.insert? payment = some payments) (id : Id) :
    (⟨expenses, payments⟩ : Database).paymentsOf id =
      db.paymentsOf id ++ if payment.expenseId = id then [payment] else [] := by
  unfold Database.paymentsOf
  rw [Table.insert?_rows h, List.filter_append]
  by_cases hid : payment.expenseId = id <;> simp [hid]

theorem recordedPaid_insert? {payment : OperationalExpensePayment}
    {expenses : Table OperationalExpense.id} {payments : Table OperationalExpensePayment.id}
    (h : db.payments.insert? payment = some payments) (id : Id) :
    (⟨expenses, payments⟩ : Database).recordedPaid id =
      db.recordedPaid id + if payment.expenseId = id then payment.amount.1 else 0 := by
  unfold Database.recordedPaid
  rw [paymentsOf_insert? h, List.map_append, List.sum_append]
  by_cases hid : payment.expenseId = id <;> simp [hid]

theorem paidToDate_eq {prior : List OperationalExpensePayment} {total : Cost}
    (hpos : ∀ p ∈ prior, 0 < p.amount.1) (hle : (prior.map (·.amount.1)).sum ≤ total.1.1) :
    paidToDate ctx prior = (prior.map (·.amount.1)).sum := by
  have hmax := (abs_lt.1 total.1.2.2).2
  have hsum := Column.foldl_add_eq ctx (s := 2) (p := 18) (by omega) (by omega)
    (f := fun p : OperationalExpensePayment => p.amount.1) (l := prior)
    (fun p _ => p.amount.2.1) (fun p hp => (hpos p hp).le) (OnGrid.zero 2) le_rfl
    (by rw [zero_add]; exact hle.trans hmax.le)
  rw [zero_add] at hsum
  exact hsum

theorem balanceDue_eq {row : OperationalExpense} {paid : ℚ} (hgrid : OnGrid 2 paid)
    (hpos : 0 ≤ paid) (hle : paid ≤ row.totalCost.1.1) :
    balanceDue ctx row paid = row.totalCost.1.1 - paid := by
  have hmax := (abs_lt.1 row.totalCost.1.2.2).2
  have hexact : ctx.add row.totalCost.1.1 (-paid) = row.totalCost.1.1 + -paid := by
    refine Column.add_eq ctx (s := 2) (p := 18) (by omega) (by omega) row.totalCost.1.2.1
      hgrid.neg ?_
    rw [abs_of_nonneg (by linarith)]
    linarith
  rw [balanceDue, hexact, ← sub_eq_add_neg]
  exact max_eq_right (by linarith)

/-! ## The invariant -/

/-- The payments of every expense stay within its total, and its status tells whether they
have reached it. -/
structure Database.Balanced (db : Database) : Prop where
  positive : ∀ p ∈ db.payments.rows, 0 < p.amount.1
  bound : ∀ row ∈ db.expenses.rows, db.recordedPaid row.id ≤ row.totalCost.1.1
  paidAt : ∀ row ∈ db.expenses.rows, db.paymentsOf row.id ≠ [] → row.paidAt ≠ none
  status : ∀ row ∈ db.expenses.rows, db.paymentsOf row.id ≠ [] → row.status =
    if db.recordedPaid row.id = row.totalCost.1.1 then .completed else .partiallyPaid

/-- The row a session writes back belongs to a stored expense with the same total. -/
structure Session.Holds (db : Database) (row : OperationalExpense) : Prop where
  stored : ∃ old, db.expenses.find? row.id = some old ∧ old.totalCost = row.totalCost
  paidAt : row.paidAt ≠ none

/-- What a session has in memory agrees with the database. -/
def Session.Sound (db : Database) : Session → Prop
  | .completing _ | .updating _ => True
  | .locked _ row | .editing _ row => db.expenses.find? row.id = some row
  | .marked _ row amount paid => Session.Holds db row ∧ 0 < amount.1 ∧
      paid = db.recordedPaid row.id ∧ paid + amount.1 ≤ row.totalCost.1.1
  | .inserted row payment paidTotal => Session.Holds db row ∧ 0 < payment.amount.1 ∧
      payment.expenseId = row.id ∧ paidTotal = db.recordedPaid row.id + payment.amount.1 ∧
      paidTotal ≤ row.totalCost.1.1

/-- No two sessions hold the row of one expense. -/
def Session.Apart (t u : Session) : Prop := ∀ id, t.locks = some id → u.locks ≠ some id

theorem Session.Apart.symm {t u : Session} (h : t.Apart u) : u.Apart t :=
  fun id hu ht => h id ht hu

/-- What another session does to other expenses is not seen. -/
theorem Session.Sound.frame {t : Session} (h : t.Sound db)
    (hsame : ∀ id, t.locks = some id → db'.expenses.find? id = db.expenses.find? id ∧
      db'.recordedPaid id = db.recordedPaid id) : t.Sound db' := by
  cases t with
  | completing r => trivial
  | updating r => trivial
  | locked r row => exact (hsame _ rfl).1.trans h
  | editing r row => exact (hsame _ rfl).1.trans h
  | marked r row amount paid =>
      obtain ⟨hfind, hpaid⟩ := hsame _ rfl
      obtain ⟨⟨hstored, hpaidAt⟩, hrest⟩ := h
      exact ⟨⟨hfind ▸ hstored, hpaidAt⟩, hpaid ▸ hrest⟩
  | inserted row payment paidTotal =>
      obtain ⟨hfind, hpaid⟩ := hsame _ rfl
      obtain ⟨⟨hstored, hpaidAt⟩, hrest⟩ := h
      exact ⟨⟨hfind ▸ hstored, hpaidAt⟩, hpaid ▸ hrest⟩

theorem Database.Balanced.sumNonneg (h : db.Balanced) (id : Id) : 0 ≤ db.recordedPaid id := by
  refine List.sum_nonneg fun y hy => ?_
  obtain ⟨p, hp, rfl⟩ := List.mem_map.1 hy
  exact (h.positive p (List.mem_of_mem_filter hp)).le

theorem Database.recordedPaid_onGrid (id : Id) : OnGrid 2 (db.recordedPaid id) :=
  Column.onGrid_sum fun p _ => p.amount.2.1

/-! ## One statement -/

theorem lockRow_db {others : List Session} {id : Id} {f : OperationalExpense → Session}
    {next : Option Session} (h : lockRow others db id f = some (db', next)) : db' = db := by
  unfold lockRow at h
  split at h
  · cases h
  · exact (Prod.mk.inj (Option.some.inj h)).1.symm

theorem lockRow_keeps {others : List Session} {id : Id} {f : OperationalExpense → Session}
    {next : Option Session} (hf : ∀ row, (f row).locks = some row.id)
    (hsound : ∀ row, db.expenses.find? row.id = some row → (f row).Sound db)
    (hdb : db.Balanced) (hothers : ∀ u ∈ others, u.Sound db)
    (h : lockRow others db id f = some (db', next)) :
    Sessions.Keeps Database.Balanced Session.Sound Session.Apart others db' next := by
  unfold lockRow at h
  split at h
  · cases h
  · next hfree =>
    obtain ⟨rfl, rfl⟩ := Prod.mk.inj (Option.some.inj h)
    have hfound : ∀ t ∈ (db.expenses.find? id).map f, ∃ row,
        db.expenses.find? id = some row ∧ f row = t := fun t ht => Option.map_eq_some_iff.1 ht
    refine ⟨hdb, fun t ht => ?_, hothers, fun t ht u hu e he hu' => ?_⟩
    · obtain ⟨row, hrow, rfl⟩ := hfound t ht
      exact hsound row (Table.key_of_find? hrow ▸ hrow)
    · obtain ⟨row, hrow, rfl⟩ := hfound t ht
      rw [hf row, Table.key_of_find? hrow] at he
      exact hfree ⟨u, hu, he ▸ hu'⟩

theorem checkAmount_spec {row : OperationalExpense} {paid amount : ℚ} {u : Unit}
    (h : checkAmount ctx row paid amount = .ok u) :
    OnGrid 2 amount ∧ 0 < amount ∧ amount ≤ balanceDue ctx row paid := by
  simp only [checkAmount, ensure_bind_eq_ok, ensure_eq_ok, not_or, not_le, not_lt] at h
  exact ⟨eq_quantize_iff.1 h.2.1, h.2.2⟩

theorem Session.Sound.marked (hdb : db.Balanced) {r : PaymentForm} {row : OperationalExpense}
    (hrow : db.expenses.find? row.id = some row) {u : Unit}
    (hcheck : checkAmount ctx row (paidToDate ctx (db.paymentsOf row.id)) r.amount = .ok u)
    {amount : Column 18 2} (hamount : Column.store 18 2 r.amount = some amount)
    (receipt : Receipt) :
    Session.Sound db (.marked r (markPaid r row receipt) amount
      (paidToDate ctx (db.paymentsOf row.id))) := by
  obtain ⟨hgrid, hpos, hle⟩ := checkAmount_spec hcheck
  have hbound := hdb.bound row (Table.mem_of_find? hrow)
  have hpaid : paidToDate ctx (db.paymentsOf row.id) = db.recordedPaid row.id :=
    paidToDate_eq (fun p hp => hdb.positive p (List.mem_of_mem_filter hp)) hbound
  have hstored : amount.1 = r.amount := by
    rw [Column.store_val hamount, numeric_of_onGrid hgrid]
  rw [hpaid, balanceDue_eq (Database.recordedPaid_onGrid row.id) (hdb.sumNonneg row.id) hbound]
    at hle
  refine ⟨⟨⟨row, hrow, rfl⟩, by simp [markPaid]⟩, hstored ▸ hpos, hpaid, ?_⟩
  rw [hpaid, hstored]
  show db.recordedPaid row.id + r.amount ≤ row.totalCost.1.1
  linarith

theorem Session.Sound.inserted (hdb : db.Balanced) {r : PaymentForm} {row : OperationalExpense}
    {amount : Column 18 2} {paid : ℚ} (h : Session.Sound db (.marked r row amount paid)) :
    Session.Sound db (.inserted row ⟨r.paymentId, row.id, amount, row.receipt, r.actor.id⟩
      (ctx.add paid amount.1)) := by
  obtain ⟨hholds, hpos, rfl, hle⟩ := h
  have hmax := (abs_lt.1 row.totalCost.1.2.2).2
  have hnonneg := hdb.sumNonneg row.id
  have hexact : ctx.add (db.recordedPaid row.id) amount.1 = db.recordedPaid row.id + amount.1 := by
    refine Column.add_eq ctx (s := 2) (p := 18) (by omega) (by omega)
      (Database.recordedPaid_onGrid row.id) amount.2.1 ?_
    rw [abs_of_nonneg (add_nonneg hnonneg hpos.le)]
    linarith
  rw [hexact]
  exact ⟨hholds, hpos, rfl, rfl, hle⟩

theorem paid_after {payment : OperationalExpensePayment} {own : Id}
    (expenses : Table OperationalExpense.id) {payments : Table OperationalExpensePayment.id}
    (hown : payment.expenseId = own) (h : db.payments.insert? payment = some payments) :
    (⟨expenses, payments⟩ : Database).recordedPaid own = db.recordedPaid own + payment.amount.1 ∧
      ∀ id ≠ own, (⟨expenses, payments⟩ : Database).recordedPaid id = db.recordedPaid id ∧
        (⟨expenses, payments⟩ : Database).paymentsOf id = db.paymentsOf id := by
  refine ⟨by rw [recordedPaid_insert? h, if_pos hown], fun id hid => ?_⟩
  have hne : payment.expenseId ≠ id := fun h => hid (h ▸ hown)
  rw [recordedPaid_insert? h, paymentsOf_insert? h, if_neg hne, if_neg hne, add_zero,
    List.append_nil]
  exact ⟨rfl, rfl⟩

/-- A commit of a payment settles its expense and leaves the others alone. -/
theorem commitPayment_spec {row : OperationalExpense} {payment : OperationalExpensePayment}
    {paidTotal : ℚ} (hdb : db.Balanced)
    (hsession : Session.Sound db (.inserted row payment paidTotal))
    (h : commitPayment ctx db row payment paidTotal = some db') :
    db'.Balanced ∧ (∀ id ≠ row.id, db'.expenses.find? id = db.expenses.find? id ∧
      db'.recordedPaid id = db.recordedPaid id) ∧
      db'.expenses = db.expenses.set (settle ctx row paidTotal) := by
  obtain ⟨⟨⟨old, hold, -⟩, hpaidAt⟩, hpos, hexpense, htotal, hle⟩ := hsession
  unfold commitPayment at h
  split at h
  · cases h
  · next payments hinsert =>
    simp only [Option.ite_none_right_eq_some, Option.some.injEq] at h
    obtain ⟨-, rfl⟩ := h
    obtain ⟨hself, hothers⟩ := paid_after (db.expenses.set (settle ctx row paidTotal))
      hexpense hinsert
    rw [← htotal] at hself
    have hdue : balanceDue ctx row paidTotal = row.totalCost.1.1 - paidTotal := by
      have hnonneg := hdb.sumNonneg row.id
      refine balanceDue_eq ?_ (by linarith) hle
      exact htotal ▸ (Database.recordedPaid_onGrid row.id).add payment.amount.2.1
    have hrows : ∀ u ∈ (db.expenses.set (settle ctx row paidTotal)).rows,
        (u ∈ db.expenses.rows ∧ u.id ≠ row.id) ∨ u = settle ctx row paidTotal :=
      fun _ => (Table.mem_set_of_find? (r := settle ctx row paidTotal) hold).1
    refine ⟨⟨fun p hp => ?_, fun u hu => ?_, fun u hu hne => ?_, fun u hu hne => ?_⟩,
      fun id hid => ⟨Table.find?_set_ne fun h => hid h.symm, (hothers id hid).1⟩, rfl⟩
    · rcases (Table.mem_insert? hinsert).1 hp with hp | rfl
      · exact hdb.positive p hp
      · exact hpos
    · rcases hrows u hu with ⟨hmem, hid⟩ | rfl
      · rw [(hothers u.id hid).1]
        exact hdb.bound u hmem
      · exact hself.trans_le hle
    · rcases hrows u hu with ⟨hmem, hid⟩ | rfl
      · rw [(hothers u.id hid).2] at hne
        exact hdb.paidAt u hmem hne
      · exact hpaidAt
    · rcases hrows u hu with ⟨hmem, hid⟩ | rfl
      · rw [(hothers u.id hid).2] at hne
        rw [(hothers u.id hid).1]
        exact hdb.status u hmem hne
      · have hfull : balanceDue ctx row paidTotal = 0 ↔ paidTotal = row.totalCost.1.1 := by
          rw [hdue, sub_eq_zero, eq_comm]
        show (if balanceDue ctx row paidTotal = 0 then _ else _) = if _ = _ then _ else _
        rw [show Database.recordedPaid _ (settle ctx row paidTotal).id = paidTotal from hself]
        simp only [hfull]
        rfl

theorem editExpense_spec {r : EditForm} {row row' : OperationalExpense} (hdb : db.Balanced)
    (hrow : db.expenses.find? row.id = some row) (h : editExpense r row = .ok row') :
    row'.id = row.id ∧ db.paymentsOf row.id = [] := by
  simp only [editExpense, ensure_bind_eq_ok, Except.ok.injEq] at h
  obtain ⟨-, ⟨hunpaid, -⟩, -, rfl⟩ := h
  refine ⟨rfl, ?_⟩
  by_contra hpaid
  exact hdb.paidAt row (Table.mem_of_find? hrow) hpaid hunpaid

theorem Database.Balanced.edit {r : EditForm} {row row' : OperationalExpense} (hdb : db.Balanced)
    (hrow : db.expenses.find? row.id = some row) (h : editExpense r row = .ok row') :
    ({ db with expenses := db.expenses.set row' } : Database).Balanced := by
  obtain ⟨hid, hnone⟩ := editExpense_spec hdb hrow h
  have hrows : ∀ u ∈ (db.expenses.set row').rows, u ∈ db.expenses.rows ∨ u = row' :=
    fun u hu => ((Table.mem_set_of_find? (hid ▸ hrow)).1 hu).imp_left And.left
  refine ⟨hdb.positive, fun u hu => ?_, fun u hu hne => ?_, fun u hu hne => ?_⟩
  · rcases hrows u hu with hu | rfl
    · exact hdb.bound u hu
    · show ((db.paymentsOf u.id).map _).sum ≤ _
      rw [hid, hnone]
      exact u.totalCost.2
  · rcases hrows u hu with hu | rfl
    · exact hdb.paidAt u hu hne
    · exact absurd (hid ▸ hnone) hne
  · rcases hrows u hu with hu | rfl
    · exact hdb.status u hu hne
    · exact absurd (hid ▸ hnone) hne

theorem expense_keeps {others : List Session} {session : Session} {next : Option Session}
    (hdb : db.Balanced) (hsession : session.Sound db)
    (hothers : ∀ u ∈ others, u.Sound db ∧ session.Apart u)
    (h : expense ctx others db session = some (db', next)) :
    Sessions.Keeps Database.Balanced Session.Sound Session.Apart others db' next := by
  have hsound : ∀ u ∈ others, u.Sound db := fun u hu => (hothers u hu).1
  cases session with
  | completing r =>
      unfold expense at h
      dsimp only at h
      split at h
      · exact lockRow_keeps (fun _ => rfl) (fun _ => id) hdb hsound h
      · obtain ⟨rfl, rfl⟩ := Prod.mk.inj (Option.some.inj h)
        exact ⟨hdb, by simp, hsound, by simp⟩
  | locked r row =>
      unfold expense at h
      dsimp only at h
      split at h
      · next receipt amount hchecks hamount =>
        obtain ⟨rfl, rfl⟩ := Prod.mk.inj (Option.some.inj h)
        obtain ⟨u, hcheck, -⟩ := bind_eq_ok.1 hchecks
        refine ⟨hdb, fun t ht => ?_, hsound, fun t ht v hv => ?_⟩
        · obtain rfl := Option.some.inj ht
          exact Session.Sound.marked hdb hsession hcheck hamount receipt
        · obtain rfl := Option.some.inj ht
          exact (hothers v hv).2
      · obtain ⟨rfl, rfl⟩ := Prod.mk.inj (Option.some.inj h)
        exact ⟨hdb, by simp, hsound, by simp⟩
  | marked r row amount paid =>
      obtain ⟨rfl, rfl⟩ := Prod.mk.inj (Option.some.inj h)
      refine ⟨hdb, fun t ht => ?_, hsound, fun t ht v hv => ?_⟩
      · obtain rfl := Option.some.inj ht
        exact Session.Sound.inserted hdb hsession
      · obtain rfl := Option.some.inj ht
        exact (hothers v hv).2
  | inserted row payment paidTotal =>
      obtain ⟨rfl, rfl⟩ := Prod.mk.inj (Option.some.inj h)
      cases hcommit : commitPayment ctx db row payment paidTotal with
      | none => exact ⟨hdb, by simp, hsound, by simp⟩
      | some db' =>
          obtain ⟨hbalanced, hframe, -⟩ := commitPayment_spec hdb hsession hcommit
          refine ⟨hbalanced, by simp, fun u hu => (hsound u hu).frame fun id hid => ?_, by simp⟩
          exact hframe id fun heq => (hothers u hu).2 row.id rfl (heq ▸ hid)
  | updating r => exact lockRow_keeps (fun _ => rfl) (fun _ => id) hdb hsound h
  | editing r row =>
      unfold expense at h
      dsimp only at h
      split at h
      · next row' hedit =>
        obtain ⟨rfl, rfl⟩ := Prod.mk.inj (Option.some.inj h)
        have hid : row'.id = row.id := (editExpense_spec hdb hsession hedit).1
        refine ⟨hdb.edit hsession hedit, by simp,
          fun u hu => (hsound u hu).frame fun id hu' => ⟨Table.find?_set_ne ?_, rfl⟩, by simp⟩
        exact fun heq => (hothers u hu).2 row.id rfl (hid ▸ heq ▸ hu')
      · obtain ⟨rfl, rfl⟩ := Prod.mk.inj (Option.some.inj h)
        exact ⟨hdb, by simp, hsound, by simp⟩

/-- A statement leaves the expenses alone, or writes one row back: after a payment with its
total, after an edit only when no payment exists. -/
theorem expense_writes {others : List Session} {session : Session} {next : Option Session}
    (hdb : db.Balanced) (hsession : session.Sound db)
    (h : expense ctx others db session = some (db', next)) :
    db'.expenses = db.expenses ∨ ∃ old new, db.expenses.find? new.id = some old ∧
      db'.expenses = db.expenses.set new ∧
      (new.totalCost = old.totalCost ∨ db.paymentsOf new.id = []) := by
  cases session with
  | completing r =>
      unfold expense at h
      dsimp only at h
      split at h
      · exact .inl (by rw [lockRow_db h])
      · exact .inl (by rw [(Prod.mk.inj (Option.some.inj h)).1])
  | locked r row =>
      unfold expense at h
      dsimp only at h
      split at h <;> exact .inl (by rw [(Prod.mk.inj (Option.some.inj h)).1])
  | marked r row amount paid => exact .inl (by rw [(Prod.mk.inj (Option.some.inj h)).1])
  | inserted row payment paidTotal =>
      obtain ⟨rfl, rfl⟩ := Prod.mk.inj (Option.some.inj h)
      cases hcommit : commitPayment ctx db row payment paidTotal with
      | none => exact .inl rfl
      | some db' =>
          obtain ⟨old, hold, htotal⟩ := hsession.1.stored
          exact .inr ⟨old, settle ctx row paidTotal, hold,
            (commitPayment_spec hdb hsession hcommit).2.2, .inl htotal.symm⟩
  | updating r => exact .inl (by rw [lockRow_db h])
  | editing r row =>
      unfold expense at h
      dsimp only at h
      split at h
      · next row' hedit =>
        obtain ⟨rfl, rfl⟩ := Prod.mk.inj (Option.some.inj h)
        obtain ⟨hid, hnone⟩ := editExpense_spec hdb hsession hedit
        exact .inr ⟨row, row', hid ▸ hsession, rfl, .inr (hid ▸ hnone)⟩
      · exact .inl (by rw [(Prod.mk.inj (Option.some.inj h)).1])

/-- No statement changes the total of an expense that has a payment. -/
theorem expense_total {others : List Session} {session : Session} {next : Option Session}
    (hdb : db.Balanced) (hsession : session.Sound db)
    (h : expense ctx others db session = some (db', next)) {row : OperationalExpense}
    (hrow : row ∈ db.expenses.rows) (hpaid : db.paymentsOf row.id ≠ []) :
    ∃ row', db'.expenses.find? row.id = some row' ∧ row'.totalCost = row.totalCost := by
  have hfind := Table.find?_of_mem hrow
  rcases expense_writes hdb hsession h with hsame | ⟨old, new, hold, hset, htotal⟩
  · exact ⟨row, hsame ▸ hfind, rfl⟩
  · rw [hset]
    by_cases hid : new.id = row.id
    · obtain rfl : row = old := by
        rw [hid, hfind] at hold
        exact Option.some.inj hold
      refine ⟨new, hid ▸ Table.find?_set_self hold, ?_⟩
      exact htotal.resolve_right fun hnone => hpaid (hid ▸ hnone)
    · exact ⟨row, (Table.find?_set_ne hid).trans hfind, rfl⟩

/-! ## Every interleaving -/

/-- Payments stay within the total of their expense, and once there is one the status says
whether they have reached it. -/
def Database.Settled (db : Database) : Prop :=
  ∀ row ∈ db.expenses.rows, db.recordedPaid row.id ≤ row.totalCost.1.1 ∧
    (db.paymentsOf row.id ≠ [] →
      (row.status = .completed ↔ db.recordedPaid row.id = row.totalCost.1.1) ∧
      (row.status = .partiallyPaid ↔
        0 < db.recordedPaid row.id ∧ db.recordedPaid row.id < row.totalCost.1.1))

instance (db : Database) : Decidable db.Settled :=
  inferInstanceAs (Decidable (∀ _ ∈ _, _))

theorem Database.Balanced.settled (h : db.Balanced) : db.Settled := by
  intro row hrow
  refine ⟨h.bound row hrow, fun hpaid => ?_⟩
  have hpos : 0 < db.recordedPaid row.id := by
    refine List.sum_pos _ (fun y hy => ?_) (by simpa using hpaid)
    obtain ⟨p, hp, rfl⟩ := List.mem_map.1 hy
    exact h.positive p (List.mem_of_mem_filter hp)
  have hle := h.bound row hrow
  rw [h.status row hrow hpaid]
  by_cases hfull : db.recordedPaid row.id = row.totalCost.1.1
  · simp [hfull]
  · simp [hfull, hpos, lt_of_le_of_ne hle hfull]

theorem Interleavings.holds {s : Sessions Database Session} (h : Interleavings ctx s) :
    Sessions.Holds Database.Balanced Session.Sound Session.Apart s := by
  refine Sessions.Interleaved.holds h (fun _ _ => Session.Apart.symm) (fun db hdb => ?_)
    (fun db session hcall _ => ⟨?_, ?_⟩)
    (fun _ _ _ _ _ hdb hsession hothers _ _ => expense_keeps hdb hsession hothers)
  · have hnone : ∀ id, db.paymentsOf id = [] := fun id => by
      rw [Database.paymentsOf, hdb, List.filter_nil]
    refine ⟨fun p hp => ?_, fun row _ => ?_, fun row _ hne => ?_, fun row _ hne => ?_⟩
    · rw [hdb] at hp
      cases hp
    · rw [Database.recordedPaid, hnone]
      exact row.totalCost.2
    · exact absurd (hnone row.id) hne
    · exact absurd (hnone row.id) hne
  · cases session <;> trivial
  · cases session <;> first | exact hcall.elim | exact fun _ _ h => by cases h

/-- In every interleaving of payments and edits the payments of an expense stay within its
total and its status tells whether they have reached it; and no step changes the total once
there is a payment. -/
theorem payments_settled {s : Sessions Database Session} (h : Interleavings ctx s) :
    s.db.Settled ∧
      ∀ s', Sessions.Step Session.IsCall (expense ctx) (fun _ _ _ => True) s s' →
        ∀ row ∈ s.db.expenses.rows, s.db.paymentsOf row.id ≠ [] →
          ∃ row', s'.db.expenses.find? row.id = some row' ∧ row'.totalCost = row.totalCost := by
  have hholds := h.holds
  refine ⟨hholds.database.settled, fun s' hstep row hrow hpaid => ?_⟩
  cases hstep with
  | begins t ht => exact ⟨row, Table.find?_of_mem hrow, rfl⟩
  | acts t hadmits hstatement =>
      exact expense_total hholds.database (hholds.session t (by simp)) hstatement hrow hpaid
  | ends t => exact ⟨row, Table.find?_of_mem hrow, rfl⟩

namespace Sample

/-- An expense of nine, submitted by the first user. -/
def submitted : Database where
  expenses := ⟨[{
    id := 1
    submittedById := 1
    details := ⟨"Fuel depot", 0, "CASH", none⟩
    totalCost := ⟨⟨9, by decide +kernel⟩, by decide +kernel⟩
    status := .submitted
    receipt := ⟨none, none, none, none⟩
    paidById := none
    paidAt := none }], by simp⟩
  payments := .empty

/-- A payment of six by the second user. -/
def payment (id : Id) : PaymentForm where
  expenseId := 1
  amount := 6
  upload := some (.stored ⟨some "receipts/1", some "receipt.pdf", none, none⟩)
  actor := ⟨2, true⟩
  paymentId := id
  now := 1

end Sample

/-- Two payments of six at once: the second waits for the row and is then refused. -/
theorem payments_settled_twice : ∃ s : Sessions Database Session,
    s.db.recordedPaid 1 = 6 ∧ s.running = [] ∧ s.db.Settled := by
  obtain ⟨s, hs, hpaid⟩ := Sessions.Interleaved.of_play Session.IsCall (expense .python)
    (fun _ _ _ => True) Database.Unpaid Sample.submitted
    [.begins (.completing (Sample.payment 1)), .begins (.completing (Sample.payment 2)),
      .acts 0, .acts 0, .acts 0, .acts 0, .acts 0, .acts 0]
    (p := fun s => s.db.recordedPaid 1 = 6 ∧ s.running = []) rfl (by decide +kernel)
  simp only [decide_eq_true_eq] at hpaid
  exact ⟨s, hpaid.1, hpaid.2, (payments_settled hs).1⟩

end Cestos.Expenses
