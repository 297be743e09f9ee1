import Cestos.Inventory.Values
import Cestos.Inventory.Journal

/-!
# Stock as of an instant

`stock` reads the balances, or it adds up the ledger rows whose transactions are dated up to
an instant. A movement is dated by its document, which got its date when the draft was saved,
and not by the posting. The two views agree at an instant as long as no posting and the date
of its document lie on different sides of it.
-/

namespace Cestos.Inventory

open Cestos.Core Cestos.Core.Decimal

/-! ## `stock` -/

/-- A row of `stock`: the columns of a bucket and what is computed from them. -/
structure StockRow where
  fields : BucketFields
  quantityAvailable : ℚ
  averageUnitCost : ℚ

def stockRow (ctx : Context 28 12) (fields : BucketFields) : StockRow where
  fields := fields
  quantityAvailable := ctx.add (ctx.add (fields .quantityOnHand) (-fields .quantityReserved))
    (-fields .quantityQuarantined)
  averageUnitCost :=
    if fields .quantityOnHand = 0 then 0
    else ctx.div (fields .inventoryValue) (fields .quantityOnHand)

/-- The ledger rows of the transactions dated up to an instant. -/
def Database.ledgerAsOf (db : Database) (asOf : Instant) : List LedgerEntry :=
  db.ledger.filter fun e =>
    (db.transactions.find? e.transactionId).any (·.transactionDate ≤ asOf)

/-- The row of a bucket. A bucket without rows is one of zeros. -/
def Database.stock (ctx : Context 28 12) (db : Database) (k : Bucket) : Option Instant → StockRow
  | none => stockRow ctx (db.balances k)
  | some asOf => stockRow ctx (storedSum (db.ledgerAsOf asOf) k)

/-- The database as it was at an instant, when the requests up to it had been served. -/
def databaseAt (ctx : Context 28 12) (requests : List Request) (t : Instant) : Database :=
  serveAll ctx .empty (requests.filter (·.env.clock ≤ t))

/-- The operation leaves `transaction_date` to the server. -/
def Operation.serverDated : Operation → Prop
  | .documentSave _ _ body => body.transactionDate = none
  | _ => True

instance : DecidablePred Operation.serverDated
  | .documentSave _ _ _ => inferInstanceAs (Decidable (_ = _))
  | .masters _ | .itemSave _ _ | .archive _ _ | .requestIssue _ _ | .action _ _ _ _
  | .reserve _ | .release _ _ | .reverse _ => .isTrue trivial

/-! ## The dates of movements -/

/-- The date of the transaction that a call inserts. -/
def Call.dated (env : Env) : Call → Option Instant
  | .postLine _ doc _ _ => some doc.transactionDate
  | .reserve _ | .release _ _ => env.reservationDate
  | .reverse _ => some env.clock

/-- The movement and its date lie on the same side of the instant. -/
def Timely (t : Instant) : CallCondition := fun env _ c =>
  ∀ date ∈ c.dated env, (date ≤ t ↔ env.clock ≤ t)

instance (t : Instant) (env : Env) (db : Database) (c : Call) : Decidable (Timely t env db c) :=
  inferInstanceAs (Decidable (∀ date ∈ c.dated env, (date ≤ t ↔ env.clock ≤ t)))

section Dates

variable {ctx : Context 28 12} {env : Env} {cond : CallCondition} {db db' : Database}
  {t : Instant}

theorem Records.dated {items : Table Item.id} {origin : Origin} {entry : Entry}
    {kind : TransactionType} {cost q : ℚ} {tx : Transaction}
    (h : Records ctx env items origin entry kind cost q tx) :
    origin.transactionDate = some tx.transactionDate := by
  obtain ⟨_, _, date, _, hdate, rfl⟩ := h
  exact hdate

theorem MovePosted.dated {kind : DocumentKind} {act : Action} {m : Move}
    (h : MovePosted ctx env db m kind act db') :
    ∀ tx ∈ db'.transactions.rows, tx ∈ db.transactions.rows ∨
      tx.transactionDate = m.doc.transactionDate := by
  have of_movement : ∀ {new : Transaction} {entries : List LedgerEntry} {origin : Origin}
      {txkind : TransactionType} {cost q : ℚ}, Movement ctx db new entries db' →
      Records ctx env db.items origin m.line.entry txkind cost q new →
      origin.transactionDate = some m.doc.transactionDate → ∀ tx ∈ db'.transactions.rows,
        tx ∈ db.transactions.rows ∨ tx.transactionDate = m.doc.transactionDate := by
    intro new entries origin txkind cost q hmovement hrecords hdate tx htx
    rcases (Table.mem_insert? hmovement.inserted.insert).1 htx with hold | rfl
    · exact .inl hold
    · exact .inr (Option.some.inj (hrecords.dated.symm.trans hdate))
  cases h with
  | receipt h => exact of_movement h.movement h.records rfl
  | issue h => exact of_movement h.movement h.records rfl
  | returned h => exact of_movement h.movement h.records rfl
  | dispatch h => exact of_movement h.movement h.records rfl
  | receive h => exact of_movement h.movement h.records rfl
  | adjustment _ _ h => exact of_movement h.movement h.records rfl
  | count _ _ _ _ h => exact of_movement h.movement h.records rfl
  | unchanged => exact fun tx htx => .inl htx

theorem CallPosted.dated {c : Call} (h : CallPosted ctx env db c db') :
    ∀ tx ∈ db'.transactions.rows, tx ∈ db.transactions.rows ∨
      c.dated env = some tx.transactionDate := by
  intro tx htx
  cases h with
  | line _ _ _ hprepared hmove =>
      obtain ⟨lots, serials, rfl⟩ := hprepared.frame
      rcases hmove.dated tx htx with hold | hdate
      · exact .inl hold
      · rw [hprepared.document] at hdate
        exact .inr (congrArg some hdate.symm)
  | reserve h =>
      rcases (Table.mem_insert? h.movement.inserted.insert).1 htx with hold | rfl
      · exact .inl hold
      · exact .inr h.records.dated
  | release h =>
      rcases (Table.mem_insert? h.movement.inserted.insert).1 htx with hold | rfl
      · exact .inl hold
      · exact .inr h.records.dated
  | reverse h =>
      rcases (Table.mem_insert? h.movement.inserted.insert).1 htx with hold | rfl
      · exact .inl hold
      · exact .inr (by rw [h.row]; rfl)
  | nothing => exact .inl htx

/-! ## The ledger as of an instant -/

/-- What has been written to the ledger, and that it is dated up to `t` just when it was
written by `t`. -/
def WrittenAt (t clock : Instant) (db db' : Database) : Prop :=
  ∃ entries, db'.ledger = db.ledger ++ entries ∧
    db'.ledgerAsOf t = db.ledgerAsOf t ++ if clock ≤ t then entries else []

theorem WrittenAt.refl {clock : Instant} (db : Database) : WrittenAt t clock db db :=
  ⟨[], by simp, by simp⟩

theorem WrittenAt.trans {clock : Instant} {db'' : Database} (h : WrittenAt t clock db db')
    (h' : WrittenAt t clock db' db'') : WrittenAt t clock db db'' := by
  obtain ⟨entries, hledger, hasOf⟩ := h
  obtain ⟨entries', hledger', hasOf'⟩ := h'
  refine ⟨entries ++ entries', by rw [hledger', hledger, List.append_assoc], ?_⟩
  rw [hasOf', hasOf, List.append_assoc]
  split
  · rfl
  · rfl

/-- The rows of a new transaction are dated as it is, those of the others as before. -/
theorem Movement.ledgerAsOf {tx : Transaction} {entries : List LedgerEntry}
    (h : Movement ctx db tx entries db') (hentries : ∀ e ∈ entries, e.transactionId = tx.id)
    (howned : Owned db) :
    db'.ledgerAsOf t = db.ledgerAsOf t ++ if tx.transactionDate ≤ t then entries else [] := by
  have hinsert := h.inserted.insert
  have hold : ∀ e ∈ db.ledger,
      db'.transactions.find? e.transactionId = db.transactions.find? e.transactionId := by
    intro e he
    obtain ⟨other, hother, hid⟩ := howned e he
    have hfind := Table.find?_of_mem hother
    rw [hid] at hfind
    rw [Table.find?_insert?_of_find? hinsert hfind, hfind]
  have hnew : ∀ e ∈ entries, db'.transactions.find? e.transactionId = some tx := by
    intro e he
    rw [hentries e he, Table.find?_insert? hinsert, if_pos rfl]
  rw [Database.ledgerAsOf, h.ledger, List.filter_append]
  congr 1
  · exact List.filter_congr fun e he => by rw [hold e he]
  · split
    · next hdate =>
      refine List.filter_eq_self.2 fun e he => ?_
      rw [hnew e he, Option.any_some, decide_eq_true hdate]
    · next hdate =>
      refine List.filter_eq_nil_iff.2 fun e he => ?_
      rw [hnew e he, Option.any_some, decide_eq_false hdate]
      exact Bool.false_ne_true

theorem Turn.writtenAt (h : Turn ctx env (Timely t) db db') (howned : Owned db) :
    WrittenAt t env.clock db db' := by
  rcases h.written with ⟨htransactions, hledger⟩ | ⟨tx, entries, hwritten⟩
  · refine ⟨[], by rw [hledger, List.append_nil], ?_⟩
    rw [Database.ledgerAsOf, htransactions, hledger, ite_self, List.append_nil]
    rfl
  · refine ⟨entries, hwritten.movement.ledger, ?_⟩
    rw [hwritten.movement.ledgerAsOf hwritten.owned howned]
    have hinsert := hwritten.movement.inserted.insert
    have htx : tx ∈ db'.transactions.rows := (Table.mem_insert? hinsert).2 (.inr rfl)
    have hfresh : tx ∉ db.transactions.rows := fun hold => Table.insert?_fresh hinsert hold rfl
    cases h with
    | bookkeeping hbook => exact absurd (hbook.stock.transactions ▸ htx) hfresh
    | call hvalid hmeets hrun =>
        have hdate := ((Call.posted hvalid hrun).dated tx htx).resolve_left hfresh
        rw [if_congr (hmeets _ (Option.mem_def.2 hdate)) rfl rfl]

theorem Passes.writtenAt (hpasses : Passes ctx (· = .empty) (Timely t) db)
    (hturns : Relation.ReflTransGen (Turn ctx env (Timely t)) db db') :
    WrittenAt t env.clock db db' := by
  induction hturns with
  | refl => exact .refl db
  | tail hbefore hturn ih =>
      exact ih.trans (hturn.writtenAt (hpasses.turns hbefore).journal.owned)

theorem Request.writtenAt {r : Request} (h : ReachableWhere ctx (· = .empty) (Timely t) db)
    (hmeets : Meets ctx r.env (Timely t) r.operations db) :
    WrittenAt t r.env.clock db (r.serve ctx db) := by
  obtain ⟨hpasses, hsettled⟩ :=
    ReachableWhere.passes (fun db (hdb : db = .empty) => hdb ▸ settled_empty) h
  unfold Request.serve
  split
  · next hexec => exact hpasses.writtenAt (operations_turns hsettled hmeets hexec).1
  · exact .refl db

/-- In a run whose movements are timely the ledger as of an instant is what had been
written by then. -/
theorem serveAll_ledgerAsOf {requests : List Request}
    (hordered : requests.Pairwise (·.env.clock ≤ ·.env.clock))
    (hmeets : AllMeet ctx (Timely t) requests db)
    (h : ReachableWhere ctx (· = .empty) (Timely t) db) :
    ∃ entries, (serveAll ctx db (requests.filter (·.env.clock ≤ t))).ledger =
        db.ledger ++ entries ∧
      (serveAll ctx db requests).ledgerAsOf t = db.ledgerAsOf t ++ entries := by
  induction requests generalizing db with
  | nil => exact ⟨[], by simp [serveAll], by simp [serveAll]⟩
  | cons r rest ih =>
      obtain ⟨hfirst, hrest⟩ := List.pairwise_cons.1 hordered
      obtain ⟨entries, hledger, hasOf⟩ := Request.writtenAt h hmeets.1
      have hserved : ReachableWhere ctx (· = .empty) (Timely t) (serveAll ctx db [r]) :=
        h.serveAll ⟨hmeets.1, trivial⟩
      obtain ⟨later, hlater, hlaterAsOf⟩ := ih hrest hmeets.2 hserved
      by_cases hclock : r.env.clock ≤ t
      · rw [if_pos hclock] at hasOf
        rw [List.filter_cons_of_pos (by simpa using hclock)]
        refine ⟨entries ++ later, ?_, ?_⟩
        · exact hlater.trans (by rw [hledger, List.append_assoc])
        · exact hlaterAsOf.trans (by rw [hasOf, List.append_assoc])
      · -- the requests still to come are later than `t` as well
        have hnone : rest.filter (·.env.clock ≤ t) = [] := by
          refine List.filter_eq_nil_iff.2 fun s hs => ?_
          rw [decide_eq_true_eq]
          exact fun hle => hclock ((hfirst s hs).trans hle)
        rw [hnone] at hlater
        have hnothing : later = [] := List.self_eq_append_right.1 hlater
        rw [if_neg hclock, List.append_nil] at hasOf
        rw [List.filter_cons_of_neg (by simpa using hclock), hnone]
        refine ⟨[], (List.append_nil _).symm, ?_⟩
        exact hlaterAsOf.trans (by rw [hnothing, hasOf])

end Dates

/-- While all movements are timely, the historical quantities are those of the instant, and
so is the whole row while no ledger row up to it is a tie. -/
theorem stock_as_of {ctx : Context 28 12} {requests : List Request} {t : Instant}
    (hordered : requests.Pairwise (·.env.clock ≤ ·.env.clock))
    (hmeets : AllMeet ctx (Timely t) requests .empty) :
    (∀ k f, BucketField.IsQuantity f →
      ((serveAll ctx .empty requests).stock ctx k (some t)).fields f =
        ((databaseAt ctx requests t).stock ctx k none).fields f) ∧
    (AllUntied ctx (fun _ _ => 0) (databaseAt ctx requests t).ledger → ∀ k,
      (serveAll ctx .empty requests).stock ctx k (some t) =
        (databaseAt ctx requests t).stock ctx k none) := by
  obtain ⟨entries, hledger, hasOf⟩ := serveAll_ledgerAsOf hordered hmeets (.init rfl)
  have hsame : (serveAll ctx .empty requests).ledgerAsOf t = (databaseAt ctx requests t).ledger :=
    hasOf.trans hledger.symm
  have hthen : Reachable ctx (databaseAt ctx requests t) := reachable_serveAll ctx _
  refine ⟨fun k f hf => ?_, fun huntied k => ?_⟩
  · show storedSum ((serveAll ctx .empty requests).ledgerAsOf t) k f =
      (databaseAt ctx requests t).balances k f
    rw [hsame]
    exact ((Reachable.balanced hthen).sums k f hf).symm
  · show stockRow ctx (storedSum ((serveAll ctx .empty requests).ledgerAsOf t) k) =
      stockRow ctx ((databaseAt ctx requests t).balances k)
    rw [hsame]
    have hsums := ((values_reconciled hthen).1 huntied).1 k
    exact congrArg (stockRow ctx) (funext fun f => (hsums f).symm)

namespace Sample

/-- Five units received by a document that was saved at two and posted at four. -/
def postedLater : List Request :=
  [setUp {}, ⟨env 2, [.documentSave .receipts none (document (receiptLine five two))]⟩,
    ⟨env 4, [.action .receipts 1 .post {}]⟩]

end Sample

/-- After four the receipt is there, in the balances as in the ledger. -/
theorem stock_as_of_posted :
    (serveAll pythonContext .empty Sample.postedLater).stock pythonContext Sample.bucket (some 5) =
      (databaseAt pythonContext Sample.postedLater 5).stock pythonContext Sample.bucket none := by
  have hordered : Sample.postedLater.Pairwise (·.env.clock ≤ ·.env.clock) := by decide +kernel
  have hmeets : AllMeet pythonContext (Timely 5) Sample.postedLater .empty := by decide +kernel
  exact (stock_as_of hordered hmeets).2 (by decide +kernel) Sample.bucket

/-- At three nothing had been received, but the receipt is dated two. -/
theorem stock_as_of_fails :
    ¬ ∀ (requests : List Request) (t : Instant) (k : Bucket),
      requests.Pairwise (·.env.clock < ·.env.clock) →
      (∀ r ∈ requests, r.env.clock ≠ t ∧ ∀ op ∈ r.operations, op.serverDated) →
      (serveAll pythonContext .empty requests).stock pythonContext k (some t) =
        (databaseAt pythonContext requests t).stock pythonContext k none := by
  intro hclaim
  have hequal := hclaim Sample.postedLater 3 Sample.bucket (by decide +kernel) (by decide +kernel)
  have hfive : ((serveAll pythonContext .empty Sample.postedLater).stock pythonContext
      Sample.bucket (some 3)).fields .quantityOnHand = 5 := by decide +kernel
  have hnone : ((databaseAt pythonContext Sample.postedLater 3).stock pythonContext
      Sample.bucket none).fields .quantityOnHand = 0 := by decide +kernel
  rw [hequal, hnone] at hfive
  exact absurd hfive (by norm_num)

end Cestos.Inventory
