import Cestos.Core.Interleaving
import Cestos.Inventory.Turns

/-!
# Later movements

`reverse` refuses a movement when a transaction of its item has a later `created_at`.
That column is the start of the posting request, while the order of the postings is
the order in which the requests get the advisory lock. The guard does what it is meant
to do in the runs in which the two orders agree.
-/

namespace Cestos.Inventory

open Cestos.Core Cestos.Core.Decimal

/-! ## Requests around the advisory lock -/

/-- The organization while requests begin and wait for its advisory lock. -/
abbrev Interleaved (ctx : Context 28 12) (cond : CallCondition) :
    Service Database Request → Prop :=
  Service.Interleaved (fun r => r.env.now) (Request.serve ctx)
    (fun db r => Meets ctx r.env cond r.operations db) .empty

theorem Interleaved.reachable {ctx : Context 28 12} {cond : CallCondition}
    {s : Service Database Request} (h : Interleaved ctx cond s) :
    ReachableWhere ctx (· = .empty) cond s.state := by
  refine Service.Interleaved.invariant h (.init rfl) fun db r hdb hmeets => ?_
  unfold Request.serve
  split
  · next hexec => exact .request r hdb hmeets hexec
  · exact hdb

/-! ## The order of the postings -/

/-- The transactions posted after the one with this identifier. -/
def Database.postedAfter (db : Database) (id : Id) : List Transaction :=
  (db.transactions.rows.dropWhile (fun tx => tx.id ≠ id)).tail

/-- No transaction of its item has been posted after the transaction. -/
def Database.NothingLater (db : Database) (id : Id) : Prop :=
  ∀ original ∈ db.transactions.find? id, ∀ tx ∈ db.postedAfter id, tx.itemId ≠ original.itemId

instance (db : Database) (id : Id) : Decidable (db.NothingLater id) :=
  inferInstanceAs (Decidable (∀ original ∈ db.transactions.find? id, _))

/-- `reverse` reverses the transaction. -/
def Reverses (ctx : Context 28 12) (env : Env) (db : Database) (id : Id) : Prop :=
  (∀ tx ∈ db.transactions.rows, tx.reversalOfId ≠ some id) ∧
    (reverse ctx env db id).isOk = true

instance (ctx : Context 28 12) (env : Env) (db : Database) (id : Id) :
    Decidable (Reverses ctx env db id) := inferInstanceAs (Decidable (_ ∧ _))

/-- The item whose stock a call moves. -/
def Call.itemId (db : Database) : Call → Option Id
  | .postLine _ _ line _ => some line.itemId
  | .reserve body => some body.itemId
  | .release id _ => (db.reservations.find? id).map (·.itemId)
  | .reverse id => (db.transactions.find? id).map (·.itemId)

/-- The request began after all requests that have posted a transaction of the item. -/
def InOrder : CallCondition := fun env db c =>
  ∀ itemId ∈ c.itemId db, ∀ tx ∈ db.transactions.rows, tx.itemId = itemId → tx.createdAt < env.now

instance (env : Env) (db : Database) (c : Call) : Decidable (InOrder env db c) :=
  inferInstanceAs (Decidable (∀ itemId ∈ c.itemId db, _))

/-- The transactions of every item were posted in the order of `created_at`. -/
def Chronological (db : Database) : Prop :=
  db.transactions.rows.Pairwise fun a b => a.itemId = b.itemId → a.createdAt < b.createdAt

theorem postedAfter_split {db : Database} {original : Transaction}
    (h : db.transactions.find? original.id = some original) :
    ∃ before, db.transactions.rows = before ++ original :: db.postedAfter original.id := by
  obtain ⟨before, after, hrows⟩ := List.append_of_mem (Table.mem_of_find? h)
  have hnodup := db.transactions.nodup
  rw [hrows, List.map_append, List.nodup_append] at hnodup
  -- the rows before it have other identifiers
  have hbefore : ∀ tx ∈ before, decide (tx.id ≠ original.id) = true := by
    intro tx htx
    exact decide_eq_true
      (hnodup.2.2 tx.id (List.mem_map_of_mem htx) original.id (by simp))
  have hafter : db.postedAfter original.id = after := by
    rw [Database.postedAfter, hrows, List.dropWhile_append_of_pos hbefore,
      List.dropWhile_cons_of_neg (by simp), List.tail_cons]
  exact ⟨before, by rw [hafter]; exact hrows⟩

/-- An accepted reversal is that of a last movement exactly when all movements posted
later have a later `created_at`. -/
theorem nothingLater_iff {ctx : Context 28 12} {env : Env} {db : Database} {id : Id}
    (h : Reverses ctx env db id) :
    db.NothingLater id ↔ ∀ original ∈ db.transactions.find? id, ∀ tx ∈ db.postedAfter id,
      tx.itemId = original.itemId → original.createdAt < tx.createdAt := by
  obtain ⟨hfresh, hok⟩ := h
  obtain ⟨db', hreverse⟩ := isOk_iff.1 hok
  constructor
  · intro hnothing original horiginal tx htx hitem
    exact absurd hitem (hnothing original horiginal tx htx)
  · intro hlater original horiginal tx htx hitem
    rcases reverse_spec hreverse with ⟨_, other, hother, hreversed⟩ | ⟨row, _, rfl, hposted⟩
    · exact hfresh other hother hreversed
    · obtain rfl := Option.some.inj (horiginal.symm.trans hposted.found)
      obtain ⟨before, hrows⟩ := postedAfter_split hposted.found
      refine hposted.last ⟨tx, ?_, hitem, hlater _ horiginal tx htx hitem⟩
      rw [hrows]
      simp [htx]

/-! ## Runs in order -/

section Calls

variable {ctx : Context 28 12} {env : Env} {db db' : Database} {c : Call}

/-- A call posts at most one transaction, of its item and at the time its request began. -/
theorem CallPosted.inserted (h : CallPosted ctx env db c db') :
    db'.transactions = db.transactions ∨
      ∃ tx, Inserted db.transactions tx db'.transactions ∧ c.itemId db = some tx.itemId ∧
        tx.createdAt = env.now := by
  cases h with
  | line _ _ _ hprepared hmove =>
      have hitem := congrArg LineCore.itemId hprepared.line.2
      obtain ⟨lots, serials, rfl⟩ := hprepared.frame
      have of_records : ∀ {origin : Origin} {kind : TransactionType} {cost q : ℚ} {m : Move}
          {line : Line} {tx : Transaction}, m.line.core.itemId = line.core.itemId →
          Records ctx env db.items origin m.line.entry kind cost q tx →
          some line.itemId = some tx.itemId ∧ tx.createdAt = env.now :=
        fun hline h => ⟨congrArg some (hline.symm.trans h.itemId.symm), h.createdAt⟩
      cases hmove with
      | receipt h => exact .inr ⟨_, h.movement.inserted, of_records hitem h.records⟩
      | issue h => exact .inr ⟨_, h.movement.inserted, of_records hitem h.records⟩
      | returned h => exact .inr ⟨_, h.movement.inserted, of_records hitem h.records⟩
      | dispatch h => exact .inr ⟨_, h.movement.inserted, of_records hitem h.records⟩
      | receive h => exact .inr ⟨_, h.movement.inserted, of_records hitem h.records⟩
      | adjustment _ _ h => exact .inr ⟨_, h.movement.inserted, of_records hitem h.records⟩
      | count _ _ _ _ h => exact .inr ⟨_, h.movement.inserted, of_records hitem h.records⟩
      | unchanged => exact .inl rfl
  | reserve h =>
      exact .inr ⟨_, h.movement.inserted, congrArg some h.records.itemId.symm, h.records.createdAt⟩
  | release h =>
      refine .inr ⟨_, h.movement.inserted, ?_, h.records.createdAt⟩
      rw [Call.itemId, h.found]
      exact congrArg some h.records.itemId.symm
  | reverse h =>
      refine .inr ⟨_, h.movement.inserted, ?_, by rw [h.row]; rfl⟩
      rw [Call.itemId, h.found, h.row]
      rfl
  | nothing => exact .inl rfl

theorem CallPosted.chronological (h : CallPosted ctx env db c db') (horder : InOrder env db c)
    (hdb : Chronological db) : Chronological db' := by
  rcases h.inserted with hsame | ⟨tx, hinserted, hitem, hcreated⟩
  · unfold Chronological
    rw [hsame]
    exact hdb
  · unfold Chronological
    rw [Table.insert?_rows hinserted.insert, List.pairwise_append]
    refine ⟨hdb, List.pairwise_singleton _ _, fun old hold new hnew hsame => ?_⟩
    obtain rfl := List.mem_singleton.1 hnew
    rw [hcreated]
    exact horder _ hitem old hold hsame

end Calls

theorem Passes.chronological {ctx : Context 28 12} {db : Database}
    (h : Passes ctx (· = .empty) InOrder db) : Chronological db := by
  refine h.invariant (fun db (hdb : db = .empty) => ?_) fun env db db' _ hdb hturn => ?_
  · rw [hdb]
    exact List.Pairwise.nil
  · cases hturn with
    | bookkeeping hbook =>
        unfold Chronological
        rw [hbook.stock.transactions]
        exact hdb
    | call hvalid hmeets hrun => exact (Call.posted hvalid hrun).chronological hmeets hdb

/-- When requests for an item get the lock in the order in which they began, each posting
at most one transaction of it, only last movements are reversed. -/
theorem reversed_last {ctx : Context 28 12} {s : Service Database Request} {env : Env} {id : Id}
    (h : Interleaved ctx InOrder s) (hreverses : Reverses ctx env s.state id) :
    s.state.NothingLater id := by
  have hchronological := (Reachable.passes h.reachable).chronological
  refine (nothingLater_iff hreverses).2 fun original horiginal tx htx hitem => ?_
  obtain rfl := Table.key_of_find? horiginal
  obtain ⟨before, hrows⟩ := postedAfter_split horiginal
  rw [Chronological, hrows, List.pairwise_append, List.pairwise_cons] at hchronological
  exact hchronological.2.1.1 tx htx hitem.symm

namespace Sample

/-- A receipt that began at the second second and got the lock at the third. -/
def overtaken : Request :=
  postNew 2 .receipts 2 (document (receiptLine five two))

/-- A receipt that began at the third second and got the lock at once. -/
def overtaking : Request :=
  postNew 3 .receipts 1 (document (receiptLine five two))

/-- The earlier request has posted last. -/
def overtakenDatabase : Database :=
  overtaken.serve pythonContext (overtaking.serve pythonContext
    ((setUp {}).serve pythonContext .empty))

theorem interleaved_overtaken :
    Interleaved pythonContext (fun _ _ _ => True) ⟨3, overtakenDatabase, []⟩ := by
  have hsetUp : Interleaved pythonContext (fun _ _ _ => True)
      ⟨1, (setUp {}).serve pythonContext .empty, []⟩ :=
    (Service.Interleaved.begins .refl (setUp {}) (Nat.zero_le 1)).serves (meets_true _ _ _ _)
  have hboth :=
    (Service.Interleaved.begins hsetUp overtaken (by decide)).begins overtaking (by decide)
  exact (hboth.serves (meets_true _ _ _ _)).serves (meets_true _ _ _ _)

end Sample

/-- A single receipt can be reversed, and nothing has been posted after it. -/
theorem reversed_last_received :
    (serveAll pythonContext .empty Sample.received).NothingLater 1 := by
  have hsetUp : Interleaved pythonContext InOrder
      ⟨1, (Sample.setUp {}).serve pythonContext .empty, []⟩ :=
    (Service.Interleaved.begins .refl (Sample.setUp {}) (Nat.zero_le 1)).serves (by decide +kernel)
  have hreceived : Interleaved pythonContext InOrder
      ⟨2, serveAll pythonContext .empty Sample.received, []⟩ :=
    (hsetUp.begins Sample.receipt (by decide)).serves (by decide +kernel)
  have hreverses : Reverses pythonContext (Sample.env 3)
      (serveAll pythonContext .empty Sample.received) 1 := by decide +kernel
  exact reversed_last hreceived hreverses

/-- The receipt that began last is reversed although the other one was posted after it. -/
theorem reversed_last_fails :
    ¬ ∀ (s : Service Database Request) (env : Env) (id : Id),
      Interleaved pythonContext (fun _ _ _ => True) s → Reverses pythonContext env s.state id →
      s.state.NothingLater id := by
  intro hclaim
  have hreverses : Reverses pythonContext (Sample.env 4) Sample.overtakenDatabase 1 := by
    decide +kernel
  have hnothing := hclaim _ _ 1 Sample.interleaved_overtaken hreverses
  exact absurd hnothing (by decide +kernel)

end Cestos.Inventory
