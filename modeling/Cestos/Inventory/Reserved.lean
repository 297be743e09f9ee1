import Cestos.Inventory.Journal

/-!
# Reserved stock

The reserved quantity of a bucket is what its active reservations have not drawn yet.
Reserving, issuing against a reservation and releasing move both sides alike; nothing
else, a reversal included, moves either.
-/

namespace Cestos.Inventory

open Cestos.Core Cestos.Core.Decimal

/-- What an active reservation still holds of a bucket. -/
def Reservation.outstanding (row : Reservation) (k : Bucket) : ℚ :=
  if row.status = .active ∧ row.bucket = k then row.quantity - row.fulfilledQuantity else 0

/-- A reservation has drawn at most its quantity, and is fulfilled when it has drawn all. -/
structure Reservation.Sound (row : Reservation) : Prop where
  nonneg : 0 ≤ row.fulfilledQuantity
  within : row.fulfilledQuantity ≤ row.quantity
  fulfilled : row.status = .fulfilled ↔ row.fulfilledQuantity = row.quantity

structure ReservedMatch (db : Database) : Prop where
  sums : ∀ k, db.balances k .quantityReserved = db.reservations.sum (·.outstanding k)
  sound : ∀ row ∈ db.reservations.rows, row.Sound

/-! ## One reservation -/

/-- Drawing on a reservation keeps it sound and takes what was drawn from its bucket. -/
theorem Move.coveredBy.fulfil {m : Move} {row : Reservation} (h : m.coveredBy row)
    (hpositive : 0 < m.q) (hsound : row.Sound) :
    (row.fulfil m.q).Sound ∧ ∀ k, (row.fulfil m.q).outstanding k =
      row.outstanding k + if m.bucket = k then -m.q else 0 := by
  obtain ⟨hactive, ⟨hitem, hstore, hbin, hlot, _⟩, hcovers⟩ := h
  have hbucket : row.bucket = m.bucket := by
    simp only [Reservation.bucket, Move.bucket, hitem, hstore, hbin, hlot]
  have hnonneg := hsound.nonneg
  constructor
  · refine ⟨?_, ?_, ?_⟩ <;> simp only [Reservation.fulfil]
    · linarith
    · linarith
    · split
      · next hall => simp [hall]
      · next hpart => simp [hactive, hpart]
  · intro k
    have hnew : (row.fulfil m.q).bucket = m.bucket := hbucket
    simp only [Reservation.outstanding, hnew, hbucket, hactive, true_and]
    by_cases hk : m.bucket = k
    · simp only [hk, and_true, if_true, Reservation.fulfil]
      by_cases hall : row.fulfilledQuantity + m.q = row.quantity
      · simp only [hall, if_true]
        rw [if_neg (by simp)]
        linarith
      · rw [if_neg hall, if_pos hactive]
        ring
    · simp [hk]

/-- The issue draws from its bucket exactly what it draws from its reservation. -/
theorem Covered.outstanding {m : Move} {before after : Table Reservation.id}
    (h : Covered m before after) (hpositive : 0 < m.q) (hsound : ∀ row ∈ before.rows, row.Sound) :
    (∀ row ∈ after.rows, row.Sound) ∧ ∀ k, after.sum (·.outstanding k) =
      before.sum (·.outstanding k) +
        if m.bucket = k then (if m.doc.reservationId.isSome then -m.q else 0) else 0 := by
  cases h with
  | unreserved hnone => exact ⟨hsound, fun k => by simp [hnone]⟩
  | @reserved id row hid hfind hcovers =>
      obtain rfl := Table.key_of_find? hfind
      obtain ⟨hrow, hmoved⟩ := hcovers.fulfil hpositive (hsound row (Table.mem_of_find? hfind))
      refine ⟨fun other hother => ?_, fun k => ?_⟩
      · rcases Table.mem_set.1 hother with ⟨hold, _⟩ | ⟨rfl, _⟩
        · exact hsound other hold
        · exact hrow
      · have hset := Table.sum_set (r := row.fulfil m.q) (fun r => r.outstanding k) hfind
        rw [hset, hmoved k, hid]
        simp only [Option.isSome_some, if_true]
        ring

/-! ## One call -/

section Calls

variable {ctx : Context 28 12} {env : Env} {db db' : Database} {c : Call}

theorem ReservedMatch.of_unreserved {entries : List LedgerEntry} (h : ReservedMatch db)
    (hreservations : db'.reservations = db.reservations)
    (hmoved : ∀ k, db'.balances k .quantityReserved =
      db.balances k .quantityReserved + entriesSum entries k .quantityReserved)
    (hentries : ∀ e ∈ entries, e.changes .quantityReserved = 0) : ReservedMatch db' := by
  have hzero : ∀ k, entriesSum entries k .quantityReserved = 0 := by
    intro k
    refine List.sum_eq_zero fun x hx => ?_
    obtain ⟨e, he, rfl⟩ := List.mem_map.1 hx
    exact hentries e (List.mem_of_mem_filter he)
  refine ⟨fun k => ?_, by rw [hreservations]; exact h.sound⟩
  rw [hmoved k, hzero k, add_zero, hreservations]
  exact h.sums k

theorem adjustmentChanges_reserved (ctx : Context 28 12) (purpose : Purpose)
    (quarantined delta q cost : ℚ) :
    adjustmentChanges ctx purpose quarantined delta q cost .quantityReserved = 0 := by
  unfold adjustmentChanges
  split <;> rfl

theorem Undone.reserved {original : Transaction} {e : LedgerEntry}
    (h : Undone ctx db original e) : e.changes .quantityReserved = 0 := by
  cases h with
  | issue _ _ _ _ hchanges => rw [hchanges]; rfl
  | receipt _ _ _ hchanges => rw [hchanges]; rfl

theorem CallPosted.reservedMatch (h : CallPosted ctx env db c db') (hbalanced : Balanced db)
    (hjournal : Journal ctx db) (hmatch : ReservedMatch db) : ReservedMatch db' := by
  have hmoved : ∀ {entries : List LedgerEntry}, db'.ledger = db.ledger ++ entries → ∀ k,
      db'.balances k .quantityReserved =
        db.balances k .quantityReserved + entriesSum entries k .quantityReserved :=
    fun hledger k => h.quantities hbalanced.steady hbalanced.reservations hledger k rfl
  cases h with
  | line _ _ _ hprepared hmove =>
      obtain ⟨lots, serials, rfl⟩ := hprepared.frame
      cases hmove with
      | receipt h =>
          exact hmatch.of_unreserved h.reservations (hmoved h.movement.ledger)
            (by simp [receiptChanges, Changes.fields])
      | issue h =>
          obtain ⟨hsound, hsums⟩ := h.reservations.outstanding hprepared.positive hmatch.sound
          refine ⟨fun k => ?_, hsound⟩
          rw [hmoved h.movement.ledger k, hsums k, hmatch.sums k, entriesSum_cons, entriesSum_nil,
            add_zero]
          rfl
      | returned h =>
          exact hmatch.of_unreserved h.reservations (hmoved h.movement.ledger)
            (by simp [returnChanges, Changes.fields])
      | dispatch h =>
          exact hmatch.of_unreserved h.reservations (hmoved h.movement.ledger)
            (by simp [dispatchChanges, Changes.fields])
      | receive h =>
          exact hmatch.of_unreserved h.reservations (hmoved h.movement.ledger)
            (by simp [departureChanges, arrivalChanges, Changes.fields])
      | adjustment _ _ h =>
          exact hmatch.of_unreserved h.reservations (hmoved h.movement.ledger)
            (by simp [adjustmentChanges_reserved])
      | count _ _ _ _ h =>
          exact hmatch.of_unreserved h.reservations (hmoved h.movement.ledger)
            (by simp [adjustmentChanges_reserved])
      | unchanged => exact ⟨hmatch.sums, hmatch.sound⟩
  | @reserve body item tx _ h =>
      refine ⟨fun k => ?_, fun row hrow => ?_⟩
      · have hnew : (newReservation env db body).outstanding k =
            if (newReservation env db body).bucket = k then (newReservation env db body).quantity
            else 0 := by
          simp [Reservation.outstanding, h.fresh.1, h.fresh.2]
        rw [hmoved h.movement.ledger k, Table.sum_insert? _ h.inserted, hnew, hmatch.sums k,
          entriesSum_cons, entriesSum_nil, add_zero]
        rfl
      · rcases (Table.mem_insert? h.inserted).1 hrow with hold | rfl
        · exact hmatch.sound row hold
        · have hpositive := h.positive
          refine ⟨h.fresh.2.ge, by rw [h.fresh.2]; exact hpositive.le, ?_⟩
          rw [h.fresh.1, h.fresh.2]
          simpa using hpositive.ne
  | @release cancel tx _ row h =>
      obtain ⟨hnotActive, hnotFulfilled⟩ :=
        releasedStatus_ne env row cancel
      have hold := hmatch.sound row (Table.mem_of_find? h.found)
      -- an active reservation is not fulfilled, so a released one has some of it left
      have hleft : row.fulfilledQuantity ≠ row.quantity := by
        refine (not_congr hold.fulfilled).1 ?_
        rw [h.active]
        simp
      refine ⟨fun k => ?_, fun other hother => ?_⟩
      · have hset := Table.sum_set
          (r := { row with status := releasedStatus env row cancel })
          (fun r => r.outstanding k) h.found
        have hgone : Reservation.outstanding
            { row with status := releasedStatus env row cancel } k = 0 := by
          simp [Reservation.outstanding, hnotActive]
        have hwas : row.outstanding k =
            if row.bucket = k then row.quantity - row.fulfilledQuantity else 0 := by
          simp [Reservation.outstanding, h.active]
        rw [hmoved h.movement.ledger k, h.reservations, hset, hgone, hwas, hmatch.sums k,
          entriesSum_cons, entriesSum_nil]
        simp only [Changes.fields]
        split <;> ring
      · rw [h.reservations] at hother
        rcases Table.mem_set.1 hother with ⟨hother, _⟩ | ⟨rfl, _⟩
        · exact hmatch.sound other hother
        · exact ⟨hold.nonneg, hold.within, iff_of_false hnotFulfilled hleft⟩
  | reverse h =>
      obtain ⟨e, hentries, hundone⟩ := h.undone hjournal
      refine hmatch.of_unreserved h.reservations (hmoved h.movement.ledger) ?_
      rw [hentries]
      simp [reversalEntry, LedgerEntry.stored, hundone.reserved]
  | nothing => exact hmatch

end Calls

/-! ## Throughout a run -/

theorem ReservedMatch.empty : ReservedMatch .empty :=
  ⟨fun _ => rfl, fun row hrow => by cases hrow⟩

theorem Passes.reservedMatch {ctx : Context 28 12} {cond : CallCondition} {db : Database}
    (h : Passes ctx (· = .empty) cond db) : ReservedMatch db := by
  refine h.invariant (fun db (hdb : db = .empty) => hdb ▸ ReservedMatch.empty)
    fun env db db' hpasses hmatch hturn => ?_
  cases hturn with
  | bookkeeping hbook =>
      refine ⟨fun k => ?_, ?_⟩
      · rw [hbook.stock.balances, hbook.stock.reservations]
        exact hmatch.sums k
      · rw [hbook.stock.reservations]
        exact hmatch.sound
  | call hvalid _ hrun =>
      have hbalanced : Balanced db :=
        hpasses.balanced fun db (hdb : db = .empty) => hdb ▸ Balanced.empty
      exact (Call.posted hvalid hrun).reservedMatch hbalanced hpasses.journal hmatch

/-- In every committed state the reserved quantity of every bucket is what its active
reservations have left, and every reservation is sound. -/
theorem reserved_outstanding {ctx : Context 28 12} {db : Database} (h : Reachable ctx db) :
    (∀ k : Bucket, db.balances k .quantityReserved =
      db.reservations.sum fun row =>
        if row.status = .active ∧ row.bucket = k then row.quantity - row.fulfilledQuantity
        else 0) ∧
    ∀ row ∈ db.reservations.rows, 0 ≤ row.fulfilledQuantity ∧
      row.fulfilledQuantity ≤ row.quantity ∧
      (row.status = .fulfilled ↔ row.fulfilledQuantity = row.quantity) := by
  have hmatch := (Reachable.passes h).reservedMatch
  refine ⟨hmatch.sums, fun row hrow => ?_⟩
  have hsound := hmatch.sound row hrow
  exact ⟨hsound.nonneg, hsound.within, hsound.fulfilled⟩

/-- Two of the five units are reserved. -/
def Sample.reserved : List Request :=
  received ++ [⟨{ env 3 with reservationDate := some 3 }, [.reserve {
    itemId := 1
    storeId := 1
    quantity := ⟨2, by decide +kernel⟩ }]⟩]

theorem reserved_outstanding_reserved :
    (serveAll pythonContext .empty Sample.reserved).balances Sample.bucket .quantityReserved = 2 ∧
    ((serveAll pythonContext .empty Sample.reserved).reservations.sum fun row =>
      if row.status = .active ∧ row.bucket = Sample.bucket then
        row.quantity - row.fulfilledQuantity
      else 0) = 2 := by
  have htwo : (serveAll pythonContext .empty Sample.reserved).balances Sample.bucket
      .quantityReserved = 2 := by decide +kernel
  have hsum := (reserved_outstanding (reachable_serveAll pythonContext Sample.reserved)).1
    Sample.bucket
  exact ⟨htwo, hsum ▸ htwo⟩

end Cestos.Inventory
