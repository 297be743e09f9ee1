import Cestos.Inventory.SerialStock

/-!
# Reserved serials

The serial of an active reservation is reserved, in the bucket of the reservation, and it
stays there until the reservation is drawn on or released. Every call that looks at the
status of its serial respects that. A transfer whose document carries some reservation is
not asked whose it is, a receive and a reversal do not look at the status at all.
-/

namespace Cestos.Inventory

open Cestos.Core Cestos.Core.Decimal

/-- What an active reservation of a serial says. -/
structure SerialsReserved (db : Database) : Prop where
  held : ∀ row ∈ db.reservations.rows, row.status = .active → ∀ id ∈ row.serialId,
    ∃ s, db.serials.find? id = some s ∧ s.status = .reserved ∧ s.bucket = some row.bucket
  whole : ∀ row ∈ db.reservations.rows, row.status = .active → row.serialId ≠ none →
    row.quantity = 1 ∧ row.fulfilledQuantity = 0
  single : ∀ row ∈ db.reservations.rows, ∀ other ∈ db.reservations.rows, row.status = .active →
    other.status = .active → row.serialId ≠ none → other.serialId = row.serialId →
    other.id = row.id

/-- No active reservation is for the serial. -/
def Database.Unreserved (db : Database) (serialId : Option Id) : Prop :=
  ∀ row ∈ db.reservations.rows, row.status = .active → row.serialId ≠ none →
    row.serialId ≠ serialId

instance (db : Database) (serialId : Option Id) : Decidable (db.Unreserved serialId) :=
  inferInstanceAs (Decidable (∀ row ∈ db.reservations.rows, _))

/-- Transfers and reversals keep off the serials of active reservations. -/
def ReservationsRespected : CallCondition := fun _ db c =>
  match c with
  | .postLine .transfers _ line _ => db.Unreserved line.serialId
  | .reverse id => ∀ original ∈ db.transactions.find? id,
    (∀ other ∈ db.transactions.rows, other.reversalOfId ≠ some id) →
      db.Unreserved original.serialId
  | _ => True

instance (env : Env) (db : Database) (c : Call) : Decidable (ReservationsRespected env db c) :=
  match c with
  | .postLine kind _ _ _ => by
    unfold ReservationsRespected
    cases kind <;> exact inferInstance
  | .reserve _ | .release _ _ | .reverse _ => by
    unfold ReservationsRespected
    exact inferInstance

/-- The call is about the reservation: it releases it, or issues against it. -/
def Call.Ends (c : Call) (row : Reservation) : Prop :=
  (∃ cancel, c = .release row.id cancel) ∨
    ∃ doc line act, c = .postLine .issues doc line act ∧ doc.reservationId = some row.id

section Calls

variable {ctx : Context 28 12} {env : Env} {db db' : Database} {c : Call} {tx : Transaction}
  {entries : List LedgerEntry} {before after : Option Serial} {row : Reservation}

/-- A reservation that the call is not about is still there. -/
theorem Rebooked.mem {reservations : Table Reservation.id} (h : Rebooked env db tx c reservations)
    (hrow : row ∈ db.reservations.rows) (hends : ¬ c.Ends row) : row ∈ reservations.rows := by
  cases h with
  | aside => exact hrow
  | undone => exact hrow
  | drawn hid =>
      refine Table.mem_set.2 (.inl ⟨hrow, fun hsame => hends (.inr ⟨_, _, _, rfl, ?_⟩)⟩)
      rw [hid]
      exact congrArg some hsame.symm
  | made _ _ _ hins => exact (Table.mem_insert? hins).2 (.inl hrow)
  | @ended old cancel =>
      refine Table.mem_set.2 (.inl ⟨hrow, fun hsame => hends (.inl ⟨cancel, ?_⟩)⟩)
      exact congrArg (Call.release · cancel) hsame.symm

/-- An active reservation of a serial is a new one, or it was there before and the call is
not about it. -/
theorem Rebooked.of_active {reservations : Table Reservation.id}
    (h : Rebooked env db tx c reservations) (hreserved : SerialsReserved db)
    (hrow : row ∈ reservations.rows) (hactive : row.status = .active)
    (hserial : row.serialId ≠ none) :
    row ∈ db.reservations.rows ∧ ¬ c.Ends row ∨
      ∃ body, c = .reserve body ∧ row = newReservation env db body := by
  cases h with
  | @aside kind doc line act hnone =>
      refine .inl ⟨hrow, ?_⟩
      rintro (⟨_, hcall⟩ | ⟨doc', _, _, hcall, hid⟩)
      · cases hcall
      · cases hcall
        rw [hnone rfl] at hid
        cases hid
  | undone =>
      refine .inl ⟨hrow, ?_⟩
      rintro (⟨_, hcall⟩ | ⟨_, _, _, hcall, _⟩) <;> cases hcall
  | @drawn doc line act old q hid hfind hold hnamed _ _ hone =>
      rcases Table.mem_set.1 hrow with ⟨hkept, hne⟩ | ⟨rfl, _⟩
      · refine .inl ⟨hkept, ?_⟩
        rintro (⟨_, hcall⟩ | ⟨doc', _, _, hcall, hid'⟩)
        · cases hcall
        · cases hcall
          rw [hid] at hid'
          exact hne (Option.some.inj hid').symm
      · -- the whole reservation was drawn, so it is fulfilled
        obtain ⟨hquantity, hfulfilled⟩ :=
          hreserved.whole old (Table.mem_of_find? hfind) hold hserial
        have hq : q = 1 := hone (hnamed ▸ hserial)
        simp [Reservation.fulfil, hquantity, hfulfilled, hq] at hactive
  | @made body _ _ _ _ hins =>
      rcases (Table.mem_insert? hins).1 hrow with hold | rfl
      · refine .inl ⟨hold, ?_⟩
        rintro (⟨_, hcall⟩ | ⟨_, _, _, hcall, _⟩) <;> cases hcall
      · exact .inr ⟨body, rfl, rfl⟩
  | @ended old cancel hfind _ _ =>
      rcases Table.mem_set.1 hrow with ⟨hkept, hne⟩ | ⟨rfl, _⟩
      · refine .inl ⟨hkept, ?_⟩
        rintro (⟨_, hcall⟩ | ⟨_, _, _, hcall, _⟩)
        · exact hne (Call.release.inj hcall).1.symm
        · cases hcall
      · exact absurd hactive (releasedStatus_ne env old cancel).1

/-- A call that is not about a reservation leaves its serial alone. -/
theorem Recorded.undisturbed (h : Recorded ctx env db c tx entries before after db')
    (hreserved : SerialsReserved db) (hkept : ReservationsRespected env db c)
    (hrow : row ∈ db.reservations.rows) (hactive : row.status = .active) {id : Id}
    (hid : row.serialId = some id) (hends : ¬ c.Ends row) :
    db'.serials.find? id = db.serials.find? id := by
  obtain ⟨s, hs, hstatus, _⟩ := hreserved.held row hrow hactive id hid
  have hnamed : row.serialId ≠ none := by
    rw [hid]
    nofun
  cases htouched : h.touched with
  | without _ _ hserials => rw [hserials]
  | received _ _ _ _ _ hins => rw [hs, Table.find?_insert?_of_find? hins hs]
  | @changed old new hserial hfind _ _ hsame _ hserials =>
      rw [hserials]
      refine Table.find?_set_ne fun hnew => ?_
      -- otherwise it is the serial of the reservation that the call has changed
      have hold : id = old.id := hnew.symm.trans hsame.id
      subst hold
      obtain rfl := Option.some.inj (hs.symm.trans hfind)
      have hunreserved : ∀ serialId, serialId = some s.id → ¬ db.Unreserved serialId :=
        fun _ hsome hfree => hfree row hrow hactive hnamed (hid.trans hsome.symm)
      have hhandled := h.handled (by rw [hserial]; nofun)
      have hrebooked := h.reservations
      cases hhandled with
      | issued _ _ havailable _ _ _ =>
          generalize db'.reservations = reservations at hrebooked
          rcases havailable with hother | ⟨hsome, _⟩
          · rw [hstatus] at hother
            cases hother
          · cases hrebooked with
            | aside hnone =>
                rw [hnone rfl] at hsome
                cases hsome
            | @drawn _ _ _ other q hother hfind' hactive' hserial' _ _ _ =>
                have hsingle := hreserved.single row hrow other (Table.mem_of_find? hfind') hactive
                  hactive' hnamed (hserial'.trans (hserial.trans hid.symm))
                exact hends (.inr ⟨_, _, _, rfl, hother.trans (congrArg some hsingle)⟩)
      | returned _ _ hout _ _ _ => rcases hout with hout | hout <;> rw [hstatus] at hout <;> cases hout
      | dispatched hline _ _ _ _ _ => exact hunreserved _ hline hkept
      | arrived hline _ _ _ _ => exact hunreserved _ hline hkept
      | adjusted _ _ _ hheld _ _ _ =>
          rcases hheld with hheld | hheld <;> rw [hstatus] at hheld <;> cases hheld
      | reserved _ _ _ hfree _ =>
          rw [hstatus] at hfree
          cases hfree
      | @released other cancel _ _ hfind' hactive' hserial' _ =>
          have hsingle := hreserved.single row hrow other (Table.mem_of_find? hfind') hactive
            hactive' hnamed (hserial'.trans hid.symm)
          exact hends (.inl ⟨cancel, congrArg (Call.release · cancel) hsingle⟩)
      | reversed horiginal hunreversed _ hserial' _ _ _ _ =>
          exact hunreserved _ hserial' (hkept _ horiginal hunreversed)

/-- A new reservation of a serial finds it in stock and reserves it. -/
theorem Recorded.made {body : ReservationBody}
    (h : Recorded ctx env db (.reserve body) tx entries before after db')
    (hnamed : (newReservation env db body).serialId ≠ none) :
    ∃ s, body.serialId = some s.id ∧ body.quantity.1 = 1 ∧ db.serials.find? s.id = some s ∧
      s.status = .inStock ∧ s.bucket = some (newReservation env db body).bucket ∧
      db'.serials = db.serials.set { s with status := .reserved } := by
  have hserial : (newReservation env db body).serialId = tx.serialId := by
    have hrebooked := h.reservations
    generalize db'.reservations = reservations at hrebooked
    cases hrebooked with
    | made _ _ hserial _ => exact hserial
  have hhandled := h.handled (hserial ▸ hnamed)
  have htouched := h.touched
  cases hhandled with
  | reserved hid hone hbucket hstatus _ =>
      cases htouched with
      | changed _ hfind _ _ _ _ hserials => exact ⟨_, hid, hone, hfind, hstatus, hbucket, hserials⟩

theorem Recorded.serialsReserved (h : Recorded ctx env db c tx entries before after db')
    (hreserved : SerialsReserved db) (hkept : ReservationsRespected env db c) :
    SerialsReserved db' where
  held row hrow hactive id hid := by
    have hnamed : row.serialId ≠ none := by
      rw [hid]
      nofun
    rcases h.reservations.of_active hreserved hrow hactive hnamed with
      ⟨hold, hends⟩ | ⟨body, rfl, rfl⟩
    · rw [h.undisturbed hreserved hkept hold hactive hid hends]
      exact hreserved.held row hold hactive id hid
    · obtain ⟨s, hs, _, hfind, _, hbucket, hserials⟩ := h.made hnamed
      obtain rfl : s.id = id := Option.some.inj (hs.symm.trans hid)
      generalize hnew : { s with status := .reserved } = new at hserials
      have hsame : new.id = s.id := by rw [← hnew]
      rw [hserials]
      refine ⟨new, ?_, by rw [← hnew], by rw [← hnew]; exact hbucket⟩
      rw [← hsame] at hfind ⊢
      exact Table.find?_set_self hfind
  whole row hrow hactive hnamed := by
    rcases h.reservations.of_active hreserved hrow hactive hnamed with ⟨hold, _⟩ | ⟨body, rfl, rfl⟩
    · exact hreserved.whole row hold hactive hnamed
    · obtain ⟨_, _, hone, _⟩ := h.made hnamed
      exact ⟨hone, rfl⟩
  single row hrow other hother hactive hactive' hnamed hsame := by
    -- the serial of an older reservation is not in stock
    have hfresh : ∀ {body : ReservationBody} {old : Reservation}, c = .reserve body →
        old ∈ db.reservations.rows → old.status = .active →
        (newReservation env db body).serialId ≠ none →
        old.serialId ≠ (newReservation env db body).serialId := by
      rintro body old rfl hold hstatus hnew heq
      obtain ⟨s, hs, _, hfind, hinStock, _⟩ := h.made hnew
      obtain ⟨s', hfind', hheld, _⟩ := hreserved.held old hold hstatus s.id (heq.trans hs)
      obtain rfl := Option.some.inj (hfind.symm.trans hfind')
      rw [hinStock] at hheld
      cases hheld
    have hnamed' : other.serialId ≠ none := hsame ▸ hnamed
    rcases h.reservations.of_active hreserved hrow hactive hnamed with ⟨hold, _⟩ | ⟨body, hc, rfl⟩
    · rcases h.reservations.of_active hreserved hother hactive' hnamed' with
        ⟨hold', _⟩ | ⟨body, hc, rfl⟩
      · exact hreserved.single row hold other hold' hactive hactive' hnamed hsame
      · exact absurd hsame.symm (hfresh hc hold hactive hnamed')
    · rcases h.reservations.of_active hreserved hother hactive' hnamed' with
        ⟨hold', _⟩ | ⟨body', hc', rfl⟩
      · exact absurd hsame (hfresh hc hold' hactive' hnamed)
      · rfl

theorem SerialsReserved.empty : SerialsReserved .empty where
  held row hrow := by cases hrow
  whole row hrow := by cases hrow
  single row hrow := by cases hrow

theorem Passes.serialsReserved (h : Passes ctx (· = .empty) ReservationsRespected db) :
    SerialsReserved db := by
  refine h.invariant (fun db (hdb : db = .empty) => hdb ▸ SerialsReserved.empty)
    fun env db db' hpasses hreserved hturn => ?_
  cases hturn with
  | bookkeeping hturn =>
      obtain ⟨_, _, _, hserials, hreservations, _⟩ := hturn.stock
      refine ⟨?_, ?_, ?_⟩
      · rw [hserials, hreservations]
        exact hreserved.held
      · rw [hreservations]
        exact hreserved.whole
      · rw [hreservations]
        exact hreserved.single
  | call hvalid hkept hrun =>
      rcases (Call.posted hvalid hrun).recorded hpasses.serialBook hpasses.journal with
        rfl | ⟨_, _, _, _, hrecorded⟩
      · exact hreserved
      · exact hrecorded.serialsReserved hreserved hkept

/-- A release that changes the status of a serial to in stock finds it reserved. -/
theorem Recorded.released {id : Id} {cancel : Bool}
    (h : Recorded ctx env db (.release id cancel) tx entries before after db')
    (hreserved : SerialsReserved db) {s s' : Serial} (hs : db.serials.find? s.id = some s)
    (hs' : db'.serials.find? s.id = some s') (hstatus : s'.status = .inStock) :
    s.status = .inStock ∨ s.status = .reserved := by
  cases htouched : h.touched with
  | without _ _ hserials =>
      rw [hserials, hs] at hs'
      exact .inl (Option.some.inj hs' ▸ hstatus)
  | received _ _ _ _ _ hins =>
      rw [Table.find?_insert?_of_find? hins hs] at hs'
      exact .inl (Option.some.inj hs' ▸ hstatus)
  | @changed old new hserial hfind _ _ hsame _ hserials =>
      by_cases hid : new.id = s.id
      · have hold : s.id = old.id := hid.symm.trans hsame.id
        rw [hold, hfind] at hs
        obtain rfl := Option.some.inj hs
        have hhandled := h.handled (by rw [hserial]; nofun)
        cases hhandled with
        | released hrow hactive hnamed _ =>
            obtain ⟨found, hfound, hheld, _⟩ :=
              hreserved.held _ (Table.mem_of_find? hrow) hactive old.id hnamed
            obtain rfl := Option.some.inj (hfind.symm.trans hfound)
            exact .inr hheld
      · rw [hserials, Table.find?_set_ne hid, hs] at hs'
        exact .inl (Option.some.inj hs' ▸ hstatus)

end Calls

/-- The first of two serials is reserved. -/
def Sample.reservedSerial : List Request := twoSerials ++ [
  ⟨{ env 3 with reservationDate := some 3 }, [.reserve {
    itemId := 1
    storeId := 1
    serialId := some 1
    quantity := one }]⟩]

/-- Then a transfer that names the reservation is dispatched with it. -/
def Sample.sentAway : List Request := reservedSerial ++ [
  approveNew 4 .transfers 2 .dispatch {
    fromStoreId := some 1
    toStoreId := some 2
    reservationId := some 1
    items := [{ line one with serialId := some 1 }]
    items_valid := by simp }]

end Cestos.Inventory
