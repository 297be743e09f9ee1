import Cestos.Inventory.Serials

/-!
# What a call does with a serial

Posting a line, reserving, releasing and reversing each take one serial and write the
ledger rows of one transaction. `Handled` says for every call what becomes of the serial
and which quantities move, so that the stock and the serials are compared without another
look at the calls.
-/

namespace Cestos.Inventory

open Cestos.Core Cestos.Core.Decimal

/-- What a ledger row changes in the stock and in the quarantined part of it. -/
def BucketFields.Shifts (changes : BucketFields) (onHand quarantined : ℚ) : Prop :=
  changes .quantityOnHand = onHand ∧ changes .quantityQuarantined = quarantined

/-- The difference an adjustment or a count posts for a line that names a serial. -/
def Line.Differs (line : Line) (kind : DocumentKind) (delta : ℚ) : Prop :=
  kind = .adjustments ∧ delta = -1 ∨
    kind = .stockCounts ∧ ∃ counted : Quantity, ∃ system, line.countedQuantity = some counted ∧
      line.systemQuantity = some system ∧ delta = counted.1 - system ∧ delta ≠ 0

/-- The serial that a call takes, what it has become, and the ledger rows of the call. -/
inductive Handled (ctx : Context 28 12) (env : Env) (db : Database) (tx : Transaction) :
    Call → (before after : Option Serial) → List LedgerEntry → Prop
  | received {doc line act s k changes} :
      (∃ item, db.items.find? line.itemId = some item ∧ item.serialized = true) →
      tx.quantity = line.normalizedQuantity → s.status = .inStock → s.bucket = some k →
      BucketFields.Shifts changes tx.quantity 0 →
      Handled ctx env db tx (.postLine .receipts doc line act) none (some s) [⟨tx.id, k, changes⟩]
  | issued {doc line act s s' k changes} : line.serialId = some s.id → s.bucket = some k →
      (s.status = .inStock ∨ doc.reservationId.isSome = true ∧ s.status = .reserved) →
      s'.bucket = none → s'.status = .issued → BucketFields.Shifts changes (-1) 0 →
      Handled ctx env db tx (.postLine .issues doc line act) (some s) (some s')
        [⟨tx.id, k, changes⟩]
  | returned {doc line act s s' k changes} : line.serialId = some s.id → s.bucket = none →
      (s.status = .issued ∨ s.status = .installed) → s'.bucket = some k →
      s'.status = (if doc.condition.damages then .quarantined else .inStock) →
      BucketFields.Shifts changes 1 (if doc.condition.damages then 1 else 0) →
      Handled ctx env db tx (.postLine .returns doc line act) (some s) (some s')
        [⟨tx.id, k, changes⟩]
  | dispatched {doc line s s' k changes} : line.serialId = some s.id → s.bucket = some k →
      (s.status = .inStock ∨ doc.reservationId.isSome = true ∧ s.status = .reserved) →
      s'.bucket = none → s'.status = .inTransit → BucketFields.Shifts changes (-1) 0 →
      Handled ctx env db tx (.postLine .transfers doc line .dispatch) (some s) (some s')
        [⟨tx.id, k, changes⟩]
  | arrived {doc line s s' k departure changes} : line.serialId = some s.id →
      s'.bucket = some k → s'.status = .inStock →
      BucketFields.Shifts departure.changes 0 0 → BucketFields.Shifts changes 1 0 →
      Handled ctx env db tx (.postLine .transfers doc line .receive) (some s) (some s')
        [departure, ⟨tx.id, k, changes⟩]
  | adjusted {kind doc line act s k delta cost} : line.Differs kind delta →
      line.serialId = some s.id → s.bucket = some k →
      (s.status = .inStock ∨ s.status = .quarantined) →
      (doc.purpose = .releaseFromQuarantine → s.status = .quarantined) →
      (doc.purpose = .quarantine → s.status = .inStock) →
      (doc.purpose = .quarantine ∨ doc.purpose = .releaseFromQuarantine ∨ delta < 0) →
      Handled ctx env db tx (.postLine kind doc line act) (some s)
        (some (adjustedSerial doc.purpose s))
        [⟨tx.id, k, adjustmentChanges ctx doc.purpose (db.balances k .quantityQuarantined) delta
          |delta| cost⟩]
  | reserved {body s changes} : body.serialId = some s.id → body.quantity.1 = 1 →
      s.bucket = some (newReservation env db body).bucket → s.status = .inStock →
      BucketFields.Shifts changes 0 0 →
      Handled ctx env db tx (.reserve body) (some s) (some { s with status := .reserved })
        [⟨tx.id, (newReservation env db body).bucket, changes⟩]
  | released {row : Reservation} {cancel s changes} : db.reservations.find? row.id = some row →
      row.status = .active → row.serialId = some s.id → BucketFields.Shifts changes 0 0 →
      Handled ctx env db tx (.release row.id cancel) (some s) (some { s with status := .inStock })
        [⟨tx.id, row.bucket, changes⟩]
  | reversed {original : Transaction} {s e} :
      db.transactions.find? original.id = some original →
      (∀ other ∈ db.transactions.rows, other.reversalOfId ≠ some original.id) →
      original.type.reversible = true → original.serialId = some s.id → s.itemId = e.bucket.itemId →
      s.lotId = e.bucket.lotId → db.entriesOf original.id = [e] →
      BucketFields.Shifts e.changes
        (if original.type = .issue then -1 else original.quantity) 0 →
      Handled ctx env db tx (.reverse original.id) (some s) (some (restoredSerial original s))
        [reversalEntry tx.id e]

/-- What a call did to the reservations: an issue may draw on one, and only the calls that
are about reservations make or end one. -/
inductive Rebooked (env : Env) (db : Database) (tx : Transaction) :
    Call → Table Reservation.id → Prop
  | aside {kind doc line act} : (kind = .issues → doc.reservationId = none) →
      Rebooked env db tx (.postLine kind doc line act) db.reservations
  | undone {id} : Rebooked env db tx (.reverse id) db.reservations
  | drawn {doc line act} {row : Reservation} {q : ℚ} : doc.reservationId = some row.id →
      db.reservations.find? row.id = some row → row.status = .active → row.serialId = tx.serialId →
      0 < q → q ≤ row.quantity - row.fulfilledQuantity → (tx.serialId ≠ none → q = 1) →
      Rebooked env db tx (.postLine .issues doc line act) (db.reservations.set (row.fulfil q))
  | made {body after} : (newReservation env db body).itemId = tx.itemId →
      (newReservation env db body).lotId = tx.lotId →
      (newReservation env db body).serialId = tx.serialId →
      db.reservations.insert? (newReservation env db body) = some after →
      Rebooked env db tx (.reserve body) after
  | ended {row : Reservation} {cancel} : db.reservations.find? row.id = some row →
      row.status = .active → row.serialId = tx.serialId →
      Rebooked env db tx (.release row.id cancel)
        (db.reservations.set { row with status := releasedStatus env row cancel })

/-- A call inserted a transaction, wrote its ledger rows and handled its serial. -/
structure Recorded (ctx : Context 28 12) (env : Env) (db : Database) (c : Call) (tx : Transaction)
    (entries : List LedgerEntry) (before after : Option Serial) (db' : Database) : Prop where
  movement : Movement ctx db tx entries db'
  buckets : ∀ e ∈ entries, e.bucket.itemId = tx.itemId
  touched : Touched db tx db' before after
  handled : tx.serialId ≠ none → Handled ctx env db tx c before after entries
  single : tx.type = .issue → tx.serialId ≠ none → tx.quantity = 1
  received : tx.type.reversible = true → tx.type ≠ .issue →
    ∃ doc line act, c = .postLine .receipts doc line act
  reservations : Rebooked env db tx c db'.reservations

/-! ## The serial of a line -/

section Lines

variable {ctx : Context 28 12} {env : Env} {db db' : Database} {kind : DocumentKind}
  {doc : Document} {line : Line} {act : Action} {m : Move}

/-- The serial of a line of a serialized item. -/
structure Move.Names (m : Move) (db : Database) (s : Serial) : Prop where
  row : m.serial = some s
  id : m.line.serialId = some s.id
  found : db.serials.find? s.id = some s
  item : s.itemId = m.item.id
  lot : s.lotId = m.line.lotId
  single : m.q = 1

/-- A serial is of a serialized item, so a line of another item names none. -/
theorem Prepared.unnamed (h : Prepared ctx env db kind doc line act m db') (hbook : SerialBook db)
    (hitem : m.item.serialized = false) : line.serialId = none := by
  cases hserial : line.serialId with
  | none => rfl
  | some id =>
      obtain ⟨s, hs, howner⟩ := h.owner id hserial
      obtain ⟨item, hfind, hserialized⟩ := (hbook.serials s (Table.mem_of_find? hs)).item
      have hself : db.items.find? m.item.id = some m.item := by
        rw [Table.key_of_find? h.item]
        exact h.item
      rw [howner, hself] at hfind
      obtain rfl := Option.some.inj hfind
      rw [hitem] at hserialized
      cases hserialized

theorem Prepared.names (h : Prepared ctx env db kind doc line act m db) (hkind : kind ≠ .receipts)
    (hcurrent : Current db kind doc line) (hbook : SerialBook db)
    (hitem : m.item.serialized = true) : ∃ s, m.Names db s ∧
      (allowsUnavailable kind act ∨ s.status = .inStock ∨
        m.doc.reservationId.isSome ∧ s.status = .reserved) := by
  obtain ⟨s, hs, hlot, hstatus⟩ := h.serialized hkind hitem
  have hline := (h.plain hkind).1
  have hfound := h.serial
  rw [hs, Option.map_some, Option.map_eq_some_iff] at hfound
  obtain ⟨id, hid, hrow⟩ := hfound
  obtain rfl : s.id = id := Table.key_of_find? hrow
  rw [hline] at hid
  obtain ⟨owned, howned, howner⟩ := h.owner s.id hid
  obtain rfl := Option.some.inj (hrow.symm.trans howned)
  obtain ⟨stored, hstored, hcore, htracking⟩ := hcurrent.findLine?
  refine ⟨s, ⟨hs, hline ▸ hid, hrow, howner, hlot, ?_⟩, hstatus⟩
  have hserial : stored.serialId = line.serialId := congrArg Prod.snd htracking
  have hquantity : stored.normalizedQuantity = line.normalizedQuantity :=
    congrArg LineCore.normalizedQuantity hcore
  rw [h.quantity, ← hquantity]
  rcases hbook.lines line.id stored hstored (by rw [hserial, hid]; simp) with hone | hreceipt
  · exact hone
  · -- the line belongs to a document of another kind
    obtain ⟨receipt, hfind, hreceipts⟩ := hreceipt
    obtain ⟨document, hdocument, hheader, _⟩ := hcurrent.find?
    have howner' : stored.documentId = doc.id :=
      (congrArg LineCore.documentId hcore).trans hcurrent.owner
    rw [howner', hdocument] at hfind
    obtain rfl := Option.some.inj hfind
    exact absurd ((hcurrent.kind.symm.trans (congrArg Header.kind hheader).symm).trans hreceipts)
      hkind

/-- A serial in the store and the bin of the line is in its bucket. -/
theorem Move.Names.bucket {s : Serial} (h : m.Names db s) (hstore : s.currentStoreId = some m.source)
    (hbin : s.currentBinId = m.binId) : s.bucket = some m.bucket :=
  Serial.bucket_eq_some.2 ⟨h.item, hstore, hbin, h.lot⟩

theorem Move.serialsAfter_none (h : m.serial = none) (serials : Table Serial.id)
    (f : Serial → Serial) : m.serialsAfter serials f = serials := by
  simp [Move.serialsAfter, h]

theorem Move.Names.serialsAfter {s : Serial} (h : m.Names db s) (serials : Table Serial.id)
    (f : Serial → Serial) : m.serialsAfter serials f = serials.set (f s) := by
  simp [Move.serialsAfter, h.row]

/-- A branch of `post_line` that changes the serial of its line by `f`. -/
theorem Prepared.recorded {origin : Origin} {txkind : TransactionType} {cost q : ℚ}
    {tx : Transaction} {entries : List LedgerEntry} {f : Serial → Serial}
    (h : Prepared ctx env db kind doc line act m db) (hkind : kind ≠ .receipts)
    (hcurrent : Current db kind doc line) (hbook : SerialBook db)
    (hrecords : Records ctx env db.items origin m.line.entry txkind cost q tx)
    (hmovement : Movement ctx db tx entries db')
    (hbuckets : ∀ e ∈ entries, e.bucket.itemId = m.item.id)
    (hserials : db'.serials = m.serialsAfter db.serials f) (hsame : ∀ s : Serial, s.Same (f s))
    (hplaced : ∀ s, (f s).Placed) (htype : txkind.reversible = true → txkind = .issue ∧ q = m.q)
    (hreservations : (tx.serialId ≠ none → m.q = 1) →
      Rebooked env db tx (.postLine kind doc line act) db'.reservations)
    (hhandled : ∀ s, m.Names db s → (allowsUnavailable kind act ∨ s.status = .inStock ∨
        m.doc.reservationId.isSome ∧ s.status = .reserved) →
      Handled ctx env db tx (.postLine kind doc line act) (some s) (some (f s)) entries) :
    ∃ before after, Recorded ctx env db (.postLine kind doc line act) tx entries before after db' := by
  have hitemId : m.item.id = tx.itemId := h.itemId.trans hrecords.itemId.symm
  have hitems : ∀ e ∈ entries, e.bucket.itemId = tx.itemId := fun e he =>
    (hbuckets e he).trans hitemId
  have hself : db.items.find? tx.itemId = some m.item := by
    rw [← hitemId, Table.key_of_find? h.item]
    exact h.item
  have hreceived : tx.type.reversible = true → tx.type ≠ .issue →
      ∃ doc' line' act', Call.postLine kind doc line act = .postLine .receipts doc' line' act' := by
    rw [hrecords.type]
    exact fun hreversible hissue => absurd (htype hreversible).1 hissue
  cases hserialized : m.item.serialized with
  | false =>
      have hunnamed : tx.serialId = none := by
        rw [hrecords.serialId, (h.plain hkind).1]
        exact h.unnamed hbook hserialized
      have hrow : m.serial = none := by
        have hmap := h.serial
        rw [(h.plain hkind).1, h.unnamed hbook hserialized] at hmap
        exact Option.map_eq_none_iff.1 hmap.symm
      rw [Move.serialsAfter_none hrow] at hserials
      exact ⟨none, none, hmovement, hitems, .without hunnamed ⟨m.item, hself, hserialized⟩ hserials,
        absurd hunnamed, fun _ hnamed => absurd hunnamed hnamed, hreceived,
        hreservations fun hnamed => absurd hunnamed hnamed⟩
  | true =>
      obtain ⟨s, hnames, hstatus⟩ := h.names hkind hcurrent hbook hserialized
      rw [hnames.serialsAfter] at hserials
      have hnamed : tx.serialId = some s.id := hrecords.serialId.trans hnames.id
      have htouched : Touched db tx db' (some s) (some (f s)) :=
        .changed hnamed hnames.found (hnames.item.trans hitemId)
          (hnames.lot.trans hrecords.lotId.symm) (hsame s) (hplaced s) hserials
      refine ⟨some s, some (f s), hmovement, hitems, htouched, fun _ => hhandled s hnames hstatus,
        fun hissue _ => ?_, hreceived, hreservations fun _ => hnames.single⟩
      rw [hrecords.type] at hissue
      rw [hrecords.quantity, (htype (hissue ▸ rfl)).2, hnames.single]

theorem adjustedSerial_same (purpose : Purpose) (s : Serial) : s.Same (adjustedSerial purpose s) := by
  unfold adjustedSerial
  split <;> exact ⟨rfl, rfl, rfl⟩

theorem adjustedSerial_placed (purpose : Purpose) (s : Serial) :
    (adjustedSerial purpose s).Placed := by
  unfold adjustedSerial
  split
  · intro hheld
    cases hheld
  · intro hheld
    cases hheld
  · exact fun _ => rfl

theorem adjustmentType_irreversible {purpose : Purpose} {t : TransactionType}
    (h : adjustmentType purpose = some t) : t.reversible = false := by
  cases purpose <;> cases h <;> rfl

theorem issueChanges_shifts (reserved : Bool) (q cost : ℚ) :
    (issueChanges ctx reserved q cost).Shifts (-q) 0 := ⟨rfl, rfl⟩

theorem AdjustmentPosted.handled {txkind : TransactionType} {delta q cost : ℚ} {tx : Transaction}
    {s : Serial} (h : AdjustmentPosted ctx env db m txkind delta q cost tx db')
    (hnames : m.Names db s) (hdiffers : m.line.Differs kind delta) (hq : q = |delta|) :
    Handled ctx env db tx (.postLine kind m.doc m.line act) (some s)
      (some (adjustedSerial m.doc.purpose s))
      [⟨tx.id, m.bucket, adjustmentChanges ctx m.doc.purpose
        (db.balances m.bucket .quantityQuarantined) delta q cost⟩] := by
  have hadjustable := h.adjustable s hnames.row
  rw [hq]
  refine .adjusted hdiffers hnames.id (hnames.bucket hadjustable.store hadjustable.bin)
    hadjustable.held hadjustable.release hadjustable.quarantine ?_
  rcases h.serialized with hnone | hcases
  · rw [hnames.row] at hnone
    cases hnone
  · exact hcases

/-- An issue draws on the reservation of its document, if there is one. -/
theorem Covered.rebooked {tx : Transaction} {after : Table Reservation.id}
    (h : Covered m db.reservations after) (hpositive : 0 < m.q)
    (hserial : tx.serialId = m.line.serialId) (hsingle : tx.serialId ≠ none → m.q = 1) :
    Rebooked env db tx (.postLine .issues m.doc m.line act) after := by
  cases h with
  | unreserved hnone => exact .aside fun _ => hnone
  | @reserved id row hid hfind hcovers =>
      obtain rfl := Table.key_of_find? hfind
      obtain ⟨hactive, ⟨_, _, _, _, hrow⟩, hleft⟩ := hcovers
      exact .drawn hid hfind hactive (hrow.trans hserial.symm) hpositive hleft hsingle

/-- Every branch but that of receipts, with the serial of its line. -/
theorem MovePosted.recorded (h : MovePosted ctx env db m kind act db') (hkind : kind ≠ .receipts)
    (hact : act ∈ actions kind) (hprepared : Prepared ctx env db kind doc line act m db)
    (hcurrent : Current db kind doc line) (hbook : SerialBook db) : db' = db ∨ ∃ tx entries before after,
      Recorded ctx env db (.postLine kind doc line act) tx entries before after db' := by
  have hline := (hprepared.plain hkind).1
  have hdoc := hprepared.document
  have hdestination : ∀ store, (m.destination store).itemId = m.item.id := fun _ => rfl
  cases h with
  | receipt => exact absurd rfl hkind
  | issue h =>
      have hhere : act ≠ .receive := by
        rintro rfl
        simp [actions] at hact
      obtain ⟨before, after, hrecorded⟩ := hprepared.recorded hkind hcurrent hbook h.records h.movement
        (by simp [Move.bucket]) h.serials (fun s => ⟨rfl, rfl, rfl⟩) (fun _ _ => rfl)
        (fun _ => ⟨rfl, rfl⟩)
        (fun hsingle => by
          rw [← hdoc, ← hline]
          exact h.reservations.rebooked hprepared.positive h.records.serialId hsingle)
        fun s hnames hstatus => by
          have htakes : takesSerial .issues act = true := by simp [takesSerial, hhere]
          obtain ⟨hstore, hbin⟩ := hprepared.located htakes s hnames.row
          rw [hdoc] at hstatus
          exact .issued (hline ▸ hnames.id) (hnames.bucket hstore hbin)
            (by simpa [allowsUnavailable, hhere] using hstatus) rfl rfl
            (hnames.single ▸ issueChanges_shifts _ _ _)
      exact .inr ⟨_, _, before, after, hrecorded⟩
  | returned h =>
      obtain ⟨before, after, hrecorded⟩ := hprepared.recorded hkind hcurrent hbook h.records h.movement
        (by simp [Move.bucket]) h.serials (fun s => ⟨rfl, rfl, rfl⟩)
        (fun s hheld => by
          simp only [returnedSerial] at hheld
          split at hheld <;> cases hheld)
        (fun hreversible => by cases hreversible)
        (fun _ => by rw [h.reservations]; exact .aside (by simp)) fun s hnames _ => by
          have hout := h.out s hnames.row
          have hplaced := hbook.placed s (Table.mem_of_find? hnames.found)
          have hheld : s.status.held = false := by
            rcases hout with hstatus | hstatus <;> rw [hstatus] <;> rfl
          rw [← hdoc]
          refine .returned (hline ▸ hnames.id) (hplaced hheld) hout ?_ rfl ⟨hnames.single, ?_⟩
          · exact Serial.bucket_eq_some.2 ⟨hnames.item, rfl, rfl, hnames.lot⟩
          · rw [← hnames.single]
            rfl
      exact .inr ⟨_, _, before, after, hrecorded⟩
  | dispatch h =>
      obtain ⟨before, after, hrecorded⟩ := hprepared.recorded hkind hcurrent hbook h.records h.movement
        (by simp [Move.bucket]) h.serials (fun s => ⟨rfl, rfl, rfl⟩) (fun _ _ => rfl)
        (fun hreversible => by cases hreversible)
        (fun _ => by rw [h.reservations]; exact .aside (by simp)) fun s hnames hstatus => by
          obtain ⟨hstore, hbin⟩ := hprepared.located rfl s hnames.row
          rw [hdoc] at hstatus
          exact .dispatched (hline ▸ hnames.id) (hnames.bucket hstore hbin)
            (by simpa [allowsUnavailable] using hstatus) rfl rfl (hnames.single ▸ ⟨rfl, rfl⟩)
      exact .inr ⟨_, _, before, after, hrecorded⟩
  | @receive dispatched store tx _ h =>
      obtain ⟨before, after, hrecorded⟩ := hprepared.recorded hkind hcurrent hbook h.records h.movement
        (by simp [Move.bucket, hdestination]) h.serials (fun s => ⟨rfl, rfl, rfl⟩)
        (fun _ hheld => by cases hheld)
        (fun hreversible => by cases hreversible)
        (fun _ => by rw [h.reservations]; exact .aside (by simp)) fun s hnames _ => by
          refine .arrived (hline ▸ hnames.id) ?_ rfl ⟨rfl, rfl⟩ ⟨hnames.single, rfl⟩
          exact Serial.bucket_eq_some.2 ⟨hnames.item, h.arrives, rfl, hnames.lot⟩
      exact .inr ⟨_, _, before, after, hrecorded⟩
  | @adjustment _ txkind delta cost tx _ htype hdelta h =>
      obtain ⟨before, after, hrecorded⟩ := hprepared.recorded hkind hcurrent hbook h.records h.movement
        (by simp [Move.bucket]) h.serials (adjustedSerial_same _) (adjustedSerial_placed _)
        (fun hreversible => by
          rw [adjustmentType_irreversible htype] at hreversible
          cases hreversible)
        (fun _ => by rw [h.reservations]; exact .aside (by simp)) fun s hnames _ => by
          -- a serial is only taken out, one unit at a time
          have hneg : delta = -1 := by
            rw [hdelta, hnames.single]
            split
            · next hpositive =>
              rcases h.serialized with hnone | hother | hother | hless
              · rw [hnames.row] at hnone
                cases hnone
              · rw [hpositive] at hother
                cases hother
              · rw [hpositive] at hother
                cases hother
              · rw [hdelta, if_pos hpositive, hnames.single] at hless
                norm_num at hless
            · rfl
          rw [← hdoc, ← hline]
          exact h.handled hnames (.inl ⟨rfl, hneg⟩) (by rw [hneg, hnames.single]; norm_num)
      exact .inr ⟨_, _, before, after, hrecorded⟩
  | @count _ counted _ _ _ _ hsystem hcounted hdelta hne h =>
      obtain ⟨before, after, hrecorded⟩ := hprepared.recorded hkind hcurrent hbook h.records h.movement
        (by simp [Move.bucket]) h.serials (adjustedSerial_same _) (adjustedSerial_placed _)
        (fun hreversible => by cases hreversible)
        (fun _ => by rw [h.reservations]; exact .aside (by simp)) fun s hnames _ => by
          rw [← hdoc, ← hline]
          exact h.handled hnames (.inr ⟨rfl, counted, _, hcounted, hsystem, hdelta, hne⟩) rfl
      exact .inr ⟨_, _, before, after, hrecorded⟩
  | unchanged => exact .inl rfl

/-- A receipt creates the serial of its line, if the item is serialized. -/
theorem ReceiptPosted.recorded {mid : Database} {cost : ℚ} {tx : Transaction}
    (h : ReceiptPosted ctx env mid m cost tx db')
    (hprepared : Prepared ctx env db .receipts doc line act m mid) (hbook : SerialBook db) :
    ∃ entries before after,
      Recorded ctx env db (.postLine .receipts doc line act) tx entries before after db' := by
  have hreceived := hprepared.received rfl
  have hitemId : m.item.id = tx.itemId := hprepared.itemId.trans h.records.itemId.symm
  have hfound := hprepared.item
  have hself : db.items.find? tx.itemId = some m.item := by
    rw [← hitemId, Table.key_of_find? hfound]
    exact hfound
  have hsource := hprepared.source
  have hbin := hprepared.bin
  have hserials := h.serials
  obtain ⟨lots, serials, rfl⟩ := hreceived.database
  have hmovement : Movement ctx db tx [⟨tx.id, m.bucket, receiptChanges ctx m.q cost⟩] db' :=
    ⟨h.movement.items, h.movement.inserted, h.movement.moves, h.movement.ledger⟩
  have hbuckets : ∀ e ∈ [LedgerEntry.mk tx.id m.bucket (receiptChanges ctx m.q cost)],
      e.bucket.itemId = tx.itemId := by
    simpa [Move.bucket] using hitemId
  have hissue : tx.type ≠ .issue := by
    rw [h.records.type]
    exact receiptType_ne_issue _
  have hcall : ∃ doc' line' act',
      Call.postLine .receipts doc line act = .postLine .receipts doc' line' act' := ⟨_, _, _, rfl⟩
  have hreservations : Rebooked env db tx (.postLine .receipts doc line act) db'.reservations := by
    rw [h.reservations]
    exact .aside (by simp)
  cases hserialized : m.item.serialized with
  | false =>
      obtain ⟨hserial, hsame⟩ := hreceived.unserialized hserialized
      have hunnamed : tx.serialId = none :=
        (h.records.serialId.trans hserial).trans (hprepared.unnamed hbook hserialized)
      exact ⟨_, none, none, hmovement, hbuckets,
        .without hunnamed ⟨m.item, hself, hserialized⟩ (hserials.trans hsame), absurd hunnamed,
        fun htype => absurd htype hissue, fun _ _ => hcall, hreservations⟩
  | true =>
      obtain ⟨hserial, hinserted⟩ := hreceived.serialized hserialized
      have hbucket : (newSerial env db m.item m.doc m.line).bucket = some m.bucket :=
        Serial.bucket_eq_some.2 ⟨rfl, hsource, hbin.symm, rfl⟩
      have htouched : Touched db tx db' none (some (newSerial env db m.item m.doc m.line)) := by
        refine .received (h.records.serialId.trans hserial) hitemId h.records.lotId.symm
          ⟨m.item, hself, hserialized⟩ (fun hheld => by cases hheld) ?_
        rw [hserials]
        exact hinserted
      refine ⟨_, none, some _, hmovement, hbuckets, htouched, fun _ => ?_,
        fun htype => absurd htype hissue, fun _ _ => hcall, hreservations⟩
      refine .received ⟨m.item, hfound, hserialized⟩
        (h.records.quantity.trans hprepared.quantity) rfl hbucket ⟨?_, rfl⟩
      rw [h.records.quantity]
      rfl

end Lines

/-! ## The serial of a reservation or a reversal -/

section Calls

variable {ctx : Context 28 12} {env : Env} {db db' : Database} {tx : Transaction}

/-- The serial that a transaction names is changed by `f`, if it names one. -/
theorem SerialChanged.touched {serialId : Option Id} {P : Serial → Prop} {f : Serial → Serial}
    (h : SerialChanged serialId P f db.serials db'.serials) (htx : tx.serialId = serialId)
    (hunnamed : serialId = none →
      ∃ item, db.items.find? tx.itemId = some item ∧ item.serialized = false)
    (hnamed : ∀ id s, serialId = some id → db.serials.find? id = some s →
      s.itemId = tx.itemId ∧ s.lotId = tx.lotId)
    (hsame : ∀ s : Serial, s.Same (f s)) (hplaced : ∀ s, (f s).Placed) :
    tx.serialId = none ∧ Touched db tx db' none none ∨
      ∃ s, P s ∧ serialId = some s.id ∧ db.serials.find? s.id = some s ∧
        Touched db tx db' (some s) (some (f s)) := by
  generalize hafter : db'.serials = after at h
  cases h with
  | without hnone => exact .inl ⟨htx.trans hnone, .without (htx.trans hnone) (hunnamed hnone) hafter⟩
  | @changed id s hid hfind hP =>
      obtain rfl := Table.key_of_find? hfind
      obtain ⟨hitem, hlot⟩ := hnamed s.id s hid hfind
      exact .inr ⟨s, hP, hid, hfind,
        .changed (htx.trans hid) hfind hitem hlot (hsame s) (hplaced s) hafter⟩

theorem Database.Traced.names {itemId : Id} {lotId serialId : Option Id}
    (h : db.Traced itemId lotId serialId) {id : Id} {s : Serial} (hid : serialId = some id)
    (hs : db.serials.find? id = some s) : s.itemId = itemId ∧ s.lotId = lotId := by
  obtain ⟨found, hfound, hitem, hlot⟩ := h.serial id hid
  obtain rfl := Option.some.inj (hfound.symm.trans hs)
  exact ⟨hitem, hlot⟩

theorem Database.Traced.unnamed {itemId : Id} {lotId serialId : Option Id}
    (h : db.Traced itemId lotId serialId) (hnone : serialId = none) :
    ∃ item, db.items.find? itemId = some item ∧ item.serialized = false := by
  obtain ⟨item, hfind, hserialized⟩ := h.item
  exact ⟨item, hfind, by rw [hserialized, hnone]; rfl⟩

theorem ReservePosted.recorded {item : Item} {body : ReservationBody}
    (h : ReservePosted ctx env db item (newReservation env db body) tx db')
    (hbook : SerialBook db) :
    ∃ entries before after, Recorded ctx env db (.reserve body) tx entries before after db' := by
  have hitem : tx.itemId = body.itemId := h.records.itemId
  have hlot : tx.lotId = body.lotId := h.records.lotId
  have hserialized : ∀ id s, body.serialId = some id → db.serials.find? id = some s →
      s.itemId = body.itemId ∧ s.lotId = body.lotId ∧ s.status = .inStock := by
    intro id s hid hs
    obtain ⟨owned, howned, howner⟩ := h.owner id hid
    obtain rfl := Option.some.inj (hs.symm.trans howned)
    obtain ⟨found, hfound, hyes⟩ := (hbook.serials s (Table.mem_of_find? hs)).item
    rw [howner, h.found] at hfound
    obtain rfl := Option.some.inj hfound
    obtain ⟨id', s', hid', hs', hlot', hstatus⟩ := h.available hyes
    obtain rfl := Option.some.inj (hid.symm.trans hid')
    obtain rfl := Option.some.inj (hs.symm.trans hs')
    exact ⟨howner, hlot', hstatus⟩
  have hirreversible : tx.type.reversible = false := by
    rw [h.records.type]
    rfl
  have hissue := TransactionType.ne_issue hirreversible
  have hbuckets : ∀ e ∈ [LedgerEntry.mk tx.id (newReservation env db body).bucket
      (Changes.fields { quantityReserved := (newReservation env db body).quantity })],
      e.bucket.itemId = tx.itemId := by
    intro e he
    rw [List.mem_singleton.1 he, hitem]
    rfl
  have hmade : Rebooked env db tx (.reserve body) db'.reservations :=
    .made hitem.symm hlot.symm h.records.serialId.symm h.inserted
  have hplain : body.serialId = none →
      ∃ item, db.items.find? tx.itemId = some item ∧ item.serialized = false := by
    intro hnone
    refine ⟨item, by rw [hitem]; exact h.found, ?_⟩
    by_contra hyes
    obtain ⟨id, _, hid, _⟩ := h.available (by simpa using hyes)
    rw [show (newReservation env db body).serialId = none from hnone] at hid
    cases hid
  have hnamed : ∀ id s, body.serialId = some id → db.serials.find? id = some s →
      s.itemId = tx.itemId ∧ s.lotId = tx.lotId := by
    intro id s hid hs
    obtain ⟨howner, hlot', _⟩ := hserialized id s hid hs
    exact ⟨howner.trans hitem.symm, hlot'.trans hlot.symm⟩
  rcases h.serials.touched h.records.serialId hplain hnamed (fun _ => ⟨rfl, rfl, rfl⟩)
      (fun _ hheld => by cases hheld) with
    ⟨hunnamed, htouched⟩ | ⟨s, ⟨hone, hstore, hbin⟩, hid, hfind, htouched⟩
  · exact ⟨_, none, none, h.movement, hbuckets, htouched, absurd hunnamed,
      fun htype => absurd htype hissue,
      fun hreversible => absurd hreversible (Bool.eq_false_iff.1 hirreversible), hmade⟩
  · obtain ⟨howner, hlot', hstatus⟩ := hserialized s.id s hid hfind
    have hbucket : s.bucket = some (newReservation env db body).bucket :=
      Serial.bucket_eq_some.2 ⟨howner, hstore, hbin, hlot'⟩
    exact ⟨_, some s, some _, h.movement, hbuckets, htouched,
      fun _ => .reserved hid hone hbucket hstatus ⟨rfl, rfl⟩, fun htype => absurd htype hissue,
      fun hreversible => absurd hreversible (Bool.eq_false_iff.1 hirreversible), hmade⟩

theorem ReleasePosted.recorded {row : Reservation} {cancel : Bool}
    (h : ReleasePosted ctx env db row cancel tx db') (hbook : SerialBook db) :
    ∃ entries before after,
      Recorded ctx env db (.release row.id cancel) tx entries before after db' := by
  have htraced := hbook.reservations row (Table.mem_of_find? h.found)
  have hitem : tx.itemId = row.itemId := h.records.itemId
  have hlot : tx.lotId = row.lotId := h.records.lotId
  have hirreversible : tx.type.reversible = false := by
    rw [h.records.type]
    rfl
  have hissue := TransactionType.ne_issue hirreversible
  have hended : Rebooked env db tx (.release row.id cancel) db'.reservations := by
    rw [h.reservations]
    exact .ended h.found h.active h.records.serialId.symm
  have hbuckets : ∀ e ∈ [LedgerEntry.mk tx.id row.bucket
      (Changes.fields { quantityReserved := -(row.quantity - row.fulfilledQuantity) })],
      e.bucket.itemId = tx.itemId := by
    intro e he
    rw [List.mem_singleton.1 he, hitem]
    rfl
  rcases h.serials.touched h.records.serialId
      (fun hnone => by rw [hitem]; exact htraced.unnamed hnone)
      (fun id s hid hs => by rw [hitem, hlot]; exact htraced.names hid hs)
      (fun _ => ⟨rfl, rfl, rfl⟩) (fun _ hheld => by cases hheld) with
    ⟨hunnamed, htouched⟩ | ⟨s, _, hid, hfind, htouched⟩
  · exact ⟨_, none, none, h.movement, hbuckets, htouched, absurd hunnamed,
      fun htype => absurd htype hissue,
      fun hreversible => absurd hreversible (Bool.eq_false_iff.1 hirreversible), hended⟩
  · exact ⟨_, some s, some _, h.movement, hbuckets, htouched,
      fun _ => .released h.found h.active hid ⟨rfl, rfl⟩,
      fun htype => absurd htype hissue,
      fun hreversible => absurd hreversible (Bool.eq_false_iff.1 hirreversible), hended⟩

theorem restoredSerial_same (original : Transaction) (s : Serial) :
    s.Same (restoredSerial original s) := by
  unfold restoredSerial
  split <;> exact ⟨rfl, rfl, rfl⟩

theorem restoredSerial_placed (original : Transaction) (s : Serial) :
    (restoredSerial original s).Placed := by
  unfold restoredSerial
  split
  · intro hheld
    cases hheld
  · exact fun _ => rfl

/-- The row that a reversal undoes is of the item and the lot of the transaction. -/
theorem Undone.owner {original : Transaction} {e : LedgerEntry} (h : Undone ctx db original e) :
    e.bucket.itemId = original.itemId ∧ e.bucket.lotId = original.lotId := by
  cases h with
  | issue _ hfor hsource _ _ =>
      exact ⟨hsource.item.trans hfor.item.symm, (hfor.lot.trans hsource.lot).symm⟩
  | receipt _ hitem hlot _ => exact ⟨hitem, hlot⟩

theorem Undone.shifts {original : Transaction} {e : LedgerEntry} (h : Undone ctx db original e)
    (hsingle : original.type = .issue → original.quantity = 1) :
    e.changes.Shifts (if original.type = .issue then -1 else original.quantity) 0 := by
  cases h with
  | issue htype _ _ _ hchanges =>
      rw [hchanges, hsingle htype, if_pos htype]
      exact ⟨rfl, rfl⟩
  | receipt htype _ _ hchanges =>
      rw [hchanges, if_neg htype]
      exact ⟨rfl, rfl⟩

theorem ReversalPosted.recorded {original : Transaction}
    (h : ReversalPosted ctx env db original tx db') (hbook : SerialBook db)
    (hjournal : Journal ctx db) :
    ∃ entries before after,
      Recorded ctx env db (.reverse original.id) tx entries before after db' := by
  have horiginal := Table.mem_of_find? h.found
  have htraced := hbook.transactions original horiginal
  obtain ⟨e, hentries, hundone⟩ := h.undone hjournal
  obtain ⟨hitemId, hlotId⟩ := hundone.owner
  have hmovement := h.movement
  rw [hentries, List.map_singleton] at hmovement
  have hrow := h.row
  have hitem : tx.itemId = original.itemId := by rw [hrow]; rfl
  have hserial : tx.serialId = original.serialId := by rw [hrow]; rfl
  have hlot : tx.lotId = original.lotId := by rw [hrow]; rfl
  have hundoes : Rebooked env db tx (.reverse original.id) db'.reservations := by
    rw [h.reservations]
    exact .undone
  have hbuckets : ∀ r ∈ [reversalEntry tx.id e], r.bucket.itemId = tx.itemId := by
    intro r hr
    rw [List.mem_singleton.1 hr, hitem]
    exact hitemId
  have hirreversible : tx.type.reversible = false := by
    rw [hrow]
    rfl
  have hissue := TransactionType.ne_issue hirreversible
  rcases h.serials.touched hserial
      (fun hnone => by rw [hitem]; exact htraced.unnamed hnone)
      (fun id s hid hs => by rw [hitem, hlot]; exact htraced.names hid hs)
      (restoredSerial_same original) (restoredSerial_placed original) with
    ⟨hunnamed, htouched⟩ | ⟨s, _, hid, hfind, htouched⟩
  · exact ⟨_, none, none, hmovement, hbuckets, htouched, absurd hunnamed,
      fun htype => absurd htype hissue,
      fun hreversible => absurd hreversible (Bool.eq_false_iff.1 hirreversible), hundoes⟩
  · obtain ⟨howner, hlot'⟩ := htraced.names hid hfind
    refine ⟨_, some s, some _, hmovement, hbuckets, htouched, fun _ => ?_,
      fun htype => absurd htype hissue,
      fun hreversible => absurd hreversible (Bool.eq_false_iff.1 hirreversible), hundoes⟩
    exact .reversed h.found h.unreversed h.reversible hid (howner.trans hitemId.symm)
      (hlot'.trans hlotId.symm) hentries
      (hundone.shifts fun hissue => hbook.single original horiginal hissue (by simp [hid]))

theorem CallPosted.recorded {c : Call} (h : CallPosted ctx env db c db') (hbook : SerialBook db)
    (hjournal : Journal ctx db) :
    db' = db ∨ ∃ tx entries before after, Recorded ctx env db c tx entries before after db' := by
  cases h with
  | @line kind doc line act m mid _ hcurrent hact _ hprepared hmove =>
      by_cases hkind : kind = .receipts
      · subst hkind
        cases hmove with
        | receipt h => exact .inr ⟨_, h.recorded hprepared hbook⟩
      · obtain rfl := (hprepared.plain hkind).2
        exact hmove.recorded hkind hact hprepared hcurrent hbook
  | reserve h => exact .inr ⟨_, h.recorded hbook⟩
  | release h => exact .inr ⟨_, h.recorded hbook⟩
  | reverse h => exact .inr ⟨_, h.recorded hbook hjournal⟩
  | nothing => exact .inl rfl

/-! ## The serials throughout a run -/

/-- A reservation afterwards names what an earlier one named, or what the transaction names. -/
theorem Rebooked.of_mem {c : Call} {after : Table Reservation.id} (h : Rebooked env db tx c after)
    {row : Reservation} (hrow : row ∈ after.rows) :
    (∃ old ∈ db.reservations.rows, row.itemId = old.itemId ∧ row.lotId = old.lotId ∧
      row.serialId = old.serialId) ∨
    row.itemId = tx.itemId ∧ row.lotId = tx.lotId ∧ row.serialId = tx.serialId := by
  cases h with
  | aside => exact .inl ⟨row, hrow, rfl, rfl, rfl⟩
  | undone => exact .inl ⟨row, hrow, rfl, rfl, rfl⟩
  | @drawn _ _ _ old _ _ hfind =>
      rcases Table.mem_set.1 hrow with ⟨hold, _⟩ | ⟨rfl, _⟩
      · exact .inl ⟨row, hold, rfl, rfl, rfl⟩
      · exact .inl ⟨old, Table.mem_of_find? hfind, rfl, rfl, rfl⟩
  | made hitem hlot hserial hins =>
      rcases (Table.mem_insert? hins).1 hrow with hold | rfl
      · exact .inl ⟨row, hold, rfl, rfl, rfl⟩
      · exact .inr ⟨hitem, hlot, hserial⟩
  | @ended old _ hfind =>
      rcases Table.mem_set.1 hrow with ⟨hold, _⟩ | ⟨rfl, _⟩
      · exact .inl ⟨row, hold, rfl, rfl, rfl⟩
      · exact .inl ⟨old, Table.mem_of_find? hfind, rfl, rfl, rfl⟩

/-- A bucket of another item than that of the rows is left alone. -/
theorem entriesSum_of_ne {entries : List LedgerEntry} {k : Bucket}
    (h : ∀ e ∈ entries, e.bucket ≠ k) (f : BucketField) : entriesSum entries k f = 0 := by
  have hnone : entries.filter (·.bucket = k) = [] :=
    List.filter_eq_nil_iff.2 fun e he => by simpa using h e he
  rw [entriesSum, hnone]
  rfl

/-- A line that names a serial is of one unit, after a call as before. -/
theorem CallPosted.lines {c : Call} (h : CallPosted ctx env db c db') (hbook : SerialBook db) (id : Id)
    (line : Line) (hline : db'.lines.find? id = some line) (hserial : line.serialId ≠ none) :
    line.normalizedQuantity = 1 ∨
      ∃ doc, db'.documents.find? line.documentId = some doc ∧ doc.kind = .receipts := by
  obtain ⟨own, halike, hown⟩ := h.alike
  obtain ⟨old, hold, hcore, htracking⟩ := halike.core_backward hline
  have hquantity : old.normalizedQuantity = line.normalizedQuantity :=
    congrArg LineCore.normalizedQuantity hcore
  have hdocument : old.documentId = line.documentId := congrArg LineCore.documentId hcore
  have hreceipt : (∃ doc, db.documents.find? old.documentId = some doc ∧ doc.kind = .receipts) →
      ∃ doc, db'.documents.find? line.documentId = some doc ∧ doc.kind = .receipts := by
    rintro ⟨doc, hdoc, hkind⟩
    obtain ⟨doc', hdoc', hheader⟩ := halike.header_forward hdoc
    exact ⟨doc', hdocument ▸ hdoc', (congrArg Header.kind hheader).trans hkind⟩
  by_cases hmem : id ∈ own
  · exact .inr (hreceipt (hown id hmem old hold))
  · have hsame : old.serialId = line.serialId := congrArg Prod.snd (htracking hmem)
    rcases hbook.lines id old hold (hsame ▸ hserial) with hone | hreceipts
    · exact .inl (hquantity.symm.trans hone)
    · exact .inr (hreceipt hreceipts)

theorem Recorded.serialBook {c : Call} {entries : List LedgerEntry} {before after : Option Serial}
    (h : Recorded ctx env db c tx entries before after db') (hposted : CallPosted ctx env db c db')
    (hbalanced : Balanced db) (hbook : SerialBook db) : SerialBook db' where
  serials s hs := by
    rcases h.touched.of_mem hs with hold | ⟨_, hid, hitem, hlot⟩
    · exact (hbook.serials s hold).carried (h.touched.carried h.movement)
    · rw [hitem, hlot, ← hid]
      exact h.touched.traced h.movement hbook
  transactions other hother := by
    rcases (Table.mem_insert? h.movement.inserted.insert).1 hother with hold | rfl
    · exact (hbook.transactions other hold).carried (h.touched.carried h.movement)
    · exact h.touched.traced h.movement hbook
  reservations row hrow := by
    rcases h.reservations.of_mem hrow with ⟨old, hold, hitem, hlot, hserial⟩ | ⟨hitem, hlot, hserial⟩
    · rw [hitem, hlot, hserial]
      exact (hbook.reservations old hold).carried (h.touched.carried h.movement)
    · rw [hitem, hlot, hserial]
      exact h.touched.traced h.movement hbook
  placed s hs := by
    rcases h.touched.of_mem hs with hold | ⟨hplaced, _⟩
    · exact hbook.placed s hold
    · exact hplaced
  lines := hposted.lines hbook
  single other hother hissue hserial := by
    rcases (Table.mem_insert? h.movement.inserted.insert).1 hother with hold | rfl
    · exact hbook.single other hold hissue hserial
    · exact h.single hissue hserial
  unposted k hnone f hf := by
    have hitem : tx.itemId ≠ k.itemId :=
      hnone tx ((Table.mem_insert? h.movement.inserted.insert).2 (.inr rfl))
    have helse : ∀ e ∈ entries, e.bucket ≠ k := by
      rintro e he rfl
      exact hitem (h.buckets e he).symm
    rw [hposted.quantities hbalanced.steady hbalanced.reservations h.movement.ledger k hf,
      entriesSum_of_ne helse, add_zero]
    exact hbook.unposted k
      (fun old hold => hnone old ((Table.mem_insert? h.movement.inserted.insert).2 (.inl hold))) f hf

theorem serialized_of_rules {item item' : Item} (h : item'.rules = item.rules) :
    item'.serialized = item.serialized := by
  simp only [Item.rules, Prod.mk.injEq] at h
  obtain ⟨_, hmethod, _, hserial, _⟩ := h
  rw [Item.serialized, Item.serialized, hmethod, hserial]

theorem Bookkeeping.carried (h : Bookkeeping db db') : Carried db db' where
  transactions tx htx := by
    rw [h.stock.transactions]
    exact htx
  serials id s hs := ⟨s, by rw [h.stock.serials]; exact hs, rfl, rfl, rfl⟩
  items id item hitem hposted := by
    obtain ⟨item', hitem', hrules⟩ := h.items id item hitem
    refine ⟨item', hitem', ?_⟩
    rcases hrules with hrules | hnone
    · exact serialized_of_rules hrules
    · obtain ⟨tx, htx, hid⟩ := hposted
      exact absurd hid (hnone tx htx)

theorem Bookkeeping.serialBook (h : Bookkeeping db db') (hbook : SerialBook db) : SerialBook db' where
  serials s hs := by
    rw [h.stock.serials] at hs
    exact (hbook.serials s hs).carried h.carried
  transactions tx htx := by
    rw [h.stock.transactions] at htx
    exact (hbook.transactions tx htx).carried h.carried
  reservations row hrow := by
    rw [h.stock.reservations] at hrow
    exact (hbook.reservations row hrow).carried h.carried
  placed := by
    rw [h.stock.serials]
    exact hbook.placed
  lines id line hline hserial := by
    rcases h.newLines id line hline with ⟨old, hold, hcore, htracking⟩ | hnew
    · have hsame : old.serialId = line.serialId := congrArg Prod.snd htracking
      have hquantity : old.normalizedQuantity = line.normalizedQuantity :=
        congrArg LineCore.normalizedQuantity hcore
      rcases hbook.lines id old hold (hsame ▸ hserial) with hone | ⟨doc, hdoc, hkind⟩
      · exact .inl (hquantity.symm.trans hone)
      · obtain ⟨doc', hdoc', hkind', _⟩ := h.documents _ doc hdoc
        have hdocument : old.documentId = line.documentId := congrArg LineCore.documentId hcore
        exact .inr ⟨doc', hdocument ▸ hdoc', hkind'.trans hkind⟩
    · -- the serial is of a serialized item, so the line was checked to be of one unit
      obtain ⟨serialId, hid⟩ := Option.ne_none_iff_exists'.1 hserial
      obtain ⟨s, hs, howner⟩ := hnew.owner serialId hid
      obtain ⟨item, hitem, hone⟩ := hnew.item
      obtain ⟨owned, howned, hserialized⟩ := (hbook.serials s (Table.mem_of_find? hs)).item
      rw [howner, hitem] at howned
      obtain rfl := Option.some.inj howned
      exact .inl (hone hserialized)
  single := by
    rw [h.stock.transactions]
    exact hbook.single
  unposted := by
    rw [h.stock.transactions, h.stock.balances]
    exact hbook.unposted

end Calls

theorem Passes.serialBook {ctx : Context 28 12} {cond : CallCondition} {db : Database}
    (h : Passes ctx (· = .empty) cond db) : SerialBook db := by
  refine h.invariant (fun db (hdb : db = .empty) => hdb ▸ SerialBook.empty)
    fun env db db' hpasses hbook hturn => ?_
  cases hturn with
  | bookkeeping h => exact h.serialBook hbook
  | call hvalid _ hrun =>
      have hposted := Call.posted hvalid hrun
      have hbalanced : Balanced db :=
        hpasses.balanced fun db (hdb : db = .empty) => hdb ▸ Balanced.empty
      rcases hposted.recorded hbook hpasses.journal with rfl | ⟨_, _, _, _, hrecorded⟩
      · exact hbook
      · exact hrecorded.serialBook hposted hbalanced hbook

end Cestos.Inventory
