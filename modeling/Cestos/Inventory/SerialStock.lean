import Cestos.Inventory.Handling

/-!
# Stock and serials

The stock of a serialized item is kept twice, as quantities of buckets and as serials that
are in them. Every call moves the two by separate statements. They stay equal as long as
what a call takes from or adds to a bucket is one unit for the serial that leaves or enters
it, and the quarantined part as long as one quarantined unit comes or goes with a
quarantined serial.
-/

namespace Cestos.Inventory

open Cestos.Core Cestos.Core.Decimal

/-- The serial is in the bucket and its status is in `p`. -/
def Serial.within (k : Bucket) (p : SerialStatus → Bool) (s : Serial) : Bool :=
  s.bucket = some k ∧ p s.status = true

/-- The number of serials in a bucket whose status is in `p`. -/
def Database.serialsIn (db : Database) (k : Bucket) (p : SerialStatus → Bool) : ℕ :=
  db.serials.count (Serial.within k p)

def SerialStatus.isQuarantined (status : SerialStatus) : Bool := status = .quarantined

/-- The serial that something names. -/
def Database.serialOf (db : Database) (serialId : Option Id) : Option Serial :=
  serialId.bind db.serials.find?

/-- A column of the buckets of serialized items counts their serials. -/
def Counted (f : BucketField) (p : SerialStatus → Bool) (db : Database) : Prop :=
  ∀ item ∈ db.items.rows, item.serialized = true → ∀ k : Bucket, k.itemId = item.id →
    db.balances k f = db.serialsIn k p

/-! ## What one serial counts for -/

/-- What a serial adds to the number in a bucket. -/
def Serial.weight (k : Bucket) (p : SerialStatus → Bool) (s : Serial) : ℚ :=
  if s.within k p then 1 else 0

theorem serialsIn_eq (db : Database) (k : Bucket) (p : SerialStatus → Bool) :
    (db.serialsIn k p : ℚ) = db.serials.sum (Serial.weight k p) :=
  Table.count_eq_sum db.serials _

theorem Serial.weight_of_bucket {s : Serial} {b : Bucket} (h : s.bucket = some b) (k : Bucket)
    (p : SerialStatus → Bool) : s.weight k p = if b = k then (if p s.status then 1 else 0) else 0 := by
  by_cases hb : b = k <;> simp [weight, within, h, hb]

theorem Serial.weight_of_none {s : Serial} (h : s.bucket = none) (k : Bucket)
    (p : SerialStatus → Bool) : s.weight k p = 0 := by
  simp [weight, within, h]

theorem Serial.weight_of_status {s : Serial} {p : SerialStatus → Bool} (h : p s.status = false)
    (k : Bucket) : s.weight k p = 0 := by
  simp [weight, within, h]

theorem entriesSum_row (t : Id) (b : Bucket) (changes : BucketFields) (k : Bucket)
    (f : BucketField) : entriesSum [⟨t, b, changes⟩] k f = if b = k then changes f else 0 := by
  rw [entriesSum_cons, entriesSum_nil, add_zero]

/-- The serials in a bucket change by the one that a call handles. -/
theorem Touched.serialsIn {db db' : Database} {tx : Transaction} {before after : Option Serial}
    (h : Touched db tx db' before after) (k : Bucket) (p : SerialStatus → Bool) :
    (db'.serialsIn k p : ℚ) =
      db.serialsIn k p - before.elim 0 (Serial.weight k p) + after.elim 0 (Serial.weight k p) := by
  rw [serialsIn_eq, serialsIn_eq]
  exact h.sum _

section Turns

variable {ctx : Context 28 12} {env : Env} {db db' : Database} {c : Call} {tx : Transaction}
  {entries : List LedgerEntry} {before after : Option Serial} {f : BucketField}
  {p : SerialStatus → Bool}

/-- A call keeps the count if its rows move what its serial counts for. -/
theorem Recorded.counted (h : Recorded ctx env db c tx entries before after db')
    (hposted : CallPosted ctx env db c db') (hbalanced : Balanced db) (hf : f.IsQuantity)
    (hmoves : Handled ctx env db tx c before after entries → ∀ k, entriesSum entries k f =
      after.elim 0 (Serial.weight k p) - before.elim 0 (Serial.weight k p))
    (hcounted : Counted f p db) : Counted f p db' := by
  intro item hitem hserialized k hk
  rw [h.movement.items] at hitem
  have hbefore := hcounted item hitem hserialized k hk
  rw [hposted.quantities hbalanced.steady hbalanced.reservations h.movement.ledger k hf, hbefore,
    h.touched.serialsIn k p]
  by_cases hnamed : tx.serialId = none
  · cases h.touched with
    | without _ hother _ =>
        -- the transaction is of another item
        obtain ⟨other, hfind, hplain⟩ := hother
        have hne : ∀ e ∈ entries, e.bucket ≠ k := by
          rintro e he rfl
          rw [← h.buckets e he, hk, Table.find?_of_mem hitem] at hfind
          obtain rfl := Option.some.inj hfind
          rw [hserialized] at hplain
          cases hplain
        rw [entriesSum_of_ne hne]
        simp
    | received hsome => cases hnamed.symm.trans hsome
    | changed hsome => cases hnamed.symm.trans hsome
  · rw [hmoves (h.handled hnamed) k]
    ring

/-- Bookkeeping keeps the count: an item of which something was posted stays serialized, and
of another one there is neither stock nor a serial. -/
theorem Bookkeeping.counted (h : Bookkeeping db db') (hbook : SerialBook db) (hf : f.IsQuantity)
    (hcounted : Counted f p db) : Counted f p db' := by
  intro item hitem hserialized k hk
  have hsame : db'.serialsIn k p = db.serialsIn k p := by
    rw [Database.serialsIn, h.stock.serials, Database.serialsIn]
  rw [h.stock.balances, hsame]
  by_cases hposted : ∃ tx ∈ db.transactions.rows, tx.itemId = k.itemId
  · obtain ⟨tx, htx, hid⟩ := hposted
    obtain ⟨old, hold, _⟩ := (hbook.transactions tx htx).item
    obtain ⟨new, hnew, hstays⟩ := h.carried.items tx.itemId old hold ⟨tx, htx, rfl⟩
    rw [hid, hk, Table.find?_of_mem hitem] at hnew
    obtain rfl := Option.some.inj hnew
    exact hcounted old (Table.mem_of_find? hold) (hstays.symm.trans hserialized) k
      (hid.symm.trans (Table.key_of_find? hold).symm)
  · rw [hbook.unposted k (fun tx htx hid => hposted ⟨tx, htx, hid⟩) f hf, serialsIn_eq]
    refine (List.sum_eq_zero fun x hx => ?_).symm
    obtain ⟨s, hs, rfl⟩ := List.mem_map.1 hx
    have helse : s.bucket ≠ some k := by
      intro hbucket
      obtain ⟨tx, htx, hid⟩ := (hbook.serials s hs).posted
      exact hposted ⟨tx, htx, hid.trans (Serial.bucket_eq_some.1 hbucket).1⟩
    simp [Serial.weight, Serial.within, helse]

theorem Touched.found (h : Touched db tx db' before after) {s : Serial} (hs : before = some s) :
    db.serials.find? s.id = some s := by
  cases h with
  | without => cases hs
  | received => cases hs
  | changed _ hfind => exact Option.some.inj hs ▸ hfind

theorem Passes.counted {cond : CallCondition} (h : Passes ctx (· = .empty) cond db)
    (hf : f.IsQuantity)
    (hmoves : ∀ {env db c tx entries before after}, Passes ctx (· = .empty) cond db →
      cond env db c → Handled ctx env db tx c before after entries →
      (∀ s, before = some s → db.serials.find? s.id = some s ∧ s.Placed) →
      ∀ k, entriesSum entries k f =
        after.elim 0 (Serial.weight k p) - before.elim 0 (Serial.weight k p)) :
    Counted f p db := by
  refine h.invariant (fun db hdb => ?_) fun env db db' hpasses hcounted hturn => ?_
  · obtain rfl : db = .empty := hdb
    intro item hitem
    cases hitem
  · have hbook := hpasses.serialBook
    cases hturn with
    | bookkeeping hturn => exact hturn.counted hbook hf hcounted
    | call hvalid hcond hrun =>
        have hposted := Call.posted hvalid hrun
        have hbalanced : Balanced db :=
          hpasses.balanced fun db (hdb : db = .empty) => hdb ▸ Balanced.empty
        rcases hposted.recorded hbook hpasses.journal with rfl | ⟨_, _, before, _, hrecorded⟩
        · exact hcounted
        · have hfound : ∀ s, before = some s → db.serials.find? s.id = some s ∧ s.Placed :=
            fun s hs => ⟨hrecorded.touched.found hs,
              hbook.placed s (Table.mem_of_find? (hrecorded.touched.found hs))⟩
          exact hrecorded.counted hposted hbalanced hf
            (fun hhandled => hmoves hpasses hcond hhandled hfound) hcounted

end Turns

/-! ## The stock -/

/-- The serial of a transaction that is reversed is where the reversal expects it: an issued
one in no store and recorded with the place that its ledger row names, a received one still
in that place. -/
def ReversedInPlace (original : Transaction) (s : Serial) (k : Bucket) : Prop :=
  if original.type = .issue then
    s.bucket = none ∧ original.fromStoreId = some k.storeId ∧ original.fromBinId = k.binId
  else s.bucket = some k

instance (original : Transaction) (s : Serial) (k : Bucket) :
    Decidable (ReversedInPlace original s k) := by
  unfold ReversedInPlace
  exact inferInstance

/-- What a call moves in the stock is the unit whose serial it handles. -/
def UnitMoved : CallCondition := fun _ db c =>
  match c with
  | .postLine .receipts _ line _ =>
    ∀ item ∈ db.items.find? line.itemId, item.serialized = true → line.normalizedQuantity = 1
  | .postLine .transfers _ line .receive => ∀ s ∈ db.serialOf line.serialId, s.bucket = none
  | .postLine .stockCounts doc line _ => line.serialId ≠ none →
    doc.purpose = .quarantine ∨ doc.purpose = .releaseFromQuarantine ∨
      ∀ counted ∈ line.countedQuantity, ∀ system ∈ line.systemQuantity,
        counted.1 < system → counted.1 = system - 1
  | .reverse id => ∀ original ∈ db.transactions.find? id,
    (∀ other ∈ db.transactions.rows, other.reversalOfId ≠ some id) →
      ∀ s ∈ db.serialOf original.serialId, ∀ e ∈ db.entriesOf id,
        ReversedInPlace original s e.bucket
  | _ => True

instance (env : Env) (db : Database) (c : Call) : Decidable (UnitMoved env db c) :=
  match c with
  | .postLine kind _ _ act => by
    unfold UnitMoved
    cases kind <;> cases act <;> exact inferInstance
  | .reserve _ | .release _ _ | .reverse _ => by
    unfold UnitMoved
    exact inferInstance

/-- What was received of a serial, or issued of it, is one unit. -/
def UnitPosted (db : Database) : Prop :=
  ∀ tx ∈ db.transactions.rows, tx.type.reversible = true → tx.serialId ≠ none → tx.quantity = 1

theorem numeric_one : numeric 4 1 = 1 := numeric_of_onGrid (by simpa using OnGrid.intCast 4 1)

section Stock

variable {ctx : Context 28 12} {env : Env} {db db' : Database} {c : Call} {tx : Transaction}
  {entries : List LedgerEntry} {before after : Option Serial}

theorem mem_serialOf {serialId : Option Id} {s : Serial} (hid : serialId = some s.id)
    (hs : db.serials.find? s.id = some s) : s ∈ db.serialOf serialId := by
  rw [hid]
  exact hs

/-- An adjustment or a count takes out one unit, or it moves none. -/
theorem Line.Differs.unit {kind : DocumentKind} {doc : Document} {line : Line} {act : Action}
    {delta : ℚ} (h : line.Differs kind delta) (hkept : UnitMoved env db (.postLine kind doc line act))
    (hserial : line.serialId ≠ none) (hquarantine : doc.purpose ≠ .quarantine)
    (hrelease : doc.purpose ≠ .releaseFromQuarantine) (hneg : delta < 0) : delta = -1 := by
  rcases h with ⟨_, hdelta⟩ | ⟨rfl, counted, system, hcounted, hsystem, hdelta, _⟩
  · exact hdelta
  · rcases hkept hserial with hother | hother | hone
    · exact absurd hother hquarantine
    · exact absurd hother hrelease
    · have hless : counted.1 < system := by linarith
      rw [hdelta, hone counted hcounted system hsystem hless]
      ring

theorem adjustmentChanges_onHand (purpose : Purpose) (quarantined delta q cost : ℚ) :
    adjustmentChanges ctx purpose quarantined delta q cost .quantityOnHand =
      if purpose = .quarantine ∨ purpose = .releaseFromQuarantine then 0 else delta := by
  cases purpose <;> rfl

theorem adjustedSerial_inside {purpose : Purpose}
    (h : purpose = .quarantine ∨ purpose = .releaseFromQuarantine) (s : Serial) :
    (adjustedSerial purpose s).bucket = s.bucket ∧
      (adjustedSerial purpose s).status.held = true := by
  rcases h with rfl | rfl <;> exact ⟨rfl, rfl⟩

theorem adjustedSerial_scrapped {purpose : Purpose}
    (h : ¬ (purpose = .quarantine ∨ purpose = .releaseFromQuarantine)) (s : Serial) :
    (adjustedSerial purpose s).bucket = none ∧ (adjustedSerial purpose s).status = .scrapped := by
  unfold adjustedSerial
  split
  · exact absurd (.inl rfl) h
  · exact absurd (.inr rfl) h
  · exact ⟨rfl, rfl⟩

theorem Handled.onHand (h : Handled ctx env db tx c before after entries)
    (hkept : UnitMoved env db c) (hunits : UnitPosted db)
    (hfound : ∀ s, before = some s → db.serials.find? s.id = some s ∧ s.Placed) (k : Bucket) :
    entriesSum entries k .quantityOnHand =
      after.elim 0 (Serial.weight k SerialStatus.held) -
        before.elim 0 (Serial.weight k SerialStatus.held) := by
  cases h with
  | received hitem hquantity hstatus hbucket hshifts =>
      obtain ⟨item, hfind, hserialized⟩ := hitem
      have hone := hkept item hfind hserialized
      rw [entriesSum_row, hshifts.1, hquantity, hone]
      simp [Serial.weight_of_bucket hbucket, hstatus, SerialStatus.held]
  | issued _ hbucket hstatus hgone _ hshifts =>
      rw [entriesSum_row, hshifts.1]
      rcases hstatus with hstatus | ⟨_, hstatus⟩ <;>
        simp [Serial.weight_of_bucket hbucket, Serial.weight_of_none hgone, hstatus,
          SerialStatus.held, neg_ite]
  | @returned doc line act s s' b changes _ hout _ hbucket hstatus hshifts =>
      have hheld : s'.status.held = true := by
        rw [hstatus]
        split <;> rfl
      rw [entriesSum_row, hshifts.1]
      simp [Serial.weight_of_bucket hbucket, Serial.weight_of_none hout, hheld]
  | dispatched _ hbucket hstatus hgone _ hshifts =>
      rw [entriesSum_row, hshifts.1]
      rcases hstatus with hstatus | ⟨_, hstatus⟩ <;>
        simp [Serial.weight_of_bucket hbucket, Serial.weight_of_none hgone, hstatus,
          SerialStatus.held, neg_ite]
  | @arrived doc line s s' b departure changes hserial hbucket hstatus hdeparture hshifts =>
      have hout : s.bucket = none := hkept s (mem_serialOf hserial (hfound s rfl).1)
      rw [entriesSum_cons, entriesSum_row, hdeparture.1, hshifts.1]
      simp [Serial.weight_of_bucket hbucket, Serial.weight_of_none hout, hstatus,
        SerialStatus.held]
  | @adjusted kind doc line act s b delta cost hdiffers hserial hbucket hstatus hrelease hquarantine
      hneg =>
      have hheld : s.status.held = true := by
        rcases hstatus with hstatus | hstatus <;> rw [hstatus] <;> rfl
      rw [entriesSum_row, adjustmentChanges_onHand]
      by_cases hinside : doc.purpose = .quarantine ∨ doc.purpose = .releaseFromQuarantine
      · obtain ⟨hsame, hafter⟩ := adjustedSerial_inside hinside s
        simp [Serial.weight_of_bucket hbucket, Serial.weight_of_bucket (hsame.trans hbucket), hheld,
          hafter, hinside]
      · obtain ⟨hgone, _⟩ := adjustedSerial_scrapped hinside s
        obtain ⟨hquarantined, hreleased⟩ := not_or.1 hinside
        have hless : delta < 0 := (hneg.resolve_left hquarantined).resolve_left hreleased
        have hunit := hdiffers.unit hkept (by rw [hserial]; simp) hquarantined hreleased hless
        simp [Serial.weight_of_bucket hbucket, Serial.weight_of_none hgone, hheld, hinside, hunit,
          neg_ite]
  | @reserved body s changes _ _ hbucket hstatus hshifts =>
      have hafter : Serial.bucket { s with status := .reserved } = some _ := hbucket
      rw [entriesSum_row, hshifts.1]
      simp [Serial.weight_of_bucket hbucket, Serial.weight_of_bucket hafter, hstatus,
        SerialStatus.held]
  | @released row cancel s changes _ _ _ hshifts =>
      rw [entriesSum_row, hshifts.1, ite_self]
      cases hbucket : s.bucket with
      | none =>
          have hafter : Serial.bucket { s with status := .inStock } = none := hbucket
          simp [Serial.weight_of_none hbucket, Serial.weight_of_none hafter]
      | some b =>
          have hafter : Serial.bucket { s with status := .inStock } = some b := hbucket
          have hheld : s.status.held = true := by
            by_contra hout
            rw [(hfound s rfl).2 (by simpa using hout)] at hbucket
            cases hbucket
          have hinStock : SerialStatus.held .inStock = true := rfl
          simp [Serial.weight_of_bucket hbucket, Serial.weight_of_bucket hafter, hheld, hinStock]
  | @reversed original s e hfind hunreversed hreversible hserial hitem hlot hentries hshifts =>
      have hplace := hkept original hfind hunreversed s (mem_serialOf hserial (hfound s rfl).1) e
        (by rw [hentries]; exact List.mem_singleton.2 rfl)
      have hone := hunits original (Table.mem_of_find? hfind) hreversible (by simp [hserial])
      rw [reversalEntry, entriesSum_row]
      unfold ReversedInPlace at hplace
      by_cases hissue : original.type = .issue
      · rw [if_pos hissue] at hplace
        obtain ⟨hout, hstore, hbin⟩ := hplace
        have hback : (restoredSerial original s).bucket = some e.bucket := by
          rw [restoredSerial, if_pos hissue]
          exact Serial.bucket_eq_some.2 ⟨hitem, hstore, hbin, hlot⟩
        have hstatus : (restoredSerial original s).status = .inStock := by
          rw [restoredSerial, if_pos hissue]
        have hstored : e.stored .quantityOnHand = -1 := by
          rw [LedgerEntry.stored, hshifts.1, if_pos hissue]
          exact (numeric_neg 4 1).trans (congrArg Neg.neg numeric_one)
        simp [Serial.weight_of_bucket hback, Serial.weight_of_none hout, hstatus, hstored,
          SerialStatus.held]
      · rw [if_neg hissue] at hplace
        have hgone : (restoredSerial original s).bucket = none := by
          rw [restoredSerial, if_neg hissue]
          rfl
        have hheld : s.status.held = true := by
          by_contra hout
          rw [(hfound s rfl).2 (by simpa using hout)] at hplace
          cases hplace
        have hstored : e.stored .quantityOnHand = 1 := by
          rw [LedgerEntry.stored, hshifts.1, if_neg hissue, hone]
          exact numeric_one
        simp [Serial.weight_of_bucket hplace, Serial.weight_of_none hgone, hheld, hstored, neg_ite]

/-- Receipts of one unit and issues of one unit are all that can be reversed. -/
theorem Recorded.unitPosted (h : Recorded ctx env db c tx entries before after db')
    (hkept : UnitMoved env db c) (hunits : UnitPosted db) : UnitPosted db' := by
  intro other hother hreversible hserial
  rcases (Table.mem_insert? h.movement.inserted.insert).1 hother with hold | rfl
  · exact hunits other hold hreversible hserial
  · by_cases hissue : other.type = .issue
    · exact h.single hissue hserial
    · obtain ⟨doc, line, act, rfl⟩ := h.received hreversible hissue
      cases h.handled hserial with
      | received hitem hquantity _ _ _ =>
          obtain ⟨item, hfind, hserialized⟩ := hitem
          exact hquantity.trans (hkept item hfind hserialized)
      | adjusted hdiffers => rcases hdiffers with ⟨hkind, _⟩ | ⟨hkind, _⟩ <;> cases hkind

theorem Passes.unitPosted (h : Passes ctx (· = .empty) UnitMoved db) : UnitPosted db := by
  refine h.invariant (fun db hdb => ?_) fun env db db' hpasses hunits hturn => ?_
  · obtain rfl : db = .empty := hdb
    intro tx htx
    cases htx
  · cases hturn with
    | bookkeeping hturn =>
        unfold UnitPosted
        rw [hturn.stock.transactions]
        exact hunits
    | call hvalid hkept hrun =>
        rcases (Call.posted hvalid hrun).recorded hpasses.serialBook hpasses.journal with
          rfl | ⟨_, _, _, _, hrecorded⟩
        · exact hunits
        · exact hrecorded.unitPosted hkept hunits

end Stock

/-- In every state of a run whose calls move units with their serials, the stock of a bucket
of a serialized item is the number of its serials there that are in stock, reserved or
quarantined. -/
theorem stock_serials {ctx : Context 28 12} {db : Database}
    (h : ReachableWhere ctx (· = .empty) UnitMoved db) :
    ∀ item ∈ db.items.rows, item.serialized = true → ∀ k : Bucket, k.itemId = item.id →
      db.balances k .quantityOnHand = db.serialsIn k SerialStatus.held := by
  have hpasses := Reachable.passes h
  exact hpasses.counted rfl fun hpasses hkept hhandled hfound =>
    hhandled.onHand hkept hpasses.unitPosted hfound

/-- Two units of a serialized item are received. -/
def Sample.twoSerials : List Request := [
  setUp { requiresSerialTracking := some true },
  postNew 2 .receipts 1 {
    storeId := some 1
    items := [
      { receiptLine one two with serialNumber := some "A" },
      { receiptLine one two with serialNumber := some "B" }]
    items_valid := by simp }]

theorem stock_serials_received :
    (serveAll pythonContext .empty Sample.twoSerials).serialsIn Sample.bucket SerialStatus.held = 2 ∧
    (serveAll pythonContext .empty Sample.twoSerials).balances Sample.bucket .quantityOnHand =
      (serveAll pythonContext .empty Sample.twoSerials).serialsIn Sample.bucket
        SerialStatus.held := by
  have hrun : ReachableWhere pythonContext (· = .empty) UnitMoved
      (serveAll pythonContext .empty Sample.twoSerials) :=
    .serveAll (.init rfl) (by decide +kernel)
  have hitem : ∃ item ∈ (serveAll pythonContext .empty Sample.twoSerials).items.rows,
      item.serialized = true ∧ item.id = 1 := by decide +kernel
  obtain ⟨item, hmem, hserialized, hid⟩ := hitem
  exact ⟨by decide +kernel, stock_serials hrun item hmem hserialized Sample.bucket hid.symm⟩

/-- The count of one of two serials finds none: the whole difference leaves the bucket, and
one serial. -/
def Sample.miscounted : List Request := twoSerials ++ [⟨env 3, [
  .documentSave .stockCounts none (document { line one with serialId := some 1 }),
  .action .stockCounts 2 .start {}, .action .stockCounts 2 .submit { quantities := fun _ => some 0 },
  .action .stockCounts 2 .approve {}, .action .stockCounts 2 .post {}]⟩]

theorem stock_serials_fails : ∃ db, Reachable pythonContext db ∧
    ∃ item ∈ db.items.rows, item.serialized = true ∧ ∃ k : Bucket, k.itemId = item.id ∧
      db.balances k .quantityOnHand ≠ db.serialsIn k SerialStatus.held := by
  have hitem : ∃ item ∈ (serveAll pythonContext .empty Sample.miscounted).items.rows,
      item.serialized = true ∧ Sample.bucket.itemId = item.id ∧
        (serveAll pythonContext .empty Sample.miscounted).balances Sample.bucket .quantityOnHand = 0 ∧
        (serveAll pythonContext .empty Sample.miscounted).serialsIn Sample.bucket
          SerialStatus.held = 1 := by decide +kernel
  obtain ⟨item, hmem, hserialized, hid, honHand, hserials⟩ := hitem
  refine ⟨_, reachable_serveAll pythonContext Sample.miscounted, item, hmem, hserialized,
    Sample.bucket, hid, ?_⟩
  rw [honHand, hserials]
  norm_num

end Cestos.Inventory
