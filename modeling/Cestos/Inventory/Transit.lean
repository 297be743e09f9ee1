import Cestos.Inventory.Journal
import Cestos.Inventory.Values

/-!
# Value in transit

A dispatch values its line with the average cost of the bucket, the receive with the unit
cost that the transaction of the dispatch has kept, rounded to eight decimals. A bucket
has in transit what its dispatches without a receive have put there, as long as this
rounding and that of the balances do not show.
-/

namespace Cestos.Inventory

open Cestos.Core Cestos.Core.Decimal

/-! ## Dispatches without a receive -/

/-- The posting key of the receive that a dispatch waits for. -/
def PostingKey.arrival : PostingKey → Option PostingKey
  | .line doc entry .transferOut => some (.line doc entry .transferIn)
  | _ => none

theorem PostingKey.arrival_eq_some {key arrived : PostingKey} :
    key.arrival = some arrived ↔
      ∃ doc line, key = .line doc line .transferOut ∧ arrived = .line doc line .transferIn := by
  constructor
  · intro h
    cases key with
    | line doc line kind =>
        cases kind <;> cases h
        exact ⟨doc, line, rfl, rfl⟩
    | reversal => cases h
  · rintro ⟨doc, line, rfl, rfl⟩
    rfl

/-- A dispatch that has not been received. -/
def Database.Pending (db : Database) (tx : Transaction) : Prop :=
  ∃ key ∈ tx.postingKey.arrival, ∀ other ∈ db.transactions.rows, other.postingKey ≠ key

instance (db : Database) (tx : Transaction) : Decidable (db.Pending tx) :=
  inferInstanceAs (Decidable (∃ key ∈ tx.postingKey.arrival, _))

/-- The bucket of the first ledger row of a transaction. -/
def Database.bucketOf (db : Database) (tx : Transaction) : Option Bucket :=
  (db.entriesOf tx.id).head?.map (·.bucket)

/-- The total of `g` over the pending dispatches from a bucket. -/
def Database.pendingSum (db : Database) (k : Bucket) (g : Transaction → ℚ) : ℚ :=
  db.transactions.sum fun tx => if db.Pending tx ∧ db.bucketOf tx = some k then g tx else 0

/-- The value of a transaction at the unit cost it has kept. -/
def Transaction.value (ctx : Context 28 12) (tx : Transaction) : ℚ :=
  numeric 8 (ctx.mul tx.quantity tx.unitCost)

section Pending

variable {ctx : Context 28 12} {db db' : Database} {tx : Transaction} {entries : List LedgerEntry}

theorem pending_inserted (h : Inserted db.transactions tx db'.transactions) {old : Transaction} :
    db'.Pending old ↔ db.Pending old ∧ old.postingKey.arrival ≠ some tx.postingKey := by
  have hrows := fun other => Table.mem_insert? (s := other) h.insert
  constructor
  · rintro ⟨key, hkey, hnone⟩
    refine ⟨⟨key, hkey, fun other hother => hnone other ((hrows other).2 (.inl hother))⟩, ?_⟩
    rw [Option.mem_def.1 hkey]
    intro hsame
    exact hnone tx ((hrows tx).2 (.inr rfl)) (Option.some.inj hsame).symm
  · rintro ⟨⟨key, hkey, hnone⟩, hother⟩
    refine ⟨key, hkey, fun other hmem => ?_⟩
    rcases (hrows other).1 hmem with hold | rfl
    · exact hnone other hold
    · rintro rfl
      exact hother hkey

/-- What is pending after a movement: what was before and is not received by it, and the
movement itself if it is a dispatch. -/
theorem Movement.pendingSum (h : Movement ctx db tx entries db')
    (hentries : ∀ e ∈ entries, e.transactionId = tx.id) (howned : Owned db) (k : Bucket)
    (g : Transaction → ℚ) :
    db'.pendingSum k g =
      (db.transactions.sum fun old =>
        if (db.Pending old ∧ old.postingKey.arrival ≠ some tx.postingKey) ∧
          db.bucketOf old = some k then g old else 0) +
      if db'.Pending tx ∧ entries.head?.map (·.bucket) = some k then g tx else 0 := by
  have hself : db'.bucketOf tx = entries.head?.map (·.bucket) := by
    rw [Database.bucketOf, h.entriesOf_self hentries howned]
  rw [Database.pendingSum, ← hself]
  refine Table.sum_insert?_congr h.inserted.insert fun old hold => ?_
  rw [Database.bucketOf, h.entriesOf_old hentries hold, Database.bucketOf]
  simp only [pending_inserted h.inserted]

/-- A movement that receives nothing keeps what was pending. -/
theorem Movement.pendingSum_add (h : Movement ctx db tx entries db')
    (hentries : ∀ e ∈ entries, e.transactionId = tx.id) (howned : Owned db)
    (htyped : tx.Typed) (htype : tx.type ≠ .transferIn) (k : Bucket) (g : Transaction → ℚ) :
    db'.pendingSum k g = db.pendingSum k g +
      if db'.Pending tx ∧ entries.head?.map (·.bucket) = some k then g tx else 0 := by
  have harrival : ∀ old : Transaction, old.postingKey.arrival ≠ some tx.postingKey := by
    intro old hold
    obtain ⟨doc, line, _, hkey⟩ := PostingKey.arrival_eq_some.1 hold
    exact htype (htyped doc line _ hkey)
  rw [h.pendingSum hentries howned k g, Database.pendingSum]
  simp only [ne_eq, harrival, not_false_eq_true, and_true]

theorem Movement.pendingSum_sub {dispatched : Transaction} {e : LedgerEntry}
    (h : Movement ctx db tx entries db') (hentries : ∀ e ∈ entries, e.transactionId = tx.id)
    (hjournal : Journal ctx db) (hmem : dispatched ∈ db.transactions.rows)
    (harrival : dispatched.postingKey.arrival = some tx.postingKey)
    (hbucket : db.entriesOf dispatched.id = [e]) (k : Bucket) (g : Transaction → ℚ) :
    db'.pendingSum k g = db.pendingSum k g - if e.bucket = k then g dispatched else 0 := by
  obtain ⟨doc, line, hkey, hnew⟩ := PostingKey.arrival_eq_some.1 harrival
  have hpending : db.Pending dispatched :=
    ⟨tx.postingKey, harrival, fun other hother => h.inserted.postingKey other hother⟩
  have hended : ¬ db'.Pending tx := by
    rintro ⟨key, hwaits, _⟩
    rw [hnew] at hwaits
    cases hwaits
  have hsource : db.bucketOf dispatched = some e.bucket := by
    rw [Database.bucketOf, hbucket]
    rfl
  rw [h.pendingSum hentries hjournal.owned k g, if_neg fun hboth => hended hboth.1, add_zero,
    Table.sum_change hmem (f := fun old => if db.Pending old ∧ db.bucketOf old = some k then
      g old else 0) fun old hold hne => ?_]
  · simp only [hpending, harrival, hsource, Option.some.injEq, true_and, not_true_eq_false,
      ne_eq, and_false, false_and, if_false, add_zero]
    rfl
  · have hother : old.postingKey.arrival ≠ some tx.postingKey := by
      intro hsame
      obtain ⟨doc', line', hkey', hnew'⟩ := PostingKey.arrival_eq_some.1 hsame
      rw [hnew] at hnew'
      cases hnew'
      exact hne (congrArg Transaction.id (hjournal.eq_of_key hold hmem (hkey'.trans hkey.symm)))
    simp only [ne_eq, hother, not_false_eq_true, and_true]

end Pending

/-! ## When no rounding shows -/

/-- Where the stock of a transfer line leaves. -/
def Line.departure (line : Line) (store : Id) : Bucket :=
  ⟨line.itemId, store, line.fromBinId, line.lotId⟩

/-- Where it arrives. -/
def Line.arrival (line : Line) (store : Id) : Bucket :=
  ⟨line.itemId, store, line.toBinId, line.lotId⟩

/-- No balance of a dispatch is a tie, and the value of `q` units at `cost` is the one at the
cost that the transaction keeps. -/
def DispatchExact (ctx : Context 28 12) (source : BucketFields) (q cost : ℚ) : Prop :=
  Untied ctx 8 (source .inventoryValue) (ctx.mul (-q) cost) ∧
    Untied ctx 8 (source .transitValue) (ctx.mul q cost) ∧
    numeric 8 (ctx.mul q cost) = numeric 8 (ctx.mul q (numeric 8 cost))

/-- No balance of a receive is a tie. -/
def ReceiveExact (ctx : Context 28 12) (source destination : BucketFields) (q cost : ℚ) : Prop :=
  Untied ctx 8 (source .transitValue) (ctx.mul (-q) cost) ∧
    Untied ctx 8 (destination .inventoryValue) (ctx.mul q cost)

instance (ctx : Context 28 12) (source : BucketFields) (q cost : ℚ) :
    Decidable (DispatchExact ctx source q cost) :=
  inferInstanceAs (Decidable (_ ∧ _))

instance (ctx : Context 28 12) (source destination : BucketFields) (q cost : ℚ) :
    Decidable (ReceiveExact ctx source destination q cost) :=
  inferInstanceAs (Decidable (_ ∧ _))

/-- The dispatches and receives of a run are exact. -/
def ValueKept (ctx : Context 28 12) : CallCondition := fun _ db c =>
  match c with
  | .postLine .transfers doc line .dispatch =>
    ∀ item ∈ db.items.find? line.itemId, ∀ store ∈ doc.fromStoreId,
      DispatchExact ctx (db.balances (line.departure store)) line.normalizedQuantity
        (averageCost ctx (db.balances (line.departure store)) item)
  | .postLine .transfers doc line .receive =>
    ∀ dispatched ∈ db.dispatchOf doc.id line.id, ∀ source ∈ doc.fromStoreId,
      ∀ store ∈ doc.toStoreId,
        ReceiveExact ctx (db.balances (line.departure source)) (db.balances (line.arrival store))
          line.normalizedQuantity dispatched.unitCost
  | _ => True

instance (ctx : Context 28 12) (env : Env) (db : Database) (c : Call) :
    Decidable (ValueKept ctx env db c) :=
  match c with
  | .postLine kind _ _ act => by
    unfold ValueKept
    cases kind <;> cases act <;> exact inferInstance
  | .reserve _ | .release _ _ | .reverse _ => by
    unfold ValueKept
    exact inferInstance

section Values

variable {ctx : Context 28 12} {env : Env} {db db' : Database} {doc : Document} {line : Line}
  {act : Action} {m : Move} {tx dispatched : Transaction} {store : Id}

theorem Prepared.departure (h : Prepared ctx env db .transfers doc line act m db') :
    m.bucket = line.departure m.source ∧ doc.fromStoreId = some m.source := by
  have hline := (h.plain (by simp)).1
  have hsource := h.source
  rw [h.document] at hsource
  refine ⟨?_, hsource⟩
  have hbin : m.binId = m.line.fromBinId := h.bin
  rw [Move.bucket, Line.departure, h.itemId, hbin, hline]

theorem Prepared.dispatchExact (h : Prepared ctx env db .transfers doc line .dispatch m db)
    (hkept : ValueKept ctx env db (.postLine .transfers doc line .dispatch)) :
    DispatchExact ctx (db.balances m.bucket) m.q m.cost := by
  obtain ⟨hbucket, hstore⟩ := h.departure
  rw [h.cost, h.quantity, hbucket]
  exact hkept m.item h.item m.source hstore

theorem Prepared.receiveExact (h : Prepared ctx env db .transfers doc line .receive m db)
    (hkept : ValueKept ctx env db (.postLine .transfers doc line .receive))
    (hposted : ReceivePosted ctx env db m dispatched store tx db') :
    ReceiveExact ctx (db.balances m.bucket) (db.balances (m.destination store)) m.q
      dispatched.unitCost := by
  have hline := (h.plain (by simp)).1
  have hdispatch := hposted.dispatch
  have harrives := hposted.arrives
  rw [hline, h.document] at hdispatch
  rw [h.document] at harrives
  obtain ⟨hbucket, hstore⟩ := h.departure
  have harrival : m.destination store = line.arrival store := by
    rw [Move.destination, Line.arrival, h.itemId, hline]
  rw [h.quantity, hbucket, harrival]
  exact hkept dispatched hdispatch m.source hstore store harrives

/-- An exact dispatch takes the value of the line from the stock into transit. -/
theorem DispatchPosted.values (h : DispatchPosted ctx env db m tx db')
    (hgrid : ValuesOnGrid db.balances) (hexact : DispatchExact ctx (db.balances m.bucket) m.q m.cost) :
    (∀ k, db'.balances k .transitValue = db.balances k .transitValue +
      if m.bucket = k then numeric 8 (ctx.mul m.q m.cost) else 0) ∧
    db'.balances m.bucket .inventoryValue =
      db.balances m.bucket .inventoryValue - numeric 8 (ctx.mul m.q m.cost) := by
  obtain ⟨hstock, htransit, _⟩ := hexact
  obtain ⟨hmovable, hafter⟩ := h.movement.moves.single_inv
  rw [hafter]
  refine ⟨hmovable.value hgrid (f := .transitValue) rfl (.inr htransit), ?_⟩
  have hvalue := hmovable.value hgrid (f := .inventoryValue) rfl (.inr hstock) m.bucket
  have hneg : numeric 8 (ctx.mul (-m.q) m.cost) = -numeric 8 (ctx.mul m.q m.cost) := by
    rw [ctx.mul_neg_left, numeric_neg]
  rw [if_pos rfl] at hvalue
  rw [hvalue, sub_eq_add_neg, ← hneg]
  rfl

/-- An exact receive takes the value at the kept cost out of transit into the stock. -/
theorem ReceivePosted.values (h : ReceivePosted ctx env db m dispatched store tx db')
    (hgrid : ValuesOnGrid db.balances)
    (hexact : ReceiveExact ctx (db.balances m.bucket) (db.balances (m.destination store)) m.q
      dispatched.unitCost) :
    (∀ k, db'.balances k .transitValue = db.balances k .transitValue -
      if m.bucket = k then numeric 8 (ctx.mul m.q dispatched.unitCost) else 0) ∧
    db'.balances (m.destination store) .inventoryValue =
      db.balances (m.destination store) .inventoryValue +
        numeric 8 (ctx.mul m.q dispatched.unitCost) := by
  obtain ⟨htransit, hstock⟩ := hexact
  have hmoves := h.movement.moves
  generalize db'.balances = after at hmoves
  cases hmoves with
  | cons hleaves hrest =>
      cases hrest with
      | cons harrives hdone =>
          cases hdone
          have hmid : ValuesOnGrid (applyEntry ctx db.balances ⟨tx.id, m.bucket,
            departureChanges ctx m.q dispatched.unitCost⟩) := hgrid.applyEntry _
          -- the departure moves no stock value, the arrival no value in transit
          have hout : LedgerEntry.stored ⟨tx.id, m.bucket,
              departureChanges ctx m.q dispatched.unitCost⟩ .transitValue =
              -numeric 8 (ctx.mul m.q dispatched.unitCost) := by
            rw [← numeric_neg, ← ctx.mul_neg_left]
            rfl
          have hstill : LedgerEntry.stored ⟨tx.id, m.bucket,
              departureChanges ctx m.q dispatched.unitCost⟩ .inventoryValue = 0 := numeric_zero 8
          have hnone : LedgerEntry.stored ⟨tx.id, m.destination store,
              arrivalChanges ctx m.q dispatched.unitCost⟩ .transitValue = 0 := numeric_zero 8
          have hleft := hleaves.value hgrid (f := .inventoryValue) rfl (.inl rfl)
            (m.destination store)
          rw [hstill, ite_self, add_zero] at hleft
          constructor
          · intro k
            have hfirst := hleaves.value hgrid (f := .transitValue) rfl (.inr htransit) k
            have hsecond := harrives.value hmid (f := .transitValue) rfl (.inl rfl) k
            rw [hnone, ite_self, add_zero] at hsecond
            rw [hsecond, hfirst, hout]
            split <;> ring
          · have hsecond := harrives.value hmid (f := .inventoryValue) rfl
              (.inr (by rw [hleft]; exact hstock)) (m.destination store)
            rw [if_pos rfl, hleft] at hsecond
            exact hsecond

/-! ## What a receive receives -/

theorem Bucket.IsSource.unique {k k' : Bucket} {kind : DocumentKind} {doc : Document}
    {line : Line} (h : k.IsSource kind doc line) (h' : k'.IsSource kind doc line) : k = k' := by
  have hstore := h.store.symm.trans h'.store
  cases k
  cases k'
  simp only [Bucket.mk.injEq]
  exact ⟨h.item.trans h'.item.symm, Option.some.inj hstore, h.bin.symm.trans h'.bin,
    h.lot.symm.trans h'.lot⟩

theorem dispatchOf_spec {doc line : Id} (h : db.dispatchOf doc line = some tx) :
    tx ∈ db.transactions.rows ∧ tx.postingKey = .line doc line .transferOut :=
  ⟨List.mem_of_find?_eq_some h, by simpa using List.find?_some h⟩

theorem Journal.dispatchOf (hjournal : Journal ctx db) (htx : tx ∈ db.transactions.rows)
    {doc line : Id} (hkey : tx.postingKey = .line doc line .transferOut) :
    db.dispatchOf doc line = some tx := by
  have hsome : (db.dispatchOf doc line).isSome := by
    rw [Database.dispatchOf, List.find?_isSome]
    exact ⟨tx, htx, by simpa using hkey⟩
  obtain ⟨found, hfound⟩ := Option.isSome_iff_exists.1 hsome
  obtain ⟨hmem, hfoundKey⟩ := dispatchOf_spec hfound
  rw [hfound, hjournal.eq_of_key hmem htx (hfoundKey.trans hkey.symm)]

/-- A receive undoes the transit of the quantity and of the bucket that were dispatched. -/
theorem ReceivePosted.undoes (h : ReceivePosted ctx env db m dispatched store tx db')
    (hprepared : Prepared ctx env db .transfers doc line .receive m db)
    (hcurrent : Current db .transfers doc line) (hjournal : Journal ctx db) :
    dispatched.quantity = m.q ∧ ∃ e, db.entriesOf dispatched.id = [e] ∧ e.bucket = m.bucket := by
  obtain ⟨hmem, hkey⟩ := dispatchOf_spec h.dispatch
  have htype := hjournal.typed dispatched hmem _ _ _ hkey
  have hline := (hprepared.plain (by simp)).1
  obtain ⟨e, hentries, hbooked⟩ := hjournal.booked dispatched hmem (by rw [htype]; rfl)
  cases hbooked with
  | receipt _ hreversible _ _ _ =>
      rw [htype] at hreversible
      cases hreversible
  | issue hissue _ _ _ _ =>
      rw [htype] at hissue
      cases hissue
  | @dispatch doc' line' _ _ _ hfor hsource _ _ =>
      -- what was dispatched is still what the line says
      have hids := hfor.key.symm.trans (htype ▸ hkey)
      simp only [PostingKey.line.injEq, htype, and_true] at hids
      obtain ⟨hdocId, hlineId⟩ := hids
      obtain ⟨stored, hstored, hheader, _⟩ := hcurrent.find?
      obtain ⟨storedLine, hstoredLine, hcore, htracking⟩ := hcurrent.findLine?
      rw [hprepared.document] at hdocId
      rw [hline] at hlineId
      have hdoc' : doc' = stored :=
        Option.some.inj ((hdocId ▸ hfor.documentRow).symm.trans hstored)
      have hline' : line' = storedLine :=
        Option.some.inj ((hlineId ▸ hfor.lineRow).symm.trans hstoredLine)
      rw [← hdoc'] at hheader
      rw [← hline'] at hcore htracking
      refine ⟨?_, e, hentries, ?_⟩
      · rw [hfor.quantity, hprepared.quantity]
        exact congrArg LineCore.normalizedQuantity hcore
      · have hthis := hprepared.isSource
        rw [hprepared.document, hline] at hthis
        exact (hsource.congr hheader.symm hcore.symm htracking.symm).unique hthis

end Values

/-! ## Throughout a run -/

/-- Every bucket has in transit what its pending dispatches have put there. -/
structure Transited (ctx : Context 28 12) (db : Database) : Prop where
  dispatched : ∀ tx ∈ db.transactions.rows, ∀ doc line,
    tx.postingKey = .line doc line .transferIn →
    ∃ out ∈ db.transactions.rows, out.postingKey = .line doc line .transferOut
  quantities : ∀ k, db.balances k .quantityInTransit = db.pendingSum k (·.quantity)
  values : ∀ k, db.balances k .transitValue = db.pendingSum k (·.value ctx)

theorem Transited.empty (ctx : Context 28 12) : Transited ctx .empty where
  dispatched tx htx := by cases htx
  quantities k := by simp [Database.pendingSum, Database.empty]
  values k := by simp [Database.pendingSum, Database.empty]

/-- A ledger row that leaves the transit alone. -/
def LedgerEntry.Still (e : LedgerEntry) : Prop :=
  e.changes .quantityInTransit = 0 ∧ e.changes .transitValue = 0

theorem entriesSum_eq_zero {entries : List LedgerEntry} {f : BucketField}
    (h : ∀ e ∈ entries, e.changes f = 0) (k : Bucket) : entriesSum entries k f = 0 := by
  refine List.sum_eq_zero fun x hx => ?_
  obtain ⟨e, he, rfl⟩ := List.mem_map.1 hx
  exact h e (List.mem_of_mem_filter he)

theorem adjustmentChanges_still (ctx : Context 28 12) (tx : Id) (k : Bucket) (purpose : Purpose)
    (quarantined delta q cost : ℚ) :
    LedgerEntry.Still ⟨tx, k, adjustmentChanges ctx purpose quarantined delta q cost⟩ := by
  cases purpose <;> exact ⟨rfl, rfl⟩

/-- The rows of issues and receipts leave the transit alone, and so do their negations. -/
theorem Undone.still {ctx : Context 28 12} {db : Database} {original : Transaction}
    {e : LedgerEntry} (h : Undone ctx db original e) (tx : Id) : (reversalEntry tx e).Still := by
  have hchanges : e.changes .quantityInTransit = 0 ∧ e.changes .transitValue = 0 := by
    cases h with
    | issue _ _ _ _ hchanges => rw [hchanges]; exact ⟨rfl, rfl⟩
    | receipt _ _ _ hchanges => rw [hchanges]; exact ⟨rfl, rfl⟩
  simp [LedgerEntry.Still, reversalEntry, LedgerEntry.stored, hchanges]

section Calls

variable {ctx : Context 28 12} {env : Env} {db db' : Database} {doc : Document} {line : Line}
  {m : Move} {tx dispatched : Transaction} {store : Id} {entries : List LedgerEntry} {c : Call}

theorem Transited.of_other (h : Transited ctx db) (hjournal : Journal ctx db)
    (hgrid : ValuesOnGrid db.balances)
    (hquantities : ∀ k, db'.balances k .quantityInTransit =
      db.balances k .quantityInTransit + entriesSum entries k .quantityInTransit)
    (hmovement : Movement ctx db tx entries db') (hentries : ∀ e ∈ entries, e.transactionId = tx.id)
    (htyped : tx.Typed) (htype : tx.type ≠ .transferIn ∧ tx.type ≠ .transferOut)
    (hstill : ∀ e ∈ entries, e.Still) : Transited ctx db' := by
  have hself : ¬ db'.Pending tx := by
    rintro ⟨key, hkey, _⟩
    obtain ⟨doc, line, hout, _⟩ := PostingKey.arrival_eq_some.1 hkey
    exact htype.2 (htyped doc line _ hout)
  have hpending : ∀ k g, db'.pendingSum k g = db.pendingSum k g := by
    intro k g
    rw [hmovement.pendingSum_add hentries hjournal.owned htyped htype.1 k g,
      if_neg fun hboth => hself hboth.1, add_zero]
  have hrows := fun other => Table.mem_insert? (s := other) hmovement.inserted.insert
  refine ⟨fun other hother doc line hkey => ?_, fun k => ?_, fun k => ?_⟩
  · rcases (hrows other).1 hother with hold | rfl
    · obtain ⟨out, hout, houtKey⟩ := h.dispatched other hold doc line hkey
      exact ⟨out, (hrows out).2 (.inl hout), houtKey⟩
    · exact absurd (htyped doc line _ hkey) htype.1
  · rw [hquantities k, entriesSum_eq_zero fun e he => (hstill e he).1, add_zero, hpending]
    exact h.quantities k
  · rw [hmovement.moves.value_unchanged hgrid rfl (fun e he => (hstill e he).2) k, hpending]
    exact h.values k

theorem Transited.of_dispatch (h : Transited ctx db) (hjournal : Journal ctx db)
    (hgrid : ValuesOnGrid db.balances)
    (hquantities : ∀ k, db'.balances k .quantityInTransit = db.balances k .quantityInTransit +
      entriesSum [⟨tx.id, m.bucket, dispatchChanges ctx m.q m.cost⟩] k .quantityInTransit)
    (hexact : DispatchExact ctx (db.balances m.bucket) m.q m.cost)
    (hposted : DispatchPosted ctx env db m tx db') : Transited ctx db' := by
  have hrows := fun other => Table.mem_insert? (s := other) hposted.movement.inserted.insert
  have hkey := hposted.records.postingKey
  -- nothing of the line has been received yet, so the dispatch is pending
  have hself : db'.Pending tx := by
    refine ⟨.line m.doc.id m.line.id .transferIn, ?_, fun other hother hreceived => ?_⟩
    · rw [hkey]
      rfl
    · rcases (hrows other).1 hother with hold | rfl
      · obtain ⟨out, hout, houtKey⟩ := h.dispatched other hold _ _ hreceived
        exact hposted.movement.inserted.postingKey out hout (houtKey.trans hkey.symm)
      · rw [hkey] at hreceived
        cases hreceived
  have hpending := hposted.movement.pendingSum_add (by simp) hjournal.owned hposted.records.typed
    (by rw [hposted.records.type]; decide)
  simp only [List.head?_cons, Option.map_some, Option.some.injEq, hself, true_and] at hpending
  refine ⟨fun other hother doc line hreceived => ?_, fun k => ?_, fun k => ?_⟩
  · rcases (hrows other).1 hother with hold | rfl
    · obtain ⟨out, hout, houtKey⟩ := h.dispatched other hold doc line hreceived
      exact ⟨out, (hrows out).2 (.inl hout), houtKey⟩
    · rw [hkey] at hreceived
      cases hreceived
  · rw [hquantities k, hpending, h.quantities k, hposted.records.quantity, entriesSum_cons,
      entriesSum_nil, add_zero]
    rfl
  · have hvalue : tx.value ctx = numeric 8 (ctx.mul m.q m.cost) := by
      rw [Transaction.value, hposted.records.quantity, hposted.records.unitCost]
      exact hexact.2.2.symm
    rw [(hposted.values hgrid hexact).1 k, hpending, h.values k, hvalue]

theorem Transited.of_receive (h : Transited ctx db) (hjournal : Journal ctx db)
    (hgrid : ValuesOnGrid db.balances)
    (hquantities : ∀ k, db'.balances k .quantityInTransit = db.balances k .quantityInTransit +
      entriesSum [⟨tx.id, m.bucket, departureChanges ctx m.q dispatched.unitCost⟩,
        ⟨tx.id, m.destination store, arrivalChanges ctx m.q dispatched.unitCost⟩] k
        .quantityInTransit)
    (hexact : ReceiveExact ctx (db.balances m.bucket) (db.balances (m.destination store)) m.q
      dispatched.unitCost)
    (hundoes : dispatched.quantity = m.q ∧
      ∃ e, db.entriesOf dispatched.id = [e] ∧ e.bucket = m.bucket)
    (hposted : ReceivePosted ctx env db m dispatched store tx db') : Transited ctx db' := by
  obtain ⟨hquantity, e, hentries, hbucket⟩ := hundoes
  obtain ⟨hmem, houtKey⟩ := dispatchOf_spec hposted.dispatch
  have hrows := fun other => Table.mem_insert? (s := other) hposted.movement.inserted.insert
  have hkey := hposted.records.postingKey
  have harrival : dispatched.postingKey.arrival = some tx.postingKey := by
    rw [houtKey, hkey]
    rfl
  have hpending := hposted.movement.pendingSum_sub (by simp) hjournal hmem harrival hentries
  rw [hbucket] at hpending
  refine ⟨fun other hother doc line hreceived => ?_, fun k => ?_, fun k => ?_⟩
  · rcases (hrows other).1 hother with hold | rfl
    · obtain ⟨out, hout, hother⟩ := h.dispatched other hold doc line hreceived
      exact ⟨out, (hrows out).2 (.inl hout), hother⟩
    · rw [hkey] at hreceived
      cases hreceived
      exact ⟨dispatched, (hrows dispatched).2 (.inl hmem), houtKey⟩
  · have hsum : entriesSum [⟨tx.id, m.bucket, departureChanges ctx m.q dispatched.unitCost⟩,
        ⟨tx.id, m.destination store, arrivalChanges ctx m.q dispatched.unitCost⟩] k
        .quantityInTransit = if m.bucket = k then -m.q else 0 := by
      rw [entriesSum_cons, entriesSum_cons, entriesSum_nil, add_zero]
      exact (congrArg _ (ite_self _)).trans (add_zero _)
    rw [hquantities k, hpending, h.quantities k, hquantity, hsum]
    split <;> ring
  · have hvalue : dispatched.value ctx = numeric 8 (ctx.mul m.q dispatched.unitCost) := by
      rw [Transaction.value, hquantity]
    rw [(hposted.values hgrid hexact).1 k, hpending, h.values k, hvalue]

theorem CallPosted.transited (hposted : CallPosted ctx env db c db')
    (hkept : ValueKept ctx env db c) (hbalanced : Balanced db) (hjournal : Journal ctx db)
    (hgrid : ValuesOnGrid db.balances) (h : Transited ctx db) : Transited ctx db' := by
  have hquantities : ∀ {entries : List LedgerEntry}, db'.ledger = db.ledger ++ entries → ∀ k,
      db'.balances k .quantityInTransit =
        db.balances k .quantityInTransit + entriesSum entries k .quantityInTransit :=
    fun hledger k => hposted.quantities hbalanced.steady hbalanced.reservations hledger k rfl
  have of_other : ∀ {tx : Transaction} {entries : List LedgerEntry},
      Movement ctx db tx entries db' → (∀ e ∈ entries, e.transactionId = tx.id) → tx.Typed →
      tx.type ≠ .transferIn ∧ tx.type ≠ .transferOut → (∀ e ∈ entries, e.Still) →
      Transited ctx db' :=
    fun hmovement hentries htyped htype hstill => h.of_other hjournal hgrid
      (hquantities hmovement.ledger) hmovement hentries htyped htype hstill
  cases hposted with
  | @line kind doc line act m mid _ hcurrent _ _ hprepared hmove =>
      have hplain := hprepared.plain
      cases hmove with
      | receipt h' =>
          obtain ⟨lots, serials, rfl⟩ := hprepared.frame
          obtain ⟨hitems, hinserted, hmoves, hledger⟩ := h'.movement
          refine of_other ⟨hitems, hinserted, hmoves, hledger⟩ (by simp) h'.records.typed ?_
            (by simp [LedgerEntry.Still, receiptChanges, Changes.fields])
          rw [h'.records.type]
          cases m.doc.purpose <;> decide
      | issue h' =>
          obtain ⟨_, rfl⟩ := hplain (by simp)
          exact of_other h'.movement (by simp) h'.records.typed (by rw [h'.records.type]; decide)
            (by simp [LedgerEntry.Still, issueChanges, Changes.fields])
      | returned h' =>
          obtain ⟨_, rfl⟩ := hplain (by simp)
          exact of_other h'.movement (by simp) h'.records.typed (by rw [h'.records.type]; decide)
            (by simp [LedgerEntry.Still, returnChanges, Changes.fields])
      | dispatch h' =>
          obtain ⟨_, rfl⟩ := hplain (by simp)
          exact h.of_dispatch hjournal hgrid (hquantities h'.movement.ledger)
            (hprepared.dispatchExact hkept) h'
      | receive h' =>
          obtain ⟨_, rfl⟩ := hplain (by simp)
          exact h.of_receive hjournal hgrid (hquantities h'.movement.ledger)
            (hprepared.receiveExact hkept h') (h'.undoes hprepared hcurrent hjournal) h'
      | adjustment htxkind _ h' =>
          obtain ⟨_, rfl⟩ := hplain (by simp)
          refine of_other h'.movement (by simp) h'.records.typed ?_
            (by simp [adjustmentChanges_still])
          rw [h'.records.type]
          constructor
          · rintro rfl
            exact absurd (adjustmentType_plain htxkind).1 (by decide)
          · rintro rfl
            exact absurd (adjustmentType_plain htxkind).1 (by decide)
      | count _ _ _ _ h' =>
          obtain ⟨_, rfl⟩ := hplain (by simp)
          exact of_other h'.movement (by simp) h'.records.typed (by rw [h'.records.type]; decide)
            (by simp [adjustmentChanges_still])
      | unchanged =>
          obtain ⟨_, rfl⟩ := hplain (by simp)
          exact h
  | reserve h' =>
      exact of_other h'.movement (by simp) h'.records.typed (by rw [h'.records.type]; decide)
        (by simp [LedgerEntry.Still, Changes.fields])
  | release h' =>
      exact of_other h'.movement (by simp) h'.records.typed (by rw [h'.records.type]; decide)
        (by simp [LedgerEntry.Still, Changes.fields])
  | @reverse original tx _ h' =>
      obtain ⟨e, hentries, hundone⟩ := h'.undone hjournal
      have hmovement := h'.movement
      rw [hentries] at hmovement
      refine of_other hmovement (by simp [reversalEntry]) (fun doc line kind hkey => ?_)
        (by rw [h'.row]; simp [reversalRow]) (by simpa using hundone.still tx.id)
      rw [h'.row] at hkey
      cases hkey
  | nothing => exact h

end Calls

theorem Passes.transited {ctx : Context 28 12} {db : Database}
    (h : Passes ctx (· = .empty) (ValueKept ctx) db) : Transited ctx db := by
  refine h.invariant (fun db (hdb : db = .empty) => hdb ▸ Transited.empty ctx)
    fun env db db' hpasses hdb hturn => ?_
  have hjournal := hpasses.journal
  cases hturn with
  | bookkeeping hbook =>
      obtain ⟨htransactions, hbalances, hledger, _, _, _⟩ := hbook.stock
      have hsum : ∀ k g, db'.pendingSum k g = db.pendingSum k g := by
        intro k g
        have hpending : ∀ tx, db'.Pending tx ↔ db.Pending tx := by
          intro tx
          rw [Database.Pending, Database.Pending, htransactions]
        have hbucket : ∀ tx, db'.bucketOf tx = db.bucketOf tx := by
          intro tx
          rw [Database.bucketOf, Database.bucketOf, Database.entriesOf, Database.entriesOf, hledger]
        rw [Database.pendingSum, htransactions]
        exact Table.sum_congr fun tx _ => by simp only [hpending, hbucket]
      refine ⟨?_, fun k => ?_, fun k => ?_⟩
      · rw [htransactions]
        exact hdb.dispatched
      · rw [hbalances, hsum]
        exact hdb.quantities k
      · rw [hbalances, hsum]
        exact hdb.values k
  | call hvalid hkept hrun =>
      have hbalanced : Balanced db :=
        hpasses.balanced fun db (hdb : db = .empty) => hdb ▸ Balanced.empty
      exact (Call.posted hvalid hrun).transited hkept hbalanced hjournal hpasses.valuesOnGrid hdb

/-- Without a quantity in transit no dispatch is pending, so no value is in transit. -/
theorem Transited.empty_transit {ctx : Context 28 12} {db : Database} (h : Transited ctx db)
    (hpositive : ∀ tx ∈ db.transactions.rows, 0 < tx.quantity) {k : Bucket}
    (hzero : db.balances k .quantityInTransit = 0) : db.balances k .transitValue = 0 := by
  have hnone : ∀ tx ∈ db.transactions.rows, ¬ (db.Pending tx ∧ db.bucketOf tx = some k) := by
    intro tx htx hpending
    rw [h.quantities k, Database.pendingSum, Table.sum] at hzero
    have hle : ∀ x ∈ db.transactions.rows.map (fun tx =>
        if db.Pending tx ∧ db.bucketOf tx = some k then tx.quantity else 0), 0 ≤ x := by
      intro x hx
      obtain ⟨other, hother, rfl⟩ := List.mem_map.1 hx
      split
      · exact (hpositive other hother).le
      · exact le_refl 0
    have hone := List.single_le_sum hle _ (List.mem_map_of_mem htx)
    rw [if_pos hpending, hzero] at hone
    exact absurd (hpositive tx htx) (not_lt.2 hone)
  rw [h.values k, Database.pendingSum]
  refine List.sum_eq_zero fun x hx => ?_
  obtain ⟨tx, htx, rfl⟩ := List.mem_map.1 hx
  exact if_neg (hnone tx htx)

section Transfers

variable {ctx : Context 28 12} {env env' : Env} {db db₁ db₂ db₃ : Database}
  {doc doc' : Document} {line line' : Line} {cond : CallCondition}

theorem Performs.dispatched
    (h : Performs ctx env cond db (.postLine .transfers doc line .dispatch) db₁) :
    ∃ m tx, Prepared ctx env db .transfers doc line .dispatch m db ∧
      DispatchPosted ctx env db m tx db₁ := by
  obtain ⟨m, mid, hprepared, hmove⟩ := postLine_spec h.valid.1 h.run
  obtain ⟨_, rfl⟩ := hprepared.plain (by simp)
  cases hmove with
  | dispatch hposted => exact ⟨m, _, hprepared, hposted⟩

theorem Performs.received
    (h : Performs ctx env cond db (.postLine .transfers doc line .receive) db₁) :
    ∃ m dispatched store tx, Prepared ctx env db .transfers doc line .receive m db ∧
      ReceivePosted ctx env db m dispatched store tx db₁ := by
  obtain ⟨m, mid, hprepared, hmove⟩ := postLine_spec h.valid.1 h.run
  obtain ⟨_, rfl⟩ := hprepared.plain (by simp)
  cases hmove with
  | receive hposted => exact ⟨m, _, _, _, hprepared, hposted⟩

/-- In a run whose transfers are exact, a bucket with nothing in transit has no value in
transit, and whatever happens between its dispatch and its receive, the value that a line
takes out of transit is the one it put there, and the value that arrives is the one that
left. -/
theorem transit_conserved (h : Passes ctx (· = .empty) (ValueKept ctx) db) :
    (∀ k, db.balances k .quantityInTransit = 0 → db.balances k .transitValue = 0) ∧
    (Performs ctx env (ValueKept ctx) db (.postLine .transfers doc line .dispatch) db₁ →
      Later ctx (ValueKept ctx) db₁ db₂ →
      Performs ctx env' (ValueKept ctx) db₂ (.postLine .transfers doc' line' .receive) db₃ →
      doc'.id = doc.id → line'.id = line.id →
      ∀ source ∈ doc.fromStoreId, ∀ store ∈ doc'.toStoreId,
        db₂.balances (line.departure source) .transitValue -
            db₃.balances (line.departure source) .transitValue =
          db₁.balances (line.departure source) .transitValue -
            db.balances (line.departure source) .transitValue ∧
        db₃.balances (line'.arrival store) .inventoryValue -
            db₂.balances (line'.arrival store) .inventoryValue =
          db.balances (line.departure source) .inventoryValue -
            db₁.balances (line.departure source) .inventoryValue) := by
  have hjournal := h.journal
  refine ⟨fun k hzero => h.transited.empty_transit hjournal.positive hzero, ?_⟩
  intro hdispatch hlater hreceive hdoc hline source hsource store hstore
  -- the run up to the receive
  have hbetween : Passes ctx (· = .empty) (ValueKept ctx) db₂ :=
    (h.turn hdispatch.turn).later hlater
  obtain ⟨m, tx, hprepared, hposted⟩ := hdispatch.dispatched
  obtain ⟨m', dispatched, store', tx', hprepared', hposted'⟩ := hreceive.received
  obtain ⟨hquantity, e, hentries, hbucket⟩ :=
    hposted'.undoes hprepared' hreceive.valid.1 hbetween.journal
  -- the transaction that the receive finds is that of the dispatch
  have hmem : tx ∈ db₁.transactions.rows :=
    (Table.mem_insert? hposted.movement.inserted.insert).2 (.inr rfl)
  obtain ⟨hmem₂, hentries₂⟩ := hlater.entriesOf hmem
  have hfound : dispatched = tx := by
    have hfind : db₂.dispatchOf m.doc.id m.line.id = some tx :=
      hbetween.journal.dispatchOf hmem₂ hposted.records.postingKey
    have hthis := hposted'.dispatch
    have hids : m'.doc.id = m.doc.id ∧ m'.line.id = m.line.id := by
      rw [hprepared.document, hprepared'.document, hprepared.line.1, hprepared'.line.1]
      exact ⟨hdoc, hline⟩
    rw [hids.1, hids.2] at hthis
    exact Option.some.inj (hthis.symm.trans hfind)
  subst hfound
  have hsame : m'.bucket = m.bucket := by
    have hself : db₁.entriesOf dispatched.id = _ :=
      hposted.movement.entriesOf_self (by simp) hjournal.owned
    rw [hentries₂, hself, List.cons.injEq] at hentries
    rw [← hbucket, ← hentries.1]
  have hq : m'.q = m.q := by
    rw [← hquantity, hposted.records.quantity]
  have hexact := hprepared.dispatchExact hdispatch.meets
  obtain ⟨hintoTransit, hleft⟩ := hposted.values h.valuesOnGrid hexact
  obtain ⟨houtOfTransit, harrived⟩ := hposted'.values hbetween.valuesOnGrid
    (hprepared'.receiveExact hreceive.meets hposted')
  -- both amounts are the value of the line at the cost that has been kept
  have hvalue : numeric 8 (ctx.mul m'.q dispatched.unitCost) = numeric 8 (ctx.mul m.q m.cost) := by
    rw [hq, hposted.records.unitCost]
    exact hexact.2.2.symm
  obtain ⟨hdeparture, hfrom⟩ := hprepared.departure
  have hsource' : m.source = source := Option.some.inj (hfrom.symm.trans hsource)
  have harrival : m'.destination store' = line'.arrival store := by
    have harrives := hposted'.arrives
    rw [hprepared'.document] at harrives
    rw [Move.destination, Line.arrival, hprepared'.itemId, (hprepared'.plain (by simp)).1,
      Option.some.inj (harrives.symm.trans hstore)]
  rw [hsource'] at hdeparture
  rw [harrival, hvalue] at harrived
  rw [← hdeparture, houtOfTransit m.bucket, hintoTransit m.bucket, hsame, hleft, harrived, hvalue]
  constructor <;> ring

end Transfers

namespace Sample

/-- Three units from the first store to the second. -/
def transfer : DocumentBody :=
  { document (line three) with storeId := none, fromStoreId := some 1, toStoreId := some 2 }

/-- Six units that cost two together; three of them are dispatched and received. -/
def uneven : List Request :=
  [setUp {},
    postNew 2 .receipts 1 (document (receiptLine one two)),
    postNew 3 .receipts 2 (document (receiptLine five free)),
    approveNew 4 .transfers 3 .dispatch transfer,
    ⟨env 5, [.action .transfers 3 .receive {}]⟩]

/-- Three of the five units at two are about to be dispatched. -/
def approved : Database :=
  serveAll pythonContext .empty (received ++
    [⟨env 3, [.documentSave .transfers none transfer, .action .transfers 2 .approve {}]⟩])

def transferDocument : Document := (approved.documents.find? 2).get (by decide +kernel)

def transferLine : Line := (approved.lines.find? 2).get (by decide +kernel)

/-- The state after a movement of the transfer. -/
def moved (act : Action) (now : Instant) (db : Database) : Database :=
  match postLine pythonContext (env now) db .transfers transferDocument transferLine act with
  | .ok db' => db'
  | .error _ => db

def underway : Database := moved .dispatch 4 approved

def arrived : Database := moved .receive 5 underway

theorem moved_performs {act : Action} {db : Database} (now : Instant)
    (hcurrent : Current db .transfers transferDocument transferLine)
    (hact : act = .dispatch ∨ act = .receive)
    (hmeets : ValueKept pythonContext (env now) db
      (.postLine .transfers transferDocument transferLine act))
    (hok : (postLine pythonContext (env now) db .transfers transferDocument transferLine
      act).isOk = true) :
    Performs pythonContext (env now) (ValueKept pythonContext) db
      (.postLine .transfers transferDocument transferLine act) (moved act now db) := by
  obtain ⟨db', hrun⟩ := isOk_iff.1 hok
  have hmoved : moved act now db = db' := by rw [moved, hrun]
  refine ⟨⟨hcurrent, ?_, ?_⟩, hmeets, hmoved ▸ hrun⟩
  · rcases hact with rfl | rfl <;> decide
  · rcases hact with rfl | rfl <;> decide

theorem approved_current : Current approved .transfers transferDocument transferLine := by
  have hdoc : approved.documents.find? 2 = some transferDocument := (Option.some_get _).symm
  have hline : approved.lines.find? 2 = some transferLine := (Option.some_get _).symm
  refine linesOf_current (Table.find?_of_mem (Table.mem_of_find? hdoc)) (by decide +kernel) ?_
  exact Database.mem_linesOf.2 ⟨Table.mem_of_find? hline, by decide +kernel⟩

end Sample

/-- Three units arrive at the cost of two at which they left. -/
theorem transit_conserved_arrived :
    Sample.arrived.balances (Sample.transferLine.arrival 2) .inventoryValue -
      Sample.underway.balances (Sample.transferLine.arrival 2) .inventoryValue = 6 := by
  have happroved : ReachableWhere pythonContext (· = .empty) (ValueKept pythonContext)
      Sample.approved :=
    ReachableWhere.serveAll (.init rfl) (by decide +kernel)
  have hdispatch := Sample.moved_performs 4 Sample.approved_current (.inl rfl)
    (by decide +kernel) (by decide +kernel)
  obtain ⟨_, _, _, hposted⟩ := hdispatch.dispatched
  have hreceive := Sample.moved_performs 5
    (Sample.approved_current.kept hposted.kept (by simp) (by simp)) (.inr rfl)
    (by decide +kernel) (by decide +kernel)
  have hconserved := (transit_conserved (Reachable.passes happroved)).2 hdispatch .refl hreceive
    rfl rfl 1 (by decide +kernel) 2 (by decide +kernel)
  have hleft : Sample.approved.balances (Sample.transferLine.departure 1) .inventoryValue -
      Sample.underway.balances (Sample.transferLine.departure 1) .inventoryValue = 6 := by
    decide +kernel
  exact hconserved.2.trans hleft

/-- A cost of a third is received at eight decimals, and the rest stays in transit. -/
theorem transit_conserved_fails :
    ¬ ∀ (db : Database) (k : Bucket), Reachable pythonContext db →
      db.balances k .quantityInTransit = 0 → db.balances k .transitValue = 0 := by
  intro hclaim
  have hzero := hclaim _ Sample.bucket (reachable_serveAll pythonContext Sample.uneven)
    (by decide +kernel)
  exact absurd hzero (by decide +kernel)

end Cestos.Inventory
