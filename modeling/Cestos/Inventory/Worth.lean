import Cestos.Inventory.Costs

/-!
# What buckets are worth

A receipt can be reversed as long as the item has no later movement, and then its bucket still
has at least what the receipt brought: only receipts of the same request can lie in between.
So every movement leaves the buckets sound, in every sequential run.
-/

namespace Cestos.Inventory

open Cestos.Core Cestos.Core.Decimal

/-! ## Between two movements -/

/-- The bucket of a receipt still has what the receipt brought. -/
structure Undoable (balances : Bucket → BucketFields) (e : LedgerEntry) : Prop where
  brings : e.Brings
  quantity : e.changes .quantityOnHand ≤ balances e.bucket .quantityOnHand
  value : e.changes .inventoryValue ≤ balances e.bucket .inventoryValue
  rest : balances e.bucket .quantityOnHand = e.changes .quantityOnHand →
    balances e.bucket .inventoryValue = e.changes .inventoryValue

structure Worth (db : Database) : Prop where
  sound : ∀ k, Sound (db.balances k)
  grid : ValuesOnGrid db.balances
  costs : ∀ tx ∈ db.transactions.rows, 0 ≤ tx.unitCost
  taken : ∀ tx ∈ db.transactions.rows, tx.type = .issue → ∀ e ∈ db.entriesOf tx.id,
    e.bucket.itemId = tx.itemId ∧ e.Takes
  undoable : ∀ tx ∈ db.transactions.rows, tx.type.receives → ¬ db.laterMovement tx →
    ∀ e ∈ db.entriesOf tx.id, e.bucket.itemId = tx.itemId ∧ Undoable db.balances e

/-- How far a request has got: it came after all others, and if it does not receive then no
receipt is its own. -/
structure Stage (now : Instant) (receiving : Bool) (db : Database) : Prop where
  upto : ∀ tx ∈ db.transactions.rows, tx.createdAt ≤ now
  unmixed : receiving = false → ∀ tx ∈ db.transactions.rows, tx.type.receives →
    tx.createdAt < now

section Movements

variable {env : Env} {db db' : Database} {receiving : Bool} {tx : Transaction}
  {entries : List LedgerEntry} {balances balances' : Bucket → BucketFields} {e e' : LedgerEntry}

theorem LedgerEntry.Brings.applied (h : e.Brings) (hmovable : Movable exactContext balances e)
    (hgrid : e.OnGrid) (hsteady : Steady balances) (hvalues : ValuesOnGrid balances) :
    applyEntry exactContext balances e e.bucket .quantityOnHand =
        balances e.bucket .quantityOnHand + e.changes .quantityOnHand ∧
      applyEntry exactContext balances e e.bucket .inventoryValue =
        balances e.bucket .inventoryValue + e.changes .inventoryValue := by
  refine ⟨(hmovable.onHand hgrid hsteady).1, ?_⟩
  rw [applyEntry_value]
  exact quantize_of_onGrid ((hvalues e.bucket .inventoryValue rfl).add h.valueGrid)

theorem LedgerEntry.Brings.undoable (h : e.Brings) (hmovable : Movable exactContext balances e)
    (hgrid : e.OnGrid) (hsteady : Steady balances) (hvalues : ValuesOnGrid balances)
    (hsound : Sound (balances e.bucket)) :
    Undoable (applyEntry exactContext balances e) e := by
  obtain ⟨hquantity, hvalue⟩ := h.applied hmovable hgrid hsteady hvalues
  have honHand := hsteady.onHand_nonneg e.bucket
  refine ⟨h, ?_, ?_, fun hrest => ?_⟩
  · linarith
  · linarith [hsound.nonneg]
  · have hempty : balances e.bucket .quantityOnHand = 0 := by linarith
    rw [hvalue, hsound.empty hempty, zero_add]

/-- Another receipt into the bucket leaves more than the first one brought. -/
theorem Undoable.brings_more (h : Undoable balances e) (h' : e'.Brings)
    (hmovable : Movable exactContext balances e') (hgrid : e'.OnGrid) (hsteady : Steady balances)
    (hvalues : ValuesOnGrid balances) : Undoable (applyEntry exactContext balances e') e := by
  by_cases hbucket : e.bucket = e'.bucket
  · obtain ⟨hquantity, hvalue⟩ := h'.applied hmovable hgrid hsteady hvalues
    have hless := h.quantity
    have hworth := h.value
    refine ⟨h.brings, ?_, ?_, fun hrest => ?_⟩
    · rw [hbucket] at hless ⊢
      linarith [h'.quantity]
    · rw [hbucket] at hworth ⊢
      linarith [h'.value]
    · rw [hbucket] at hless hrest
      linarith [h'.quantity]
  · have hsame : applyEntry exactContext balances e' e.bucket = balances e.bucket :=
      applyEntry_ne hbucket
    exact ⟨h.brings, hsame ▸ h.quantity, hsame ▸ h.value, hsame ▸ h.rest⟩

theorem Undoable.congr (h : Undoable balances e) (hsame : balances' e.bucket = balances e.bucket) :
    Undoable balances' e :=
  ⟨h.brings, hsame ▸ h.quantity, hsame ▸ h.value, hsame ▸ h.rest⟩

theorem laterMovement_of_inserted (h : Inserted db.transactions tx db'.transactions)
    {old : Transaction} (hlater : db.laterMovement old) : db'.laterMovement old := by
  obtain ⟨other, hother, hitem, hcreated⟩ := hlater
  exact ⟨other, (Table.mem_insert? h.insert).2 (.inl hother), hitem, hcreated⟩

/-- A movement keeps the buckets sound, the rows of issues and receipts what they are, and the
receipts that can be reversed undoable. -/
theorem Worth.worked (h : Worth db) (hbalanced : Balanced db) (howned : Owned db)
    (hstage : Stage env.now receiving db) (hworked : Worked env db receiving tx entries db')
    (hgrid : ∀ e ∈ entries, e.OnGrid) : Worth db' ∧ Stage env.now receiving db' := by
  obtain ⟨hmovement, hvalued, hcreated, hreceives, -⟩ := hworked
  have hinsert := hmovement.inserted.insert
  have hself : db'.entriesOf tx.id = entries := hmovement.entriesOf_self hvalued.owned howned
  have hold : ∀ old ∈ db.transactions.rows, db'.entriesOf old.id = db.entriesOf old.id :=
    fun old hmem => hmovement.entriesOf_old hvalued.owned hmem
  refine ⟨⟨hmovement.moves.sound hgrid hbalanced.steady h.sound hvalued.fair,
    hmovement.moves.valuesOnGrid h.grid, fun row hrow => ?_, fun row hrow htype e he => ?_,
    fun row hrow htype hlast e he => ?_⟩, fun row hrow => ?_, fun hplain row hrow htype => ?_⟩
  · rcases (Table.mem_insert? hinsert).1 hrow with hrow | rfl
    · exact h.costs row hrow
    · exact hvalued.cost
  · rcases (Table.mem_insert? hinsert).1 hrow with hrow | rfl
    · exact h.taken row hrow htype e (hold row hrow ▸ he)
    · rw [hself] at he
      exact ⟨hvalued.buckets e he, hvalued.issue htype e he⟩
  · rcases (Table.mem_insert? hinsert).1 hrow with hrow | rfl
    · have hbefore := h.undoable row hrow htype
        (fun hlater => hlast (laterMovement_of_inserted hmovement.inserted hlater)) e
        (hold row hrow ▸ he)
      refine ⟨hbefore.1, ?_⟩
      by_cases hitem : tx.itemId = row.itemId
      · -- the receipt is of this request, so the request receives
        have hnow : env.now ≤ row.createdAt := by
          rw [← hcreated]
          exact not_lt.1 fun hlt => hlast ⟨tx, (Table.mem_insert? hinsert).2 (.inr rfl), hitem, hlt⟩
        have hreceiving : receiving = true := by
          cases receiving with
          | true => rfl
          | false => exact absurd (hstage.unmixed rfl row hrow htype) hnow.not_gt
        obtain ⟨e', rfl, hbrings⟩ := hvalued.receipt (hreceives.trans hreceiving)
        obtain ⟨hmovable, hafter⟩ := hmovement.moves.single_inv
        rw [hafter]
        exact hbefore.2.brings_more hbrings hmovable (hgrid e' List.mem_cons_self)
          hbalanced.steady h.grid
      · refine hbefore.2.congr (hmovement.moves.other fun e' he' hbucket => hitem ?_)
        rw [← hvalued.buckets e' he', hbucket, hbefore.1]
    · rw [hself] at he
      refine ⟨hvalued.buckets e he, ?_⟩
      obtain ⟨e', rfl, hbrings⟩ := hvalued.receipt htype
      obtain rfl := List.mem_singleton.1 he
      obtain ⟨hmovable, hafter⟩ := hmovement.moves.single_inv
      rw [hafter]
      exact hbrings.undoable hmovable (hgrid e he) hbalanced.steady h.grid (h.sound e.bucket)
  · rcases (Table.mem_insert? hinsert).1 hrow with hrow | rfl
    · exact hstage.upto row hrow
    · exact hcreated.le
  · rcases (Table.mem_insert? hinsert).1 hrow with hrow | rfl
    · exact hstage.unmixed hplain row hrow htype
    · rw [hreceives, hplain] at htype
      cases htype

/-! ## Calls -/

/-- Quantity that is only reserved or released is worth nothing. -/
theorem worked_of_reserved {row : Reservation} {type : TransactionType} {quantity change : ℚ}
    (hissue : type ≠ .issue) (hreceives : type.receives = false) (hlines : db.Priced)
    (hrecords : Records exactContext env db.items (row.origin env) row.entry type 0 quantity tx)
    (hmovement : Movement exactContext db tx
      [⟨tx.id, row.bucket, Changes.fields { quantityReserved := change }⟩] db')
    (haside : Aside db db') : ∃ entries, Worked env db false tx entries db' := by
  have htype : tx.type.receives = false := by
    rw [hrecords.type]
    exact hreceives
  refine ⟨_, {
    movement := hmovement
    valued := {
      cost := by rw [hrecords.unitCost, numeric_zero]
      buckets := fun e he => by rw [List.mem_singleton.1 he, hrecords.itemId]; rfl
      owned := by simp
      fair := .inl fun e he => ?_
      issue := fun htake => absurd (hrecords.type.symm.trans htake) hissue
      receipt := fun htake => by rw [htype] at htake; cases htake }
    createdAt := hrecords.createdAt
    receives := htype
    lines := fun line hline => hlines line (haside.lines ▸ hline) }⟩
  rw [List.mem_singleton.1 he]
  exact ⟨le_rfl, le_rfl, fun _ => rfl⟩

theorem ReservePosted.worked {item : Item} {row : Reservation} (hlines : db.Priced)
    (h : ReservePosted exactContext env db item row tx db') :
    ∃ entries, Worked env db false tx entries db' :=
  worked_of_reserved (by decide) rfl hlines h.records h.movement h.aside

theorem ReleasePosted.worked {row : Reservation} {cancel : Bool} (hlines : db.Priced)
    (h : ReleasePosted exactContext env db row cancel tx db') :
    ∃ entries, Worked env db false tx entries db' :=
  worked_of_reserved (by decide) rfl hlines h.records h.movement h.aside

theorem LedgerEntry.Takes.reversal (h : e.Takes) (id : Id) : (reversalEntry id e).Gains := by
  have hquantity : (reversalEntry id e).changes .quantityOnHand = -e.changes .quantityOnHand :=
    congrArg Neg.neg (numeric_of_onGrid h.grid)
  have hvalue : (reversalEntry id e).changes .inventoryValue =
      numeric 8 (-e.changes .inventoryValue) := (numeric_neg 8 _).symm
  refine ⟨?_, ?_, fun hzero => ?_⟩
  · rw [hquantity]
    linarith [h.quantity]
  · rw [hvalue]
    exact numeric_nonneg 8 (neg_nonneg.2 h.value)
  · rw [hquantity] at hzero
    linarith [h.quantity]

/-- What is negated of a receipt leaves what was there without it. -/
theorem Undoable.reversal (h : Undoable balances e) (id : Id) :
    (reversalEntry id e).Fair balances := by
  have hquantity : (reversalEntry id e).changes .quantityOnHand = -e.changes .quantityOnHand :=
    congrArg Neg.neg (numeric_of_onGrid h.brings.quantityGrid)
  have hvalue : (reversalEntry id e).changes .inventoryValue = -e.changes .inventoryValue :=
    congrArg Neg.neg (numeric_of_onGrid h.brings.valueGrid)
  refine ⟨?_, fun hempty => ?_⟩
  · show 0 ≤ balances e.bucket .inventoryValue + (reversalEntry id e).changes .inventoryValue
    rw [hvalue]
    linarith [h.value]
  · have hrest : balances e.bucket .quantityOnHand +
        (reversalEntry id e).changes .quantityOnHand = 0 := hempty
    rw [hquantity] at hrest
    show balances e.bucket .inventoryValue + (reversalEntry id e).changes .inventoryValue = 0
    rw [hvalue, h.rest (by linarith), add_neg_cancel]

theorem ReversalPosted.worked {original : Transaction} (hworth : Worth db)
    (hjournal : Journal exactContext db) (hlines : db.Priced)
    (h : ReversalPosted exactContext env db original tx db') :
    ∃ entries, Worked env db false tx entries db' := by
  have hmem : original ∈ db.transactions.rows := Table.mem_of_find? h.found
  obtain ⟨e, hentries, -⟩ := h.undone hjournal
  have he : e ∈ db.entriesOf original.id := by
    rw [hentries]
    exact List.mem_cons_self
  have hbucket : e.bucket.itemId = original.itemId ∧
      FairRows db.balances [reversalEntry tx.id e] := by
    by_cases hissue : original.type = .issue
    · obtain ⟨hitem, htakes⟩ := hworth.taken original hmem hissue e he
      refine ⟨hitem, .inl fun row hrow => ?_⟩
      rw [List.mem_singleton.1 hrow]
      exact htakes.reversal tx.id
    · have hreceives : original.type.receives := by
        rw [TransactionType.receives, h.reversible, decide_eq_true hissue]
        rfl
      obtain ⟨hitem, hundoable⟩ := hworth.undoable original hmem hreceives h.last e he
      exact ⟨hitem, .inr ⟨_, rfl, hundoable.reversal tx.id⟩⟩
  have hmovement := h.movement
  rw [hentries, List.map_singleton] at hmovement
  have htype : tx.type = .reversal := by rw [h.row]; rfl
  refine ⟨_, {
    movement := hmovement
    valued := {
      cost := by rw [h.row]; exact hworth.costs original hmem
      buckets := fun row hrow => by
        rw [List.mem_singleton.1 hrow, h.row]
        exact hbucket.1
      owned := fun row hrow => by
        rw [List.mem_singleton.1 hrow]
        rfl
      fair := hbucket.2
      issue := fun hissue => absurd (htype.symm.trans hissue) (by decide)
      receipt := fun hreceives => by rw [htype] at hreceives; cases hreceives }
    createdAt := by rw [h.row]; rfl
    receives := by rw [htype]; rfl
    lines := fun line hline => hlines line (h.aside.lines ▸ hline) }⟩

end Movements

end Cestos.Inventory
