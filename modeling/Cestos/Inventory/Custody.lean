import Cestos.Inventory.Issues

/-!
# Custody of returnable items

An issue of a returnable item records one custody row for each line; a return gives
back one row that fits, whichever the database finds first. The total of the rows is
always what is still out. A single row may be short of what the return brings back
although the issue as a whole is not, and then the constraint on the row refuses it.
-/

namespace Cestos.Inventory

open Cestos.Core Cestos.Core.Decimal

/-- What the custody rows of an issue, item and serial still have out. -/
def Database.inCustody (db : Database) (issueId itemId : Id) (serialId : Option Id) : ℚ :=
  db.custody.sum fun row =>
    if row.issueId = issueId ∧ row.itemId = itemId ∧ row.serialId = serialId then
      row.quantity - row.returnedQuantity
    else 0

/-- The item is returnable when lines of the issue take it out. -/
def Lent (issueId itemId : Id) : CallCondition := fun _ db c =>
  match c with
  | .postLine .issues doc line _ =>
    doc.id = issueId → line.itemId = itemId → ∀ item ∈ db.items.find? itemId, item.isReturnable
  | _ => True

instance (issueId itemId : Id) (env : Env) (db : Database) (c : Call) :
    Decidable (Lent issueId itemId env db c) := by
  unfold Lent
  split <;> exact inferInstance

/-- Of the serial, or of no serial. -/
def Transaction.ofSerial (serialId : Option Id) (tx : Transaction) : Bool :=
  tx.serialId = serialId

structure Custodied (issueId itemId : Id) (db : Database) : Prop where
  within : ∀ row ∈ db.custody.rows, 0 ≤ row.returnedQuantity ∧ row.returnedQuantity ≤ row.quantity
  recorded : ∀ tx ∈ db.transactions.rows, tx.takenFor issueId itemId →
    ∃ row ∈ db.custody.rows, row.issueId = issueId ∧ row.itemId = itemId ∧
      row.serialId = tx.serialId
  sums : ∀ serialId, db.inCustody issueId itemId serialId =
    db.takenOut issueId itemId (Transaction.ofSerial serialId) -
      db.broughtBack issueId itemId (Transaction.ofSerial serialId)

theorem mem_custodyOf {custody : Table Custody.id} {issueId itemId : Id} {serialId : Option Id}
    {row : Custody} : row ∈ custodyOf custody issueId itemId serialId ↔
      row ∈ custody.rows ∧ row.issueId = issueId ∧ row.itemId = itemId ∧
        row.serialId = serialId := by
  simp [custodyOf]

section Calls

variable {ctx : Context 28 12} {env : Env} {db db' : Database} {issueId itemId : Id} {m : Move}

theorem Custodied.of_same (h : Custodied issueId itemId db) (hjournal : Journal ctx db)
    (hfrozen : Frozen db db') (hcustody : db'.custody = db.custody)
    (hsame : db'.transactions = db.transactions) : Custodied issueId itemId db' where
  within := by rw [hcustody]; exact h.within
  recorded := by rw [hcustody, hsame]; exact h.recorded
  sums serialId := by
    have htaken : ∀ p, db'.takenOut issueId itemId p = db.takenOut issueId itemId p := by
      intro p
      rw [Database.takenOut, hsame, Database.takenOut]
    rw [htaken, broughtBack_same hjournal hfrozen hsame, Database.inCustody, hcustody]
    exact h.sums serialId

theorem Custodied.of_other {tx : Transaction} (h : Custodied issueId itemId db)
    (hjournal : Journal ctx db) (hfrozen : Frozen db db') (hcustody : db'.custody = db.custody)
    (hinserted : Inserted db.transactions tx db'.transactions) (hissue : tx.type ≠ .issue)
    (hreturn : tx.type ≠ .returnFromEmployee) : Custodied issueId itemId db' where
  within := by rw [hcustody]; exact h.within
  recorded other hother htaken := by
    rw [hcustody]
    rcases (Table.mem_insert? hinserted.insert).1 hother with hold | rfl
    · exact h.recorded other hold htaken
    · exact absurd htaken.1 hissue
  sums serialId := by
    obtain ⟨htaken, hbrought⟩ := totals_other issueId itemId
      (Transaction.ofSerial serialId) hjournal hfrozen hinserted hissue hreturn
    rw [htaken, hbrought, Database.inCustody, hcustody]
    exact h.sums serialId

/-- An issue line records what it takes out, if the item is returnable. -/
theorem Custodied.of_issue {tx : Transaction} (h : Custodied issueId itemId db)
    (hjournal : Journal ctx db) (hfrozen : Frozen db db')
    (hinserted : Inserted db.transactions tx db'.transactions) (htype : tx.type = .issue)
    (hreference : tx.referenceId = m.doc.id) (hitem : tx.itemId = m.item.id)
    (hserial : tx.serialId = m.line.serialId) (hquantity : tx.quantity = m.q) (hpositive : 0 < m.q)
    (hreturnable : m.doc.id = issueId → m.item.id = itemId → m.item.isReturnable = true)
    (hcustody : CustodyRecorded m db.custody db'.custody) : Custodied issueId itemId db' := by
  have htaken : tx.takenFor issueId itemId ↔ m.doc.id = issueId ∧ m.item.id = itemId := by
    simp [Transaction.takenFor, htype, hreference, hitem]
  have hbrought : ¬ db'.broughtFor tx issueId itemId := by
    simp [Database.broughtFor, htype]
  have hsums : ∀ serialId, db'.takenOut issueId itemId (Transaction.ofSerial serialId) -
      db'.broughtBack issueId itemId (Transaction.ofSerial serialId) =
      db.inCustody issueId itemId serialId +
        if m.doc.id = issueId ∧ m.item.id = itemId ∧ m.line.serialId = serialId then m.q
        else 0 := by
    intro serialId
    rw [takenOut_inserted hinserted, broughtBack_inserted hjournal hfrozen hinserted,
      h.sums serialId]
    simp only [htaken, hbrought, Transaction.ofSerial, hserial, hquantity, decide_eq_true_eq,
      false_and, if_false, and_assoc]
    ring
  generalize hafter : db'.custody = after at hcustody
  cases hcustody with
  | consumed hno =>
      -- the issue is another one, or the item is
      have hother : ¬ (m.doc.id = issueId ∧ m.item.id = itemId) := by
        rintro ⟨hdoc, hmine⟩
        rw [hreturnable hdoc hmine] at hno
        cases hno
      refine ⟨by rw [hafter]; exact h.within, fun other hmem hfor => ?_, fun serialId => ?_⟩
      · rw [hafter]
        rcases (Table.mem_insert? hinserted.insert).1 hmem with hold | rfl
        · exact h.recorded other hold hfor
        · exact absurd (htaken.1 hfor) hother
      · rw [hsums serialId, if_neg fun hall => hother ⟨hall.1, hall.2.1⟩, add_zero,
          Database.inCustody, hafter]
        rfl
  | @recorded id _ hyes hins =>
      rw [← hafter] at hins
      refine ⟨fun row hrow => ?_, fun other hmem hfor => ?_, fun serialId => ?_⟩
      · rcases (Table.mem_insert? hins).1 hrow with hold | rfl
        · exact h.within row hold
        · exact ⟨le_refl 0, hpositive.le⟩
      · rcases (Table.mem_insert? hinserted.insert).1 hmem with hold | rfl
        · obtain ⟨row, hrow, hkey⟩ := h.recorded other hold hfor
          exact ⟨row, (Table.mem_insert? hins).2 (.inl hrow), hkey⟩
        · obtain ⟨hdoc, hmine⟩ := htaken.1 hfor
          exact ⟨newCustody id m, (Table.mem_insert? hins).2 (.inr rfl), hdoc, hmine, hserial.symm⟩
      · rw [hsums serialId, Database.inCustody, Table.sum_insert? _ hins]
        simp only [newCustody, sub_zero]
        rfl

/-- A return gives one row back, and there is one whenever the issue took the item out. -/
theorem Custodied.of_return {tx : Transaction} {original : Document}
    (h : Custodied issueId itemId db) (hjournal : Journal ctx db) (hfrozen : Frozen db db')
    (hinserted : Inserted db.transactions tx db'.transactions)
    (htype : tx.type = .returnFromEmployee) (hitem : tx.itemId = m.item.id)
    (hserial : tx.serialId = m.line.serialId) (hquantity : tx.quantity = m.q) (hpositive : 0 < m.q)
    (hfor : ∀ i j, db'.broughtFor tx i j ↔ original.id = i ∧ tx.itemId = j)
    (hissued : db.issued original.id m.item.id m.line.lotId m.line.serialId ≠ 0)
    (hcustody : CustodyReturned env m original.id db.custody db'.custody) :
    Custodied issueId itemId db' := by
  have htaken : ¬ tx.takenFor issueId itemId := by simp [Transaction.takenFor, htype]
  have hsums : ∀ serialId, db'.takenOut issueId itemId (Transaction.ofSerial serialId) -
      db'.broughtBack issueId itemId (Transaction.ofSerial serialId) =
      db.inCustody issueId itemId serialId -
        if original.id = issueId ∧ m.item.id = itemId ∧ m.line.serialId = serialId then m.q
        else 0 := by
    intro serialId
    rw [takenOut_inserted hinserted, broughtBack_inserted hjournal hfrozen hinserted,
      h.sums serialId]
    simp only [hfor, htaken, hitem, Transaction.ofSerial, hserial, hquantity, decide_eq_true_eq,
      false_and, if_false, and_assoc]
    ring
  have hrecorded : (∀ tx ∈ db.transactions.rows, tx.takenFor issueId itemId →
      ∃ row ∈ db'.custody.rows, row.issueId = issueId ∧ row.itemId = itemId ∧
        row.serialId = tx.serialId) → ∀ tx ∈ db'.transactions.rows, tx.takenFor issueId itemId →
      ∃ row ∈ db'.custody.rows, row.issueId = issueId ∧ row.itemId = itemId ∧
        row.serialId = tx.serialId := by
    intro hold other hmem htakenFor
    rcases (Table.mem_insert? hinserted.insert).1 hmem with hmem | rfl
    · exact hold other hmem htakenFor
    · exact absurd htakenFor htaken
  generalize hafter : db'.custody = after at hcustody
  cases hcustody with
  | unmatched hnone =>
      -- then nothing of the item was taken out for this issue
      have hother : ¬ (original.id = issueId ∧ m.item.id = itemId) := by
        rintro ⟨rfl, rfl⟩
        refine hissued (List.sum_eq_zero fun x hx => ?_)
        obtain ⟨taken, htakenMem, rfl⟩ := List.mem_map.1 hx
        refine if_neg fun hissue => ?_
        obtain ⟨row, hrow, hkey⟩ := h.recorded taken htakenMem
          ⟨hissue.2.2.2.2, hissue.1, hissue.2.1⟩
        have hempty := Env.first_eq_none.1 hnone
        have hfound : row ∈ custodyOf db.custody original.id m.item.id m.line.serialId :=
          mem_custodyOf.2 ⟨hrow, hkey.1, hkey.2.1, hkey.2.2.trans hissue.2.2.2.1⟩
        rw [hempty] at hfound
        cases hfound
      refine ⟨by rw [hafter]; exact h.within, hrecorded (by rw [hafter]; exact h.recorded),
        fun serialId => ?_⟩
      rw [hsums serialId, if_neg fun hall => hother ⟨hall.1, hall.2.1⟩, sub_zero,
        Database.inCustody, hafter]
      rfl
  | @matched row hrow hle =>
      obtain ⟨hmem, hissue, hitemId, hserialId⟩ := mem_custodyOf.1 (Env.mem_of_first hrow)
      have hfind := Table.find?_of_mem hmem
      have hset := fun s => Table.mem_set_of_find? (s := s)
        (r := row.giveBack m.q m.doc.condition) hfind
      rw [← hafter] at hset
      have hwithin := h.within row hmem
      refine ⟨fun other hother => ?_, hrecorded fun taken htakenMem htakenFor => ?_,
        fun serialId => ?_⟩
      · rcases (hset other).1 hother with ⟨hold, _⟩ | rfl
        · exact h.within other hold
        · exact ⟨by simp only [Custody.giveBack]; linarith, hle⟩
      · obtain ⟨other, hother, hkey⟩ := h.recorded taken htakenMem htakenFor
        by_cases hsame : other.id = row.id
        · obtain rfl := db.custody.key_injective hother hmem hsame
          exact ⟨_, (hset _).2 (.inr rfl), hkey⟩
        · exact ⟨other, (hset other).2 (.inl ⟨hother, hsame⟩), hkey⟩
      · rw [hsums serialId, Database.inCustody, hafter,
          Table.sum_set (r := row.giveBack m.q m.doc.condition) _ hfind, Database.inCustody]
        simp only [Custody.giveBack, hissue, hitemId, hserialId]
        split <;> ring

theorem CallPosted.custodied {c : Call} (hposted : CallPosted ctx env db c db')
    (hlent : Lent issueId itemId env db c) (hjournal : Journal ctx db)
    (h : Custodied issueId itemId db) : Custodied issueId itemId db' := by
  have hfrozen := hposted.frozen
  cases hposted with
  | @line kind doc line act m mid _ hcurrent _ _ hprepared hmove =>
      have hitem := hprepared.itemId
      obtain ⟨lots, serials, rfl⟩ := hprepared.frame
      cases hmove with
      | receipt h' =>
          have htype : ∀ purpose, receiptType purpose ≠ .issue ∧
              receiptType purpose ≠ .returnFromEmployee := by
            intro purpose
            cases purpose <;> decide
          refine h.of_other hjournal hfrozen h'.custody h'.movement.inserted ?_ ?_ <;>
            rw [h'.records.type]
          · exact (htype _).1
          · exact (htype _).2
      | issue h' =>
          refine h.of_issue hjournal hfrozen h'.movement.inserted h'.records.type
            h'.records.referenceId (h'.records.itemId.trans hitem.symm) h'.records.serialId
            h'.records.quantity hprepared.positive (fun hdoc hmine => ?_) h'.custody
          have hline : m.item.id = line.itemId := Table.key_of_find? hprepared.item
          rw [hprepared.document] at hdoc
          have hfound := hprepared.item
          rw [← hline, hmine] at hfound
          exact hlent hdoc (hline.symm.trans hmine) m.item hfound
      | @returned _ original cost tx _ h' =>
          obtain ⟨doc', line', hfor', hheader, _⟩ :=
            hprepared.postedFor hcurrent (by simp) (by simp) h'.kept rfl h'.records
          have hissue : doc'.originalIssueId = some original.id :=
            (congrArg Header.originalIssueId hheader).trans h'.issue
          refine h.of_return hjournal hfrozen h'.movement.inserted h'.records.type
            (h'.records.itemId.trans hitem.symm) h'.records.serialId h'.records.quantity
            hprepared.positive (fun i j => ?_) (fun hzero => h'.within (.inl hzero)) h'.custody
          rw [hfor'.broughtFor h'.records.type, hissue, Option.some.injEq]
      | dispatch h' =>
          exact h.of_other hjournal hfrozen h'.custody h'.movement.inserted
            (by rw [h'.records.type]; decide) (by rw [h'.records.type]; decide)
      | receive h' =>
          exact h.of_other hjournal hfrozen h'.custody h'.movement.inserted
            (by rw [h'.records.type]; decide) (by rw [h'.records.type]; decide)
      | @adjustment _ txkind _ _ _ _ htxkind _ h' =>
          have htype : txkind ≠ .issue ∧ txkind ≠ .returnFromEmployee := by
            revert htxkind
            cases m.doc.purpose <;> intro htxkind <;> cases htxkind <;> decide
          exact h.of_other hjournal hfrozen h'.custody h'.movement.inserted
            (by rw [h'.records.type]; exact htype.1) (by rw [h'.records.type]; exact htype.2)
      | count _ _ _ _ h' =>
          exact h.of_other hjournal hfrozen h'.custody h'.movement.inserted
            (by rw [h'.records.type]; decide) (by rw [h'.records.type]; decide)
      | unchanged => exact h.of_same hjournal hfrozen rfl rfl
  | reserve h' =>
      exact h.of_other hjournal hfrozen h'.aside.custody h'.movement.inserted
        (by rw [h'.records.type]; decide) (by rw [h'.records.type]; decide)
  | release h' =>
      exact h.of_other hjournal hfrozen h'.aside.custody h'.movement.inserted
        (by rw [h'.records.type]; decide) (by rw [h'.records.type]; decide)
  | reverse h' =>
      exact h.of_other hjournal hfrozen h'.aside.custody h'.movement.inserted
        (by rw [h'.row]; simp [reversalRow]) (by rw [h'.row]; simp [reversalRow])
  | nothing => exact h

end Calls

/-! ## Throughout a run -/

theorem Custodied.empty (issueId itemId : Id) : Custodied issueId itemId .empty where
  within row hrow := by cases hrow
  recorded tx htx := by cases htx
  sums serialId := by
    simp [Database.inCustody, Database.takenOut, Database.broughtBack, Database.empty]

theorem Passes.custodied {ctx : Context 28 12} {issueId itemId : Id} {db : Database}
    (h : Passes ctx (· = .empty) (Lent issueId itemId) db) : Custodied issueId itemId db := by
  refine h.invariant (fun db (hdb : db = .empty) => hdb ▸ Custodied.empty issueId itemId)
    fun env db db' hpasses hdb hturn => ?_
  cases hturn with
  | bookkeeping hbook =>
      exact hdb.of_same hpasses.journal hbook.frozen hbook.stock.custody hbook.stock.transactions
  | call hvalid hlent hrun =>
      exact (Call.posted hvalid hrun).custodied hlent hpasses.journal hdb

/-! ## Which returns are refused -/

theorem returnCustody_isOk {env : Env} {db : Database} {m : Move} {issueId : Id} :
    (returnCustody env db m issueId).isOk = true ↔
      ∀ row ∈ env.first (custodyOf db.custody issueId m.item.id m.line.serialId),
        row.returnedQuantity + m.q ≤ row.quantity := by
  unfold returnCustody
  cases env.first (custodyOf db.custody issueId m.item.id m.line.serialId) with
  | none => simp [Except.isOk, Except.toBool]
  | some row => simp [isOk_iff]

theorem Env.exists_first {α : Type} {rows : List α} {a : α} (env : Env) (ha : a ∈ rows) :
    ∃ pick, Env.first { env with pick } rows = some a := by
  obtain ⟨i, hi, rfl⟩ := List.getElem_of_mem ha
  refine ⟨fun _ => i, ?_⟩
  simp only [first, Nat.mod_eq_of_lt hi]
  exact List.getElem?_eq_getElem hi

/-- Custody accounts for every issue of a returnable item, and its rows never give back
more than they have. A return is safe from the constraint on the rows exactly when each
row that the query may find has as much left as the return brings back. -/
theorem custody_accounted {ctx : Context 28 12} {issueId itemId : Id} {db : Database}
    (h : ReachableWhere ctx (· = .empty) (Lent issueId itemId) db) :
    (∀ serialId, db.inCustody issueId itemId serialId =
      db.takenOut issueId itemId (Transaction.ofSerial serialId) -
        db.broughtBack issueId itemId (Transaction.ofSerial serialId)) ∧
    (∀ row ∈ db.custody.rows, 0 ≤ row.returnedQuantity ∧ row.returnedQuantity ≤ row.quantity) ∧
    ∀ m : Move, m.item.id = itemId →
      ((∀ env, (returnCustody env db m issueId).isOk = true) ↔
        ∀ row ∈ custodyOf db.custody issueId itemId m.line.serialId,
          m.q ≤ row.quantity - row.returnedQuantity) := by
  have hcustodied := (Reachable.passes h).custodied
  refine ⟨hcustodied.sums, hcustodied.within, fun m hitem => ?_⟩
  constructor
  · intro hsafe row hrow
    obtain ⟨pick, hfirst⟩ := Env.exists_first (Sample.env 0) (hitem ▸ hrow)
    have hle := returnCustody_isOk.1 (hsafe { Sample.env 0 with pick }) row hfirst
    linarith
  · intro hrows env
    refine returnCustody_isOk.2 fun row hfirst => ?_
    have hle := hrows row (hitem ▸ Env.mem_of_first hfirst)
    linarith

namespace Sample

def lotLine (q : PositiveAmount) (lot : Id) : LineBody := { line q with lotId := some lot }

/-- Two lots of a returnable item: five units of the first and three of the second are
issued together, and the second lot comes back. -/
def lentOut : List Request :=
  [setUp { requiresBatchTracking := some true, isReturnable := some true },
    postNew 2 .receipts 1 { storeId := some 1, items_valid := by simp, items := [
      { receiptLine five two with lotNumber := some "A" },
      { receiptLine three two with lotNumber := some "B" }] },
    postNew 3 .issues 2 { storeId := some 1, items_valid := by simp, items := [
      lotLine five 1, lotLine three 2] },
    postNew 4 .returns 3 { document (lotLine three 2) with originalIssueId := some 2 }]

/-- The first lot comes back. -/
def firstLotBack : Request :=
  postNew 5 .returns 4 { document (lotLine five 1) with originalIssueId := some 2 }

end Sample

/-- Five units of the first lot are out, and their return is refused: the row that was
recorded for them has been used up by the second lot. -/
theorem custody_refuses :
    Reachable pythonContext (serveAll pythonContext .empty Sample.lentOut) ∧
    (serveAll pythonContext .empty Sample.lentOut).issued 2 1 (some 1) none -
      (serveAll pythonContext .empty Sample.lentOut).returned 2 1 (some 1) none = 5 ∧
    errorOf (Sample.firstLotBack.exec pythonContext
      (serveAll pythonContext .empty Sample.lentOut)) = some (.integrity "custody_quantity") := by
  exact ⟨reachable_serveAll pythonContext Sample.lentOut, by decide +kernel, by decide +kernel⟩

/-- Eight units are issued and three are back, so five are in custody. -/
theorem custody_accounted_lentOut :
    (serveAll pythonContext .empty Sample.lentOut).inCustody 2 1 none = 5 := by
  have hlent : ReachableWhere pythonContext (· = .empty) (Lent 2 1)
      (serveAll pythonContext .empty Sample.lentOut) :=
    ReachableWhere.serveAll (.init rfl) (by decide +kernel)
  rw [(custody_accounted hlent).1 none]
  decide +kernel

end Cestos.Inventory
