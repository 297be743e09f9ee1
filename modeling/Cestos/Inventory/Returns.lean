import Cestos.Inventory.Issues

/-!
# Issues that come back

Two ways lead back into stock: a return document and the reversal of the issue. Each of
them looks at its own history only. As long as neither is used where the other has been
used before, no more comes back than has been taken out.
-/

namespace Cestos.Inventory

open Cestos.Core Cestos.Core.Decimal

/-- The transaction has been reversed. -/
def Database.Reversed (db : Database) (original : Transaction) : Prop :=
  ∃ tx ∈ db.transactions.rows, tx.reversalOfId = some original.id

/-- The transaction reverses one that took the item out for the issue. -/
def Database.reversesIssue (db : Database) (tx : Transaction) (issueId itemId : Id)
    (p : Transaction → Bool) : Prop :=
  tx.type = .reversal ∧ ∃ original ∈ db.transactions.rows,
    tx.reversalOfId = some original.id ∧ original.takenFor issueId itemId ∧ p original

instance (db : Database) (original : Transaction) : Decidable (db.Reversed original) :=
  inferInstanceAs (Decidable (∃ tx ∈ db.transactions.rows, _))

instance (db : Database) (tx : Transaction) (issueId itemId : Id) (p : Transaction → Bool) :
    Decidable (db.reversesIssue tx issueId itemId p) :=
  inferInstanceAs (Decidable (_ ∧ _))

/-- The quantity that reversals of the issue's transactions in `p` brought back. -/
def Database.reversedBack (db : Database) (issueId itemId : Id) (p : Transaction → Bool) : ℚ :=
  db.transactions.sum fun tx => if db.reversesIssue tx issueId itemId p then tx.quantity else 0

/-- A return is for an issue line that has not been reversed, a reversal for an issue line
of which nothing has been returned. -/
def OneWayBack : CallCondition := fun _ db c =>
  match c with
  | .postLine .returns doc line _ => ∀ issueId ∈ doc.originalIssueId,
    ∀ original ∈ db.transactions.rows,
      original.isIssueOf issueId line.itemId line.lotId line.serialId → ¬ db.Reversed original
  | .reverse id => ∀ original ∈ db.transactions.find? id, original.type = .issue →
    ∀ tx ∈ db.transactions.rows,
      ¬ db.isReturnOf tx original.referenceId original.itemId original.lotId original.serialId
  | _ => True

instance (env : Env) (db : Database) (c : Call) : Decidable (OneWayBack env db c) := by
  unfold OneWayBack
  split <;> exact inferInstance

/-! ## Reversals -/

/-- Every reversal is that of a transaction, and what the reversals of an issue brought
back is what its reversed transactions took out. -/
structure Reversals (db : Database) : Prop where
  positive : ∀ tx ∈ db.transactions.rows, 0 < tx.quantity
  original : ∀ tx ∈ db.transactions.rows, ∀ id ∈ tx.reversalOfId,
    ∃ original ∈ db.transactions.rows, original.id = id
  sums : ∀ issueId itemId p, db.reversedBack issueId itemId p =
    db.takenOut issueId itemId (fun tx => p tx && decide (db.Reversed tx))

section Turns

variable {ctx : Context 28 12} {env : Env} {db db' : Database} {tx original : Transaction}
  {issueId itemId : Id} {p : Transaction → Bool}

theorem reversesIssue_old (h : Reversals db) (hinserted : Inserted db.transactions tx db'.transactions)
    {old : Transaction} (hold : old ∈ db.transactions.rows) :
    db'.reversesIssue old issueId itemId p ↔ db.reversesIssue old issueId itemId p := by
  have hrows := fun tx => Table.mem_insert? (s := tx) hinserted.insert
  refine and_congr_right fun _ => ⟨?_, ?_⟩
  · rintro ⟨original, hmem, hid, hfor⟩
    rcases (hrows original).1 hmem with hmem | rfl
    · exact ⟨original, hmem, hid, hfor⟩
    · -- the new transaction has an identifier that nothing refers to yet
      obtain ⟨other, hother, heq⟩ := h.original old hold original.id hid
      exact absurd heq (Table.insert?_fresh hinserted.insert hother)
  · rintro ⟨original, hmem, hid, hfor⟩
    exact ⟨original, (hrows original).2 (.inl hmem), hid, hfor⟩

theorem reversedBack_inserted (h : Reversals db)
    (hinserted : Inserted db.transactions tx db'.transactions) :
    db'.reversedBack issueId itemId p = db.reversedBack issueId itemId p +
      if db'.reversesIssue tx issueId itemId p then tx.quantity else 0 := by
  refine Table.sum_insert?_congr hinserted.insert fun old hold => if_congr ?_ rfl rfl
  exact reversesIssue_old h hinserted hold

theorem not_reversed_new (h : Reversals db)
    (hinserted : Inserted db.transactions tx db'.transactions) (hself : tx.reversalOfId ≠ some tx.id) :
    ¬ db'.Reversed tx := by
  rintro ⟨other, hother, hid⟩
  rcases (Table.mem_insert? hinserted.insert).1 hother with hold | rfl
  · obtain ⟨named, hnamed, heq⟩ := h.original other hold tx.id hid
    exact Table.insert?_fresh hinserted.insert hnamed heq
  · exact hself hid

theorem reversed_old (hinserted : Inserted db.transactions tx db'.transactions)
    (old : Transaction) :
    db'.Reversed old ↔ db.Reversed old ∨ tx.reversalOfId = some old.id := by
  have hrows := fun tx => Table.mem_insert? (s := tx) hinserted.insert
  constructor
  · rintro ⟨other, hother, hid⟩
    rcases (hrows other).1 hother with hother | rfl
    · exact .inl ⟨other, hother, hid⟩
    · exact .inr hid
  · rintro (⟨other, hother, hid⟩ | hid)
    · exact ⟨other, (hrows other).2 (.inl hother), hid⟩
    · exact ⟨tx, (hrows tx).2 (.inr rfl), hid⟩

theorem Reversals.of_fresh (h : Reversals db)
    (hinserted : Inserted db.transactions tx db'.transactions) (hnone : tx.reversalOfId = none)
    (htype : tx.type ≠ .reversal) : Reversals db' ∧
      ∀ issueId itemId p, db'.reversedBack issueId itemId p = db.reversedBack issueId itemId p := by
  have hrows := fun tx => Table.mem_insert? (s := tx) hinserted.insert
  have hsame : ∀ issueId itemId p,
      db'.reversedBack issueId itemId p = db.reversedBack issueId itemId p := by
    intro issueId itemId p
    rw [reversedBack_inserted h hinserted, if_neg fun hrev => htype hrev.1, add_zero]
  refine ⟨⟨fun other hother => ?_, fun other hother id hid => ?_, fun issueId itemId p => ?_⟩, hsame⟩
  · rcases (hrows other).1 hother with hold | rfl
    · exact h.positive other hold
    · exact hinserted.positive
  · rcases (hrows other).1 hother with hold | rfl
    · obtain ⟨original, horiginal, heq⟩ := h.original other hold id hid
      exact ⟨original, (hrows original).2 (.inl horiginal), heq⟩
    · rw [hnone] at hid
      cases hid
  · have hnew := not_reversed_new h hinserted (by rw [hnone]; simp)
    rw [hsame, h.sums, Database.takenOut, Database.takenOut,
      Table.sum_insert?_congr hinserted.insert (g := fun t =>
        if t.takenFor issueId itemId ∧ (p t && decide (db'.Reversed t)) then t.quantity else 0)
        fun old _ => ?_, if_neg (by simp [hnew]), add_zero]
    simp only [reversed_old hinserted old, hnone, reduceCtorEq, or_false]

theorem ReversalPosted.reversals (hposted : ReversalPosted ctx env db original tx db')
    (h : Reversals db) : Reversals db' ∧ ∀ issueId itemId p,
      db'.reversedBack issueId itemId p = db.reversedBack issueId itemId p +
        if original.takenFor issueId itemId ∧ p original then original.quantity else 0 := by
  have hinserted := hposted.movement.inserted
  have hrows := fun tx => Table.mem_insert? (s := tx) hinserted.insert
  have hmem := Table.mem_of_find? hposted.found
  have hof : tx.reversalOfId = some original.id := by rw [hposted.row]; rfl
  have htype : tx.type = .reversal := by rw [hposted.row]; rfl
  have hquantity : tx.quantity = original.quantity := by rw [hposted.row]; rfl
  have hback : ∀ issueId itemId p, db'.reversedBack issueId itemId p =
      db.reversedBack issueId itemId p +
        if original.takenFor issueId itemId ∧ p original then original.quantity else 0 := by
    intro issueId itemId p
    rw [reversedBack_inserted h hinserted, hquantity]
    congr 1
    refine if_congr ⟨?_, fun hfor => ⟨htype, original, (hrows _).2 (.inl hmem), hof, hfor⟩⟩ rfl rfl
    rintro ⟨_, named, hnamed, hid, hfor⟩
    rw [hof] at hid
    have hsame : named = original :=
      db'.transactions.key_injective hnamed ((hrows _).2 (.inl hmem)) (Option.some.inj hid).symm
    exact hsame ▸ hfor
  refine ⟨⟨fun other hother => ?_, fun other hother id hid => ?_, fun issueId itemId p => ?_⟩, hback⟩
  · rcases (hrows other).1 hother with hold | rfl
    · exact h.positive other hold
    · exact hinserted.positive
  · rcases (hrows other).1 hother with hold | rfl
    · obtain ⟨named, hnamed, heq⟩ := h.original other hold id hid
      exact ⟨named, (hrows named).2 (.inl hnamed), heq⟩
    · rw [hof] at hid
      exact ⟨original, (hrows _).2 (.inl hmem), Option.some.inj hid⟩
  · -- only the original counts as reversed now and did not before
    have hbefore : ¬ db.Reversed original := fun ⟨other, hother, hid⟩ =>
      hposted.unreversed other hother hid
    have hnow : db'.Reversed original := (reversed_old hinserted original).2 (.inr hof)
    have hnew : ¬ tx.takenFor issueId itemId := by
      rintro ⟨hissue, _⟩
      rw [htype] at hissue
      cases hissue
    let counts := fun (db : Database) (t : Transaction) =>
      if t.takenFor issueId itemId ∧ (p t && decide (db.Reversed t)) = true then t.quantity else 0
    have hinsert : db'.takenOut issueId itemId (fun t => p t && decide (db'.Reversed t)) =
        db.transactions.sum (counts db') + counts db' tx :=
      Table.sum_insert? (counts db') hinserted.insert
    have hchange : db.transactions.sum (counts db') =
        db.transactions.sum (counts db) - counts db original + counts db' original := by
      refine Table.sum_change hmem fun old _ hne => ?_
      have hsame : db'.Reversed old ↔ db.Reversed old := by
        rw [reversed_old hinserted old, hof, Option.some.injEq]
        exact or_iff_left (Ne.symm hne)
      simp only [counts, hsame]
    have hzero : counts db' tx = 0 ∧ counts db original = 0 := by
      simp [counts, hnew, hbefore]
    rw [hback, h.sums, hinsert, hchange, hzero.1, hzero.2]
    simp only [counts, hnow, decide_true, Bool.and_true, sub_zero, add_zero]
    rfl

theorem Turn.reversals {cond : CallCondition} (hturn : Turn ctx env cond db db')
    (h : Reversals db) : Reversals db' := by
  rcases hturn.written with ⟨hsame, _⟩ | ⟨tx, entries, hwritten⟩
  · refine ⟨by rw [hsame]; exact h.positive, by rw [hsame]; exact h.original, ?_⟩
    simp only [Database.reversedBack, Database.takenOut, Database.reversesIssue, Database.Reversed,
      hsame]
    exact h.sums
  · rcases hwritten.reversal with ⟨hnone, htype⟩ | ⟨_, _, hposted⟩
    · exact (h.of_fresh hwritten.movement.inserted hnone htype).1
    · exact (hposted.reversals h).1

end Turns

theorem Reversals.empty : Reversals .empty where
  positive tx htx := by cases htx
  original tx htx := by cases htx
  sums _ _ _ := rfl

theorem Passes.reversals {ctx : Context 28 12} {cond : CallCondition} {db : Database}
    (h : Passes ctx (· = .empty) cond db) : Reversals db :=
  h.invariant (fun db (hdb : db = .empty) => hdb ▸ Reversals.empty)
    fun _ _ _ _ hdb hturn => hturn.reversals hdb

/-! ## No more comes back than went out -/

/-- For every lot and serial: returned and reversed together are at most taken out. -/
def NoSurplus (db : Database) : Prop :=
  ∀ issueId itemId lotId serialId,
    db.broughtBack issueId itemId (Transaction.isOf lotId serialId) +
        db.reversedBack issueId itemId (Transaction.isOf lotId serialId) ≤
      db.takenOut issueId itemId (Transaction.isOf lotId serialId)

theorem takenOut_mono {db : Database} {issueId itemId : Id} {p p' : Transaction → Bool}
    (h : Reversals db) (hp : ∀ tx, p tx = true → p' tx = true) :
    db.takenOut issueId itemId p ≤ db.takenOut issueId itemId p' := by
  refine List.sum_le_sum fun tx htx => ?_
  have hpositive := h.positive tx htx
  by_cases hfor : tx.takenFor issueId itemId ∧ p tx = true
  · rw [if_pos hfor, if_pos ⟨hfor.1, hp tx hfor.2⟩]
  · rw [if_neg hfor]
    split
    · exact hpositive.le
    · exact le_refl 0

section Calls

variable {ctx : Context 28 12} {env : Env} {db db' : Database} {tx : Transaction}

theorem NoSurplus.of_plain (h : NoSurplus db) (hjournal : Journal ctx db) (hfrozen : Frozen db db')
    (hreversals : Reversals db) (hinserted : Inserted db.transactions tx db'.transactions)
    (hnone : tx.reversalOfId = none) (htype : tx.type ≠ .reversal)
    (hreturn : tx.type ≠ .returnFromEmployee) : NoSurplus db' := by
  intro issueId itemId lotId serialId
  have hbound := h issueId itemId lotId serialId
  have hpositive := hinserted.positive
  rw [takenOut_inserted hinserted, broughtBack_inserted hjournal hfrozen hinserted,
    (hreversals.of_fresh hinserted hnone htype).2, if_neg fun hfor => hreturn hfor.1.1]
  split <;> linarith

theorem NoSurplus.of_return {m : Move} {original : Document} (h : NoSurplus db)
    (hjournal : Journal ctx db) (hfrozen : Frozen db db') (hreversals : Reversals db)
    (hinserted : Inserted db.transactions tx db'.transactions)
    (htype : tx.type = .returnFromEmployee) (hnone : tx.reversalOfId = none)
    (hitem : tx.itemId = m.item.id) (hlot : tx.lotId = m.line.lotId)
    (hserial : tx.serialId = m.line.serialId) (hquantity : tx.quantity = m.q)
    (hfor : ∀ i j, db'.broughtFor tx i j ↔ original.id = i ∧ tx.itemId = j)
    (hwithin : ¬ (db.issued original.id m.item.id m.line.lotId m.line.serialId = 0 ∨
      db.issued original.id m.item.id m.line.lotId m.line.serialId <
        m.q + db.returned original.id m.item.id m.line.lotId m.line.serialId))
    (honeWay : ∀ taken ∈ db.transactions.rows,
      taken.isIssueOf original.id m.item.id m.line.lotId m.line.serialId → ¬ db.Reversed taken) :
    NoSurplus db' := by
  intro issueId itemId lotId serialId
  have hbound := h issueId itemId lotId serialId
  have htaken : db'.takenOut issueId itemId (Transaction.isOf lotId serialId) =
      db.takenOut issueId itemId (Transaction.isOf lotId serialId) := by
    rw [takenOut_inserted hinserted, if_neg (by simp [Transaction.takenFor, htype]), add_zero]
  rw [htaken, broughtBack_inserted hjournal hfrozen hinserted,
    (hreversals.of_fresh hinserted hnone (by rw [htype]; decide)).2]
  by_cases hkey : db'.broughtFor tx issueId itemId ∧ Transaction.isOf lotId serialId tx = true
  · -- nothing of what is returned has been reversed, and the guard has seen the returns
    obtain ⟨hthis, hof⟩ := hkey
    obtain ⟨rfl, rfl⟩ := (hfor _ _).1 hthis
    simp only [Transaction.isOf, hlot, hserial, decide_eq_true_eq] at hof
    obtain ⟨rfl, rfl⟩ := hof
    rw [hitem] at hthis hbound ⊢
    have hnever : db.reversedBack original.id m.item.id
        (Transaction.isOf m.line.lotId m.line.serialId) = 0 := by
      rw [hreversals.sums]
      refine List.sum_eq_zero fun x hx => ?_
      obtain ⟨taken, hmem, rfl⟩ := List.mem_map.1 hx
      refine if_neg fun hcount => ?_
      simp only [Transaction.isOf, Bool.and_eq_true, decide_eq_true_eq] at hcount
      obtain ⟨⟨hissue, href, hitem'⟩, ⟨hlot', hserial'⟩, hreversed⟩ := hcount
      exact honeWay taken hmem ⟨href, hitem', hlot', hserial', hissue⟩ hreversed
    rw [not_or, not_lt, issued_eq, returned_eq] at hwithin
    rw [if_pos ⟨hthis, by simp [Transaction.isOf, hlot, hserial]⟩, hnever, hquantity]
    linarith [hwithin.2]
  · rw [if_neg hkey, add_zero]
    exact hbound

theorem NoSurplus.of_reversal {original : Transaction} (h : NoSurplus db)
    (hjournal : Journal ctx db) (hfrozen : Frozen db db') (hreversals : Reversals db)
    (hposted : ReversalPosted ctx env db original tx db')
    (honeWay : original.type = .issue → ∀ tx ∈ db.transactions.rows,
      ¬ db.isReturnOf tx original.referenceId original.itemId original.lotId original.serialId) :
    NoSurplus db' := by
  intro issueId itemId lotId serialId
  have hbound := h issueId itemId lotId serialId
  have hinserted := hposted.movement.inserted
  have htype : tx.type = .reversal := by rw [hposted.row]; rfl
  obtain ⟨hafter, hback⟩ := hposted.reversals hreversals
  have hbrought : db'.broughtBack issueId itemId (Transaction.isOf lotId serialId) =
      db.broughtBack issueId itemId (Transaction.isOf lotId serialId) := by
    rw [broughtBack_inserted hjournal hfrozen hinserted, if_neg fun hfor => ?_, add_zero]
    have hreturn := hfor.1.1
    rw [htype] at hreturn
    cases hreturn
  have htaken : db'.takenOut issueId itemId (Transaction.isOf lotId serialId) =
      db.takenOut issueId itemId (Transaction.isOf lotId serialId) := by
    rw [takenOut_inserted hinserted, if_neg fun hfor => ?_, add_zero]
    have hissue := hfor.1.1
    rw [htype] at hissue
    cases hissue
  by_cases hkey : original.takenFor issueId itemId ∧ Transaction.isOf lotId serialId original = true
  · -- nothing has been returned, and what is reversed has been taken out
    obtain ⟨⟨hissue, rfl, rfl⟩, hof⟩ := hkey
    simp only [Transaction.isOf, decide_eq_true_eq] at hof
    obtain ⟨rfl, rfl⟩ := hof
    have hnever : db.broughtBack original.referenceId original.itemId
        (Transaction.isOf original.lotId original.serialId) = 0 := by
      rw [← returned_eq]
      refine List.sum_eq_zero fun x hx => ?_
      obtain ⟨tx, hmem, rfl⟩ := List.mem_map.1 hx
      exact if_neg (honeWay hissue tx hmem)
    rw [hbrought, hnever, zero_add, hafter.sums]
    exact takenOut_mono hafter fun tx htx => (Bool.and_eq_true_iff.1 htx).1
  · rw [hbrought, hback, if_neg hkey, add_zero, htaken]
    exact hbound

theorem CallPosted.noSurplus {c : Call} (hposted : CallPosted ctx env db c db')
    (honeWay : OneWayBack env db c) (hjournal : Journal ctx db) (hreversals : Reversals db)
    (h : NoSurplus db) : NoSurplus db' := by
  have hfrozen := hposted.frozen
  have hwritten := hposted.written
  cases hposted with
  | @line kind doc line act m mid _ hcurrent _ _ hprepared hmove =>
      have hitem := hprepared.itemId
      have hplain := hprepared.plain
      have hdoc := hprepared.document
      obtain ⟨lots, serials, rfl⟩ := hprepared.frame
      have of_records : ∀ {origin : Origin} {txkind : TransactionType} {cost q : ℚ}
          {tx : Transaction}, Records ctx env db.items origin m.line.entry txkind cost q tx →
          Inserted db.transactions tx db'.transactions → txkind ≠ .reversal →
          txkind ≠ .returnFromEmployee → NoSurplus db' :=
        fun hrecords hinserted htype hreturn => h.of_plain hjournal hfrozen hreversals hinserted
          hrecords.reversalOfId (by rw [hrecords.type]; exact htype)
          (by rw [hrecords.type]; exact hreturn)
      cases hmove with
      | receipt h' =>
          exact of_records h'.records h'.movement.inserted (by cases m.doc.purpose <;> decide)
            (by cases m.doc.purpose <;> decide)
      | issue h' => exact of_records h'.records h'.movement.inserted (by decide) (by decide)
      | @returned _ original cost tx _ h' =>
          obtain ⟨doc', line', hfor', hheader, _⟩ :=
            hprepared.postedFor hcurrent (by simp) (by simp) h'.kept rfl h'.records
          have hissue : doc'.originalIssueId = some original.id :=
            (congrArg Header.originalIssueId hheader).trans h'.issue
          refine h.of_return hjournal hfrozen hreversals h'.movement.inserted h'.records.type
            h'.records.reversalOfId (h'.records.itemId.trans hitem.symm) h'.records.lotId
            h'.records.serialId h'.records.quantity (fun i j => ?_) h'.within ?_
          · rw [hfor'.broughtFor h'.records.type, hissue, Option.some.injEq]
          · rw [hitem, (hplain (by simp)).1]
            exact honeWay original.id (by rw [← hdoc]; exact h'.issue)
      | dispatch h' => exact of_records h'.records h'.movement.inserted (by decide) (by decide)
      | receive h' => exact of_records h'.records h'.movement.inserted (by decide) (by decide)
      | adjustment htxkind _ h' =>
          refine of_records h'.records h'.movement.inserted (adjustmentType_plain htxkind).2.2 ?_
          intro hreturn
          rw [hreturn] at htxkind
          have hline := (adjustmentType_plain htxkind).1
          cases hline
      | count _ _ _ _ h' => exact of_records h'.records h'.movement.inserted (by decide) (by decide)
      | unchanged => exact h
  | reserve h' =>
      exact h.of_plain hjournal hfrozen hreversals h'.movement.inserted h'.records.reversalOfId
        (by rw [h'.records.type]; decide) (by rw [h'.records.type]; decide)
  | release h' =>
      exact h.of_plain hjournal hfrozen hreversals h'.movement.inserted h'.records.reversalOfId
        (by rw [h'.records.type]; decide) (by rw [h'.records.type]; decide)
  | reverse h' =>
      exact h.of_reversal hjournal hfrozen hreversals h' fun hissue =>
        honeWay _ h'.found hissue
  | nothing => exact h

end Calls

theorem Passes.noSurplus {ctx : Context 28 12} {db : Database}
    (h : Passes ctx (· = .empty) OneWayBack db) : NoSurplus db := by
  refine h.invariant (fun db (hdb : db = .empty) => ?_) fun env db db' hpasses hdb hturn => ?_
  · rw [hdb]
    intro _ _ _ _
    simp [Database.broughtBack, Database.reversedBack, Database.takenOut, Database.empty]
  · cases hturn with
    | bookkeeping hbook =>
        intro issueId itemId lotId serialId
        rw [broughtBack_same hpasses.journal hbook.frozen hbook.stock.transactions]
        simp only [Database.reversedBack, Database.takenOut, Database.reversesIssue,
          hbook.stock.transactions]
        exact hdb issueId itemId lotId serialId
    | call hvalid honeWay hrun =>
        exact (Call.posted hvalid hrun).noSurplus honeWay hpasses.journal hpasses.reversals hdb

/-- Of the lot, or of no lot. -/
def Transaction.ofLot (lotId : Option Id) (tx : Transaction) : Bool :=
  tx.lotId = lotId

/-- When every issue comes back in one way only, the returns and the reversals of an issue
never bring back more of an item and lot than the issue has taken out. -/
theorem broughtBack_le_takenOut {ctx : Context 28 12} {db : Database}
    (h : ReachableWhere ctx (· = .empty) OneWayBack db) (issueId itemId : Id) (lotId : Option Id) :
    db.broughtBack issueId itemId (Transaction.ofLot lotId) +
        db.reversedBack issueId itemId (Transaction.ofLot lotId) ≤
      db.takenOut issueId itemId (Transaction.ofLot lotId) := by
  have hpasses := Reachable.passes h
  have hreversals := hpasses.reversals
  have hsurplus := hpasses.noSurplus
  rw [hreversals.sums, Database.broughtBack, Database.takenOut, ← Table.sum_add]
  -- the bound holds for every serial of the lot
  refine Table.sum_le_of_fibers Transaction.serialId fun serialId => ?_
  have hbound := hsurplus issueId itemId lotId serialId
  rw [hreversals.sums, Database.broughtBack, Database.takenOut, ← Table.sum_add] at hbound
  refine (Eq.le ?_).trans (hbound.trans (Eq.le ?_)) <;> refine Table.sum_congr fun tx _ => ?_
  · by_cases hserial : tx.serialId = serialId <;>
      simp [Transaction.ofLot, Transaction.isOf, hserial]
  · by_cases hserial : tx.serialId = serialId <;>
      simp [Transaction.ofLot, Transaction.isOf, hserial]

/-- A posted issue without a reservation and a request, of an item that is not returnable. -/
def Database.Consumed (db : Database) (issueId itemId : Id) : Prop :=
  (∃ issue ∈ db.document .issues issueId, issue.status = .posted ∧
    issue.reservationId = none ∧ issue.requestId = none) ∧
    ∃ item ∈ db.items.find? itemId, item.isReturnable = false

instance (db : Database) (issueId itemId : Id) : Decidable (db.Consumed issueId itemId) :=
  inferInstanceAs (Decidable (_ ∧ _))

namespace Sample

/-- All five units are issued. -/
def issued : List Request :=
  received ++ [postNew 3 .issues 2 (document (line five))]

/-- The issue is reversed, and then its five units are returned. -/
def twiceBack : List Request :=
  issued ++ [⟨env 4, [.reverse 2]⟩,
    postNew 5 .returns 3 { document (line five) with originalIssueId := some 2 }]

end Sample

/-- Five units go out and, as the issue is reversed, come back once. -/
theorem broughtBack_le_takenOut_reversed :
    let db := serveAll pythonContext .empty (Sample.issued ++ [⟨Sample.env 4, [.reverse 2]⟩])
    db.broughtBack 2 1 (Transaction.ofLot none) + db.reversedBack 2 1 (Transaction.ofLot none) ≤
      db.takenOut 2 1 (Transaction.ofLot none) :=
  broughtBack_le_takenOut (ReachableWhere.serveAll (.init rfl) (by decide +kernel)) 2 1 none

/-- A reversed issue can be returned as well: ten units come back for five. -/
theorem broughtBack_le_takenOut_fails :
    ¬ ∀ (db : Database) (issueId itemId : Id) (lotId : Option Id), Reachable pythonContext db →
      db.Consumed issueId itemId →
      db.broughtBack issueId itemId (Transaction.ofLot lotId) +
          db.reversedBack issueId itemId (Transaction.ofLot lotId) ≤
        db.takenOut issueId itemId (Transaction.ofLot lotId) := by
  intro hclaim
  have hbound := hclaim _ 2 1 none (reachable_serveAll pythonContext Sample.twiceBack)
    (by decide +kernel)
  exact absurd hbound (by decide +kernel)

end Cestos.Inventory
