import Cestos.Inventory.Journal

/-!
# Issues and their returns

What an issue took out and what its returns brought back, as totals over the
transactions. A return names its issue in its document, and that document means the
same for good, so both totals only change by the transaction that is posted.
-/

namespace Cestos.Inventory

open Cestos.Core Cestos.Core.Decimal

/-- The transaction took the item out for the issue. -/
def Transaction.takenFor (tx : Transaction) (issueId itemId : Id) : Prop :=
  tx.type = .issue ∧ tx.referenceId = issueId ∧ tx.itemId = itemId

/-- The transaction brought the item back for the issue. -/
def Database.broughtFor (db : Database) (tx : Transaction) (issueId itemId : Id) : Prop :=
  tx.type = .returnFromEmployee ∧
    (db.document .returns tx.referenceId).any (·.originalIssueId = some issueId) = true ∧
    tx.itemId = itemId

instance (tx : Transaction) (issueId itemId : Id) : Decidable (tx.takenFor issueId itemId) :=
  inferInstanceAs (Decidable (_ ∧ _))

instance (db : Database) (tx : Transaction) (issueId itemId : Id) :
    Decidable (db.broughtFor tx issueId itemId) :=
  inferInstanceAs (Decidable (_ ∧ _))

/-- The quantity of the transactions in `p` that the issue took out. -/
def Database.takenOut (db : Database) (issueId itemId : Id) (p : Transaction → Bool) : ℚ :=
  db.transactions.sum fun tx => if tx.takenFor issueId itemId ∧ p tx then tx.quantity else 0

/-- The quantity of the transactions in `p` that returns of the issue brought back. -/
def Database.broughtBack (db : Database) (issueId itemId : Id) (p : Transaction → Bool) : ℚ :=
  db.transactions.sum fun tx => if db.broughtFor tx issueId itemId ∧ p tx then tx.quantity else 0

/-- The lot and the serial by which `post_line` matches returns with issues. -/
def Transaction.isOf (lotId serialId : Option Id) (tx : Transaction) : Bool :=
  tx.lotId = lotId ∧ tx.serialId = serialId

theorem issued_eq (db : Database) (issueId itemId : Id) (lotId serialId : Option Id) :
    db.issued issueId itemId lotId serialId =
      db.takenOut issueId itemId (Transaction.isOf lotId serialId) := by
  refine Table.sum_congr fun tx _ => if_congr ?_ rfl rfl
  simp only [Transaction.isIssueOf, Transaction.takenFor, Transaction.isOf, decide_eq_true_eq]
  tauto

theorem returned_eq (db : Database) (issueId itemId : Id) (lotId serialId : Option Id) :
    db.returned issueId itemId lotId serialId =
      db.broughtBack issueId itemId (Transaction.isOf lotId serialId) := by
  refine Table.sum_congr fun tx _ => if_congr ?_ rfl rfl
  simp only [Database.isReturnOf, Database.broughtFor, Transaction.isOf, decide_eq_true_eq]
  tauto

/-! ## What a turn adds -/

section Turns

variable {ctx : Context 28 12} {db db' : Database} {tx : Transaction} {issueId itemId : Id}
  {p : Transaction → Bool}

theorem PostedFor.document {kind : DocumentKind} {doc : Document} {line : Line}
    (h : PostedFor db kind tx doc line) : db.document kind tx.referenceId = some doc :=
  Database.document_eq_some.2 ⟨h.reference ▸ h.documentRow, h.kind⟩

theorem PostedFor.broughtFor {doc : Document} {line : Line}
    (h : PostedFor db .returns tx doc line) (htype : tx.type = .returnFromEmployee) :
    db.broughtFor tx issueId itemId ↔ doc.originalIssueId = some issueId ∧ tx.itemId = itemId := by
  simp [Database.broughtFor, htype, h.document]

theorem takenOut_inserted (h : Inserted db.transactions tx db'.transactions) :
    db'.takenOut issueId itemId p = db.takenOut issueId itemId p +
      if tx.takenFor issueId itemId ∧ p tx then tx.quantity else 0 :=
  Table.sum_insert? _ h.insert

theorem Journal.broughtFor_frozen (hjournal : Journal ctx db) (hfrozen : Frozen db db')
    {old : Transaction} (hold : old ∈ db.transactions.rows) :
    db'.broughtFor old issueId itemId ↔ db.broughtFor old issueId itemId := by
  by_cases htype : old.type = .returnFromEmployee
  · obtain ⟨doc, line, hfor⟩ := hjournal.posted old hold .returns (by rw [htype]; rfl)
    obtain ⟨doc', line', hfor', hheader, _⟩ := hfor.frozen (by simp)
      (hfor.posted hold (by rw [htype]; rfl)) hfrozen
    have hissue : doc'.originalIssueId = doc.originalIssueId :=
      congrArg Header.originalIssueId hheader
    rw [hfor.broughtFor htype, hfor'.broughtFor htype, hissue]
  · simp [Database.broughtFor, htype]

theorem broughtBack_same (hjournal : Journal ctx db) (hfrozen : Frozen db db')
    (hsame : db'.transactions = db.transactions) :
    db'.broughtBack issueId itemId p = db.broughtBack issueId itemId p := by
  unfold Database.broughtBack
  rw [hsame]
  refine Table.sum_congr fun old hold => if_congr ?_ rfl rfl
  rw [hjournal.broughtFor_frozen hfrozen hold]

theorem broughtBack_inserted (hjournal : Journal ctx db) (hfrozen : Frozen db db')
    (h : Inserted db.transactions tx db'.transactions) :
    db'.broughtBack issueId itemId p = db.broughtBack issueId itemId p +
      if db'.broughtFor tx issueId itemId ∧ p tx then tx.quantity else 0 := by
  refine Table.sum_insert?_congr h.insert fun old hold => if_congr ?_ rfl rfl
  rw [hjournal.broughtFor_frozen hfrozen hold]

theorem totals_other (issueId itemId : Id) (p : Transaction → Bool) (hjournal : Journal ctx db)
    (hfrozen : Frozen db db') (h : Inserted db.transactions tx db'.transactions)
    (hissue : tx.type ≠ .issue) (hreturn : tx.type ≠ .returnFromEmployee) :
    db'.takenOut issueId itemId p = db.takenOut issueId itemId p ∧
      db'.broughtBack issueId itemId p = db.broughtBack issueId itemId p := by
  rw [takenOut_inserted h, broughtBack_inserted hjournal hfrozen h]
  simp [Transaction.takenFor, Database.broughtFor, hissue, hreturn]

end Turns

end Cestos.Inventory
