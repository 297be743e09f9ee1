import Cestos.Inventory.Journal

/-!
# The serial register

A serial belongs to a serialized item that has been posted, and what has been posted of
such an item names one of its serials. Movements change the place and the status of the
serial they name and nothing else of the register.
-/

namespace Cestos.Inventory

open Cestos.Core Cestos.Core.Decimal

/-! ## Serials and what names them -/

/-- The unit is in stock, whether or not it may be taken. -/
def SerialStatus.held : SerialStatus → Bool
  | .inStock | .reserved | .quarantined => true
  | _ => false

/-- The same unit, maybe in another place or status. -/
structure Serial.Same (s s' : Serial) : Prop where
  id : s'.id = s.id
  item : s'.itemId = s.itemId
  lot : s'.lotId = s.lotId

/-- Where the unit is. -/
def Serial.bucket (s : Serial) : Option Bucket :=
  s.currentStoreId.map fun store => ⟨s.itemId, store, s.currentBinId, s.lotId⟩

/-- Only units that are held are in a store. -/
def Serial.Placed (s : Serial) : Prop := s.status.held = false → s.bucket = none

theorem Serial.bucket_eq_some {s : Serial} {k : Bucket} : s.bucket = some k ↔
    s.itemId = k.itemId ∧ s.currentStoreId = some k.storeId ∧ s.currentBinId = k.binId ∧
      s.lotId = k.lotId := by
  unfold bucket
  cases s.currentStoreId with
  | none => simp
  | some store =>
      cases k
      simp only [Option.map_some, Option.some.injEq, Bucket.mk.injEq]

/-- Something was posted of the item, and it names a serial if and only if the item is
serialized. -/
structure Database.Traced (db : Database) (itemId : Id) (lotId serialId : Option Id) : Prop where
  posted : ∃ tx ∈ db.transactions.rows, tx.itemId = itemId
  item : ∃ item, db.items.find? itemId = some item ∧ item.serialized = serialId.isSome
  serial : ∀ id ∈ serialId, ∃ s, db.serials.find? id = some s ∧ s.itemId = itemId ∧ s.lotId = lotId

/-- What every turn keeps of transactions, serials and items. -/
structure Carried (db db' : Database) : Prop where
  transactions : ∀ tx ∈ db.transactions.rows, tx ∈ db'.transactions.rows
  serials : ∀ id s, db.serials.find? id = some s → ∃ s', db'.serials.find? id = some s' ∧ s.Same s'
  items : ∀ id item, db.items.find? id = some item →
    (∃ tx ∈ db.transactions.rows, tx.itemId = id) →
    ∃ item', db'.items.find? id = some item' ∧ item'.serialized = item.serialized

theorem Database.Traced.carried {db db' : Database} {itemId : Id} {lotId serialId : Option Id}
    (h : db.Traced itemId lotId serialId) (hcarried : Carried db db') :
    db'.Traced itemId lotId serialId := by
  obtain ⟨tx, htx, hitem⟩ := h.posted
  obtain ⟨item, hfind, hserialized⟩ := h.item
  obtain ⟨item', hfind', hsame⟩ := hcarried.items itemId item hfind h.posted
  refine ⟨⟨tx, hcarried.transactions tx htx, hitem⟩, ⟨item', hfind', hsame.trans hserialized⟩, ?_⟩
  intro id hid
  obtain ⟨s, hs, howner, hlot⟩ := h.serial id hid
  obtain ⟨s', hs', halike⟩ := hcarried.serials id s hs
  exact ⟨s', hs', halike.item.trans howner, halike.lot.trans hlot⟩

/-- What holds of the serials between any two turns of any run. -/
structure SerialBook (db : Database) : Prop where
  serials : ∀ s ∈ db.serials.rows, db.Traced s.itemId s.lotId (some s.id)
  transactions : ∀ tx ∈ db.transactions.rows, db.Traced tx.itemId tx.lotId tx.serialId
  reservations : ∀ row ∈ db.reservations.rows, db.Traced row.itemId row.lotId row.serialId
  placed : ∀ s ∈ db.serials.rows, s.Placed
  lines : ∀ id line, db.lines.find? id = some line → line.serialId ≠ none →
    line.normalizedQuantity = 1 ∨
      ∃ doc, db.documents.find? line.documentId = some doc ∧ doc.kind = .receipts
  single : ∀ tx ∈ db.transactions.rows, tx.type = .issue → tx.serialId ≠ none → tx.quantity = 1
  unposted : ∀ k : Bucket, (∀ tx ∈ db.transactions.rows, tx.itemId ≠ k.itemId) →
    ∀ f : BucketField, f.IsQuantity → db.balances k f = 0

theorem SerialBook.empty : SerialBook .empty where
  serials s hs := by cases hs
  transactions tx htx := by cases htx
  reservations row hrow := by cases hrow
  placed s hs := by cases hs
  lines id line hline := by cases hline
  single tx htx := by cases htx
  unposted _ _ _ _ := rfl

/-! ## What a movement does to the serials -/

/-- The serial that a transaction names is new, or it is changed; without one, the item is
not serialized. `before` and `after` are the rows of the serial. -/
inductive Touched (db : Database) (tx : Transaction) (db' : Database) :
    (before after : Option Serial) → Prop
  | without : tx.serialId = none →
      (∃ item, db.items.find? tx.itemId = some item ∧ item.serialized = false) →
      db'.serials = db.serials → Touched db tx db' none none
  | received {s : Serial} : tx.serialId = some s.id → s.itemId = tx.itemId → s.lotId = tx.lotId →
      (∃ item, db.items.find? tx.itemId = some item ∧ item.serialized = true) → s.Placed →
      db.serials.insert? s = some db'.serials → Touched db tx db' none (some s)
  | changed {s s' : Serial} : tx.serialId = some s.id → db.serials.find? s.id = some s →
      s.itemId = tx.itemId → s.lotId = tx.lotId → s.Same s' → s'.Placed →
      db'.serials = db.serials.set s' → Touched db tx db' (some s) (some s')

section Touching

variable {ctx : Context 28 12} {db db' : Database} {tx : Transaction} {entries : List LedgerEntry}
  {before after : Option Serial}

theorem Touched.serials (h : Touched db tx db' before after) (id : Id) (s : Serial)
    (hs : db.serials.find? id = some s) : ∃ s', db'.serials.find? id = some s' ∧ s.Same s' := by
  cases h with
  | without _ _ hserials =>
      rw [hserials]
      exact ⟨s, hs, rfl, rfl, rfl⟩
  | received _ _ _ _ _ hins => exact ⟨s, Table.find?_insert?_of_find? hins hs, rfl, rfl, rfl⟩
  | @changed old new _ hold _ _ hsame _ hserials =>
      rw [hserials]
      by_cases hid : new.id = id
      · subst hid
        rw [hsame.id, hold] at hs
        obtain rfl := Option.some.inj hs
        exact ⟨new, Table.find?_set_self (hsame.id ▸ hold), hsame⟩
      · exact ⟨s, (Table.find?_set_ne hid).trans hs, rfl, rfl, rfl⟩

theorem Touched.carried (h : Touched db tx db' before after)
    (hmovement : Movement ctx db tx entries db') : Carried db db' where
  transactions _ hold := (Table.mem_insert? hmovement.inserted.insert).2 (.inl hold)
  serials := h.serials
  items id item hitem _ := ⟨item, by rw [hmovement.items]; exact hitem, rfl⟩

theorem Touched.traced (h : Touched db tx db' before after)
    (hmovement : Movement ctx db tx entries db') (hbook : SerialBook db) :
    db'.Traced tx.itemId tx.lotId tx.serialId := by
  have hposted : ∃ other ∈ db'.transactions.rows, other.itemId = tx.itemId :=
    ⟨tx, (Table.mem_insert? hmovement.inserted.insert).2 (.inr rfl), rfl⟩
  cases h with
  | without hnone hitem _ =>
      refine ⟨hposted, ?_, by simp [hnone]⟩
      rw [hmovement.items, hnone]
      exact hitem
  | @received s hid howner hlot hitem _ hins =>
      refine ⟨hposted, ?_, fun id hmem => ?_⟩
      · rw [hmovement.items, hid]
        exact hitem
      · rw [hid, Option.mem_some_iff] at hmem
        subst hmem
        exact ⟨s, (Table.find?_insert? hins _).trans (if_pos rfl), howner, hlot⟩
  | @changed s s' hid hold howner hlot hsame _ hserials =>
      refine ⟨hposted, ?_, fun id hmem => ?_⟩
      · have htraced := (hbook.serials s (Table.mem_of_find? hold)).item
        rw [howner] at htraced
        rw [hmovement.items, hid]
        exact htraced
      · rw [hid, Option.mem_some_iff] at hmem
        subst hmem
        refine ⟨s', ?_, hsame.item.trans howner, hsame.lot.trans hlot⟩
        rw [hserials]
        have hold' : db.serials.find? s'.id = some s := hsame.id ▸ hold
        rw [← hsame.id]
        exact Table.find?_set_self hold'

/-- Every serial afterwards is an old one, maybe changed, or named by the transaction. -/
theorem Touched.of_mem (h : Touched db tx db' before after) {s : Serial}
    (hs : s ∈ db'.serials.rows) :
    s ∈ db.serials.rows ∨ s.Placed ∧ tx.serialId = some s.id ∧ s.itemId = tx.itemId ∧
      s.lotId = tx.lotId := by
  cases h with
  | without _ _ hserials =>
      rw [hserials] at hs
      exact .inl hs
  | received hid howner hlot _ hplaced hins =>
      rcases (Table.mem_insert? hins).1 hs with hold | rfl
      · exact .inl hold
      · exact .inr ⟨hplaced, hid, howner, hlot⟩
  | changed hid _ howner hlot hsame hplaced hserials =>
      rw [hserials] at hs
      rcases Table.mem_set.1 hs with ⟨hold, _⟩ | ⟨rfl, _⟩
      · exact .inl hold
      · exact .inr ⟨hplaced, hsame.id ▸ hid, hsame.item.trans howner, hsame.lot.trans hlot⟩

/-- What a table of serials sums up changes by the row of the serial. -/
theorem Touched.sum (h : Touched db tx db' before after) (f : Serial → ℚ) :
    db'.serials.sum f = db.serials.sum f - before.elim 0 f + after.elim 0 f := by
  cases h with
  | without _ _ hserials =>
      rw [hserials]
      simp
  | @received s _ _ _ _ _ hins =>
      rw [Table.sum_insert? f hins]
      simp
  | @changed s s' _ hold _ _ hsame _ hserials =>
      have hold' : db.serials.find? s'.id = some s := hsame.id ▸ hold
      have hset := Table.sum_set (r := s') f hold'
      rw [hserials, hset]
      simp

end Touching

end Cestos.Inventory
