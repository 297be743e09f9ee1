import Cestos.Procurement.Orders

/-!
# Accepted receipts

A receipt writes the quantity it computed from the quantity it read. Nothing is lost as
long as the lines it adds to are, when it commits, what they were when it read them.
-/

namespace Cestos.Procurement

open Cestos.Core Cestos.Core.Decimal

variable {ctx : Context 28 12} {db : Database} {f : Flush}

@[simp] theorem totalFor_append (a b : List (Id × ℚ)) (id : Id) :
    totalFor (a ++ b) id = totalFor a id + totalFor b id := by
  simp [totalFor]

/-- What the loop leaves in memory of a line. -/
def LoadedItem.Computed (ctx : Context 28 12) (receipts : ItemReceipts) (l : LoadedItem) : Prop :=
  match receipts.lookup l.item.id with
  | none => l.quantityReceived = l.item.quantityReceived
  | some qtyAdd => 0 ≤ qtyAdd ∧ ctx.add l.item.quantityReceived qtyAdd ≤ l.item.quantityOrdered ∧
      l.quantityReceived = ctx.add l.item.quantityReceived qtyAdd

theorem receiveItem_spec {receipts : ItemReceipts} {item : PurchaseOrderItem} {l : LoadedItem}
    (h : receiveItem ctx receipts item = .ok l) : l.item = item ∧ l.Computed ctx receipts := by
  unfold receiveItem at h
  split at h
  · next hlookup =>
    obtain rfl := Except.ok.inj h
    exact ⟨rfl, by simp [LoadedItem.Computed, hlookup]⟩
  · next qtyAdd hlookup =>
    simp only [ensure_bind_eq_ok, Except.ok.injEq, not_or, not_lt] at h
    obtain ⟨⟨hpos, hle⟩, rfl⟩ := h
    exact ⟨rfl, by simp [LoadedItem.Computed, hlookup, hpos, hle]⟩

theorem add_eq_of_le {x y : ℚ} {bound : Column 14 2} (hx : 0 ≤ x) (hy : 0 ≤ y)
    (hle : ctx.add x y ≤ bound) (hgx : OnGrid 2 x) (hgy : OnGrid 2 y) : ctx.add x y = x + y := by
  have hmax := (abs_lt.1 bound.2.2).2
  have hkeep : ctx.round (10 ^ 12) = 10 ^ 12 :=
    ctx.keeps _ (by exact_mod_cast OnGrid.intCast 12 (10 ^ (12 : ℕ))) (by norm_num)
  have hsum : x + y < 10 ^ 12 := ctx.lt_of_round_lt hkeep (hle.trans_lt (by simpa using hmax))
  refine Column.add_eq ctx (by omega) (by omega) hgx hgy (p := 14) ?_
  rw [abs_of_nonneg (add_nonneg hx hy)]
  exact hsum.le.trans (by norm_num)

/-! ## What a flush writes and records -/

/-- A flush records for a loaded line what the request names for it, and nothing else. -/
theorem Flush.total_recorded (hdistinct : (f.lines.map (·.item.id)).Nodup) (id : Id) :
    totalFor f.recorded id = match f.loaded id with
      | none => 0
      | some _ => (f.receipts.lookup id).getD 0 := by
  obtain ⟨order, receipts, lines⟩ := f
  unfold recorded loaded totalFor
  dsimp only at hdistinct ⊢
  induction lines with
  | nil => simp
  | cons l lines ih =>
      rw [List.map_cons, List.nodup_cons] at hdistinct
      have hrest := ih hdistinct.2
      by_cases hl : l.item.id = id
      · have habsent : lines.find? (fun u => u.item.id = id) = none := by
          refine List.find?_eq_none.2 fun u hu => ?_
          simp only [decide_eq_true_eq]
          exact fun hid => hdistinct.1 (hl ▸ hid ▸ List.mem_map_of_mem hu)
        rw [habsent] at hrest
        cases hlookup : receipts.lookup id with
        | none => simpa [List.filterMap_cons, List.find?_cons, hl, hlookup] using hrest
        | some qtyAdd => simpa [List.filterMap_cons, List.find?_cons, hl, hlookup] using hrest
      · cases hlookup : receipts.lookup l.item.id with
        | none => simpa [List.filterMap_cons, List.find?_cons, hl, hlookup] using hrest
        | some qtyAdd => simpa [List.filterMap_cons, List.find?_cons, hl, hlookup] using hrest

theorem Flush.mem_of_loaded {id : Id} {l : LoadedItem} (h : f.loaded id = some l) :
    l ∈ f.lines ∧ l.item.id = id :=
  ⟨List.mem_of_find?_eq_some h, by simpa using List.find?_some h⟩

/-! ## The invariant -/

/-- Quantities are in range and add up. -/
structure Database.Kept (db : Database) : Prop where
  onGrid : ∀ row ∈ db.items.rows, OnGrid 2 row.quantityReceived
  nonneg : ∀ row ∈ db.items.rows, 0 ≤ row.quantityReceived
  total : ∀ row ∈ db.items.rows, row.quantityReceived = totalFor db.accepted row.id
  bound : ∀ row ∈ db.items.rows, row.quantityReceived ≤ row.quantityOrdered

/-- What a receipt has in memory fits the order. -/
structure Flush.Fits (ctx : Context 28 12) (db : Database) (f : Flush) : Prop where
  distinct : (f.lines.map (·.item.id)).Nodup
  computed : ∀ l ∈ f.lines, l.Computed ctx f.receipts
  onGrid : ∀ l ∈ f.lines, OnGrid 2 l.item.quantityReceived
  nonneg : ∀ l ∈ f.lines, 0 ≤ l.item.quantityReceived
  bound : ∀ l ∈ f.lines, l.item.quantityReceived ≤ l.item.quantityOrdered
  ordered : ∀ l ∈ f.lines, ∀ row ∈ db.items.rows, row.id = l.item.id →
    row.quantityOrdered = l.item.quantityOrdered

def Receiving.Fits (ctx : Context 28 12) (db : Database) : Receiving → Prop
  | .flushing f => f.Fits ctx db
  | _ => True

/-- The receipt adds whole hundredths, and the lines it adds to have not changed since it
read them. -/
def Receiving.Undisturbed (db : Database) : Receiving → Prop
  | .flushing f => ∀ l ∈ f.lines, ∀ qtyAdd ∈ f.receipts.lookup l.item.id, qtyAdd ≠ 0 →
      OnGrid 2 qtyAdd ∧
        ∀ row ∈ db.items.find? l.item.id, row.quantityReceived = l.item.quantityReceived
  | _ => True

instance (db : Database) : DecidablePred (Receiving.Undisturbed db)
  | .flushing _ => inferInstanceAs (Decidable (∀ _ ∈ _, ∀ _ ∈ _, _))
  | .called _ _ | .orderRead _ _ => .isTrue trivial

theorem Flush.fits_of_receiveGoods (hkept : db.Kept) {po : PurchaseOrder}
    {p : PurchaseOrderItem → Bool} {receipts : ItemReceipts}
    (h : receiveGoods ctx po (db.items.rows.filter p) receipts = .ok f) : f.Fits ctx db := by
  simp only [receiveGoods, ensure_bind_eq_ok] at h
  obtain ⟨-, -, hloop⟩ := h
  obtain ⟨lines, hlines, hf⟩ := bind_eq_ok.1 hloop
  obtain rfl := Except.ok.inj hf
  have hitems : lines.map (·.item) = db.items.rows.filter p :=
    map_of_mapM hlines fun _ _ hl => (receiveItem_spec hl).1
  have hcomputed : ∀ l ∈ lines, l.Computed ctx receipts :=
    forall_of_mapM hlines fun _ _ _ hl => (receiveItem_spec hl).2
  have hmem : ∀ l ∈ lines, l.item ∈ db.items.rows := fun l hl =>
    List.mem_of_mem_filter (hitems ▸ List.mem_map_of_mem hl)
  refine ⟨?_, hcomputed, fun l hl => hkept.onGrid _ (hmem l hl),
    fun l hl => hkept.nonneg _ (hmem l hl), fun l hl => hkept.bound _ (hmem l hl), ?_⟩
  · have hids : lines.map (·.item.id) = (db.items.rows.filter p).map (·.id) := by
      rw [← hitems, List.map_map]
      rfl
    exact hids ▸ db.items.nodup.sublist (List.filter_sublist.map _)
  · intro l hl row hrow hid
    rw [db.items.key_injective hrow (hmem l hl) hid]

/-- A flush of lines that have not changed adds to every line what it records for it. -/
theorem Flush.Fits.added (h : f.Fits ctx db) (hkept : db.Kept)
    (hcond : Receiving.Undisturbed db (.flushing f)) {row : PurchaseOrderItem}
    (hrow : row ∈ db.items.rows) :
    (f.updateItem row).quantityReceived = row.quantityReceived + totalFor f.recorded row.id ∧
      0 ≤ totalFor f.recorded row.id ∧
      (f.updateItem row).quantityReceived ≤ row.quantityOrdered := by
  have hgrid := hkept.onGrid row hrow
  have hbound := hkept.bound row hrow
  rw [Flush.total_recorded h.distinct]
  unfold updateItem written
  cases hloaded : f.loaded row.id with
  | none => simpa using hbound
  | some l =>
      obtain ⟨hl, hid⟩ := mem_of_loaded hloaded
      have hcomputed := h.computed l hl
      have hordered := h.ordered l hl row hrow hid.symm
      unfold LoadedItem.Computed at hcomputed
      rw [hid] at hcomputed
      cases hlookup : f.receipts.lookup row.id with
      | none =>
          rw [hlookup] at hcomputed
          simpa [hcomputed] using hbound
      | some qtyAdd =>
          rw [hlookup] at hcomputed
          obtain ⟨hpos, hle, hnew⟩ := hcomputed
          by_cases hzero : qtyAdd = 0
          · have hread : |l.item.quantityReceived| ≤ 10 ^ (28 - 12) := by
              have hmax := (abs_lt.1 l.item.quantityOrdered.2.2).2
              rw [abs_of_nonneg (h.nonneg l hl)]
              exact (h.bound l hl).trans (hmax.le.trans (by norm_num))
            have hsame : l.quantityReceived = l.item.quantityReceived := by
              rw [hnew, hzero, ctx.add_zero_of_keeps ((h.onGrid l hl).mono (by omega)) hread]
            simpa [hsame, hzero] using hbound
          · obtain ⟨hwhole, hcurrent⟩ := hcond l hl qtyAdd (hid ▸ hlookup) hzero
            have hread := hcurrent row (hid ▸ Table.find?_of_mem hrow)
            rw [← hread] at hnew hle
            have hexact := add_eq_of_le (hkept.nonneg row hrow) hpos hle hgrid hwhole
            rw [hexact] at hnew hle
            have hchanged : l.quantityReceived ≠ l.item.quantityReceived := by
              rw [hnew, ← hread]
              simpa using hzero
            simp only [if_neg hchanged, Option.getD_some]
            refine ⟨?_, hpos, ?_⟩
            · rw [hnew, numeric_of_onGrid (hgrid.add hwhole)]
            · rw [hnew, numeric_of_onGrid (hgrid.add hwhole), hordered]
              exact hle

theorem mem_commit_items {row' : PurchaseOrderItem} :
    row' ∈ (db.commit f).items.rows ↔ ∃ row ∈ db.items.rows, f.updateItem row = row' :=
  List.mem_map

theorem Database.Kept.commit (hkept : db.Kept) (h : f.Fits ctx db)
    (hcond : Receiving.Undisturbed db (.flushing f)) : (db.commit f).Kept := by
  constructor
  · intro row' hrow'
    obtain ⟨row, hrow, rfl⟩ := mem_commit_items.1 hrow'
    unfold Flush.updateItem
    split
    · exact onGrid_numeric 2 _
    · exact hkept.onGrid row hrow
  · intro row' hrow'
    obtain ⟨row, hrow, rfl⟩ := mem_commit_items.1 hrow'
    obtain ⟨hadded, hpos, -⟩ := h.added hkept hcond hrow
    rw [hadded]
    exact add_nonneg (hkept.nonneg row hrow) hpos
  · intro row' hrow'
    obtain ⟨row, hrow, rfl⟩ := mem_commit_items.1 hrow'
    rw [(h.added hkept hcond hrow).1, hkept.total row hrow, Flush.updateItem_id]
    exact (totalFor_append _ _ _).symm
  · intro row' hrow'
    obtain ⟨row, hrow, rfl⟩ := mem_commit_items.1 hrow'
    rw [Flush.updateItem_ordered]
    exact (h.added hkept hcond hrow).2.2

theorem Receiving.Fits.commit {session : Receiving} (h : session.Fits ctx db) :
    session.Fits ctx (db.commit f) := by
  cases session with
  | flushing g =>
      refine ⟨h.distinct, h.computed, h.onGrid, h.nonneg, h.bound, fun l hl row' hrow' hid => ?_⟩
      obtain ⟨row, hrow, rfl⟩ := mem_commit_items.1 hrow'
      rw [Flush.updateItem_id] at hid
      rw [Flush.updateItem_ordered]
      exact h.ordered l hl row hrow hid
  | called poId receipts => trivial
  | orderRead po receipts => trivial

theorem Database.Untouched.kept (h : db.Untouched) : db.Kept := by
  refine ⟨fun row hrow => ?_, fun row hrow => ?_, fun row hrow => ?_, fun row hrow => ?_⟩
  · rw [h.received row hrow]
    exact OnGrid.zero 2
  · rw [h.received row hrow]
  · rw [h.received row hrow, h.accepted]
    rfl
  · rw [h.received row hrow]
    exact h.ordered row hrow

theorem receiving_keeps {others : List Receiving} {session : Receiving} {db' : Database}
    {next : Option Receiving} (hkept : db.Kept) (hsession : session.Fits ctx db)
    (hothers : ∀ u ∈ others, u.Fits ctx db) (hcond : session.Undisturbed db)
    (h : receiving ctx others db session = some (db', next)) :
    Sessions.Keeps Database.Kept (Receiving.Fits ctx) (fun _ _ => True) others db' next := by
  cases session with
  | called poId receipts =>
      have hdb : db = db' ∧ ∀ t ∈ next, t.Fits ctx db' := by
        unfold receiving at h
        dsimp only at h
        split at h
        · obtain ⟨rfl, rfl⟩ := Prod.mk.inj (Option.some.inj h)
          exact ⟨rfl, by simp⟩
        · next po hpo =>
          obtain ⟨rfl, rfl⟩ := Prod.mk.inj (Option.some.inj h)
          refine ⟨rfl, fun t ht => ?_⟩
          split at ht
          · cases ht
          · obtain rfl := Option.some.inj ht
            trivial
      obtain ⟨rfl, hnext⟩ := hdb
      exact ⟨hkept, hnext, hothers, fun _ _ _ _ => trivial⟩
  | orderRead po receipts =>
      unfold receiving at h
      dsimp only at h
      split at h
      · obtain ⟨rfl, rfl⟩ := Prod.mk.inj (Option.some.inj h)
        exact ⟨hkept, by simp, hothers, fun _ _ _ _ => trivial⟩
      · next f hf =>
        obtain ⟨rfl, rfl⟩ := Prod.mk.inj (Option.some.inj h)
        refine ⟨hkept, fun t ht => ?_, hothers, fun _ _ _ _ => trivial⟩
        obtain rfl := Option.some.inj ht
        exact Flush.fits_of_receiveGoods hkept hf
  | flushing f =>
      obtain ⟨rfl, rfl⟩ := Prod.mk.inj (Option.some.inj h)
      exact ⟨hkept.commit hsession hcond, by simp, fun u hu => (hothers u hu).commit,
        fun _ _ _ _ => trivial⟩

/-- As long as no receipt commits over lines that have changed since it read them, every
line has received exactly what was accepted for it, and no more than was ordered. -/
theorem receipts_kept {s : Sessions Database Receiving}
    (h : Receipts ctx (fun _ db session => session.Undisturbed db) s) : s.db.ReceiptsKept := by
  have hholds := h.holds (G := Database.Kept) (L := Receiving.Fits ctx) (R := fun _ _ => True)
    (fun _ _ _ => trivial) (fun _ hdb => hdb.kept)
    (fun db session hcall _ => ⟨by cases session <;> trivial, fun _ => trivial⟩)
    (fun others db session db' next hkept hsession hothers _ hcond hstatement =>
      receiving_keeps hkept hsession (fun u hu => (hothers u hu).1) hcond hstatement)
  exact fun row hrow => ⟨hholds.database.total row hrow, hholds.database.bound row hrow⟩

/-! ## One order, two clients -/

namespace Sample

/-- An approved order of ten units on one line. -/
def ordered : Database where
  orders := ⟨[⟨1, .approved, false⟩], by simp⟩
  items := ⟨[⟨1, 1, none, ⟨10, by decide +kernel⟩, 0⟩], by simp⟩
  accepted := []

theorem ordered_untouched : ordered.Untouched := by
  refine ⟨?_, ?_, rfl⟩ <;> decide +kernel

end Sample

/-- One receipt of four units, without others. -/
theorem receipts_kept_alone : ∃ s : Sessions Database Receiving,
    s.db.accepted = [(1, 4)] ∧ s.db.ReceiptsKept := by
  obtain ⟨s, hs, haccepted⟩ := Sessions.Interleaved.of_play Receiving.IsCall
    (receiving .python) (fun _ db session => session.Undisturbed db) Database.Untouched
    Sample.ordered [.begins (.called 1 [(1, 4)]), .acts 0, .acts 0, .acts 0]
    (p := fun s => s.db.accepted = [(1, 4)]) Sample.ordered_untouched (by decide +kernel)
  exact ⟨s, by simpa using haccepted, receipts_kept hs⟩

/-- Two clients read the line before either commits: of eight units four are recorded. -/
theorem receipts_kept_fails :
    ¬ ∀ s, Receipts .python (fun _ _ _ => True) s → s.db.ReceiptsKept := by
  intro hall
  obtain ⟨s, hs, hlost⟩ := Sessions.Interleaved.of_play Receiving.IsCall
    (receiving .python) (fun _ _ _ => True) Database.Untouched Sample.ordered
    [.begins (.called 1 [(1, 4)]), .begins (.called 1 [(1, 4)]),
      .acts 0, .acts 0, .acts 1, .acts 1, .acts 0, .acts 0]
    (p := fun s => ¬ s.db.ReceiptsKept) Sample.ordered_untouched (by decide +kernel)
  simp only [decide_eq_true_eq] at hlost
  exact hlost (hall s hs)

end Cestos.Procurement
