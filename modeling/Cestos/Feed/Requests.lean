import Cestos.Feed.Deadlock

/-!
# An upload and an expense

What two requests write, in their order. An upload flushes its document and then, with the commit,
its audit record. An expense that is linked to a purchase order flushes its audit record together
with the expense, and only after the flush its files are registered in the library.
-/

namespace Cestos.Feed

open Cestos.Core

/-- What a request does to a row of its organization. -/
inductive Change
  | inserted | updated | deleted
  deriving DecidableEq

def Change.write (table : String) (organizationId : Id) : Change → RowWrite
  | .inserted => .insert table (some organizationId)
  | .updated => .update table (some organizationId) (some organizationId)
  | .deleted => .delete table (some organizationId)

@[simp] theorem Change.table_write (table : String) (organizationId : Id) (c : Change) :
    (c.write table organizationId).table = table := by
  cases c <;> rfl

@[simp] theorem Change.organizations_write (table : String) (organizationId : Id) (c : Change) :
    (c.write table organizationId).organizations = [organizationId] := by
  cases c <;> simp [write, RowWrite.organizations, RowWrite.oldOrg, RowWrite.newOrg]

def libraryDocuments : String := "library_documents"

def auditLogs : String := "audit_logs"

/-- `upload`: the document is new, or an import is replaced. -/
def upload (organizationId : Id) (existingImport : Bool) : List RowWrite :=
  [(if existingImport then Change.updated else Change.inserted).write libraryDocuments
    organizationId, Change.inserted.write auditLogs organizationId]

/-- The purchase order that an expense is linked to: whether its row changes, its lines, and the
entry of its attachment in the library, if it has one. -/
structure LinkedOrder where
  changed : Bool
  lines : List Change
  attachment : Option Change

/-- What `create_expense` finds. -/
structure CreateExpense where
  organizationId : Id
  /-- What the payee and `ensure_vendor` write, by table. -/
  vendor : List (String × Change)
  vendor_tables : ∀ w ∈ vendor,
    w.1 ∈ ["operational_payees", "business_counters", "suppliers", "fuel_suppliers"]
  purchaseOrder : Option LinkedOrder
  invoice : Bool
  /-- The alerts, each with an e-mail or without. -/
  alerts : List Bool

/-- The rows of the last flush, in an order that the unit of work may choose. -/
def CreateExpense.pending (r : CreateExpense) : List (String × Change) :=
  (match r.purchaseOrder with
    | none => []
    | some order =>
      (if order.changed then [("purchase_orders", .updated)] else []) ++
        order.lines.map (fun line => ("purchase_order_items", line)) ++ [(auditLogs, .inserted)]) ++
  [("operational_expenses", .inserted)]

/-- `register_sources`, after the flush: the attachment of the purchase order, and the invoice. -/
def CreateExpense.catalog (r : CreateExpense) : List (String × Change) :=
  (match r.purchaseOrder with
    | none => []
    | some order => order.attachment.toList.map fun entry => (libraryDocuments, entry)) ++
  if r.invoice then [(libraryDocuments, .inserted)] else []

def CreateExpense.told (r : CreateExpense) : List (String × Change) :=
  r.alerts.flatMap fun mailed =>
    ("notifications", .inserted) :: if mailed then [("email_deliveries", .inserted)] else []

/-- `create_expense`, with the rows of its last flush in the order `flushed`. -/
def CreateExpense.writes (r : CreateExpense) (flushed : List (String × Change)) : List RowWrite :=
  (r.vendor ++ flushed ++ r.catalog ++ r.told).map fun w => w.2.write w.1 r.organizationId

/-! ## Where they wait for each other -/

variable {schema : Schema} {db : Database} {organizationId : Id} {r : CreateExpense}
  {flushed : List (String × Change)}

theorem touched_writes (schema : Schema) (organizationId : Id) (ws : List (String × Change)) :
    touched schema (ws.map fun w => w.2.write w.1 organizationId) =
      (ws.filter fun w => schema.Tracks w.1).map fun w => (organizationId, w.1) := by
  induction ws with
  | nil => rfl
  | cons w ws ih =>
      rw [List.map_cons, touched, List.flatMap_cons, List.filter_cons]
      show RowWrite.keys schema _ ++ touched schema _ = _
      rw [ih, RowWrite.keys, Change.table_write, Change.organizations_write]
      by_cases htracks : schema.Tracks w.1 <;> simp [htracks]

/-- Before its flush is over, an expense writes nothing to the library. -/
theorem CreateExpense.not_library {w : String × Change} (hperm : flushed.Perm r.pending)
    (hw : w ∈ r.vendor ++ flushed ++ r.told) : w.1 ≠ libraryDocuments := by
  rcases List.mem_append.1 hw with hw | htold
  · rcases List.mem_append.1 hw with hvendor | hflushed
    · intro heq
      have htable := r.vendor_tables w hvendor
      rw [heq] at htable
      revert htable
      decide
    · have hpending := hperm.mem_iff.1 hflushed
      unfold CreateExpense.pending at hpending
      rcases List.mem_append.1 hpending with horder | hexpense
      · split at horder
        · cases horder
        · rcases List.mem_append.1 horder with hrows | haudit
          · rcases List.mem_append.1 hrows with hchanged | hline
            · split at hchanged
              · rw [List.mem_singleton.1 hchanged]
                decide
              · cases hchanged
            · obtain ⟨line, -, rfl⟩ := List.mem_map.1 hline
              show "purchase_order_items" ≠ libraryDocuments
              decide
          · rw [List.mem_singleton.1 haudit]
            decide
      · rw [List.mem_singleton.1 hexpense]
        decide
  · obtain ⟨mailed, -, halert⟩ := List.mem_flatMap.1 htold
    rcases List.mem_cons.1 halert with rfl | hmail
    · show "notifications" ≠ libraryDocuments
      decide
    · split at hmail
      · rw [List.mem_singleton.1 hmail]
        decide
      · cases hmail

theorem CreateExpense.catalog_library {w : String × Change} (hw : w ∈ r.catalog) :
    w.1 = libraryDocuments := by
  unfold CreateExpense.catalog at hw
  rcases List.mem_append.1 hw with hattachment | hinvoice
  · split at hattachment
    · cases hattachment
    · obtain ⟨entry, -, rfl⟩ := List.mem_map.1 hattachment
      rfl
  · split at hinvoice
    · rw [List.mem_singleton.1 hinvoice]
    · cases hinvoice

theorem CreateExpense.audit_mem (hperm : flushed.Perm r.pending)
    (horder : r.purchaseOrder.isSome = true) : (auditLogs, .inserted) ∈ flushed := by
  obtain ⟨order, horder⟩ := Option.isSome_iff_exists.1 horder
  refine hperm.mem_iff.2 (List.mem_append_left _ ?_)
  rw [horder]
  exact List.mem_append_right _ (List.mem_singleton_self _)

theorem touched_upload (existingImport : Bool) (hlibrary : schema.Tracks libraryDocuments)
    (haudit : schema.Tracks auditLogs) :
    touched schema (upload organizationId existingImport) =
      [(organizationId, libraryDocuments), (organizationId, auditLogs)] := by
  have hwrites := touched_writes schema organizationId
    [(libraryDocuments, if existingImport then .updated else .inserted), (auditLogs, .inserted)]
  simp only [List.filter, hlibrary, haudit, decide_true, List.map_cons, List.map_nil] at hwrites
  exact hwrites

/-- The upload holds the library when it comes to the audit, the expense the other way round. -/
theorem crossing_upload (existingImport : Bool) (hlibrary : schema.Tracks libraryDocuments)
    (haudit : schema.Tracks auditLogs) (hperm : flushed.Perm r.pending)
    (horder : r.purchaseOrder.isSome = true) (hcatalog : r.catalog ≠ []) :
    Crossing (touched schema (upload r.organizationId existingImport))
      (touched schema (r.writes flushed)) := by
  obtain ⟨first, rest, hfirst⟩ := List.exists_cons_of_ne_nil hcatalog
  have hentry : first.1 = libraryDocuments :=
    CreateExpense.catalog_library (hfirst ▸ List.mem_cons_self)
  have hsplit : touched schema (r.writes flushed) =
      ((r.vendor ++ flushed).filter fun w => schema.Tracks w.1).map
          (fun w => (r.organizationId, w.1)) ++
        (r.organizationId, libraryDocuments) ::
          ((rest ++ r.told).filter fun w => schema.Tracks w.1).map
            fun w => (r.organizationId, w.1) := by
    rw [CreateExpense.writes, touched_writes, hfirst, List.append_assoc, List.filter_append,
      List.map_append, List.cons_append, List.filter_cons_of_pos, List.map_cons, hentry]
    rw [hentry]
    exact decide_eq_true hlibrary
  rw [touched_upload existingImport hlibrary haudit, hsplit]
  generalize hbefore : ((r.vendor ++ flushed).filter fun w => schema.Tracks w.1).map
    (fun w => (r.organizationId, w.1)) = before
  refine ⟨1, before.length, (r.organizationId, auditLogs), rfl,
    (r.organizationId, libraryDocuments), ?_, List.mem_singleton_self _, ?_, fun key hkey => ?_⟩
  · rw [List.getElem?_append_right (Nat.le_refl _), Nat.sub_self]
    rfl
  · rw [List.take_left, ← hbefore]
    exact List.mem_map.2 ⟨(auditLogs, .inserted), List.mem_filter.2
      ⟨List.mem_append_right _ (CreateExpense.audit_mem hperm horder), decide_eq_true haudit⟩, rfl⟩
  · rw [List.take_left, ← hbefore]
    intro hin
    obtain ⟨w, hw, rfl⟩ := List.mem_map.1 hin
    have hlater := CreateExpense.not_library hperm
      (List.mem_append_left r.told (List.mem_filter.1 hw).1)
    exact hlater (Prod.mk.inj (List.mem_singleton.1 hkey)).2

namespace Sample

/-- The two tables, with their triggers. -/
def library : Database :=
  ⟨upgrade [.createTable libraryDocuments true, .createTable auditLogs true], Table.empty, []⟩

/-- An expense for a known payee, with an invoice and an order of one line. -/
def expense : CreateExpense where
  organizationId := 1
  vendor := []
  vendor_tables := by simp
  purchaseOrder := some ⟨true, [.updated], none⟩
  invoice := true
  alerts := [true]

end Sample

end Cestos.Feed
