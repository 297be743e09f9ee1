import Mathlib.Data.List.Perm.Basic
import Cestos.Core.Runs
import Cestos.Maintenance.Steps

/-!
# Posted costs

The entries of a work order are those of its posted lines. They are those of all its lines when
it is completed, as long as completing it is left to the request that posts, no line is added
afterwards, and no request changes the lines while another one completes the order.
-/

namespace Cestos.Maintenance

open Cestos.Core Cestos.Core.Decimal

variable {ctx : Context 28 12} {env : Env} {actor : Actor} {db db' : Database}

/-- What an entry takes over from its line. -/
structure Posting where
  description : String
  quantity : Column 14 2
  unitCost : Column 14 2
  totalCost : Column 14 2
  currency : String
  deriving DecidableEq

def CostSubledgerEntry.posting (entry : CostSubledgerEntry) : Posting :=
  ⟨entry.description, entry.quantity, entry.unitCost, entry.totalCost, entry.currency⟩

def WorkOrderCostLine.posting (woNumber : String) (line : WorkOrderCostLine) : Posting :=
  ⟨"WO " ++ woNumber ++ ": " ++ line.description, line.quantity, line.unitCost, line.totalCost,
    line.currency⟩

/-- A completed order has one entry for each of its lines, and no other. -/
def Database.CostsPosted (db : Database) : Prop :=
  ∀ order ∈ db.workOrders.rows, order.status = .completed →
    ((db.entriesOf order.id).map CostSubledgerEntry.posting).Perm
      ((db.costLinesOf order.id).map (WorkOrderCostLine.posting order.woNumber))

instance (db : Database) : Decidable db.CostsPosted :=
  inferInstanceAs (Decidable (∀ _ ∈ _, _ → List.Perm _ _))

/-- Every line of the order is posted. -/
def Database.AllPosted (db : Database) (woId : Id) : Prop :=
  ∀ line ∈ db.costLinesOf woId, line.postedToSubledger = true

instance (db : Database) (woId : Id) : Decidable (db.AllPosted woId) :=
  inferInstanceAs (Decidable (∀ _ ∈ _, _))

/-- Only an order whose lines are posted is completed without posting, no line is added to a
completed order, and a completion commits over the lines that it read. -/
def Session.PostsAll (db : Database) : Session → Prop
  | .call (.updateWork _ _ workId body) => body.status = some .completed → db.AllPosted workId
  | .call (.addCostLine _ woId _) =>
    ∀ order ∈ db.workOrders.find? woId, order.status ≠ .completed
  | .updating loaded edited =>
    edited.status = .completed → loaded.status ≠ .completed → db.AllPosted loaded.id
  | .completing _ wo lines => lines = db.costLinesOf wo.id
  | _ => True

instance (db : Database) : DecidablePred (Session.PostsAll db)
  | .call (.updateWork _ _ _ _) => inferInstanceAs (Decidable (_ → _))
  | .call (.addCostLine _ _ _) => inferInstanceAs (Decidable (∀ _ ∈ _, _))
  | .call (.createMaintenance _ _ _ _) | .call (.updateMaintenance _ _ _ _ _)
  | .call (.maintenanceStatus _ _ _ _ _) | .call (.editWork _ _ _)
  | .call (.createWorkOrder _ _ _) => .isTrue trivial
  | .updateWorkOrder _ _ _ | .completeWorkOrder _ | .orderRead _ _ => .isTrue trivial
  | .updating _ _ => inferInstanceAs (Decidable (_ → _ → _))
  | .completing _ _ _ => inferInstanceAs (Decidable (_ = _))

/-! ## The invariant -/

/-- The entries are those of the posted lines. -/
structure Database.Posted (db : Database) : Prop where
  entries : ∀ order ∈ db.workOrders.rows,
    ((db.entriesOf order.id).map CostSubledgerEntry.posting).Perm
      (((db.costLinesOf order.id).filter (·.postedToSubledger)).map
        (WorkOrderCostLine.posting order.woNumber))
  completed : ∀ order ∈ db.workOrders.rows, order.status = .completed → db.AllPosted order.id
  sources : ∀ entry ∈ db.entries, (db.workOrders.find? entry.sourceEntityId).isSome
  lines : ∀ line ∈ db.costLines.rows, (db.workOrders.find? line.workOrderId).isSome

/-- The order that a request has read is still there under its number. -/
def MaintenanceWorkOrder.Known (db : Database) (wo : MaintenanceWorkOrder) : Prop :=
  ∃ row ∈ db.workOrders.find? wo.id, row.woNumber = wo.woNumber

def Session.Known (db : Database) : Session → Prop
  | .updating loaded _ => loaded.Known db
  | .orderRead _ wo => wo.Known db
  | .completing _ wo _ => wo.Known db
  | _ => True

/-- What every request leaves of the orders that there are. -/
def Database.OrdersStay (db db' : Database) : Prop :=
  ∀ id, ∀ row ∈ db.workOrders.find? id,
    ∃ row' ∈ db'.workOrders.find? id, row'.woNumber = row.woNumber

theorem Database.OrdersStay.isSome (h : db.OrdersStay db') {id : Id}
    (hfind : (db.workOrders.find? id).isSome) : (db'.workOrders.find? id).isSome := by
  obtain ⟨row, hrow⟩ := Option.isSome_iff_exists.1 hfind
  obtain ⟨row', hrow', -⟩ := h id row hrow
  exact Option.isSome_iff_exists.2 ⟨row', hrow'⟩

theorem Database.OrdersStay.known (h : db.OrdersStay db') {session : Session}
    (hknown : session.Known db) : session.Known db' := by
  have hwo : ∀ wo : MaintenanceWorkOrder, wo.Known db → wo.Known db' := by
    rintro wo ⟨row, hrow, hnumber⟩
    obtain ⟨row', hrow', hsame⟩ := h wo.id row hrow
    exact ⟨row', hrow', hsame.trans hnumber⟩
  cases session with
  | updating loaded edited => exact hwo loaded hknown
  | orderRead r wo => exact hwo wo hknown
  | completing r wo lines => exact hwo wo hknown
  | call c => trivial
  | updateWorkOrder env woId payload => trivial
  | completeWorkOrder r => trivial

theorem Database.OrdersStay.set {row row' : MaintenanceWorkOrder}
    (hrow : db.workOrders.find? row'.id = some row) (hnumber : row'.woNumber = row.woNumber)
    (horders : db'.workOrders = db.workOrders.set row') : db.OrdersStay db' := by
  intro id old hold
  rw [horders, Table.find?_set]
  split
  · next hid =>
    subst hid
    obtain rfl : row = old := Option.some.inj (hrow.symm.trans hold)
    exact ⟨row', by simp [hrow], hnumber⟩
  · exact ⟨old, hold, rfl⟩

theorem Database.OrdersStay.insert {order : MaintenanceWorkOrder}
    {orders : Table fun order : MaintenanceWorkOrder => order.id}
    (hinsert : db.workOrders.insert? order = some orders) (horders : db'.workOrders = orders) :
    db.OrdersStay db' := by
  intro id old hold
  rw [horders]
  exact ⟨old, Table.find?_insert?_of_find? hinsert hold, rfl⟩

theorem Database.OrdersStay.of_eq (horders : db'.workOrders = db.workOrders) :
    db.OrdersStay db' := by
  intro id old hold
  exact ⟨old, horders ▸ hold, rfl⟩

/-- What a statement has to keep. -/
def Database.PostedStep (db db' : Database) : Prop := db'.Posted ∧ db.OrdersStay db'

/-! ## One write -/

theorem Database.Posted.of_eq (h : db.Posted) (horders : db'.workOrders = db.workOrders)
    (hlines : db'.costLines = db.costLines) (hentries : db'.entries = db.entries) :
    db.PostedStep db' := by
  obtain ⟨assets, projects, employees, jobs, orders, lines, entries, completions, successors⟩ := db'
  subst horders hlines hentries
  exact ⟨⟨h.entries, h.completed, h.sources, h.lines⟩, .of_eq rfl⟩

theorem Database.Posted.set (h : db.Posted) (row row' : MaintenanceWorkOrder)
    (hrow : db.workOrders.find? row'.id = some row) (hnumber : row'.woNumber = row.woNumber)
    (hcompleted : row'.status = .completed → db.AllPosted row'.id) :
    db.PostedStep { db with workOrders := db.workOrders.set row' } := by
  have hstay : db.OrdersStay { db with workOrders := db.workOrders.set row' } :=
    .set hrow hnumber rfl
  refine ⟨⟨fun order horder => ?_, fun order horder => ?_, fun entry hentry => ?_,
    fun line hline => ?_⟩, hstay⟩
  · rcases (Table.mem_set_of_find? hrow).1 horder with ⟨hold, -⟩ | rfl
    · exact h.entries order hold
    · have hkept := h.entries row (Table.mem_of_find? hrow)
      rwa [Table.key_of_find? hrow, ← hnumber] at hkept
  · rcases (Table.mem_set_of_find? hrow).1 horder with ⟨hold, -⟩ | rfl
    · exact h.completed order hold
    · exact hcompleted
  · exact hstay.isSome (h.sources entry hentry)
  · exact hstay.isSome (h.lines line hline)

/-- Lines that are not posted are added to an order that is not completed. -/
theorem Database.Posted.add (h : db.Posted) {woId : Id} (lines : Table WorkOrderCostLine.id)
    {added : List WorkOrderCostLine} (hlines : lines.rows = db.costLines.rows ++ added)
    (hadded : ∀ line ∈ added, line.workOrderId = woId ∧ line.postedToSubledger = false)
    (hfind : (db.workOrders.find? woId).isSome)
    (hopen : ∀ order ∈ db.workOrders.find? woId, order.status ≠ .completed) :
    db.PostedStep { db with costLines := lines } := by
  have hposted : ∀ id,
      (lines.rows.filter (·.workOrderId = id)).filter (·.postedToSubledger) =
        (db.costLinesOf id).filter (·.postedToSubledger) := by
    intro id
    unfold costLinesOf
    rw [hlines, List.filter_append, List.filter_append, List.append_right_eq_self,
      List.filter_eq_nil_iff]
    intro line hline
    simp [(hadded line (List.mem_of_mem_filter hline)).2]
  refine ⟨⟨fun order horder => ?_, fun order horder hcompleted line hline => ?_, h.sources,
    fun line hline => ?_⟩, .of_eq rfl⟩
  · have hkept := h.entries order horder
    rw [← hposted] at hkept
    exact hkept
  · obtain ⟨hmem, hid⟩ := List.mem_filter.1 hline
    rw [hlines, List.mem_append] at hmem
    rcases hmem with hold | hnew
    · exact h.completed order horder hcompleted line (List.mem_filter.2 ⟨hold, hid⟩)
    · have horderId : order.id = woId := by
        rw [← (hadded line hnew).1]
        exact (of_decide_eq_true hid).symm
      exact absurd hcompleted (hopen order (horderId ▸ Table.find?_of_mem horder))
  · simp only [hlines, List.mem_append] at hline
    rcases hline with hold | hnew
    · exact h.lines line hold
    · rw [(hadded line hnew).1]
      exact hfind

theorem Database.Posted.insert (h : db.Posted) {order : MaintenanceWorkOrder}
    {orders : Table fun order : MaintenanceWorkOrder => order.id}
    (hopen : order.status = .opened) (hinsert : db.workOrders.insert? order = some orders) :
    db.PostedStep { db with workOrders := orders } := by
  have hstay : db.OrdersStay { db with workOrders := orders } := .insert hinsert rfl
  have hfresh : ∀ id, (db.workOrders.find? id).isSome → id ≠ order.id := by
    intro id hfind hid
    obtain ⟨row, hrow⟩ := Option.isSome_iff_exists.1 hfind
    exact Table.insert?_fresh hinsert (Table.mem_of_find? hrow)
      ((Table.key_of_find? hrow).trans hid)
  refine ⟨⟨fun row hrow => ?_, fun row hrow hcompleted => ?_, fun entry hentry => ?_,
    fun line hline => ?_⟩, hstay⟩
  · rcases (Table.mem_insert? hinsert).1 hrow with hold | rfl
    · exact h.entries row hold
    · have hentries : db.entriesOf row.id = [] := List.filter_eq_nil_iff.2 fun entry hentry =>
        by simpa using hfresh _ (h.sources entry hentry)
      have hlines : db.costLinesOf row.id = [] := List.filter_eq_nil_iff.2 fun line hline =>
        by simpa using hfresh _ (h.lines line hline)
      show ((db.entriesOf row.id).map _).Perm (((db.costLinesOf row.id).filter _).map _)
      rw [hentries, hlines]
      exact .nil
  · rcases (Table.mem_insert? hinsert).1 hrow with hold | rfl
    · exact h.completed row hold hcompleted
    · rw [hopen] at hcompleted
      cases hcompleted
  · exact hstay.isSome (h.sources entry hentry)
  · exact hstay.isSome (h.lines line hline)

/-! ## Completions -/

@[simp] theorem WorkOrderCostLine.post_workOrderId (posted : List WorkOrderCostLine)
    (line : WorkOrderCostLine) : (line.post posted).workOrderId = line.workOrderId := by
  unfold post
  split <;> rfl

@[simp] theorem WorkOrderCostLine.post_posting (posted : List WorkOrderCostLine)
    (line : WorkOrderCostLine) (woNumber : String) :
    (line.post posted).posting woNumber = line.posting woNumber := by
  unfold post
  split <;> rfl

theorem WorkOrderCostLine.post_eq_self {posted : List WorkOrderCostLine}
    {line : WorkOrderCostLine} (h : line.id ∉ posted.map (·.id)) : line.post posted = line :=
  if_neg h

theorem Database.allPosted_post {id : Id} {line : WorkOrderCostLine}
    (hline : line ∈ db.costLinesOf id) :
    (line.post (unposted (db.costLinesOf id))).postedToSubledger = true := by
  unfold WorkOrderCostLine.post
  split
  · rfl
  · next hposted =>
    by_contra hflag
    refine hposted (List.mem_map_of_mem (List.mem_filter.2 ⟨hline, ?_⟩))
    simpa using hflag

/-- A completion leaves the lines of other orders as they are. -/
theorem Database.post_other {id other : Id} (hid : other ≠ id) {line : WorkOrderCostLine}
    (hline : line ∈ db.costLinesOf other) :
    line.post (unposted (db.costLinesOf id)) = line := by
  obtain ⟨hmem, hother⟩ := List.mem_filter.1 hline
  refine WorkOrderCostLine.post_eq_self fun hposted => hid ?_
  obtain ⟨same, hsame, hkey⟩ := List.mem_map.1 hposted
  obtain ⟨hrow, horder⟩ := List.mem_filter.1 (List.mem_of_mem_filter hsame)
  obtain rfl := db.costLines.key_injective hrow hmem hkey
  rw [← of_decide_eq_true horder]
  exact (of_decide_eq_true hother).symm

/-- Posting what was not posted makes the entries those of all lines. -/
theorem Database.perm_complete {entries : List Posting} {woNumber : String} {id : Id}
    (h : entries.Perm (((db.costLinesOf id).filter (·.postedToSubledger)).map
      (WorkOrderCostLine.posting woNumber))) :
    (entries ++ (unposted (db.costLinesOf id)).map (WorkOrderCostLine.posting woNumber)).Perm
      ((db.costLinesOf id).map (WorkOrderCostLine.posting woNumber)) := by
  have hsplit : ((db.costLinesOf id).filter (·.postedToSubledger) ++
      unposted (db.costLinesOf id)).Perm (db.costLinesOf id) := by
    have hperm := List.filter_append_perm (·.postedToSubledger) (db.costLinesOf id)
    simpa [unposted] using hperm
  refine (h.append_right _).trans ?_
  rw [← List.map_append]
  exact hsplit.map _

/-- The order is completed and the lines it has are posted. -/
def Database.completed (db : Database) (r : CompleteRequest) (wo row : MaintenanceWorkOrder) :
    Database :=
  { db with
    workOrders := db.workOrders.set (wo.flush (wo.complete r) row)
    costLines := db.costLines.mapRows
      (WorkOrderCostLine.post (unposted (db.costLinesOf wo.id))) (WorkOrderCostLine.post_id _)
    entries := db.entries ++
      (unposted (db.costLinesOf wo.id)).map (WorkOrderCostLine.entry r wo) }

theorem Database.entriesOf_completed (r : CompleteRequest) (wo row : MaintenanceWorkOrder)
    (id : Id) :
    (db.completed r wo row).entriesOf id = db.entriesOf id ++
      if wo.id = id then (unposted (db.costLinesOf wo.id)).map (WorkOrderCostLine.entry r wo)
      else [] := by
  unfold entriesOf completed
  rw [List.filter_append]
  congr 1
  split
  · next hid =>
    refine List.filter_eq_self.2 fun entry hentry => ?_
    obtain ⟨line, -, rfl⟩ := List.mem_map.1 hentry
    exact decide_eq_true hid
  · next hid =>
    refine List.filter_eq_nil_iff.2 fun entry hentry => ?_
    obtain ⟨line, -, rfl⟩ := List.mem_map.1 hentry
    exact fun hsource => hid (of_decide_eq_true hsource)

/-- The lines of an order after a completion are what they were, but for being posted. -/
theorem Database.costLinesOf_completed (r : CompleteRequest) (wo row : MaintenanceWorkOrder)
    (id : Id) :
    (db.completed r wo row).costLinesOf id =
      if wo.id = id then (db.costLinesOf id).map
        (WorkOrderCostLine.post (unposted (db.costLinesOf id)))
      else db.costLinesOf id := by
  have hlines : (db.completed r wo row).costLinesOf id =
      (db.costLinesOf id).map (WorkOrderCostLine.post (unposted (db.costLinesOf wo.id))) := by
    show List.filter _ (List.map _ _) = _
    unfold costLinesOf
    rw [List.filter_map]
    congr 1
    refine List.filter_congr fun line _ => ?_
    simp
  rw [hlines]
  split
  · next hid => rw [hid]
  · next hid =>
    conv_rhs => rw [← List.map_id (db.costLinesOf id)]
    exact List.map_congr_left fun line hline => post_other (Ne.symm hid) hline

theorem Database.Posted.complete (h : db.Posted) {r : CompleteRequest}
    {wo row : MaintenanceWorkOrder} (hrow : db.workOrders.find? wo.id = some row)
    (hnumber : row.woNumber = wo.woNumber) : db.PostedStep (db.completed r wo row) := by
  have hid : row.id = wo.id := workOrder_id hrow
  have hfind : db.workOrders.find? (wo.flush (wo.complete r) row).id = some row := by
    show db.workOrders.find? row.id = some row
    rw [hid]
    exact hrow
  have hstay : db.OrdersStay (db.completed r wo row) := .set hfind rfl rfl
  -- an order of the table is one that was there, or the one that is completed
  have hrows : ∀ order ∈ (db.completed r wo row).workOrders.rows,
      (order ∈ db.workOrders.rows ∧ wo.id ≠ order.id) ∨
        (wo.id = order.id ∧ order.woNumber = wo.woNumber) := by
    intro order horder
    rcases (Table.mem_set_of_find? hfind).1 horder with ⟨hold, hne⟩ | rfl
    · exact .inl ⟨hold, fun hsame => hne (hsame.symm.trans hid.symm)⟩
    · exact .inr ⟨hid.symm, hnumber⟩
  refine ⟨⟨fun order horder => ?_, fun order horder hcompleted => ?_, fun entry hentry => ?_,
    fun line hline => ?_⟩, hstay⟩
  · rw [entriesOf_completed, costLinesOf_completed]
    rcases hrows order horder with ⟨hold, hne⟩ | ⟨hsame, hsameNumber⟩
    · rw [if_neg hne, if_neg hne, List.append_nil]
      exact h.entries order hold
    · have hkept := h.entries row (Table.mem_of_find? hrow)
      rw [hid, hnumber] at hkept
      have hflags : ((db.costLinesOf wo.id).map
          (WorkOrderCostLine.post (unposted (db.costLinesOf wo.id)))).filter
            (·.postedToSubledger) = (db.costLinesOf wo.id).map
              (WorkOrderCostLine.post (unposted (db.costLinesOf wo.id))) := by
        refine List.filter_eq_self.2 fun line hline => ?_
        obtain ⟨old, hold, rfl⟩ := List.mem_map.1 hline
        exact allPosted_post hold
      have hlines : WorkOrderCostLine.posting wo.woNumber ∘
          WorkOrderCostLine.post (unposted (db.costLinesOf wo.id)) =
            WorkOrderCostLine.posting wo.woNumber :=
        funext fun line => line.post_posting _ _
      rw [if_pos hsame, if_pos hsame, ← hsame, hsameNumber, hflags, List.map_append,
        List.map_map, List.map_map, hlines]
      exact perm_complete hkept
  · intro line hline
    rw [costLinesOf_completed] at hline
    rcases hrows order horder with ⟨hold, hne⟩ | ⟨hsame, -⟩
    · rw [if_neg hne] at hline
      rcases (Table.mem_set_of_find? hfind).1 horder with ⟨hbefore, -⟩ | rfl
      · exact h.completed order hbefore hcompleted line hline
      · exact absurd hid.symm hne
    · rw [if_pos hsame] at hline
      obtain ⟨old, hbefore, rfl⟩ := List.mem_map.1 hline
      exact allPosted_post hbefore
  · rcases List.mem_append.1 hentry with hold | hnew
    · exact hstay.isSome (h.sources entry hold)
    · obtain ⟨line, -, rfl⟩ := List.mem_map.1 hnew
      exact hstay.isSome (Option.isSome_iff_exists.2 ⟨row, hrow⟩)
  · obtain ⟨old, hold, rfl⟩ := List.mem_map.1 hline
    rw [WorkOrderCostLine.post_workOrderId]
    exact hstay.isSome (h.lines old hold)

/-! ## One request -/

theorem insertCostLines_rows {woId : Id} {payloads : List (WorkOrderCostLineCreate × Nat)}
    {lines lines' : Table WorkOrderCostLine.id}
    (h : payloads.foldlM (insertCostLine ctx env woId) lines = .ok lines') :
    ∃ added, lines'.rows = lines.rows ++ added ∧
      ∀ line ∈ added, line.workOrderId = woId ∧ line.postedToSubledger = false := by
  have hloop : payloads.foldlM (fun lines payload => do
      let line ← newCostLine ctx env (env.uuid (payload.2 + 1)) woId payload.1
      orError (lines.insert? line) .integrity) lines = .ok lines' := h
  obtain ⟨added, hrows, hadded⟩ := Table.foldlM_insert? hloop
  refine ⟨added, hrows, fun line hline => ?_⟩
  obtain ⟨_, -, hnew⟩ := exists_left hadded line hline
  exact newCostLine_spec hnew

theorem Call.posted {c : Call} (h : db.Posted) (hcond : Session.PostsAll db (.call c))
    (hexec : c.exec ctx db = .ok db') : db.PostedStep db' := by
  cases c with
  | createMaintenance env actor assetId body =>
      obtain ⟨job, jobs, -, -, -, rfl⟩ := createMaintenance_spec hexec
      exact h.of_eq rfl rfl rfl
  | updateMaintenance env actor assetId jobId body =>
      obtain ⟨job, job', -, -, hnext⟩ := updateMaintenance_spec hexec
      split at hnext
      · obtain ⟨next, jobs, -, -, -, rfl⟩ := Database.addNext_spec hnext
        exact h.of_eq rfl rfl rfl
      · subst hnext
        exact h.of_eq rfl rfl rfl
  | maintenanceStatus env actor assetId jobId body =>
      rcases maintenanceStatus_spec hexec with rfl | ⟨job, work, notes, -, -, -, -, rfl⟩
      · exact h.of_eq rfl rfl rfl
      · exact h.of_eq rfl rfl rfl
  | updateWork env actor workId body =>
      rcases updateWork_spec hexec with rfl | ⟨job, work, notes, -, -, rfl⟩ |
        ⟨order, work, horder, hupdated, rfl⟩
      · exact h.of_eq rfl rfl rfl
      · exact h.of_eq rfl rfl rfl
      · have horderId := Database.workOrder_id horder
        have hworkId : work.id = workId := hupdated.id.trans horderId
        refine h.set order { order with toWork := work } (hworkId.symm ▸ horder) rfl
          fun hcompleted => ?_
        show db.AllPosted work.id
        by_cases hbefore : order.status = .completed
        · rw [hupdated.id]
          exact h.completed order (Table.mem_of_find? horder) hbefore
        · rw [hworkId]
          exact hcond (hupdated.completes hbefore hcompleted).2
  | editWork actor workId body =>
      rcases editWork_spec hexec with ⟨job, job', -, -, rfl⟩ | ⟨order, work, horder, hedited, rfl⟩
      · exact h.of_eq rfl rfl rfl
      · have horderId := Database.workOrder_id horder
        have hworkId : work.id = workId := hedited.id.trans horderId
        refine h.set order { order with toWork := work } (hworkId.symm ▸ horder) rfl
          fun hcompleted => ?_
        have hbefore : order.status = .completed := hedited.status ▸ hcompleted
        show db.AllPosted work.id
        rw [hedited.id]
        exact h.completed order (Table.mem_of_find? horder) hbefore
  | createWorkOrder env woNumber payload =>
      obtain ⟨order, orders, lines, hopen, -, hinsert, hlines, rfl⟩ := createWorkOrder_spec hexec
      obtain ⟨added, hrows, hadded⟩ := insertCostLines_rows hlines
      obtain ⟨hposted, hstay⟩ := h.insert hopen hinsert
      have hfind : orders.find? order.id = some order := by
        rw [Table.find?_insert? hinsert, if_pos rfl]
      have hnew := hposted.add lines hrows hadded (by rw [hfind]; rfl) (by
        intro row hrow
        obtain rfl := Option.some.inj (hfind.symm.trans hrow)
        rw [hopen]
        decide)
      exact ⟨hnew.1, hstay⟩
  | addCostLine env woId payload =>
      obtain ⟨order, line, lines, horder, hwo, hunposted, hinsert, rfl⟩ := addCostLine_spec hexec
      refine h.add lines (Table.insert?_rows hinsert) (fun added hadded => ?_)
        (Option.isSome_iff_exists.2 ⟨order, horder⟩) hcond
      obtain rfl := List.mem_singleton.1 hadded
      exact ⟨hwo, hunposted⟩

theorem Served.posted {session : Session} (h : Served ctx db db' session) (hdb : db.Posted)
    (hknown : session.Known db) (hcond : session.PostsAll db) : db.PostedStep db' := by
  cases h with
  | same hsame => exact hdb.of_eq (by rw [hsame]) (by rw [hsame]) (by rw [hsame])
  | call hexec => exact Call.posted hdb hcond hexec
  | @updated loaded edited row hrow hdb' =>
      subst hdb'
      have hid := Database.workOrder_id hrow
      refine hdb.set row (loaded.flush edited row) (hid.symm ▸ hrow) rfl fun hcompleted => ?_
      show db.AllPosted row.id
      rw [hid]
      have hstatus : written loaded.status edited.status row.status = .completed := hcompleted
      unfold written at hstatus
      split at hstatus
      · rw [← hid]
        exact hdb.completed row (Table.mem_of_find? hrow) hstatus
      · next hchanged => exact hcond hstatus fun hloaded => hchanged (hstatus.trans hloaded.symm)
  | @completed r wo row lines hrow hdb' =>
      subst hdb'
      obtain ⟨known, hfind, hnumber⟩ := hknown
      obtain rfl : row = known := Option.some.inj (hrow.symm.trans hfind)
      obtain rfl : lines = db.costLinesOf wo.id := hcond
      exact hdb.complete hrow hnumber

/-- What a request goes on with is an order that it has read. -/
theorem serving_known {others : List Session} {session : Session} {next : Option Session}
    (hknown : session.Known db) (h : serving ctx others db session = some (db', next)) :
    ∀ t ∈ next, t.Known db := by
  have hread : ∀ {woId : Id} {wo : MaintenanceWorkOrder},
      db.workOrders.find? woId = some wo → wo.Known db :=
    fun hfind => ⟨_, (Database.workOrder_id hfind).symm ▸ hfind, rfl⟩
  intro t ht
  have hstep := Option.some.inj h
  cases session with
  | call c =>
      rw [(commit_spec hstep).2] at ht
      cases ht
  | updateWorkOrder env woId payload =>
      dsimp only at hstep
      split at hstep
      · next loaded edited hedit =>
        obtain ⟨rfl, rfl⟩ := Prod.mk.inj hstep
        obtain rfl := Option.some.inj ht
        exact hread (editWorkOrder_spec hedit)
      · obtain ⟨rfl, rfl⟩ := Prod.mk.inj hstep
        cases ht
  | updating loaded edited =>
      rw [(commit_spec hstep).2] at ht
      cases ht
  | completeWorkOrder r =>
      dsimp only at hstep
      split at hstep
      · next wo hwo =>
        obtain ⟨rfl, rfl⟩ := Prod.mk.inj hstep
        obtain rfl := Option.some.inj ht
        exact hread (Database.workOrder?_eq_some.1 hwo).1
      · obtain ⟨rfl, rfl⟩ := Prod.mk.inj hstep
        cases ht
  | orderRead r wo =>
      dsimp only at hstep
      split at hstep
      · obtain ⟨rfl, rfl⟩ := Prod.mk.inj hstep
        cases ht
      · obtain ⟨rfl, rfl⟩ := Prod.mk.inj hstep
        obtain rfl := Option.some.inj ht
        exact hknown
  | completing r wo lines =>
      rw [(commit_spec hstep).2] at ht
      cases ht

/-! ## Runs -/

theorem Database.Initial.posted (h : db.Initial) : db.Posted := by
  refine ⟨fun order _ => ?_, fun order horder hcompleted => ?_, fun entry hentry => ?_,
    fun line hline => (h.lines line hline).2⟩
  · have hnone : (db.costLinesOf order.id).filter (·.postedToSubledger) = [] := by
      refine List.filter_eq_nil_iff.2 fun line hline => ?_
      simp [(h.lines line (List.mem_of_mem_filter hline)).1]
    rw [hnone]
    unfold entriesOf
    rw [h.entries]
    exact .nil
  · rw [(h.workOrders order horder).1] at hcompleted
    cases hcompleted
  · rw [h.entries] at hentry
    cases hentry

theorem Session.IsRequest.known {session : Session} (h : session.IsRequest) :
    session.Known db := by
  cases session with
  | call c => trivial
  | updateWorkOrder env woId payload => trivial
  | completeWorkOrder r => trivial
  | updating loaded edited => cases h
  | orderRead r wo => cases h
  | completing r wo lines => cases h

theorem Database.Posted.costsPosted (h : db.Posted) : db.CostsPosted := by
  intro order horder hcompleted
  have hall : (db.costLinesOf order.id).filter (·.postedToSubledger) = db.costLinesOf order.id :=
    List.filter_eq_self.2 fun line hline => h.completed order horder hcompleted line hline
  have hentries := h.entries order horder
  rwa [hall] at hentries

/-- In every interleaving in which orders are completed by the request that posts, over the
lines that it read, and no line is added to a completed order, each line of a completed order
is posted exactly once. -/
theorem costs_posted {s : Sessions Database Session}
    (h : Requests ctx (fun _ db session => session.PostsAll db) s) : s.db.CostsPosted := by
  have hholds := h.holds (G := Database.Posted) (L := Session.Known) (R := fun _ _ => True)
    (fun _ _ _ => trivial) (fun _ hdb => hdb.posted)
    (fun db session hrequest _ => ⟨hrequest.known, fun _ => trivial⟩)
    (fun others db session db' next hposted hknown hothers _ hcond hserving => by
      obtain ⟨hposted', hstay⟩ := (serving_spec hserving).posted hposted hknown hcond
      exact ⟨hposted', fun t ht => hstay.known (serving_known hknown hserving t ht),
        fun u hu => hstay.known (hothers u hu).1, fun _ _ _ _ => trivial⟩)
  exact hholds.database.costsPosted

/-! ## One order with one line -/

namespace Sample

/-- A project and an asset. -/
def site : Database where
  assets := .single ⟨1, true⟩
  projects := [2]
  employees := []
  jobs := .empty
  workOrders := .empty
  costLines := .empty
  entries := []
  completions := []
  successors := []

theorem site_initial : site.Initial := by
  refine ⟨?_, ?_, ?_, rfl, rfl, rfl⟩ <;> simp [site]

theorem two_positive : (0 : ℚ) < 2 := by simp

theorem twelve_nonneg : (0 : ℚ) ≤ 12 := by simp

/-- A pump is replaced: two parts at twelve dollars each. -/
def create : Session :=
  .call (.createWorkOrder python "MWO-1"
    { assetId := 1
      projectId := some 2
      title := "Pump"
      costLines := [⟨"PARTS", "Seal", ⟨2, two_positive⟩, ⟨12, twelve_nonneg⟩, "USD"⟩] })

end Sample

/-- The order is completed and its line is posted. -/
theorem costs_posted_completed : ∃ s : Sessions Database Session,
    s.db.entries.length = 1 ∧ s.db.CostsPosted := by
  obtain ⟨s, hs, hentries⟩ := Sessions.Interleaved.of_play Session.IsRequest (serving .python)
    (fun _ db session => session.PostsAll db) Database.Initial Sample.site
    [.begins Sample.create, .acts 0, .begins (.completeWorkOrder ⟨Sample.python, 7, 100, none⟩),
      .acts 0, .acts 0, .acts 0]
    (p := fun s => s.db.entries.length = 1) Sample.site_initial (by decide +kernel)
  exact ⟨s, by simpa using hentries, costs_posted hs⟩

/-- The office sets the status to completed: nothing is posted. -/
theorem costs_posted_fails :
    ¬ ∀ s, Requests .python (fun _ _ _ => True) s → s.db.CostsPosted := by
  intro hall
  obtain ⟨s, hs, hunposted⟩ := Sessions.Interleaved.of_play Session.IsRequest (serving .python)
    (fun _ _ _ => True) Database.Initial Sample.site
    [.begins Sample.create, .acts 0,
      .begins (.updateWorkOrder Sample.python 100 { status := some (some .completed) }),
      .acts 0, .acts 0]
    (p := fun s => ¬ s.db.CostsPosted) Sample.site_initial (by decide +kernel)
  simp only [decide_eq_true_eq] at hunposted
  exact hunposted (hall s hs)

end Cestos.Maintenance
