import Cestos.Maintenance.Steps

/-!
# Orders that can be completed

A completion posts the cost lines of the order to its project, or to its asset if it has none. An
asset is no project, so an order without a project cannot be completed once it has a line to post.
-/

namespace Cestos.Maintenance

open Cestos.Core Cestos.Core.Decimal

/-- The findings of a completion that are numbers. -/
structure Findings where
  downtimeHours : {x : ℚ // 0 ≤ x} := ⟨0, le_rfl⟩
  estimatedLostContribution : {x : ℚ // 0 ≤ x} := ⟨0, le_rfl⟩

/-- The findings fit their columns. Zero is not written. -/
def Findings.Fit (findings : Findings) : Prop :=
  Fits 10 2 findings.downtimeHours ∧ Fits 14 2 findings.estimatedLostContribution

instance (findings : Findings) : Decidable findings.Fit :=
  inferInstanceAs (Decidable (Fits 10 2 _ ∧ Fits 14 2 _))

/-- `complete_work_order`, without other requests in between. -/
def completeWorkOrder (db : Database) (r : CompleteRequest) (findings : Findings) :
    Outcome Database := do
  let wo ← orError (db.workOrder? r.woId) (.workOrderNotFound 400 r.woId)
  if wo.status = .completed then .ok db
  else do
    ensure findings.Fit .data
    db.commitCompletion r wo (db.costLinesOf wo.id)

/-! ## What orders refer to -/

/-- The order refers to an asset and, if to any, to a project that exist. -/
def Work.Placed (db : Database) (w : Work) : Prop :=
  (db.assets.find? w.assetId).isSome = true ∧ ∀ id ∈ w.projectId, id ∈ db.projects

/-- The foreign keys of the orders hold, and no asset has the identifier of a project. -/
structure Database.Referenced (db : Database) : Prop where
  placed : ∀ order ∈ db.workOrders.rows, order.toWork.Placed db
  distinct : ∀ asset ∈ db.assets.rows, asset.id ∉ db.projects

variable {ctx : Context 28 12} {env : Env} {actor : Actor} {db db' : Database}

/-- Statements that change neither assets nor projects, nor what any order refers to. -/
structure Unplaced (db db' : Database) : Prop where
  assets : db'.assets = db.assets
  projects : db'.projects = db.projects
  orders : ∀ order ∈ db'.workOrders.rows, order.toWork.Placed db ∨
    ∃ old ∈ db.workOrders.rows, order.assetId = old.assetId ∧ order.projectId = old.projectId

theorem Unplaced.of_eq (hassets : db'.assets = db.assets) (hprojects : db'.projects = db.projects)
    (horders : db'.workOrders = db.workOrders) : Unplaced db db' :=
  ⟨hassets, hprojects, fun order horder => .inr ⟨order, horders ▸ horder, rfl, rfl⟩⟩

theorem Unplaced.of_set {id : Id} {old order : MaintenanceWorkOrder}
    (hassets : db'.assets = db.assets) (hprojects : db'.projects = db.projects)
    (hold : db.workOrders.find? id = some old) (horders : db'.workOrders = db.workOrders.set order)
    (hplace : order.assetId = old.assetId ∧ order.projectId = old.projectId) : Unplaced db db' := by
  refine ⟨hassets, hprojects, fun row hrow => .inr ?_⟩
  rw [horders] at hrow
  rcases Table.mem_set.1 hrow with ⟨hrow, -⟩ | ⟨rfl, -⟩
  · exact ⟨row, hrow, rfl, rfl⟩
  · exact ⟨old, Table.mem_of_find? hold, hplace⟩

theorem Unplaced.referenced (h : Unplaced db db') (hdb : db.Referenced) : db'.Referenced := by
  have hplaced : ∀ w : Work, w.Placed db → w.Placed db' := by
    intro w hw
    unfold Work.Placed
    rwa [h.assets, h.projects]
  refine ⟨fun order horder => hplaced order.toWork ?_, ?_⟩
  · rcases h.orders order horder with hnew | ⟨old, hold, hasset, hproject⟩
    · exact hnew
    · unfold Work.Placed
      rw [hasset, hproject]
      exact hdb.placed old hold
  · rw [h.assets, h.projects]
    exact hdb.distinct

theorem Work.Updated.place {body : FieldWorkUpdate} {w w' : Work} (h : w.Updated body w') :
    w'.assetId = w.assetId ∧ w'.projectId = w.projectId := by
  cases h with
  | approved hbody hstatus hw' => rw [hw']; exact ⟨rfl, rfl⟩
  | completed hopen hbody hdone hw' => rw [hw']; exact ⟨rfl, rfl⟩
  | reported hopen hstatus hw' => rw [hw']; exact ⟨rfl, rfl⟩

theorem editWork_place {workId : Id} {body : FieldWorkEdit}
    (h : editWork db actor workId body = .ok db') : Unplaced db db' := by
  unfold editWork at h
  obtain ⟨row, hrow, h⟩ := bind_eq_ok.1 h
  cases row with
  | inl job =>
      simp only [bind_eq_ok] at h
      obtain ⟨access, -, work, -, h⟩ := h
      obtain rfl := Except.ok.inj h
      exact .of_eq rfl rfl rfl
  | inr order =>
      simp only [bind_eq_ok] at h
      obtain ⟨access, -, work, hwork, -, -, h⟩ := h
      obtain rfl := Except.ok.inj h
      simp only [Work.edit, bind_eq_ok, ensure_eq_ok, Except.ok.injEq] at hwork
      obtain ⟨-, -, -, -, -, -, -, -, -, -, rfl⟩ := hwork
      exact .of_set rfl rfl (Database.workRow_order hrow) rfl ⟨rfl, rfl⟩

theorem createWorkOrder_place {woNumber : String} {payload : MaintenanceWorkOrderCreate}
    (h : createWorkOrder ctx env db woNumber payload = .ok db') : Unplaced db db' := by
  simp only [createWorkOrder, bind_eq_ok, ensure_eq_ok, orError_eq_ok, Except.ok.injEq] at h
  obtain ⟨-, ⟨hasset, hproject, -⟩, orders, horders, lines, -, rfl⟩ := h
  refine ⟨rfl, rfl, fun order horder => ?_⟩
  rcases (Table.mem_insert? horders).1 horder with hold | rfl
  · exact .inr ⟨order, hold, rfl, rfl⟩
  · exact .inl ⟨hasset, hproject⟩

theorem Call.unplaced {c : Call} (h : c.exec ctx db = .ok db') : Unplaced db db' := by
  cases c with
  | createMaintenance env actor assetId body =>
      obtain ⟨-, -, -, -, -, rfl⟩ := createMaintenance_spec h
      exact .of_eq rfl rfl rfl
  | updateMaintenance env actor assetId jobId body =>
      obtain ⟨job, job', -, -, h⟩ := updateMaintenance_spec h
      split at h
      · obtain ⟨-, -, -, -, -, rfl⟩ := Database.addNext_spec h
        exact .of_eq rfl rfl rfl
      · rw [h]
        exact .of_eq rfl rfl rfl
  | maintenanceStatus env actor assetId jobId body =>
      rcases maintenanceStatus_spec h with rfl | ⟨-, -, -, -, -, -, -, rfl⟩
      · exact .of_eq rfl rfl rfl
      · exact .of_eq rfl rfl rfl
  | updateWork env actor workId body =>
      rcases updateWork_spec h with rfl | ⟨-, -, -, -, -, rfl⟩ | ⟨order, work, hfind, hupdated, rfl⟩
      · exact .of_eq rfl rfl rfl
      · exact .of_eq rfl rfl rfl
      · exact .of_set rfl rfl hfind rfl hupdated.place
  | editWork actor workId body => exact editWork_place h
  | createWorkOrder env woNumber payload => exact createWorkOrder_place h
  | addCostLine env woId payload =>
      obtain ⟨-, -, -, -, -, -, -, rfl⟩ := addCostLine_spec h
      exact .of_eq rfl rfl rfl

theorem Served.unplaced {session : Session} (h : Served ctx db db' session) : Unplaced db db' := by
  cases h with
  | same hsame =>
      rw [hsame]
      exact .of_eq rfl rfl rfl
  | call hexec => exact Call.unplaced hexec
  | updated hrow hdb =>
      rw [hdb]
      exact .of_set rfl rfl hrow rfl ⟨rfl, rfl⟩
  | completed hrow hdb =>
      rw [hdb]
      exact .of_set rfl rfl hrow rfl ⟨rfl, rfl⟩

/-- The databases, with the requests under way, that interleavings lead to. -/
abbrev AnyRequests (ctx : Context 28 12) : Sessions Database Session → Prop :=
  Sessions.Interleaved Session.IsRequest (serving ctx) (fun _ _ _ => True) Database.Referenced

theorem referenced_of_requests {s : Sessions Database Session} (h : AnyRequests ctx s) :
    s.db.Referenced := by
  have hholds := h.holds (G := Database.Referenced) (L := fun _ _ => True) (R := fun _ _ => True)
    (fun _ _ _ => trivial) (fun _ hdb => hdb) (fun _ _ _ _ => ⟨trivial, fun _ => trivial⟩)
    (fun others db session db' next hdb _ _ _ _ hserving =>
      ⟨(serving_spec hserving).unplaced.referenced hdb, fun _ _ => trivial, fun _ _ => trivial,
        fun _ _ _ _ => trivial⟩)
  exact hholds.database

/-! ## Completions -/

/-- The order has a project, or nothing is left to post; the texts of the entries and the findings
fit their columns. -/
structure Completable (db : Database) (wo : MaintenanceWorkOrder) (findings : Findings) : Prop where
  project : wo.projectId = none → unposted (db.costLinesOf wo.id) = []
  described : ∀ line ∈ unposted (db.costLinesOf wo.id),
    ("WO " ++ wo.woNumber ++ ": " ++ line.description).length ≤ 255
  findings : findings.Fit

/-- A completion commits unless an entry breaks a constraint. -/
theorem commitCompletion_isOk_iff {r : CompleteRequest} {wo row : MaintenanceWorkOrder}
    (lines : List WorkOrderCostLine) (hrow : db.workOrders.find? wo.id = some row) :
    (db.commitCompletion r wo lines).isOk = true ↔
      (∀ line ∈ unposted lines, (line.entry r wo).description.length ≤ 255) ∧
        ∀ line ∈ unposted lines, wo.projectId.getD wo.assetId ∈ db.projects := by
  have hflush : db.flushWorkOrder wo (wo.complete r) =
      .ok { db with workOrders := db.workOrders.set (wo.flush (wo.complete r) row) } := by
    simp only [Database.flushWorkOrder, ensure_bind_eq_ok, orError_bind_eq_ok]
    exact ⟨fun _ _ => .inl rfl, row, hrow, rfl⟩
  simp only [isOk_iff, Database.commitCompletion, ensure_bind_eq_ok, List.forall_mem_map]
  constructor
  · rintro ⟨-, hdescribed, hproject, -⟩
    exact ⟨hdescribed, hproject⟩
  · rintro ⟨hdescribed, hproject⟩
    exact ⟨_, hdescribed, hproject, bind_eq_ok.2 ⟨_, hflush, rfl⟩⟩

instance (db : Database) (wo : MaintenanceWorkOrder) (findings : Findings) :
    Decidable (Completable db wo findings) :=
  decidable_of_iff ((wo.projectId = none → unposted (db.costLinesOf wo.id) = []) ∧
      (∀ line ∈ unposted (db.costLinesOf wo.id),
        ("WO " ++ wo.woNumber ++ ": " ++ line.description).length ≤ 255) ∧ findings.Fit)
    ⟨fun h => ⟨h.1, h.2.1, h.2.2⟩, fun h => ⟨h.project, h.described, h.findings⟩⟩

namespace Sample

/-- One asset and one project, and nothing done yet. -/
def workshopSite : Database where
  assets := .single ⟨1, true⟩
  projects := [2]
  employees := []
  jobs := .empty
  workOrders := .empty
  costLines := .empty
  entries := []
  completions := []
  successors := []

theorem workshopSite_referenced : workshopSite.Referenced := by
  refine ⟨?_, ?_⟩ <;> simp [workshopSite]

/-- Two seals are replaced. -/
def sealing (projectId : Option Id) : Session :=
  .call (.createWorkOrder python "MWO-1"
    { assetId := 1
      projectId := projectId
      title := "Pump"
      costLines := [⟨"PARTS", "Seal", ⟨2, by simp⟩, ⟨12, by simp⟩, "USD"⟩] })

end Sample

end Cestos.Maintenance
