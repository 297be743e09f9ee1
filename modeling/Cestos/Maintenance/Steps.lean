import Cestos.Maintenance.System

/-!
# What maintenance requests do

One lemma for each request: what held when it was accepted, and what it wrote. A request that
writes a job leaves the work orders as they are, and the other way round.
-/

namespace Cestos.Maintenance

open Cestos.Core Cestos.Core.Decimal

variable {ctx : Context 28 12} {env : Env} {actor : Actor} {db db' : Database}

theorem setRequired_eq_ok {α : Type} {value : Option (Option α)} {old new : α}
    (h : setRequired value old = .ok new) : new = value.join.getD old := by
  unfold setRequired at h
  split at h
  · exact (Except.ok.inj h).symm
  · exact (Except.ok.inj h).symm
  · cases h

theorem Database.workOrder?_eq_some {woId : Id} {order : MaintenanceWorkOrder} :
    db.workOrder? woId = some order ↔
      db.workOrders.find? woId = some order ∧ order.archived = false := by
  simp [workOrder?, Option.filter_eq_some_iff]

theorem Database.job_id {id : Id} {job : AssetMaintenanceJob}
    (h : db.jobs.find? id = some job) : job.id = id := by
  have hkey := Table.key_of_find? h
  exact hkey

theorem Database.workOrder_id {id : Id} {order : MaintenanceWorkOrder}
    (h : db.workOrders.find? id = some order) : order.id = id := by
  have hkey := Table.key_of_find? h
  exact hkey

/-! ## The field portal -/

theorem Work.mark_spec {w m : Work} {body : FieldWorkUpdate} (h : w.mark body = .ok m) :
    ∃ checklist, m = { w with checklist := checklist } := by
  unfold mark at h
  split at h
  · exact ⟨w.checklist, (Except.ok.inj h).symm⟩
  · simp only [bind_eq_ok, Except.ok.injEq] at h
    obtain ⟨-, -, hm⟩ := h
    exact ⟨_, hm.symm⟩
  · cases h

theorem Work.note_spec (env : Env) (earlier : Option String) (body : FieldWorkUpdate) (w : Work) :
    ∃ fieldNotes, w.note env earlier body = { w with fieldNotes := fieldNotes } := by
  unfold note
  split
  · exact ⟨w.fieldNotes, rfl⟩
  · split
    · exact ⟨w.fieldNotes, rfl⟩
    · exact ⟨_, rfl⟩

/-- What an accepted update of the field portal does to the work. -/
inductive Work.Updated (body : FieldWorkUpdate) (w w' : Work) : Prop
  /-- Completed work is approved. -/
  | approved {approvedAt : Instant} {approvedById : Id} {fieldNotes : Option String} :
      body.status = some .approved → w.status = .completed →
      w' = { w with
        approvedAt := some approvedAt
        approvedById := some approvedById
        fieldNotes := fieldNotes } → Updated body w w'
  /-- Work that is not closed is completed. -/
  | completed {checklist : List Task} {completedAt : Instant} {fieldNotes : Option String} :
      w.closed = false → body.status = some .completed → checklist.all Task.completed = true →
      w' = { w with
        status := .completed
        checklist := checklist
        completedAt := some completedAt
        fieldNotes := fieldNotes } → Updated body w w'
  /-- Work that is not closed goes on. -/
  | reported {status : Status} {checklist : List Task} {startedAt : Option Instant}
      {fieldNotes : Option String} :
      w.closed = false → status = w.status ∨ status = .inProgress →
      w' = { w with
        status := status
        checklist := checklist
        startedAt := startedAt
        fieldNotes := fieldNotes } → Updated body w w'

theorem Work.update_spec {access : Access} {w w' : Work} {body : FieldWorkUpdate}
    (h : w.update env actor access body = .ok (some w')) (earlier : Option String) :
    Updated body w (w'.note env earlier body) := by
  obtain ⟨fieldNotes, hnote⟩ := w'.note_spec env earlier body
  unfold update at h
  split at h
  · next happroved =>
    simp only [bind_eq_ok, ensure_eq_ok, Except.ok.injEq] at h
    obtain ⟨-, -, -, hcompleted, -, -, h⟩ := h
    split at h
    · cases h
    · obtain rfl := Option.some.inj h
      exact .approved happroved hcompleted hnote
  · simp only [bind_eq_ok, ensure_eq_ok, Except.ok.injEq, Option.some.injEq] at h
    obtain ⟨-, -, -, hopen, marked, hmark, reported, hreport, rfl⟩ := h
    have hclosed : w.closed = false := by simpa using hopen
    obtain ⟨checklist, rfl⟩ := mark_spec hmark
    unfold report at hreport
    split at hreport
    · next hstatus =>
      simp only [bind_eq_ok, ensure_eq_ok, Except.ok.injEq] at hreport
      obtain ⟨-, hdone, rfl⟩ := hreport
      exact .completed hclosed hstatus hdone hnote
    · obtain rfl := Except.ok.inj hreport
      exact .reported hclosed (.inr rfl) hnote
    · obtain rfl := Except.ok.inj hreport
      exact .reported hclosed (.inl rfl) hnote

theorem Work.Updated.id {body : FieldWorkUpdate} {w w' : Work} (h : w.Updated body w') :
    w'.id = w.id := by
  cases h with
  | approved hbody hstatus hw' => rw [hw']
  | completed hopen hbody hdone hw' => rw [hw']
  | reported hopen hstatus hw' => rw [hw']

theorem Work.Updated.stays {body : FieldWorkUpdate} {w w' : Work} (h : w.Updated body w')
    (hcompleted : w.status = .completed) : w'.status = .completed := by
  cases h with
  | approved hbody hstatus hw' =>
      subst hw'
      exact hcompleted
  | completed hopen hbody hdone hw' => rw [hw']
  | reported hopen hstatus hw' =>
      unfold closed at hopen
      rw [hcompleted] at hopen
      simp at hopen

/-- An update of the field portal that completes work says so of work that is not closed. -/
theorem Work.Updated.completes {body : FieldWorkUpdate} {w w' : Work} (h : w.Updated body w')
    (hbefore : w.status ≠ .completed) (hafter : w'.status = .completed) :
    w.closed = false ∧ body.status = some .completed := by
  cases h with
  | approved hbody hstatus hw' => exact absurd hstatus hbefore
  | completed hopen hbody hdone hw' => exact ⟨hopen, hbody⟩
  | reported hopen hstatus hw' =>
      subst hw'
      rcases hstatus with hsame | hprogress
      · exact absurd (hsame ▸ hafter) hbefore
      · rw [hprogress] at hafter
        cases hafter

theorem Database.workRow_job {workId : Id} {job : AssetMaintenanceJob}
    (h : db.workRow workId = .ok (.inl job)) : db.jobs.find? workId = some job := by
  unfold workRow at h
  split at h
  · next hfind =>
    obtain rfl := Sum.inl.inj (Except.ok.inj h)
    exact hfind
  · split at h
    · cases h
    · cases h

theorem Database.workRow_order {workId : Id} {order : MaintenanceWorkOrder}
    (h : db.workRow workId = .ok (.inr order)) : db.workOrders.find? workId = some order := by
  unfold workRow at h
  split at h
  · cases h
  · split at h
    · next hfind =>
      obtain rfl := Sum.inr.inj (Except.ok.inj h)
      exact (Option.filter_eq_some_iff.1 hfind).1
    · cases h

theorem updateWork_spec {workId : Id} {body : FieldWorkUpdate}
    (h : updateWork env db actor workId body = .ok db') :
    db' = db ∨
      (∃ (job : AssetMaintenanceJob) (work : Work) (completionNotes : Option String),
        db.jobs.find? workId = some job ∧ job.toWork.Updated body work ∧
        db' = db.saveJob job { job with toWork := work, completionNotes := completionNotes }) ∨
      ∃ (order : MaintenanceWorkOrder) (work : Work),
        db.workOrders.find? workId = some order ∧ order.toWork.Updated body work ∧
        db' = { db with workOrders := db.workOrders.set { order with toWork := work } } := by
  unfold updateWork at h
  obtain ⟨row, hrow, h⟩ := bind_eq_ok.1 h
  cases row with
  | inl job =>
      simp only [bind_eq_ok] at h
      obtain ⟨access, -, updated, hupdated, h⟩ := h
      cases updated with
      | none => exact .inl (Except.ok.inj h).symm
      | some work =>
          exact .inr (.inl ⟨job, _, _, Database.workRow_job hrow, Work.update_spec hupdated _,
            (Except.ok.inj h).symm⟩)
  | inr order =>
      simp only [bind_eq_ok] at h
      obtain ⟨access, -, updated, hupdated, h⟩ := h
      cases updated with
      | none => exact .inl (Except.ok.inj h).symm
      | some work =>
          exact .inr (.inr ⟨order, _, Database.workRow_order hrow, Work.update_spec hupdated _,
            (Except.ok.inj h).symm⟩)

/-- What an accepted edit of a supervisor does to the work. -/
structure Work.Edited (w w' : Work) : Prop where
  opened : w.closed = false
  id : w'.id = w.id
  status : w'.status = w.status
  approvedAt : w'.approvedAt = w.approvedAt

theorem Work.edit_spec {access : Access} {w w' : Work} {types : List WorkType}
    {priorities : List Priority} {body : FieldWorkEdit}
    (h : w.edit actor access types priorities body = .ok w') : w.Edited w' := by
  simp only [edit, bind_eq_ok, ensure_eq_ok, Except.ok.injEq] at h
  obtain ⟨-, -, -, hopen, -, -, -, -, -, -, rfl⟩ := h
  exact ⟨by simpa using hopen, rfl, rfl, rfl⟩

theorem editWork_spec {workId : Id} {body : FieldWorkEdit}
    (h : editWork db actor workId body = .ok db') :
    (∃ job job' : AssetMaintenanceJob, db.jobs.find? workId = some job ∧
        job.toWork.Edited job'.toWork ∧ db' = db.saveJob job job') ∨
      ∃ (order : MaintenanceWorkOrder) (work : Work),
        db.workOrders.find? workId = some order ∧ order.toWork.Edited work ∧
        db' = { db with workOrders := db.workOrders.set { order with toWork := work } } := by
  unfold editWork at h
  obtain ⟨row, hrow, h⟩ := bind_eq_ok.1 h
  cases row with
  | inl job =>
      simp only [bind_eq_ok] at h
      obtain ⟨access, -, work, hwork, h⟩ := h
      exact .inl ⟨job, _, Database.workRow_job hrow, Work.edit_spec hwork, (Except.ok.inj h).symm⟩
  | inr order =>
      simp only [bind_eq_ok] at h
      obtain ⟨access, -, work, hwork, -, -, h⟩ := h
      exact .inr ⟨order, work, Database.workRow_order hrow, Work.edit_spec hwork,
        (Except.ok.inj h).symm⟩

/-! ## Jobs in the office -/

theorem Database.jobOf_eq_ok {assetId jobId : Id} {job : AssetMaintenanceJob}
    (h : db.jobOf assetId jobId = .ok job) : db.jobs.find? jobId = some job :=
  (Option.filter_eq_some_iff.1 (orError_eq_ok.1 h)).1

theorem createMaintenance_spec {assetId : Id} {body : MaintenanceCreate}
    (h : createMaintenance env db actor assetId body = .ok db') :
    ∃ (job : AssetMaintenanceJob) (jobs : Table fun job : AssetMaintenanceJob => job.id),
      job.status = .opened ∧ job.approvedAt = none ∧ db.jobs.insert? job = some jobs ∧
      db' = { db with jobs := jobs } := by
  simp only [createMaintenance, bind_eq_ok, orError_eq_ok, Except.ok.injEq] at h
  obtain ⟨-, -, -, -, -, -, -, -, jobs, hjobs, rfl⟩ := h
  exact ⟨_, jobs, rfl, rfl, hjobs, rfl⟩

/-- Whether a job recurs after it was updated. -/
def MaintenanceUpdate.recurs (body : MaintenanceUpdate) (job : AssetMaintenanceJob) : Bool :=
  body.isRecurring.join.getD job.isRecurring &&
    0 < ((body.recurrenceIntervalDays.map (·.map (·.1))).getD job.recurrenceIntervalDays).getD 0

/-- The job as an accepted update leaves it. -/
structure MaintenanceUpdate.Applied (body : MaintenanceUpdate) (job job' : AssetMaintenanceJob) :
    Prop where
  id : job'.id = job.id
  title : job'.title = body.title.join.getD job.title
  description : job'.description = body.description.getD job.description
  scheduledDate : job'.scheduledDate = body.scheduledDate.getD job.scheduledDate
  assigneeId : job'.assigneeId = body.assignedEmployeeId.getD job.assigneeId
  status : job'.status = body.status.join.getD job.status
  checklist : job'.checklist = job.checklist
  approvedAt : job'.approvedAt = job.approvedAt
  recurs : job'.recurs = body.recurs job
  allowed : ∀ status ∈ body.status.join, status ≠ job.status →
    status ∈ Maintenance.allowed job.status

/-- A job that may be moved to no other status keeps its status. -/
theorem MaintenanceUpdate.Applied.status_eq {body : MaintenanceUpdate}
    {job job' : AssetMaintenanceJob} (h : body.Applied job job')
    (hnil : Maintenance.allowed job.status = []) : job'.status = job.status := by
  rw [h.status]
  cases hbody : body.status.join with
  | none => rfl
  | some status =>
      by_contra hmoved
      have hallowed := h.allowed status hbody hmoved
      rw [hnil] at hallowed
      cases hallowed

/-- A job that an update completes was not completed before, or the update says so. -/
theorem MaintenanceUpdate.Applied.completes {body : MaintenanceUpdate}
    {job job' : AssetMaintenanceJob} (h : body.Applied job job')
    (hbefore : job.status ≠ .completed) (hafter : job'.status = .completed) :
    body.status.join = some .completed := by
  rw [h.status] at hafter
  cases hbody : body.status.join with
  | none =>
      rw [hbody] at hafter
      exact absurd hafter hbefore
  | some status =>
      rw [hbody] at hafter
      exact congrArg some hafter

theorem AssetMaintenanceJob.stamp_spec (env : Env) (status : Option Status)
    (job : AssetMaintenanceJob) : ∃ startedAt completedAt,
      job.stamp env status = { job with startedAt := startedAt, completedAt := completedAt } := by
  unfold stamp
  split <;> exact ⟨_, _, rfl⟩

theorem AssetMaintenanceJob.setAll_spec {job edited : AssetMaintenanceJob}
    {body : MaintenanceUpdate} (h : job.setAll body = .ok edited)
    (hallowed : ∀ status ∈ body.status.join, status ≠ job.status →
      status ∈ Maintenance.allowed job.status) (env : Env) (status : Option Status) :
    body.Applied job (edited.stamp env status) := by
  obtain ⟨startedAt, completedAt, hstamp⟩ := edited.stamp_spec env status
  rw [hstamp]
  simp only [setAll, bind_eq_ok, Except.ok.injEq] at h
  obtain ⟨title, htitle, workType, -, priority, -, cost, -, currency, -, status, hstatus,
    isRecurring, hrecurring, rfl⟩ := h
  refine ⟨rfl, setRequired_eq_ok htitle, rfl, rfl, rfl, setRequired_eq_ok hstatus, rfl, rfl, ?_,
    hallowed⟩
  unfold AssetMaintenanceJob.recurs MaintenanceUpdate.recurs
  simp only [setRequired_eq_ok hrecurring]
  cases body.recurrenceIntervalDays <;> rfl

theorem updateMaintenance_spec {assetId jobId : Id} {body : MaintenanceUpdate}
    (h : updateMaintenance env db actor assetId jobId body = .ok db') :
    ∃ job job' : AssetMaintenanceJob, db.jobs.find? jobId = some job ∧ body.Applied job job' ∧
      if body.status.join = some .completed ∧ job'.recurs = true then
        (db.saveJob job job').addNext env job' = .ok db'
      else db' = db.saveJob job job' := by
  simp only [updateMaintenance, bind_eq_ok, ensure_eq_ok] at h
  obtain ⟨-, -, -, -, job, hjob, -, hallowed, -, -, -, -, edited, hedited, h⟩ := h
  refine ⟨job, _, Database.jobOf_eq_ok hjob,
    AssetMaintenanceJob.setAll_spec hedited hallowed env body.status.join, ?_⟩
  split at h
  · next hnext =>
    rw [if_pos hnext]
    exact h
  · next hnext =>
    rw [if_neg hnext]
    exact (Except.ok.inj h).symm

theorem Database.addNext_spec {job : AssetMaintenanceJob}
    (h : db.addNext env job = .ok db') :
    ∃ (next : AssetMaintenanceJob) (jobs : Table fun job : AssetMaintenanceJob => job.id),
      next.status = .opened ∧ next.approvedAt = none ∧ db.jobs.insert? next = some jobs ∧
      db' = { db with jobs := jobs, successors := db.successors ++ [(job.id, next.id)] } := by
  simp only [addNext, orError_bind_eq_ok, Except.ok.injEq] at h
  obtain ⟨jobs, hjobs, rfl⟩ := h
  exact ⟨_, jobs, rfl, rfl, hjobs, rfl⟩

theorem maintenanceStatus_spec {assetId jobId : Id} {body : MaintenanceStatus}
    (h : maintenanceStatus env db actor assetId jobId body = .ok db') :
    db' = db ∨ ∃ (job : AssetMaintenanceJob) (work : Work) (completionNotes : Option String),
      db.jobs.find? jobId = some job ∧ job.status ≠ body.status ∧
      body.status ∈ allowed job.status ∧
      (∃ startedAt completedAt, work = { job.toWork with
        status := body.status
        startedAt := startedAt
        completedAt := completedAt }) ∧
      db' = db.saveJob job { job with toWork := work, completionNotes := completionNotes } := by
  simp only [maintenanceStatus, bind_eq_ok, orError_eq_ok] at h
  obtain ⟨-, -, -, -, job, hjob, h⟩ := h
  split at h
  · exact .inl (Except.ok.inj h).symm
  · next hmoved =>
    simp only [bind_eq_ok, ensure_eq_ok, Except.ok.injEq] at h
    obtain ⟨-, hallowed, rfl⟩ := h
    exact .inr ⟨job, _, _, Database.jobOf_eq_ok hjob, hmoved, hallowed, ⟨_, _, rfl⟩, rfl⟩

/-! ## Work orders in the office -/

theorem newCostLine_spec {id woId : Id} {payload : WorkOrderCostLineCreate}
    {line : WorkOrderCostLine} (h : newCostLine ctx env id woId payload = .ok line) :
    line.workOrderId = woId ∧ line.postedToSubledger = false := by
  simp only [newCostLine, bind_eq_ok, orError_eq_ok, ensure_eq_ok, Except.ok.injEq] at h
  obtain ⟨-, -, _, -, _, -, _, -, rfl⟩ := h
  exact ⟨rfl, rfl⟩

theorem insertCostLine_spec {woId : Id} {lines lines' : Table WorkOrderCostLine.id}
    {payload : WorkOrderCostLineCreate × Nat}
    (h : insertCostLine ctx env woId lines payload = .ok lines') :
    ∃ line : WorkOrderCostLine, line.workOrderId = woId ∧ line.postedToSubledger = false ∧
      lines.insert? line = some lines' := by
  simp only [insertCostLine, bind_eq_ok, orError_eq_ok] at h
  obtain ⟨line, hline, hinsert⟩ := h
  obtain ⟨hwo, hunposted⟩ := newCostLine_spec hline
  exact ⟨line, hwo, hunposted, hinsert⟩

theorem createWorkOrder_spec {woNumber : String} {payload : MaintenanceWorkOrderCreate}
    (h : createWorkOrder ctx env db woNumber payload = .ok db') :
    ∃ (order : MaintenanceWorkOrder)
      (orders : Table fun order : MaintenanceWorkOrder => order.id)
      (lines : Table WorkOrderCostLine.id),
      order.status = .opened ∧ order.approvedAt = none ∧
      db.workOrders.insert? order = some orders ∧
      payload.costLines.zipIdx.foldlM (insertCostLine ctx env order.id) db.costLines =
        .ok lines ∧
      db' = { db with workOrders := orders, costLines := lines } := by
  simp only [createWorkOrder, bind_eq_ok, orError_eq_ok, Except.ok.injEq] at h
  obtain ⟨-, -, orders, horders, lines, hlines, rfl⟩ := h
  exact ⟨_, orders, lines, rfl, rfl, horders, hlines, rfl⟩

theorem addCostLine_spec {woId : Id} {payload : WorkOrderCostLineCreate}
    (h : addCostLine ctx env db woId payload = .ok db') :
    ∃ (order : MaintenanceWorkOrder) (line : WorkOrderCostLine)
      (lines : Table WorkOrderCostLine.id),
      db.workOrders.find? woId = some order ∧ line.workOrderId = woId ∧
      line.postedToSubledger = false ∧ db.costLines.insert? line = some lines ∧
      db' = { db with costLines := lines } := by
  simp only [addCostLine, bind_eq_ok, orError_eq_ok, Except.ok.injEq] at h
  obtain ⟨order, horder, lines, hline, rfl⟩ := h
  obtain ⟨line, hwo, hunposted, hinsert⟩ := insertCostLine_spec hline
  exact ⟨order, line, lines, (Database.workOrder?_eq_some.1 horder).1, hwo, hunposted, hinsert,
    rfl⟩

theorem flushWorkOrder_spec {loaded edited : MaintenanceWorkOrder}
    (h : db.flushWorkOrder loaded edited = .ok db') :
    ∃ row, db.workOrders.find? loaded.id = some row ∧
      db' = { db with workOrders := db.workOrders.set (loaded.flush edited row) } := by
  simp only [Database.flushWorkOrder, bind_eq_ok, orError_eq_ok, Except.ok.injEq] at h
  obtain ⟨-, -, row, hrow, rfl⟩ := h
  exact ⟨row, hrow, rfl⟩

theorem editWorkOrder_spec {woId : Id} {payload : MaintenanceWorkOrderUpdate}
    {loaded edited : MaintenanceWorkOrder}
    (h : editWorkOrder env db woId payload = .ok (loaded, edited)) :
    db.workOrders.find? woId = some loaded := by
  simp only [editWorkOrder, bind_eq_ok, orError_eq_ok, Except.ok.injEq, Prod.mk.injEq] at h
  obtain ⟨wo, hwo, -, -, _, -, _, -, _, -, _, -, rfl, -⟩ := h
  exact (Database.workOrder?_eq_some.1 hwo).1

theorem commitCompletion_spec {r : CompleteRequest} {wo : MaintenanceWorkOrder}
    {lines : List WorkOrderCostLine} (h : db.commitCompletion r wo lines = .ok db') :
    ∃ row, db.workOrders.find? wo.id = some row ∧
      db' = { db with
        workOrders := db.workOrders.set (wo.flush (wo.complete r) row)
        costLines := db.costLines.mapRows (WorkOrderCostLine.post (unposted lines))
          (WorkOrderCostLine.post_id _)
        entries := db.entries ++ (unposted lines).map (WorkOrderCostLine.entry r wo) } := by
  simp only [Database.commitCompletion, bind_eq_ok, Except.ok.injEq] at h
  obtain ⟨-, -, -, -, saved, hsaved, rfl⟩ := h
  obtain ⟨row, hrow, rfl⟩ := flushWorkOrder_spec hsaved
  exact ⟨row, hrow, rfl⟩

/-! ## Statements -/

/-- What a statement of a request does to the database. -/
inductive Served (ctx : Context 28 12) (db db' : Database) : Session → Prop
  /-- It reads, or what it did is rolled back. -/
  | same {session : Session} : db' = db → Served ctx db db' session
  | call {c : Call} : c.exec ctx db = .ok db' → Served ctx db db' (.call c)
  | updated {loaded edited row : MaintenanceWorkOrder} :
      db.workOrders.find? loaded.id = some row →
      db' = { db with workOrders := db.workOrders.set (loaded.flush edited row) } →
      Served ctx db db' (.updating loaded edited)
  | completed {r : CompleteRequest} {wo row : MaintenanceWorkOrder}
      {lines : List WorkOrderCostLine} :
      db.workOrders.find? wo.id = some row →
      db' = { db with
        workOrders := db.workOrders.set (wo.flush (wo.complete r) row)
        costLines := db.costLines.mapRows (WorkOrderCostLine.post (unposted lines))
          (WorkOrderCostLine.post_id _)
        entries := db.entries ++ (unposted lines).map (WorkOrderCostLine.entry r wo) } →
      Served ctx db db' (.completing r wo lines)

theorem commit_spec {result : Outcome Database} {next : Option Session}
    (h : commit db result = (db', next)) : (db' = db ∨ result = .ok db') ∧ next = none := by
  unfold commit at h
  split at h
  · obtain ⟨rfl, rfl⟩ := Prod.mk.inj h
    exact ⟨.inr rfl, rfl⟩
  · obtain ⟨rfl, rfl⟩ := Prod.mk.inj h
    exact ⟨.inl rfl, rfl⟩

theorem serving_spec {others : List Session} {session : Session} {next : Option Session}
    (h : serving ctx others db session = some (db', next)) : Served ctx db db' session := by
  have hstep := Option.some.inj h
  cases session with
  | call c =>
      rcases (commit_spec hstep).1 with hsame | hexec
      · exact .same hsame
      · exact .call hexec
  | updateWorkOrder env woId payload =>
      dsimp only at hstep
      split at hstep <;> exact .same (Prod.mk.inj hstep).1.symm
  | updating loaded edited =>
      rcases (commit_spec hstep).1 with hsame | hflush
      · exact .same hsame
      · obtain ⟨row, hrow, hdb⟩ := flushWorkOrder_spec hflush
        exact .updated hrow hdb
  | completeWorkOrder r =>
      dsimp only at hstep
      split at hstep <;> exact .same (Prod.mk.inj hstep).1.symm
  | orderRead r wo =>
      dsimp only at hstep
      split at hstep <;> exact .same (Prod.mk.inj hstep).1.symm
  | completing r wo lines =>
      rcases (commit_spec hstep).1 with hsame | hcompletion
      · exact .same hsame
      · obtain ⟨row, hrow, hdb⟩ := commitCompletion_spec hcompletion
        exact .completed hrow hdb

end Cestos.Maintenance
