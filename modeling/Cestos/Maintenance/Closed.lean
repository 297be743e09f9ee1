import Cestos.Maintenance.Steps

/-!
# Closed work

Work is closed once it is completed, cancelled or approved. The field portal changes nothing of
closed work, approves completed work only, and completes it only with every task done. The
office writes the same rows without these checks.
-/

namespace Cestos.Maintenance

open Cestos.Core Cestos.Core.Decimal

variable {ctx : Context 28 12} {env : Env} {actor : Actor} {db db' : Database}

/-- What is settled once work is closed. -/
structure Terms where
  title : String
  description : Option String
  assigneeId : Option Id
  scheduledDate : Option Date
  checklist : List Task
  deriving DecidableEq

namespace Work

def terms (w : Work) : Terms :=
  ⟨w.title, w.description, w.assigneeId, w.scheduledDate, w.checklist⟩

/-- Approved work is completed, and completed work has every task done. -/
@[mk_iff]
structure Supervised (w : Work) : Prop where
  approved : w.approvedAt.isSome = true → w.status = .completed
  completed : w.status = .completed → w.done = true

/-- Closed work stays closed, on the same terms. -/
def Frozen (w w' : Work) : Prop := w.closed = true → w'.closed = true ∧ w'.terms = w.terms

instance (w : Work) : Decidable w.Supervised := decidable_of_iff' _ (supervised_iff w)

end Work

/-! ## Tables of work -/

section Tables

variable {ρ : Type} {work : ρ → Work}

/-- The rows of a table are supervised. -/
def Supervised (t : Table fun r => (work r).id) : Prop := ∀ r ∈ t.rows, (work r).Supervised

/-- What is closed in a table stays as it is. -/
def Frozen (t t' : Table fun r => (work r).id) : Prop :=
  ∀ id, ∀ r ∈ t.find? id, (work r).closed = true →
    ∃ r' ∈ t'.find? id, (work r').closed = true ∧ (work r').terms = (work r).terms

theorem Frozen.refl (t : Table fun r => (work r).id) : Frozen t t :=
  fun _ r hr hclosed => ⟨r, hr, hclosed, rfl⟩

theorem Frozen.trans {a b c : Table fun r => (work r).id} (h : Frozen a b) (h' : Frozen b c) :
    Frozen a c := by
  intro id r hr hclosed
  obtain ⟨r', hr', hclosed', hterms⟩ := h id r hr hclosed
  obtain ⟨r'', hr'', hclosed'', hterms'⟩ := h' id r' hr' hclosed'
  exact ⟨r'', hr'', hclosed'', hterms'.trans hterms⟩

theorem Supervised.set {t : Table fun r => (work r).id} (h : Supervised t) {r r' : ρ}
    (hr : t.find? (work r').id = some r) (hr' : (work r').Supervised)
    (hfrozen : (work r).Frozen (work r')) : Supervised (t.set r') ∧ Frozen t (t.set r') := by
  refine ⟨fun row hrow => ?_, fun id row hrow hclosed => ?_⟩
  · rcases (Table.mem_set_of_find? hr).1 hrow with ⟨hold, -⟩ | rfl
    · exact h row hold
    · exact hr'
  · rw [Table.find?_set]
    split
    · next hid =>
      subst hid
      obtain rfl : r = row := Option.some.inj (hr.symm.trans hrow)
      obtain ⟨hclosed', hterms⟩ := hfrozen hclosed
      exact ⟨r', by simp [hr], hclosed', hterms⟩
    · exact ⟨row, hrow, hclosed, rfl⟩

theorem Supervised.insert {t t' : Table fun r => (work r).id} (h : Supervised t) {r : ρ}
    (hopen : (work r).status = .opened) (happroved : (work r).approvedAt = none)
    (hinsert : t.insert? r = some t') : Supervised t' ∧ Frozen t t' := by
  refine ⟨fun row hrow => ?_, fun id row hrow hclosed =>
    ⟨row, Table.find?_insert?_of_find? hinsert hrow, hclosed, rfl⟩⟩
  rcases (Table.mem_insert? hinsert).1 hrow with hold | rfl
  · exact h row hold
  · refine ⟨fun hsome => ?_, fun hcompleted => ?_⟩
    · rw [happroved] at hsome
      cases hsome
    · rw [hopen] at hcompleted
      cases hcompleted

end Tables

/-- Every job and every work order is supervised. -/
def Database.Supervised (db : Database) : Prop :=
  Maintenance.Supervised db.jobs ∧ Maintenance.Supervised db.workOrders

instance (db : Database) : Decidable db.Supervised :=
  inferInstanceAs (Decidable ((∀ _ ∈ _, _) ∧ ∀ _ ∈ _, _))

/-- What is closed stays as it is. -/
def Database.Frozen (db db' : Database) : Prop :=
  Maintenance.Frozen db.jobs db'.jobs ∧ Maintenance.Frozen db.workOrders db'.workOrders

/-! ## The condition -/

/-- The update of a closed job names nothing that differs from the job. -/
@[mk_iff]
structure MaintenanceUpdate.Leaves (body : MaintenanceUpdate) (job : AssetMaintenanceJob) : Prop
    where
  title : ∀ title ∈ body.title.join, title = job.title
  description : ∀ description ∈ body.description, description = job.description
  scheduledDate : ∀ date ∈ body.scheduledDate, date = job.scheduledDate
  assigneeId : ∀ employee ∈ body.assignedEmployeeId, employee = job.assigneeId

/-- What was edited of a closed work order is what is there. -/
@[mk_iff]
structure MaintenanceWorkOrder.Leaves (loaded edited row : MaintenanceWorkOrder) : Prop where
  title : edited.title = loaded.title ∨ edited.title = row.title
  description : edited.description = loaded.description ∨ edited.description = row.description
  scheduledDate : edited.scheduledDate = loaded.scheduledDate ∨
    edited.scheduledDate = row.scheduledDate
  assigneeId : edited.assigneeId = loaded.assigneeId ∨ edited.assigneeId = row.assigneeId

/-- The status that is written: work is completed with every task done, approved work stays
completed, and closed work stays closed. -/
@[mk_iff]
structure MaintenanceWorkOrder.MayBecome (row : MaintenanceWorkOrder) (status : Status) : Prop
    where
  completed : status = .completed → row.done = true
  approved : row.approvedAt.isSome = true → status = .completed
  closed : row.closed = true → status ∈ [.completed, .cancelled]

/-- The office leaves the terms of closed work alone, keeps it closed, and completes work only
with every task done. -/
def Session.Guarded (db : Database) : Session → Prop
  | .call (.updateMaintenance _ _ _ jobId body) => ∀ job ∈ db.jobs.find? jobId,
      (job.closed = true → body.Leaves job) ∧
      (body.status.join = some .completed → job.status ≠ .completed → job.done = true)
  | .call (.maintenanceStatus _ _ _ jobId body) => ∀ job ∈ db.jobs.find? jobId,
      body.status = .completed → job.status ≠ .completed → job.done = true
  | .updating loaded edited => ∀ row ∈ db.workOrders.find? loaded.id,
      (row.closed = true → loaded.Leaves edited row) ∧
      (edited.status ≠ loaded.status → row.MayBecome edited.status)
  | .completing _ wo _ => ∀ row ∈ db.workOrders.find? wo.id,
      row.status ≠ .completed → row.done = true
  | _ => True

instance (body : MaintenanceUpdate) (job : AssetMaintenanceJob) : Decidable (body.Leaves job) :=
  decidable_of_iff' _ (MaintenanceUpdate.leaves_iff body job)

instance (loaded edited row : MaintenanceWorkOrder) : Decidable (loaded.Leaves edited row) :=
  decidable_of_iff' _ (MaintenanceWorkOrder.leaves_iff loaded edited row)

instance (row : MaintenanceWorkOrder) (status : Status) : Decidable (row.MayBecome status) :=
  decidable_of_iff' _ (MaintenanceWorkOrder.mayBecome_iff row status)

instance (db : Database) : DecidablePred (Session.Guarded db)
  | .call (.updateMaintenance _ _ _ _ _) => inferInstanceAs (Decidable (∀ _ ∈ _, _ ∧ _))
  | .call (.maintenanceStatus _ _ _ _ _) => inferInstanceAs (Decidable (∀ _ ∈ _, _ → _ → _))
  | .call (.createMaintenance _ _ _ _) | .call (.updateWork _ _ _ _) | .call (.editWork _ _ _)
  | .call (.createWorkOrder _ _ _) | .call (.addCostLine _ _ _) => .isTrue trivial
  | .updateWorkOrder _ _ _ | .completeWorkOrder _ | .orderRead _ _ => .isTrue trivial
  | .updating _ _ => inferInstanceAs (Decidable (∀ _ ∈ _, _ ∧ _))
  | .completing _ _ _ => inferInstanceAs (Decidable (∀ _ ∈ _, _ → _))

/-! ## One row -/

namespace Work

variable {w w' : Work}

theorem Updated.supervised {body : FieldWorkUpdate} (h : w.Updated body w')
    (hw : w.Supervised) : w'.Supervised ∧ w.Frozen w' := by
  cases h with
  | approved hbody hstatus hw' =>
      subst hw'
      refine ⟨⟨fun _ => hstatus, hw.completed⟩, fun _ => ⟨?_, rfl⟩⟩
      simp [closed]
  | completed hopen hbody hdone hw' =>
      subst hw'
      refine ⟨⟨fun _ => rfl, fun _ => hdone⟩, fun hclosed => ?_⟩
      rw [hopen] at hclosed
      cases hclosed
  | @reported status checklist startedAt fieldNotes hopen hstatus hw' =>
      subst hw'
      have hbefore : w.approvedAt.isSome = false ∧ w.status ∉ [.completed, .cancelled] := by
        simpa [closed] using hopen
      have hafter : status ≠ .completed := by
        rintro rfl
        rcases hstatus with hsame | hprogress
        · exact hbefore.2 (by simp [← hsame])
        · cases hprogress
      refine ⟨⟨fun hsome => ?_, fun hcompleted => absurd hcompleted hafter⟩, fun hclosed => ?_⟩
      · rw [hbefore.1] at hsome
        cases hsome
      · rw [hopen] at hclosed
        cases hclosed

theorem Edited.supervised (h : w.Edited w') : w'.Supervised ∧ w.Frozen w' := by
  have hbefore : w.approvedAt.isSome = false ∧ w.status ∉ [.completed, .cancelled] := by
    simpa [closed] using h.opened
  refine ⟨⟨fun hsome => ?_, fun hcompleted => ?_⟩, fun hclosed => ?_⟩
  · rw [h.approvedAt, hbefore.1] at hsome
    cases hsome
  · rw [h.status] at hcompleted
    exact absurd (by simp [hcompleted]) hbefore.2
  · rw [h.opened] at hclosed
    cases hclosed

theorem Supervised.allowed_eq_nil (hw : w.Supervised) (hclosed : w.closed = true) :
    allowed w.status = [] := by
  have hstatus : w.status = .completed ∨ w.status = .cancelled := by
    rcases Bool.or_eq_true_iff.1 hclosed with hsome | hstatus
    · exact .inl (hw.approved hsome)
    · simpa using hstatus
  rcases hstatus with hstatus | hstatus <;> rw [hstatus] <;> rfl

end Work

theorem getD_eq_of_forall {α : Type} {value : Option α} {old : α} (h : ∀ new ∈ value, new = old) :
    value.getD old = old := by
  cases value with
  | none => rfl
  | some new => exact h new rfl

theorem MaintenanceUpdate.Applied.supervised {body : MaintenanceUpdate}
    {job job' : AssetMaintenanceJob} (h : body.Applied job job') (hw : job.Supervised)
    (hleaves : job.closed = true → body.Leaves job)
    (hdone : body.status.join = some .completed → job.status ≠ .completed → job.done = true) :
    job'.Supervised ∧ job.Frozen job'.toWork := by
  have hsame : job'.done = job.done := by
    unfold Work.done
    rw [h.checklist]
  have hstatus : job.closed = true → job'.status = job.status :=
    fun hclosed => h.status_eq (hw.allowed_eq_nil hclosed)
  refine ⟨⟨fun hsome => ?_, fun hcompleted => ?_⟩, fun hclosed => ⟨?_, ?_⟩⟩
  · rw [h.approvedAt] at hsome
    have hclosed : job.closed = true := by simp [Work.closed, hsome]
    rw [hstatus hclosed]
    exact hw.approved hsome
  · rw [hsame]
    by_cases hbefore : job.status = .completed
    · exact hw.completed hbefore
    · exact hdone (h.completes hbefore hcompleted) hbefore
  · unfold Work.closed
    rw [h.approvedAt, hstatus hclosed]
    exact hclosed
  · have hbody := hleaves hclosed
    unfold Work.terms
    rw [h.title, h.description, h.assigneeId, h.scheduledDate, h.checklist,
      getD_eq_of_forall hbody.title, getD_eq_of_forall hbody.description,
      getD_eq_of_forall hbody.assigneeId, getD_eq_of_forall hbody.scheduledDate]

theorem written_eq_self {α : Type} [DecidableEq α] {loaded edited row : α}
    (h : edited = loaded ∨ edited = row) : written loaded edited row = row := by
  unfold written
  split
  · rfl
  · next hchanged => exact h.resolve_left hchanged

theorem MaintenanceWorkOrder.flush_supervised (loaded edited : MaintenanceWorkOrder)
    {row : MaintenanceWorkOrder} (hw : row.Supervised) (hleaves : row.closed = true → loaded.Leaves edited row)
    (hstatus : edited.status ≠ loaded.status → row.MayBecome edited.status) :
    (loaded.flush edited row).Supervised ∧ row.Frozen (loaded.flush edited row).toWork := by
  have hwritten : (loaded.flush edited row).status = row.status ∨
      (loaded.flush edited row).status = edited.status ∧ row.MayBecome edited.status := by
    show written _ _ _ = _ ∨ written _ _ _ = _ ∧ _
    unfold written
    split
    · exact .inl rfl
    · next hchanged => exact .inr ⟨rfl, hstatus hchanged⟩
  refine ⟨⟨fun hsome => ?_, fun hcompleted => ?_⟩, fun hclosed => ⟨?_, ?_⟩⟩
  · rcases hwritten with hsame | ⟨hnew, hmay⟩
    · rw [hsame]
      exact hw.approved hsome
    · rw [hnew]
      exact hmay.approved hsome
  · rcases hwritten with hsame | ⟨hnew, hmay⟩
    · rw [hsame] at hcompleted
      exact hw.completed hcompleted
    · rw [hnew] at hcompleted
      exact hmay.completed hcompleted
  · show (row.approvedAt.isSome || _) = true
    rcases hwritten with hsame | ⟨hnew, hmay⟩
    · rw [hsame]
      exact hclosed
    · rw [hnew, Bool.or_eq_true_iff]
      exact .inr (decide_eq_true (hmay.closed hclosed))
  · have hsame := hleaves hclosed
    show Terms.mk (written _ _ _) (written _ _ _) (written _ _ _) (written _ _ _) row.checklist = _
    rw [written_eq_self hsame.title, written_eq_self hsame.description,
      written_eq_self hsame.assigneeId, written_eq_self hsame.scheduledDate]
    rfl

/-! ## One request -/

/-- What a statement has to keep. -/
def Database.SupervisedStep (db db' : Database) : Prop := db'.Supervised ∧ db.Frozen db'

theorem Database.Supervised.job (h : db.Supervised) {jobId : Id} {job job' : AssetMaintenanceJob}
    (hjob : db.jobs.find? jobId = some job) (hid : job'.id = job.id)
    (hkept : job'.Supervised ∧ job.Frozen job'.toWork)
    (hjobs : db'.jobs = db.jobs.set job') (horders : db'.workOrders = db.workOrders) :
    db.SupervisedStep db' := by
  have hfind : db.jobs.find? job'.id = some job := by
    rw [hid, Database.job_id hjob]
    exact hjob
  obtain ⟨hsupervised, hfrozen⟩ := Maintenance.Supervised.set h.1 hfind hkept.1 hkept.2
  unfold SupervisedStep Database.Supervised Database.Frozen
  rw [hjobs, horders]
  exact ⟨⟨hsupervised, h.2⟩, hfrozen, .refl _⟩

theorem Database.Supervised.workOrder (h : db.Supervised) {woId : Id}
    {order order' : MaintenanceWorkOrder} (horder : db.workOrders.find? woId = some order)
    (hid : order'.id = order.id) (hkept : order'.Supervised ∧ order.Frozen order'.toWork)
    (hjobs : db'.jobs = db.jobs) (horders : db'.workOrders = db.workOrders.set order') :
    db.SupervisedStep db' := by
  have hfind : db.workOrders.find? order'.id = some order := by
    rw [hid, Database.workOrder_id horder]
    exact horder
  obtain ⟨hsupervised, hfrozen⟩ := Maintenance.Supervised.set h.2 hfind hkept.1 hkept.2
  unfold SupervisedStep Database.Supervised Database.Frozen
  rw [hjobs, horders]
  exact ⟨⟨h.1, hsupervised⟩, .refl _, hfrozen⟩

theorem Database.Supervised.same (h : db.Supervised) (hjobs : db'.jobs = db.jobs)
    (horders : db'.workOrders = db.workOrders) : db.SupervisedStep db' := by
  unfold SupervisedStep Database.Supervised Database.Frozen
  rw [hjobs, horders]
  exact ⟨h, .refl _, .refl _⟩

theorem Database.Supervised.mem_job (h : db.Supervised) {jobId : Id} {job : AssetMaintenanceJob}
    (hjob : db.jobs.find? jobId = some job) : job.Supervised :=
  h.1 job (Table.mem_of_find? hjob)

theorem Database.Supervised.mem_workOrder (h : db.Supervised) {woId : Id}
    {order : MaintenanceWorkOrder} (horder : db.workOrders.find? woId = some order) :
    order.Supervised :=
  h.2 order (Table.mem_of_find? horder)

theorem Database.SupervisedStep.trans {db'' : Database} (h : db.SupervisedStep db')
    (h' : db'.SupervisedStep db'') : db.SupervisedStep db'' :=
  ⟨h'.1, h.2.1.trans h'.2.1, h.2.2.trans h'.2.2⟩

theorem Database.Supervised.addJob (h : db.Supervised) {job : AssetMaintenanceJob}
    {jobs : Table fun job : AssetMaintenanceJob => job.id} (hopen : job.status = .opened)
    (happroved : job.approvedAt = none) (hinsert : db.jobs.insert? job = some jobs)
    (hjobs : db'.jobs = jobs) (horders : db'.workOrders = db.workOrders) :
    db.SupervisedStep db' := by
  obtain ⟨hsupervised, hfrozen⟩ := Maintenance.Supervised.insert h.1 hopen happroved hinsert
  unfold SupervisedStep Database.Supervised Database.Frozen
  rw [hjobs, horders]
  exact ⟨⟨hsupervised, h.2⟩, hfrozen, .refl _⟩

theorem Call.supervised {c : Call} (h : db.Supervised) (hcond : Session.Guarded db (.call c))
    (hexec : c.exec ctx db = .ok db') : db.SupervisedStep db' := by
  cases c with
  | createMaintenance env actor assetId body =>
      obtain ⟨job, jobs, hopen, happroved, hinsert, rfl⟩ := createMaintenance_spec hexec
      exact h.addJob hopen happroved hinsert rfl rfl
  | updateMaintenance env actor assetId jobId body =>
      obtain ⟨job, job', hjob, happlied, hnext⟩ := updateMaintenance_spec hexec
      obtain ⟨hleaves, hdone⟩ := hcond job hjob
      have hsaved : db.SupervisedStep (db.saveJob job job') :=
        h.job hjob happlied.id (happlied.supervised (h.mem_job hjob) hleaves hdone) rfl rfl
      split at hnext
      · obtain ⟨next, jobs, hopen, happroved, hinsert, rfl⟩ := Database.addNext_spec hnext
        exact hsaved.trans (hsaved.1.addJob hopen happroved hinsert rfl rfl)
      · subst hnext
        exact hsaved
  | maintenanceStatus env actor assetId jobId body =>
      rcases maintenanceStatus_spec hexec with rfl |
        ⟨job, work, notes, hjob, hmoved, hallowed, ⟨startedAt, completedAt, rfl⟩, rfl⟩
      · exact h.same rfl rfl
      · have hw := h.mem_job hjob
        have hopen : job.closed = false := by
          cases hclosed : job.closed with
          | false => rfl
          | true =>
              rw [hw.allowed_eq_nil hclosed] at hallowed
              cases hallowed
        refine h.job hjob (by rfl) ⟨⟨fun hsome => ?_, fun hcompleted => ?_⟩, fun hclosed => ?_⟩
          rfl rfl
        · have hclosed : job.closed = true := by
            unfold Work.closed
            rw [Bool.or_eq_true_iff]
            exact .inl hsome
          rw [hopen] at hclosed
          cases hclosed
        · exact hcond job hjob hcompleted fun hbefore => hmoved (hbefore.trans hcompleted.symm)
        · rw [hopen] at hclosed
          cases hclosed
  | updateWork env actor workId body =>
      rcases updateWork_spec hexec with rfl | ⟨job, work, notes, hjob, hupdated, rfl⟩ |
        ⟨order, work, horder, hupdated, rfl⟩
      · exact h.same rfl rfl
      · exact h.job hjob hupdated.id (hupdated.supervised (h.mem_job hjob)) rfl rfl
      · exact h.workOrder horder hupdated.id (hupdated.supervised (h.mem_workOrder horder))
          rfl rfl
  | editWork actor workId body =>
      rcases editWork_spec hexec with ⟨job, job', hjob, hedited, rfl⟩ |
        ⟨order, work, horder, hedited, rfl⟩
      · exact h.job hjob hedited.id hedited.supervised rfl rfl
      · exact h.workOrder horder hedited.id hedited.supervised rfl rfl
  | createWorkOrder env woNumber payload =>
      obtain ⟨order, orders, lines, hopen, happroved, hinsert, -, rfl⟩ :=
        createWorkOrder_spec hexec
      obtain ⟨hsupervised, hfrozen⟩ := Supervised.insert h.2 hopen happroved hinsert
      exact ⟨⟨h.1, hsupervised⟩, .refl _, hfrozen⟩
  | addCostLine env woId payload =>
      obtain ⟨order, line, lines, -, -, -, -, rfl⟩ := addCostLine_spec hexec
      exact h.same rfl rfl

theorem Served.supervised {session : Session} (h : Served ctx db db' session)
    (hdb : db.Supervised) (hcond : session.Guarded db) : db.SupervisedStep db' := by
  cases h with
  | same hsame => exact hdb.same (by rw [hsame]) (by rw [hsame])
  | call hexec => exact Call.supervised hdb hcond hexec
  | @updated loaded edited row hrow hdb' =>
      obtain ⟨hleaves, hstatus⟩ := hcond row hrow
      exact hdb.workOrder hrow (by rfl)
        (loaded.flush_supervised edited (hdb.mem_workOrder hrow) hleaves hstatus) (by rw [hdb'])
        (by rw [hdb'])
  | @completed r wo row lines hrow hdb' =>
      have hw := hdb.mem_workOrder hrow
      have hdone : row.done = true := by
        by_cases hbefore : row.status = .completed
        · exact hw.completed hbefore
        · exact hcond row hrow hbefore
      -- a completion edits none of the terms, and the status it sets is completed
      exact hdb.workOrder hrow (by rfl)
        (wo.flush_supervised (wo.complete r) hw
          (fun _ => ⟨.inl rfl, .inl rfl, .inl rfl, .inl rfl⟩)
          (fun _ => ⟨fun _ => hdone, fun _ => rfl, fun _ => List.mem_cons_self⟩))
        (by rw [hdb']) (by rw [hdb'])

/-! ## Runs -/

theorem Database.Initial.supervised (h : db.Initial) : db.Supervised := by
  have hopen : ∀ w : Work, w.status = .opened ∧ w.approvedAt = none → w.Supervised := by
    rintro w ⟨hstatus, happroved⟩
    refine ⟨fun hsome => ?_, fun hcompleted => ?_⟩
    · rw [happroved] at hsome
      cases hsome
    · rw [hstatus] at hcompleted
      cases hcompleted
  exact ⟨fun job hjob => hopen _ (h.jobs job hjob),
    fun order horder => hopen _ (h.workOrders order horder)⟩

/-- In every interleaving in which the office leaves closed work alone and completes work only
with every task done, approved work is completed, completed work is done, and what is closed
stays closed on the same terms. -/
theorem closed_kept {s s' : Sessions Database Session}
    (h : Requests ctx (fun _ db session => session.Guarded db) s)
    (hsteps : Relation.ReflTransGen (Sessions.Step Session.IsRequest (serving ctx)
      fun _ db session => session.Guarded db) s s') :
    s'.db.Supervised ∧ s.db.Frozen s'.db := by
  obtain ⟨db, hinit, hreach⟩ := h
  have hrefl : ∀ db : Database, db.Frozen db := fun db => ⟨.refl _, .refl _⟩
  have htrans : ∀ {a b c : Database}, a.Frozen b → b.Frozen c → a.Frozen c :=
    fun hab hbc => ⟨hab.1.trans hbc.1, hab.2.trans hbc.2⟩
  have hacts : ∀ (others : List Session) (db : Database) (t : Session) (db' : Database)
      (next : Option Session), db.Supervised → t.Guarded db →
      serving ctx others db t = some (db', next) → db'.Supervised ∧ db.Frozen db' :=
    fun others db t db' next hdb hcond hserving => (serving_spec hserving).supervised hdb hcond
  have hdb := Sessions.steps_rel hrefl htrans hacts hinit.supervised hreach
  exact Sessions.steps_rel hrefl htrans hacts hdb.1 hsteps

/-! ## One job with one task -/

namespace Sample

/-- The assignee, and the supervisor of the assignee. -/
def mechanic : Actor := ⟨8, false, false, [4], [], []⟩

def foreman : Actor := ⟨9, false, true, [], [4], [4]⟩

def office : Actor := ⟨7, false, false, [], [], []⟩

/-- An asset, its mechanic, and a job that is assigned to the mechanic. -/
def workshop : Database where
  assets := .single ⟨1, true⟩
  projects := []
  employees := [4]
  jobs := .single ⟨⟨3, 1, none, "Oil", none, .service, .normal, .opened, none, some 4, none, none,
    [⟨"a", "Drain", false⟩], none, none, none⟩, none, 0, "USD", true, some 30⟩
  workOrders := .empty
  costLines := .empty
  entries := []
  completions := []
  successors := []

theorem workshop_initial : workshop.Initial := by
  refine ⟨?_, ?_, ?_, rfl, rfl, rfl⟩ <;> simp [workshop]

/-- The status endpoint completes the job. -/
def close : Session :=
  .call (.maintenanceStatus python office 1 3 ⟨.completed, "Done", by decide⟩)

end Sample

/-- The mechanic does the task and reports the job completed; the supervisor approves it. -/
theorem closed_kept_approved : ∃ s s' : Sessions Database Session,
    (∃ job ∈ s.db.jobs.rows, job.closed = true) ∧ s'.db.Supervised ∧ s.db.Frozen s'.db := by
  obtain ⟨s, s', hs, hsteps, hclosed⟩ := Sessions.Interleaved.of_play_play Session.IsRequest
    (serving .python) (fun _ db session => session.Guarded db) Database.Initial Sample.workshop
    [.begins (.call (.updateWork Sample.python Sample.mechanic 3
      { taskId := some "a", completed := some true, status := some .completed })), .acts 0]
    [.begins (.call (.updateWork Sample.python Sample.foreman 3 { status := some .approved })),
      .acts 0]
    (p := fun s _ => s.db.jobs.rows.any fun job => job.closed) Sample.workshop_initial
    (by decide +kernel)
  refine ⟨s, s', ?_, closed_kept hs hsteps⟩
  simpa using hclosed

/-- The status endpoint completes a job with an open task. -/
theorem closed_kept_fails :
    ¬ ∀ s s', Requests .python (fun _ _ _ => True) s →
      Relation.ReflTransGen (Sessions.Step Session.IsRequest (serving .python)
        fun _ _ _ => True) s s' → s'.db.Supervised ∧ s.db.Frozen s'.db := by
  intro hall
  obtain ⟨s, hs, hopen⟩ := Sessions.Interleaved.of_play Session.IsRequest (serving .python)
    (fun _ _ _ => True) Database.Initial Sample.workshop [.begins Sample.close, .acts 0]
    (p := fun s => ¬ s.db.Supervised) Sample.workshop_initial (by decide +kernel)
  simp only [decide_eq_true_eq] at hopen
  exact hopen (hall s s hs .refl).1

end Cestos.Maintenance
