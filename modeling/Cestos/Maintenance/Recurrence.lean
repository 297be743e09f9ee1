import Cestos.Maintenance.Steps

/-!
# Recurring jobs

A recurring job that is completed is followed by the next one. The next job comes from the
status field of an update, not from the completion itself, so the other ways to complete a job
create none, and an update that repeats the status creates another.
-/

namespace Cestos.Maintenance

open Cestos.Core Cestos.Core.Decimal

variable {ctx : Context 28 12} {env : Env} {actor : Actor} {db db' : Database}

/-- Each job was completed while it recurred at most once, and has as many successors. -/
@[mk_iff]
structure Database.NextCreated (db : Database) : Prop where
  each : ∀ job ∈ db.jobs.rows,
    (db.successors.map (·.1)).count job.id = db.completions.count job.id
  once : ∀ job ∈ db.jobs.rows, db.completions.count job.id ≤ 1
  created : ∀ p ∈ db.successors, (db.jobs.find? p.2).isSome

instance (db : Database) : Decidable db.NextCreated :=
  decidable_of_iff' _ db.nextCreated_iff

/-- A recurring job is completed by an update of the office, and no update repeats that. -/
def Session.CompletesOnce (db : Database) : Session → Prop
  | .call (.updateMaintenance _ _ _ jobId body) => ∀ job ∈ db.jobs.find? jobId,
      job.status = .completed → body.status.join = some .completed → body.recurs job = false
  | .call (.maintenanceStatus _ _ _ jobId body) => ∀ job ∈ db.jobs.find? jobId,
      job.status ≠ .completed → body.status = .completed → job.recurs = false
  | .call (.updateWork _ _ workId body) => ∀ job ∈ db.jobs.find? workId,
      job.closed = false → body.status = some .completed → job.recurs = false
  | _ => True

instance (db : Database) : DecidablePred (Session.CompletesOnce db)
  | .call (.updateMaintenance _ _ _ _ _) => inferInstanceAs (Decidable (∀ _ ∈ _, _ → _ → _))
  | .call (.maintenanceStatus _ _ _ _ _) => inferInstanceAs (Decidable (∀ _ ∈ _, _ → _ → _))
  | .call (.updateWork _ _ _ _) => inferInstanceAs (Decidable (∀ _ ∈ _, _ → _ → _))
  | .call (.createMaintenance _ _ _ _) | .call (.editWork _ _ _)
  | .call (.createWorkOrder _ _ _) | .call (.addCostLine _ _ _) => .isTrue trivial
  | .updateWorkOrder _ _ _ | .completeWorkOrder _ | .orderRead _ _ | .updating _ _
  | .completing _ _ _ => .isTrue trivial

/-! ## The invariant -/

/-- Successors are counted as completions are, and only completed jobs are. -/
structure Database.Counted (db : Database) : Prop where
  each : ∀ id, (db.successors.map (·.1)).count id = db.completions.count id
  once : ∀ id, db.completions.count id ≤ 1
  completed : ∀ id ∈ db.completions, ∃ job ∈ db.jobs.find? id, job.status = .completed
  created : ∀ p ∈ db.successors, (db.jobs.find? p.2).isSome

theorem Database.Counted.same (h : db.Counted) (hjobs : db'.jobs = db.jobs)
    (hcompletions : db'.completions = db.completions)
    (hsuccessors : db'.successors = db.successors) : db'.Counted := by
  refine ⟨?_, ?_, ?_, ?_⟩
  · rw [hsuccessors, hcompletions]
    exact h.each
  · rw [hcompletions]
    exact h.once
  · rw [hcompletions, hjobs]
    exact h.completed
  · rw [hsuccessors, hjobs]
    exact h.created

theorem Database.Counted.insert (h : db.Counted) {job : AssetMaintenanceJob}
    {jobs : Table fun job : AssetMaintenanceJob => job.id}
    (hinsert : db.jobs.insert? job = some jobs) : { db with jobs := jobs }.Counted := by
  refine ⟨h.each, h.once, fun id hid => ?_, fun p hp => ?_⟩
  · obtain ⟨old, hold, hstatus⟩ := h.completed id hid
    exact ⟨old, Table.find?_insert?_of_find? hinsert hold, hstatus⟩
  · obtain ⟨old, hold⟩ := Option.isSome_iff_exists.1 (h.created p hp)
    exact Option.isSome_iff_exists.2 ⟨old, Table.find?_insert?_of_find? hinsert hold⟩

theorem Database.Counted.rows (h : db.Counted) {job job' : AssetMaintenanceJob}
    (hfind : db.jobs.find? job'.id = some job)
    (hstays : job.status = .completed → job'.status = .completed) :
    (∀ id ∈ db.completions, ∃ row ∈ (db.jobs.set job').find? id, row.status = .completed) ∧
      ∀ p ∈ db.successors, ((db.jobs.set job').find? p.2).isSome := by
  refine ⟨fun id hid => ?_, fun p hp => ?_⟩
  · obtain ⟨old, hold, hstatus⟩ := h.completed id hid
    rw [Table.find?_set]
    split
    · next hsame =>
      subst hsame
      obtain rfl : job = old := Option.some.inj (hfind.symm.trans hold)
      exact ⟨job', by simp [hfind], hstays hstatus⟩
    · exact ⟨old, hold, hstatus⟩
  · obtain ⟨old, hold⟩ := Option.isSome_iff_exists.1 (h.created p hp)
    rw [Table.find?_set]
    split
    · next hsame => simp [hold]
    · simp [hold]

theorem Database.Counted.save (h : db.Counted) (job job' : AssetMaintenanceJob)
    (hfind : db.jobs.find? job'.id = some job)
    (hstays : job.status = .completed → job'.status = .completed)
    (hnone : job.status ≠ .completed → job'.status = .completed → job'.recurs = false) :
    (db.saveJob job job').Counted := by
  have hcompletions : (db.saveJob job job').completions = db.completions := by
    unfold saveJob
    dsimp only
    rw [if_neg, List.append_nil]
    rintro ⟨hbefore, hafter, hrecurs⟩
    rw [hnone hbefore hafter] at hrecurs
    cases hrecurs
  obtain ⟨hcompleted, hcreated⟩ := h.rows hfind hstays
  refine ⟨?_, ?_, ?_, hcreated⟩
  · rw [hcompletions]
    exact h.each
  · rw [hcompletions]
    exact h.once
  · rw [hcompletions]
    exact hcompleted

/-- A recurring job is completed, and the next one is created. -/
theorem Database.Counted.saveNext (h : db.Counted) {job job' : AssetMaintenanceJob}
    (hfind : db.jobs.find? job'.id = some job) (hbefore : job.status ≠ .completed)
    (hafter : job'.status = .completed) (hrecurs : job'.recurs = true)
    (hnext : (db.saveJob job job').addNext env job' = .ok db') : db'.Counted := by
  have hcompletions : (db.saveJob job job').completions = db.completions ++ [job'.id] := by
    unfold saveJob
    dsimp only
    rw [if_pos ⟨hbefore, hafter, hrecurs⟩]
  have hfresh : job'.id ∉ db.completions := by
    intro hmem
    obtain ⟨row, hrow, hstatus⟩ := h.completed _ hmem
    obtain rfl : job = row := Option.some.inj (hfind.symm.trans hrow)
    exact hbefore hstatus
  obtain ⟨hcompleted, hcreated⟩ := h.rows hfind fun _ => hafter
  obtain ⟨next, jobs, -, -, hinsert, rfl⟩ := Database.addNext_spec hnext
  refine ⟨fun id => ?_, fun id => ?_, fun id hid => ?_, fun p hp => ?_⟩
  · show ((db.successors ++ [(job'.id, next.id)]).map (·.1)).count id =
      (db.saveJob job job').completions.count id
    rw [hcompletions, List.map_append, List.count_append, List.count_append, h.each]
    rfl
  · show (db.saveJob job job').completions.count id ≤ 1
    rw [hcompletions, List.count_append]
    by_cases hid : job'.id = id
    · subst hid
      rw [List.count_eq_zero.2 hfresh]
      simp
    · rw [List.count_singleton, if_neg (by simpa using hid)]
      exact h.once id
  · have hjob : ∃ row ∈ (db.saveJob job job').jobs.find? id, row.status = .completed := by
      rcases List.mem_append.1 (hcompletions ▸ hid) with hold | hnew
      · exact hcompleted id hold
      · obtain rfl := List.mem_singleton.1 hnew
        exact ⟨job', Table.find?_set_self hfind, hafter⟩
    obtain ⟨row, hrow, hstatus⟩ := hjob
    exact ⟨row, Table.find?_insert?_of_find? hinsert hrow, hstatus⟩
  · rcases List.mem_append.1 hp with hold | hnew
    · obtain ⟨row, hrow⟩ := Option.isSome_iff_exists.1 (hcreated p hold)
      exact Option.isSome_iff_exists.2 ⟨row, Table.find?_insert?_of_find? hinsert hrow⟩
    · obtain rfl := List.mem_singleton.1 hnew
      exact Option.isSome_iff_exists.2 ⟨next, Table.find?_eq_some.2
        ⟨(Table.mem_insert? hinsert).2 (.inr rfl), rfl⟩⟩

/-! ## One request -/

theorem Call.counted {c : Call} (h : db.Counted) (hcond : Session.CompletesOnce db (.call c))
    (hexec : c.exec ctx db = .ok db') : db'.Counted := by
  cases c with
  | createMaintenance env actor assetId body =>
      obtain ⟨job, jobs, -, -, hinsert, rfl⟩ := createMaintenance_spec hexec
      exact h.insert hinsert
  | updateMaintenance env actor assetId jobId body =>
      obtain ⟨job, job', hjob, happlied, hnext⟩ := updateMaintenance_spec hexec
      have hfind : db.jobs.find? job'.id = some job := by
        rw [happlied.id, Database.job_id hjob]
        exact hjob
      have hstays : job.status = .completed → job'.status = .completed := by
        intro hcompleted
        rw [happlied.status_eq (by rw [hcompleted]; rfl)]
        exact hcompleted
      split at hnext
      · next hrepeat =>
        have hbefore : job.status ≠ .completed := by
          intro hcompleted
          have hrecurs := hcond job hjob hcompleted hrepeat.1
          rw [← happlied.recurs, hrepeat.2] at hrecurs
          cases hrecurs
        have hafter : job'.status = .completed := by
          rw [happlied.status, hrepeat.1]
          rfl
        exact h.saveNext hfind hbefore hafter hrepeat.2 hnext
      · next hrepeat =>
        subst hnext
        refine h.save job job' hfind hstays fun hbefore hafter => ?_
        cases hrecurs : job'.recurs with
        | false => rfl
        | true => exact absurd ⟨happlied.completes hbefore hafter, hrecurs⟩ hrepeat
  | maintenanceStatus env actor assetId jobId body =>
      rcases maintenanceStatus_spec hexec with rfl |
        ⟨job, work, notes, hjob, -, hallowed, ⟨startedAt, completedAt, rfl⟩, rfl⟩
      · exact h
      · refine h.save job _ ?_ (fun hcompleted => ?_) fun hbefore hafter =>
          hcond job hjob hbefore hafter
        · show db.jobs.find? job.id = some job
          rw [Database.job_id hjob]
          exact hjob
        · rw [hcompleted] at hallowed
          cases hallowed
  | updateWork env actor workId body =>
      rcases updateWork_spec hexec with rfl | ⟨job, work, notes, hjob, hupdated, rfl⟩ |
        ⟨order, work, -, -, rfl⟩
      · exact h
      · refine h.save job _ ?_ hupdated.stays fun hbefore hafter => ?_
        · show db.jobs.find? work.id = some job
          rw [hupdated.id, Database.job_id hjob]
          exact hjob
        · obtain ⟨hopen, hbody⟩ := hupdated.completes hbefore hafter
          exact hcond job hjob hopen hbody
      · exact h.same rfl rfl rfl
  | editWork actor workId body =>
      rcases editWork_spec hexec with ⟨job, job', hjob, hedited, rfl⟩ | ⟨order, work, -, -, rfl⟩
      · refine h.save job _ ?_ (fun hcompleted => hedited.status.trans hcompleted)
          fun hbefore hafter => absurd (hedited.status.symm.trans hafter) hbefore
        show db.jobs.find? job'.id = some job
        rw [hedited.id, Database.job_id hjob]
        exact hjob
      · exact h.same rfl rfl rfl
  | createWorkOrder env woNumber payload =>
      obtain ⟨order, orders, lines, -, -, -, -, rfl⟩ := createWorkOrder_spec hexec
      exact h.same rfl rfl rfl
  | addCostLine env woId payload =>
      obtain ⟨order, line, lines, -, -, -, -, rfl⟩ := addCostLine_spec hexec
      exact h.same rfl rfl rfl

theorem Served.counted {session : Session} (h : Served ctx db db' session) (hdb : db.Counted)
    (hcond : session.CompletesOnce db) : db'.Counted := by
  cases h with
  | same hsame => exact hsame ▸ hdb
  | call hexec => exact Call.counted hdb hcond hexec
  | updated hrow hdb' => exact hdb.same (by rw [hdb']) (by rw [hdb']) (by rw [hdb'])
  | completed hrow hdb' => exact hdb.same (by rw [hdb']) (by rw [hdb']) (by rw [hdb'])

/-! ## Runs -/

theorem Database.Initial.counted (h : db.Initial) : db.Counted := by
  refine ⟨fun id => ?_, fun id => ?_, fun id hid => ?_, fun p hp => ?_⟩
  · rw [h.successors, h.completions]
    rfl
  · rw [h.completions]
    exact Nat.zero_le 1
  · rw [h.completions] at hid
    cases hid
  · rw [h.successors] at hp
    cases hp

/-- In every interleaving in which recurring jobs are completed by updates of the office that
do not repeat a completion, each completion creates exactly one next job. -/
theorem next_created {s : Sessions Database Session}
    (h : Requests ctx (fun _ db session => session.CompletesOnce db) s) : s.db.NextCreated := by
  obtain ⟨db, hinit, hsteps⟩ := h
  have hrun := Sessions.steps_rel (G := Database.Counted) (P := fun _ _ => True)
    (fun _ => trivial) (fun _ _ => trivial)
    (fun others db t db' next hdb hcond hserving =>
      ⟨(serving_spec hserving).counted hdb hcond, trivial⟩) hinit.counted hsteps
  exact ⟨fun job _ => hrun.1.each job.id, fun job _ => hrun.1.once job.id, hrun.1.created⟩

/-! ## One job every thirty days -/

namespace Sample

def planner : Actor := ⟨7, false, false, [], [], []⟩

/-- An asset and its recurring job. -/
def recurring : Database where
  assets := .single ⟨1, true⟩
  projects := []
  employees := []
  jobs := .single ⟨⟨3, 1, none, "Oil", none, .service, .normal, .opened, none, none, none, none, [],
    none, none, none⟩, none, 0, "USD", true, some 30⟩
  workOrders := .empty
  costLines := .empty
  entries := []
  completions := []
  successors := []

theorem recurring_initial : recurring.Initial := by
  refine ⟨?_, ?_, ?_, rfl, rfl, rfl⟩ <;> simp [recurring]

/-- An update that sets the status to completed. -/
def complete : Session :=
  .call (.updateMaintenance python planner 1 3 { status := some (some .completed) })

end Sample

/-- The job is completed once. -/
theorem next_created_once : ∃ s : Sessions Database Session,
    s.db.successors = [(3, 100)] ∧ s.db.NextCreated := by
  obtain ⟨s, hs, hnext⟩ := Sessions.Interleaved.of_play Session.IsRequest (serving .python)
    (fun _ db session => session.CompletesOnce db) Database.Initial Sample.recurring
    [.begins Sample.complete, .acts 0] (p := fun s => s.db.successors = [(3, 100)])
    Sample.recurring_initial (by decide +kernel)
  exact ⟨s, by simpa using hnext, next_created hs⟩

/-- The status endpoint completes the job: there is no next one. -/
theorem next_created_fails :
    ¬ ∀ s, Requests .python (fun _ _ _ => True) s → s.db.NextCreated := by
  intro hall
  obtain ⟨s, hs, hnone⟩ := Sessions.Interleaved.of_play Session.IsRequest (serving .python)
    (fun _ _ _ => True) Database.Initial Sample.recurring
    [.begins (.call (.maintenanceStatus Sample.python Sample.planner 1 3
      ⟨.completed, "Done", by decide⟩)), .acts 0]
    (p := fun s => ¬ s.db.NextCreated) Sample.recurring_initial (by decide +kernel)
  simp only [decide_eq_true_eq] at hnone
  exact hnone (hall s hs)

end Cestos.Maintenance
