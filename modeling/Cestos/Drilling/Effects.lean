import Cestos.Drilling.Workflow

/-!
# What the requests do

One constructor for each request that succeeds, with what it found and what it leaves.
-/

namespace Cestos.Drilling

open Cestos.Core Cestos.Core.Decimal

/-- The columns of a report that only a transition writes. -/
structure SameSignatures (old new : DrillingShiftReport) : Prop where
  id : new.id = old.id
  status : new.status = old.status
  submittedAt : new.submittedAt = old.submittedAt
  submittedById : new.submittedById = old.submittedById
  approvedAt : new.approvedAt = old.approvedAt
  approvedById : new.approvedById = old.approvedById

/-- What an update makes of a report. -/
structure Updated (payload : ShiftReportUpdate) (old new : DrillingShiftReport) : Prop where
  signatures : SameSignatures old new
  projectId : new.projectId = payload.projectId.getD old.projectId
  rigId : new.rigId = payload.rigId.getD old.rigId
  parts : payload.intervals = none → payload.timeSegments = none →
    new.intervals = old.intervals ∧ new.timeSegments = old.timeSegments ∧
      (payload.totalProductiveHours = none → new.totalProductiveHours = old.totalProductiveHours)

/-- What a request that succeeds does. -/
inductive Effect (ctx : Context 28 12) (refs : References) (env : Env) (db : Database) :
    Operation → Database → Prop
  | created (payload : ShiftReportCreate) (actorId : Option Id) (report : DrillingShiftReport)
      (reports : Table DrillingShiftReport.id) :
      SameSignatures (newReport env payload actorId) report → report.projectId = payload.projectId →
      db.reports.insert? report = some reports →
      Effect ctx refs env db (.create payload actorId) { db with reports }
  | updated (shiftId : Id) (payload : ShiftReportUpdate) (old new : DrillingShiftReport) :
      db.reports.find? shiftId = some old → Updated payload old new →
      Effect ctx refs env db (.update shiftId payload) { db with reports := db.reports.set new }
  | submitted (shiftId userId : Id) (notes : Option String) (old new : DrillingShiftReport) :
      db.reports.find? shiftId = some old → old.status ∈ [.draft, .returned] → new.id = old.id →
      new.status = .submitted → new.submittedAt = some env.now → new.submittedById = some userId →
      Effect ctx refs env db (.submit shiftId userId notes)
        { db with reports := db.reports.set new }
  | approved (shiftId userId : Id) (notes : Option String) (old : DrillingShiftReport)
      (entries : List RevenueSubledgerEntry) :
      db.reports.find? shiftId = some old → old.status ∈ [.submitted, .draft, .returned] →
      calculateAndPostShiftRevenue ctx refs db.entries (approved env userId notes old) =
        .ok entries →
      Effect ctx refs env db (.approve shiftId userId notes)
        ⟨deepenHoles env db.holes old.intervals, db.reports.set (Drilling.approved env userId notes old),
          entries⟩
  | returned (shiftId : Id) (reason : String) (old new : DrillingShiftReport) :
      db.reports.find? shiftId = some old → old.status = .submitted → new.id = old.id →
      new.status = .returned → new.submittedAt = old.submittedAt →
      new.submittedById = old.submittedById →
      Effect ctx refs env db (.giveBack shiftId reason) { db with reports := db.reports.set new }
  | deleted (shiftId : Id) : (∀ e ∈ db.entries, e.shiftReportId ≠ shiftId) →
      Effect ctx refs env db (.delete shiftId)
        { db with reports := db.reports.removeIf (·.id = shiftId) }

section Effects

variable {ctx : Context 28 12} {refs : References} {env : Env} {db db' : Database}

theorem recalculateShiftTotals_spec {ivs : List WorkingInterval} {segments : List WorkingSegment}
    {report new : DrillingShiftReport}
    (h : recalculateShiftTotals ctx ivs segments report = .ok new) :
    SameSignatures report new ∧ new.projectId = report.projectId ∧ new.rigId = report.rigId := by
  simp only [recalculateShiftTotals, bind_eq_ok, Except.ok.injEq] at h
  obtain ⟨_, -, _, -, _, -, _, -, _, -, rfl⟩ := h
  exact ⟨⟨rfl, rfl, rfl, rfl, rfl, rfl⟩, rfl, rfl⟩

theorem replaceParts_spec {payload : ShiftReportUpdate} {report new : DrillingShiftReport}
    (h : replaceParts ctx payload report = .ok new) :
    SameSignatures report new ∧ new.projectId = report.projectId ∧ new.rigId = report.rigId ∧
      (payload.intervals = none → payload.timeSegments = none → new = report) := by
  unfold replaceParts at h
  split at h
  · obtain rfl := Except.ok.inj h
    exact ⟨⟨rfl, rfl, rfl, rfl, rfl, rfl⟩, rfl, rfl, fun _ _ => rfl⟩
  · next hparts =>
    obtain ⟨hsame, hproject, hrig⟩ := recalculateShiftTotals_spec h
    exact ⟨hsame, hproject, hrig, fun h₁ h₂ => absurd ⟨h₁, h₂⟩ hparts⟩

theorem setTotal_none {current new : Column 18 2} (h : setTotal none current = .ok new) :
    new = current :=
  (Except.ok.inj h).symm

theorem updateShiftReport_effect {shiftId : Id} {payload : ShiftReportUpdate}
    (h : updateShiftReport ctx refs db shiftId payload = .ok db') :
    Effect ctx refs env db (.update shiftId payload) db' := by
  simp only [updateShiftReport, getShiftReport, orError_bind_eq_ok, ensure_bind_eq_ok] at h
  obtain ⟨old, hold, -, hrest⟩ := h
  simp only [bind_eq_ok, Except.ok.injEq] at hrest
  obtain ⟨_, -, mid, hparts, metres, -, productive, hproductive, nonproductive, -, _, -, rfl⟩ := hrest
  obtain ⟨hsame, hproject, hrig, hkeep⟩ := replaceParts_spec hparts
  refine .updated shiftId payload old _ hold ⟨?_, hproject, hrig, fun h₁ h₂ => ?_⟩
  · exact ⟨hsame.id, hsame.status, hsame.submittedAt, hsame.submittedById, hsame.approvedAt,
      hsame.approvedById⟩
  · obtain rfl := hkeep h₁ h₂
    refine ⟨rfl, rfl, fun hnone => ?_⟩
    rw [hnone] at hproductive
    exact setTotal_none hproductive

theorem exec_effect {op : Operation} (h : exec ctx refs env db op = .ok db') :
    Effect ctx refs env db op db' := by
  cases op with
  | create payload actorId =>
      simp only [exec, createShiftReport] at h
      obtain ⟨_, -, h⟩ := bind_eq_ok.1 h
      obtain ⟨_, -, h⟩ := bind_eq_ok.1 h
      simp only [orError_bind_eq_ok, ensure_bind_eq_ok] at h
      obtain ⟨_, -, -, h⟩ := h
      obtain ⟨report, hreport, h⟩ := bind_eq_ok.1 h
      simp only [orError_bind_eq_ok, Except.ok.injEq] at h
      obtain ⟨reports, hinsert, rfl⟩ := h
      obtain ⟨hsame, hproject, -⟩ := recalculateShiftTotals_spec hreport
      exact .created payload actorId report reports hsame hproject hinsert
  | update shiftId payload => exact updateShiftReport_effect h
  | submit shiftId userId notes =>
      simp only [exec, submitShiftReport, getShiftReport, orError_bind_eq_ok, ensure_bind_eq_ok,
        Except.ok.injEq] at h
      obtain ⟨old, hold, hopen, rfl⟩ := h
      exact .submitted shiftId userId notes old _ hold hopen rfl rfl rfl rfl
  | approve shiftId userId notes =>
      simp only [exec, approveShiftReport, getShiftReport, checkApprovable] at h
      obtain ⟨_, -, h⟩ := bind_eq_ok.1 h
      simp only [orError_bind_eq_ok, ensure_bind_eq_ok] at h
      obtain ⟨old, hold, hstatus, h⟩ := h
      obtain ⟨entries, hentries, hdb⟩ := bind_eq_ok.1 h
      obtain rfl := Except.ok.inj hdb
      exact .approved shiftId userId notes old entries hold hstatus hentries
  | giveBack shiftId reason =>
      simp only [exec, returnShiftReport, getShiftReport, orError_bind_eq_ok, ensure_bind_eq_ok,
        Except.ok.injEq] at h
      obtain ⟨old, hold, hstatus, rfl⟩ := h
      exact .returned shiftId reason old _ hold hstatus rfl rfl rfl rfl
  | delete shiftId =>
      simp only [exec, deleteShiftReport, getShiftReport, orError_bind_eq_ok, ensure_bind_eq_ok,
        Except.ok.injEq] at h
      obtain ⟨_, -, -, hfree, rfl⟩ := h
      exact .deleted shiftId hfree

end Effects

/-!
## Who signed a report

Every transition records who made it and when. Creation is the exception: it takes the
status from the payload and records the author of a submission only.
-/

variable {ctx : Context 28 12} {refs : References} {env : Env} {db db' : Database}
  {requests : List (Env × Operation)}

/-- An approved report was approved by one of the requests, which it names with its time,
and a report that is no draft says when and by whom it was submitted. -/
structure Signed (requests : List (Env × Operation)) (r : DrillingShiftReport) : Prop where
  approved : r.status = .approved → ∃ env userId notes,
    (env, .approve r.id userId notes) ∈ requests ∧ r.approvedAt = some env.now ∧
      r.approvedById = some userId
  submitted : r.status ≠ .draft → r.submittedAt ≠ none ∧ r.submittedById ≠ none

/-- A report is created as a draft, or as submitted by a user. -/
def CreatedUnsigned (_ : Database) : Operation → Prop
  | .create payload actorId => payload.status ≠ some .approved ∧ payload.status ≠ some .returned ∧
      (payload.status = some .submitted → actorId ≠ none)
  | .update _ _ | .submit _ _ _ | .approve _ _ _ | .giveBack _ _ | .delete _ => True

instance (db : Database) : DecidablePred (CreatedUnsigned db)
  | .create _ _ => inferInstanceAs (Decidable (_ ∧ _ ∧ _))
  | .update _ _ | .submit _ _ _ | .approve _ _ _ | .giveBack _ _ | .delete _ => .isTrue trivial

theorem Signed.mono {r : DrillingShiftReport} (h : Signed requests r) (p : Env × Operation) :
    Signed (requests ++ [p]) r := by
  refine ⟨fun happroved => ?_, h.submitted⟩
  obtain ⟨env, userId, notes, hmem, hrest⟩ := h.approved happroved
  exact ⟨env, userId, notes, List.mem_append_left _ hmem, hrest⟩

theorem Signed.same {old new : DrillingShiftReport} (h : Signed requests old)
    (hsame : SameSignatures old new) : Signed requests new := by
  constructor
  · rw [hsame.status, hsame.id, hsame.approvedAt, hsame.approvedById]
    exact h.approved
  · rw [hsame.status, hsame.submittedAt, hsame.submittedById]
    exact h.submitted

theorem signed_newReport {payload : ShiftReportCreate} {actorId : Option Id}
    (h : CreatedUnsigned db (.create payload actorId)) :
    Signed requests (newReport env payload actorId) := by
  obtain ⟨happroved, hreturned, hactor⟩ := h
  obtain ⟨_, _, _, _, _, status, _, _, _⟩ := payload
  dsimp only at happroved hreturned hactor
  cases status with
  | none => exact ⟨fun h => by simp [newReport] at h, fun h => by simp [newReport] at h⟩
  | some status =>
      cases status with
      | draft => exact ⟨fun h => by simp [newReport] at h, fun h => by simp [newReport] at h⟩
      | submitted =>
          exact ⟨fun h => by simp [newReport] at h,
            fun _ => ⟨by simp [newReport], by simpa [newReport] using hactor⟩⟩
      | approved => exact absurd rfl happroved
      | returned => exact absurd rfl hreturned

theorem signed_approved {userId : Id} {notes : Option String} {old : DrillingShiftReport}
    (h : Signed requests old) (hstatus : old.status ∈ [.submitted, .draft, .returned]) :
    Signed (requests ++ [(env, .approve old.id userId notes)]) (approved env userId notes old) := by
  refine ⟨fun _ => ⟨env, userId, notes, by simp [approved], rfl, rfl⟩, fun _ => ?_⟩
  unfold approved
  by_cases hopen : old.status ∈ [.draft, .returned]
  · simp only [if_pos hopen]
    cases old.submittedAt <;> cases old.submittedById <;> simp
  · have hsubmitted : old.status = .submitted := by
      simp only [List.mem_cons, List.not_mem_nil, or_false, not_or] at hstatus hopen
      exact hstatus.resolve_right fun h => h.elim hopen.1 hopen.2
    simp only [if_neg hopen]
    exact h.submitted (by simp [hsubmitted])

theorem Effect.signed {op : Operation} (heffect : Effect ctx refs env db op db')
    (hcond : CreatedUnsigned db op) (h : ∀ r ∈ db.reports.rows, Signed requests r) :
    ∀ r ∈ db'.reports.rows, Signed (requests ++ [(env, op)]) r := by
  have hset : ∀ {new old : DrillingShiftReport}, db.reports.find? new.id = some old →
      Signed (requests ++ [(env, op)]) new →
      ∀ r ∈ (db.reports.set new).rows, Signed (requests ++ [(env, op)]) r := by
    intro new old hold hnew r hr
    rcases (Table.mem_set_of_find? hold).1 hr with ⟨hr, -⟩ | rfl
    · exact (h r hr).mono _
    · exact hnew
  cases heffect with
  | created payload actorId report reports hsame hproject hinsert =>
      intro r hr
      rcases (Table.mem_insert? hinsert).1 hr with hr | rfl
      · exact (h r hr).mono _
      · exact (signed_newReport hcond).same hsame
  | updated shiftId payload old new hold hupdated =>
      have hid : db.reports.find? new.id = some old := by
        rw [hupdated.signatures.id, Table.key_of_find? hold, hold]
      exact hset hid (((h old (Table.mem_of_find? hold)).same hupdated.signatures).mono _)
  | submitted shiftId userId notes old new hold hopen hid hstatus hat hby =>
      have hfind : db.reports.find? new.id = some old := by
        rw [hid, Table.key_of_find? hold, hold]
      refine hset hfind ⟨fun happroved => ?_, fun _ => ⟨by simp [hat], by simp [hby]⟩⟩
      rw [hstatus] at happroved
      cases happroved
  | approved shiftId userId notes old entries hold hstatus hentries =>
      obtain rfl := Table.key_of_find? hold
      exact hset hold (signed_approved (h old (Table.mem_of_find? hold)) hstatus)
  | returned shiftId reason old new hold hsubmitted hid hstatus hat hby =>
      have hfind : db.reports.find? new.id = some old := by
        rw [hid, Table.key_of_find? hold, hold]
      have hold' := (h old (Table.mem_of_find? hold)).submitted (by simp [hsubmitted])
      refine hset hfind ⟨fun happroved => ?_, fun _ => by rw [hat, hby]; exact hold'⟩
      rw [hstatus] at happroved
      cases happroved
  | deleted shiftId hfree =>
      intro r hr
      exact (h r (Table.mem_removeIf.1 hr).1).mono _

/-- In every run whose reports are created as drafts or as submitted by a user, the approved
reports have been approved and all others than drafts have been submitted. -/
theorem reports_signed (h : Run ctx refs CreatedUnsigned requests db) :
    ∀ r ∈ db.reports.rows, Signed requests r := by
  induction h with
  | init hreports _ =>
      intro r hr
      rw [hreports] at hr
      cases hr
  | step env op _ hcond hexec ih => exact (exec_effect hexec).signed hcond ih

namespace Sample

/-- One rig, no contracts. -/
def references : References where
  users := fun _ => none
  projectManager := fun _ => none
  site := fun _ _ => false
  rigs := fun id => if id = 1 then some "Rig 1" else none
  contracts := []
  lower := String.toLower

def noReports : Database := ⟨.empty, .empty, []⟩

/-- A report without intervals. -/
def creation (status : Option ShiftReportStatus) : ShiftReportCreate where
  siteLocationId := none
  projectId := 1
  rigId := 1
  date := 0
  shiftType := .day
  status := status
  notes := none
  intervals := []
  timeSegments := []

end Sample

/-- A draft that is approved at once. -/
theorem reports_signed_draft : ∃ db : Database, (∃ r ∈ db.reports.rows, r.status = .approved) ∧
    ∀ r ∈ db.reports.rows, Signed [(⟨1, 1⟩, .create (Sample.creation none) (some 1)),
      (⟨2, 0⟩, .approve 1 2 none)] r := by
  obtain ⟨db, hrun, happroved⟩ := Run.of_execAll .python Sample.references CreatedUnsigned Sample.noReports
    [(⟨1, 1⟩, .create (Sample.creation none) (some 1)), (⟨2, 0⟩, .approve 1 2 none)]
    (p := fun db => ∃ r ∈ db.reports.rows, r.status = .approved) rfl rfl (by decide +kernel)
  exact ⟨db, by simpa using happroved, reports_signed hrun⟩

/-- A report created as approved names no approver. -/
theorem reports_signed_fails : ¬ ∀ requests db,
    Run .python Sample.references (fun _ _ => True) requests db →
      ∀ r ∈ db.reports.rows, Signed requests r := by
  intro hall
  obtain ⟨db, hrun, hunsigned⟩ := Run.of_execAll .python Sample.references (fun _ _ => True)
    Sample.noReports [(⟨1, 1⟩, .create (Sample.creation (some .approved)) (some 1))]
    (p := fun db => ∃ r ∈ db.reports.rows, r.status = .approved ∧ r.approvedById = none)
    rfl rfl (by decide +kernel)
  simp only [decide_eq_true_eq] at hunsigned
  obtain ⟨r, hr, hstatus, hnone⟩ := hunsigned
  obtain ⟨_, _, _, -, -, hby⟩ := (hall _ db hrun r hr).approved hstatus
  rw [hnone] at hby
  cases hby

end Cestos.Drilling
