import Cestos.Core.Runs
import Cestos.Equipment.Eligible
import Cestos.Equipment.Readings

/-!
# Completed assignments

An assignment that is completed has ended, and not before it began, as long as no update completes
one with an explicit null for its end, and none becomes active that ends the active one before it
began.
-/

namespace Cestos.Equipment

open Cestos.Core

variable {call : Call} {seen : Seen} {file file' : AssetFile}

/-- If the assignment is completed, it has ended, and not before it began. -/
def AssetAssignment.Ended (row : AssetAssignment) : Prop :=
  row.status = .completed → ∃ returnedAt ∈ row.returnedAt, row.assignedAt ≤ returnedAt

def AssetFile.Ended (file : AssetFile) : Prop := ∀ row ∈ file.assignments.rows, row.Ended

/-- The active assignment has begun by the moment, unless it is the one. -/
def AssetFile.BegunBy (file : AssetFile) (self : Option Id) (moment : Instant) : Prop :=
  ∀ row ∈ file.activeAssignment, some row.id ≠ self → row.assignedAt ≤ moment

/-- A request that completes an assignment leaves it an end, and one that makes an assignment active
does so when the active one has begun. -/
def AssetRequest.Dated (call : Call) (file : AssetFile) : AssetRequest → Prop
  | .createAssignment _ body => body.status = .active → file.BegunBy none body.assignedAt
  | .updateAssignment id _ data =>
    (data.status = some (some .completed) → data.returnedAt ≠ some none) ∧
      (data.status = some (some .active) → file.BegunBy (some id) call.now)
  | _ => True

/-! ## Rows that are written -/

theorem AssetAssignment.ended_closed {row : AssetAssignment} {moment : Instant} :
    (row.closed moment).Ended ↔ row.assignedAt ≤ moment := by
  simp [AssetAssignment.Ended, AssetAssignment.closed]

theorem ended_set {assignments : Table AssetAssignment.id} {row written : AssetAssignment}
    (hrow : row ∈ assignments.rows) (hid : written.id = row.id) (hopen : row.status ≠ .completed) :
    (∀ r ∈ (assignments.set written).rows, r.Ended) ↔
      (∀ r ∈ assignments.rows, r.Ended) ∧ written.Ended := by
  constructor
  · intro h
    have hwritten : written.id ∈ assignments.rows.map (·.id) := hid ▸ List.mem_map_of_mem hrow
    refine ⟨fun r hr => ?_, h _ (Table.mem_set.2 (.inr ⟨rfl, hwritten⟩))⟩
    by_cases hsame : r.id = written.id
    · obtain rfl := assignments.key_injective hr hrow (hsame.trans hid)
      exact fun hcompleted => absurd hcompleted hopen
    · exact h r (Table.mem_set.2 (.inl ⟨hr, hsame⟩))
  · rintro ⟨hall, hwritten⟩ r hr
    rcases Table.mem_set.1 hr with ⟨hold, -⟩ | ⟨rfl, -⟩
    · exact hall r hold
    · exact hwritten

theorem AssetFile.Ended.closeActive (h : file.Ended) (self : Option Id) (moment : Instant) :
    (file.closeActive self moment).Ended ↔ file.BegunBy self moment := by
  unfold AssetFile.closeActive
  cases hactive : file.activeAssignment.filter fun row => some row.id ≠ self with
  | none =>
      simp only [h, true_iff]
      intro row hrow hother
      simp [Option.mem_def.1 hrow, hother] at hactive
  | some row =>
      obtain ⟨hrow, hother⟩ := Option.filter_eq_some_iff.1 hactive
      have hopen : row.status ≠ .completed := by
        have hstatus := List.find?_some hrow
        simp only [decide_eq_true_eq] at hstatus
        simp [hstatus]
      have hset := ended_set (AssetFile.activeAssignment_mem hrow)
        (show (row.closed moment).id = row.id from rfl) hopen
      refine hset.trans ⟨fun hended r hr _ => ?_, fun hbegun => ⟨h, ?_⟩⟩
      · obtain rfl := Option.some.inj (hrow.symm.trans hr)
        exact AssetAssignment.ended_closed.1 hended.2
      · exact AssetAssignment.ended_closed.2 (hbegun row hrow (of_decide_eq_true hother))

/-! ## Requests -/

theorem AssetFile.assign_ended {ids : Generated} {body : AssetAssignmentCreate} (h : file.Ended)
    (hrun : file.assign call seen ids body = .ok file') :
    file'.Ended ↔ (body.status = .active → file.BegunBy none body.assignedAt) := by
  simp only [AssetFile.assign, bind_eq_ok, ensure_eq_ok, orError_eq_ok, AssetFile.flush_eq_ok] at hrun
  obtain ⟨_, -, _, hstatus, _, -, _, -, _, -, inserted, hinsert, _, ⟨-, rfl⟩, hrun⟩ := hrun
  have hsame : file'.assignments = inserted.assignments := by
    split_ifs at hrun
    · exact (AssetFile.start_same hrun).assignments
    · exact congrArg AssetFile.assignments (Except.ok.inj hrun).symm
  obtain ⟨assignments, hrows, rfl⟩ := Option.map_eq_some_iff.1 hinsert
  have hopen : (body.row ids.assignmentId).Ended := by
    intro hcompleted
    have hbody : body.status = .completed := hcompleted
    simp [hbody] at hstatus
  have hinserted : file'.Ended ↔
      (if body.status = .active then file.closeActive none body.assignedAt else file).Ended := by
    unfold AssetFile.Ended
    rw [hsame]
    constructor
    · exact fun hended r hr => hended r ((Table.mem_insert? hrows).2 (.inl hr))
    · intro hended r hr
      rcases (Table.mem_insert? hrows).1 hr with hold | rfl
      · exact hended r hold
      · exact hopen
  rw [hinserted]
  split
  · next hactive => simp only [hactive, true_imp_iff, h.closeActive]
  · next hplanned => simp [h, hplanned]

theorem AssetFile.Sound.begunBy (h : file.Sound) {row : AssetAssignment}
    (hrow : row ∈ file.assignments.rows) (hactive : row.status = .active) (moment : Instant) :
    file.BegunBy (some row.id) moment := by
  intro other hother hne
  have hstatus := List.find?_some hother
  simp only [decide_eq_true_eq] at hstatus
  exact absurd (congrArg some (h.single other (AssetFile.activeAssignment_mem hother) row hrow
    hstatus hactive)) hne

theorem AssetFile.activate_ended {id : Id} {row merged : AssetAssignment}
    {newStatus : AssignmentStatus} {data : AssetAssignmentUpdate} (hsound : file.Sound)
    (h : file.Ended) (hrow : row ∈ file.assignments.rows)
    (hrun : file.activate call seen id row merged newStatus data = .ok file') :
    (file'.Ended ↔ (newStatus = .active → file.BegunBy (some row.id) call.now)) ∧
      row ∈ file'.assignments.rows := by
  unfold AssetFile.activate at hrun
  by_cases hactive : newStatus = .active
  · rw [if_neg (not_not.2 hactive)] at hrun
    simp only [hactive, true_imp_iff]
    by_cases hold : row.status = .active
    · simp only [if_pos hold, bind_eq_ok] at hrun
      obtain ⟨_, -, _, -, hrun⟩ := hrun
      obtain rfl := Except.ok.inj hrun
      exact ⟨iff_of_true h (hsound.begunBy hrow hold call.now), hrow⟩
    · simp only [if_neg hold, bind_eq_ok, AssetFile.flush_eq_ok] at hrun
      obtain ⟨_, ⟨-, rfl⟩, _, -, _, -, hrun⟩ := hrun
      have hsame := (AssetFile.start_same hrun).assignments
      refine ⟨?_, ?_⟩
      · unfold AssetFile.Ended
        rw [hsame]
        exact h.closeActive (some row.id) call.now
      · rw [hsame]
        unfold AssetFile.closeActive
        split
        · exact hrow
        · next other hother =>
            obtain ⟨-, hne⟩ := Option.filter_eq_some_iff.1 hother
            refine Table.mem_set.2 (.inl ⟨hrow, fun hid => ?_⟩)
            exact of_decide_eq_true hne (congrArg some hid.symm)
  · rw [if_pos hactive] at hrun
    obtain rfl := Except.ok.inj hrun
    exact ⟨iff_of_true h fun hbecomes => absurd hbecomes hactive, hrow⟩

/-- What an update writes of an assignment that is neither completed nor cancelled. -/
theorem AssetAssignmentUpdate.ended_merged {data : AssetAssignmentUpdate} {row : AssetAssignment}
    {newStatus : AssignmentStatus} {now : Instant} (hopen : row.status ≠ .completed)
    (hvalid : call.env.validateFields ((data.withReturn now).merged row).fields = .ok ())
    (hnew : (data.withReturn now).newStatus row = some newStatus) :
    AssetAssignment.Ended { (data.withReturn now).merged row with status := newStatus } ↔
      (data.status = some (some .completed) → data.returnedAt ≠ some none) := by
  have hdates : ∀ last ∈ ((data.withReturn now).merged row).returnedAt, row.assignedAt ≤ last := by
    simp only [Surroundings.validateFields, bind_eq_ok, ensure_eq_ok] at hvalid
    obtain ⟨_, -, _, -, _, -, _, -, _, -, _, hreturned, -⟩ := hvalid
    exact hreturned row.assignedAt rfl
  by_cases hcompleted : data.status = some (some .completed)
  · simp only [AssetAssignmentUpdate.withReturn, if_pos hcompleted] at hnew hdates ⊢
    simp only [AssetAssignmentUpdate.newStatus, hcompleted] at hnew
    obtain rfl : AssignmentStatus.completed = newStatus := Option.some.inj hnew
    simp only [AssetAssignment.Ended, AssetAssignmentUpdate.merged, Option.getD_some, hcompleted,
      true_imp_iff] at hdates ⊢
    rcases hgiven : data.returnedAt with _ | _ | returnedAt
    · simpa [hgiven] using hdates
    · simp
    · simpa [hgiven] using hdates
  · refine iff_of_true (fun hstatus => ?_) fun h => absurd h hcompleted
    simp only [AssetAssignmentUpdate.withReturn, if_neg hcompleted] at hnew
    obtain rfl : newStatus = .completed := hstatus
    unfold AssetAssignmentUpdate.newStatus column at hnew
    cases hgiven : data.status with
    | none => simp [hgiven, hopen] at hnew
    | some status => simp_all

/-- What is written of an assignment that is neither completed nor cancelled. -/
theorem AssetFile.finishOrUpdate_writes {id : Id} {row : AssetAssignment}
    {data : AssetAssignmentUpdate} (hrun : file.finishOrUpdate call seen id row data = .ok file') :
    row.status ≠ .completed ∧
      call.env.validateFields ((data.withReturn call.now).merged row).fields = .ok () ∧
      ∃ newStatus activated, (data.withReturn call.now).newStatus row = some newStatus ∧
        file.activate call seen id row ((data.withReturn call.now).merged row) newStatus
          (data.withReturn call.now) = .ok activated ∧
        file'.assignments = activated.assignments.set
          { (data.withReturn call.now).merged row with status := newStatus } := by
  simp only [AssetFile.finishOrUpdate, bind_eq_ok, ensure_eq_ok, orError_eq_ok] at hrun
  obtain ⟨_, ⟨hopen, -⟩, _, hvalid, _, -, newStatus, hnew, activated, hactivated, hrun⟩ := hrun
  refine ⟨hopen, hvalid, newStatus, activated, hnew, hactivated, ?_⟩
  split_ifs at hrun
  · exact (AssetFile.stop_same hrun).1.assignments
  · exact congrArg AssetFile.assignments (Except.ok.inj hrun).symm

theorem AssetFile.finishOrUpdate_ended {id : Id} {row : AssetAssignment}
    {data : AssetAssignmentUpdate} (hsound : file.Sound) (h : file.Ended)
    (hrow : row ∈ file.assignments.rows)
    (hrun : file.finishOrUpdate call seen id row data = .ok file') :
    file'.Ended ↔ (data.status = some (some .completed) → data.returnedAt ≠ some none) ∧
      (data.status = some (some .active) → file.BegunBy (some row.id) call.now) := by
  obtain ⟨hopen, hvalid, newStatus, activated, hnew, hactivated, hsame⟩ :=
    AssetFile.finishOrUpdate_writes hrun
  obtain ⟨hactivatedEnded, hmem⟩ := AssetFile.activate_ended hsound h hrow hactivated
  have hbecomes : (newStatus = .active → file.BegunBy (some row.id) call.now) ↔
      (data.status = some (some .active) → file.BegunBy (some row.id) call.now) := by
    by_cases hactive : row.status = .active
    · exact iff_of_true (fun _ => hsound.begunBy hrow hactive call.now)
        fun _ => hsound.begunBy hrow hactive call.now
    · refine ⟨fun hbegun hstatus => hbegun ?_, fun hbegun hstatus => hbegun ?_⟩
      · rw [AssetAssignmentUpdate.newStatus, AssetAssignmentUpdate.withReturn,
          if_neg (by simp [hstatus]), hstatus] at hnew
        exact (Option.some.inj hnew).symm
      · exact AssetAssignmentUpdate.status_of_becomes hnew hstatus hactive
  have hset : file'.Ended ↔ activated.Ended ∧ AssetAssignment.Ended
      { (data.withReturn call.now).merged row with status := newStatus } := by
    unfold AssetFile.Ended
    rw [hsame]
    exact ended_set hmem rfl hopen
  rw [hset, hactivatedEnded, hbecomes, AssetAssignmentUpdate.ended_merged hopen hvalid hnew, and_comm]

/-- The transfer has completed the assignment that was active. -/
theorem AssetFile.completion_closes {id : Id} {current : AssetAssignment} {body : AssetTransfer}
    (hsound : file.Sound) (hcurrent : file.activeAssignment = some current)
    (hrun : file.finishOrUpdate call seen id current body.completion = .ok file') :
    file'.activeAssignment = none := by
  obtain ⟨-, -, newStatus, activated, hnew, hactivated, hsame⟩ :=
    AssetFile.finishOrUpdate_writes hrun
  obtain rfl : AssignmentStatus.completed = newStatus := Option.some.inj hnew
  obtain rfl : file = activated := Except.ok.inj hactivated
  have hactive := List.find?_some hcurrent
  simp only [decide_eq_true_eq] at hactive
  rw [AssetFile.activeAssignment_eq_none, hsame]
  intro row hrow hrowActive
  rcases Table.mem_set.1 hrow with ⟨hold, hne⟩ | ⟨rfl, -⟩
  · exact hne (hsound.single row hold current (AssetFile.activeAssignment_mem hcurrent) hrowActive
      hactive)
  · cases hrowActive

/-- A transfer ends the active assignment at the moment that the next one begins. -/
theorem AssetFile.transfer_ended {ids : Generated} {returnId : Id} {body : AssetTransfer}
    (hsound : file.Sound) (h : file.Ended)
    (hrun : file.transfer call seen ids returnId body = .ok file') : file'.Ended := by
  simp only [AssetFile.transfer, bind_eq_ok, orError_eq_ok, AssetFile.flush_eq_ok] at hrun
  obtain ⟨current, hcurrent, _, -, _, -, returned, hreturned, _, ⟨-, rfl⟩, hassign⟩ := hrun
  have hmem := AssetFile.activeAssignment_mem hcurrent
  have hended : returned.Ended := by
    rw [AssetFile.finishOrUpdate_ended hsound h hmem hreturned]
    simp [AssetTransfer.completion]
  rw [AssetFile.assign_ended hended hassign]
  intro _ row hrow
  exact absurd hrow (by simp [AssetFile.completion_closes hsound hcurrent hreturned])

theorem AssetFile.Ended.congr (h : file.Ended) (hsame : file'.assignments = file.assignments) :
    file'.Ended := by
  unfold AssetFile.Ended
  rw [hsame]
  exact h

/-- What a request leaves is as it should be exactly if it meets the condition. -/
theorem AssetFile.run_ended {r : AssetRequest} (hsound : file.Sound) (h : file.Ended)
    (hrun : file.run call seen r = .ok file') : file'.Ended ↔ r.Dated call file := by
  cases r with
  | createAssignment ids body => exact AssetFile.assign_ended h hrun
  | updateAssignment assignmentId readingId data =>
      simp only [AssetFile.run, AssetFile.updateAssignment, bind_eq_ok, orError_eq_ok,
        AssetFile.flush_eq_ok] at hrun
      obtain ⟨row, hrow, updated, hupdated, -, rfl⟩ := hrun
      rw [AssetFile.finishOrUpdate_ended hsound h (Table.mem_of_find? hrow) hupdated,
        Table.key_of_find? hrow]
      rfl
  | transfer ids returnId body =>
      exact iff_of_true (AssetFile.transfer_ended hsound h hrun) trivial
  | archive =>
      simp only [AssetFile.run, AssetFile.archive, bind_eq_ok] at hrun
      obtain ⟨_, -, _, -, hrun⟩ := hrun
      exact iff_of_true (h.congr (Except.ok.inj hrun ▸ rfl)) trivial
  | retire openJob =>
      obtain ⟨_, -, hrun⟩ := bind_eq_ok.1 hrun
      by_cases hactive : file.asset.isActive = false
      · rw [if_pos hactive] at hrun
        exact iff_of_true (Except.ok.inj hrun ▸ h) trivial
      · rw [if_neg hactive] at hrun
        obtain ⟨_, -, hrun⟩ := bind_eq_ok.1 hrun
        obtain ⟨_, -, hrun⟩ := bind_eq_ok.1 hrun
        exact iff_of_true (h.congr (Except.ok.inj hrun ▸ rfl)) trivial
  | restore => exact iff_of_true (h.congr (Except.ok.inj hrun ▸ rfl)) trivial
  | changeStatus mayOverride new =>
      obtain ⟨_, -, hrun⟩ := bind_eq_ok.1 hrun
      exact iff_of_true (h.congr (Except.ok.inj hrun ▸ rfl)) trivial
  | recordMeterReading readingId body =>
      exact iff_of_true (h.congr (AssetFile.meter_same hrun).1.assignments) trivial
  | resetMeter readingId body =>
      simp only [AssetFile.run, AssetFile.resetMeter, bind_eq_ok] at hrun
      obtain ⟨_, -, _, -, _, -, hrun⟩ := hrun
      exact iff_of_true (h.congr (AssetFile.meter_same hrun).1.assignments) trivial
  | updateMeterReading readingId data =>
      simp only [AssetFile.run, AssetFile.updateMeterReading, bind_eq_ok] at hrun
      obtain ⟨_, -, _, -, _, -, _, -, _, -, hrun⟩ := hrun
      exact iff_of_true (h.congr (Except.ok.inj hrun ▸ rfl)) trivial

/-! ## Runs -/

/-- The request meets the condition when its turn comes. -/
def AssetStep.Dated (file : AssetFile) (step : AssetStep) : Prop :=
  step.request.Dated step.call file

/-- In every run of requests that meet the condition, about an asset without assignments at first,
the assignments that are completed have ended, not before they began; and so they have after one
more request exactly if it meets the condition too. -/
theorem completed_have_ended (hnone : file.assignments.rows = []) (steps : List AssetStep)
    (hdated : Meets AssetFile.after AssetStep.Dated file steps) :
    (steps.foldl AssetFile.after file).Ended ∧ ∀ (step : AssetStep) file',
      (steps.foldl AssetFile.after file).run step.call step.seen step.request = .ok file' →
        (file'.Ended ↔ step.Dated (steps.foldl AssetFile.after file)) := by
  have hstep : ∀ (file : AssetFile) (step : AssetStep), file.Sound ∧ file.Ended →
      step.Dated file → (file.after step).Sound ∧ (file.after step).Ended := by
    intro file step h hcond
    unfold AssetFile.after
    split
    · next hrun =>
        exact ⟨(AssetFile.run_kept h.1 hrun).sound, (AssetFile.run_ended h.1 h.2 hrun).2 hcond⟩
    · exact h
  have hfirst : file.Sound ∧ file.Ended :=
    ⟨⟨by simp [hnone], by simp [hnone]⟩, by simp [AssetFile.Ended, hnone]⟩
  have hrun := hdated.keeps hstep hfirst
  exact ⟨hrun.2, fun _ _ hnext => AssetFile.run_ended hrun.1 hrun.2 hnext⟩

instance (file : AssetFile) : Decidable file.Ended :=
  inferInstanceAs (Decidable (∀ row ∈ file.assignments.rows, _ → ∃ returnedAt ∈ row.returnedAt, _))

instance (file : AssetFile) (self : Option Id) (moment : Instant) :
    Decidable (file.BegunBy self moment) :=
  inferInstanceAs (Decidable (∀ row ∈ file.activeAssignment, _ → _))

instance (call : Call) (file : AssetFile) : DecidablePred (AssetRequest.Dated call file)
  | .createAssignment _ _ => inferInstanceAs (Decidable (_ → _))
  | .updateAssignment _ _ _ => inferInstanceAs (Decidable ((_ → _) ∧ (_ → _)))
  | .transfer _ _ _ | .archive | .retire _ | .restore | .changeStatus _ _ | .recordMeterReading _ _
  | .resetMeter _ _ | .updateMeterReading _ _ => .isTrue trivial

instance (file : AssetFile) (step : AssetStep) : Decidable (step.Dated file) :=
  inferInstanceAs (Decidable (step.request.Dated _ _))

namespace Sample

/-- A request to tables that have the checks, or have not. -/
def posted (checked : Bool) (now : Instant) (request : AssetRequest) : AssetStep :=
  ⟨⟨now, now, { site with checked := checked }, false, false, .first _⟩, ⟨false, none⟩, request⟩

/-- The loader is to be given to a project, which it is, transferred to another, and returned. -/
def rotation : List AssetStep := [
  posted false 1 (.createAssignment ⟨20, 12⟩ { projectId := 3, assignedAt := 2, status := .planned }),
  posted false 3 (.updateAssignment 20 12 { status := some (some .active) }),
  posted false 4 (.transfer ⟨21, 12⟩ 13 { projectId := 4, assignedAt := 4 }),
  posted false 9 (.updateAssignment 21 12 { status := some (some .completed) })]

/-- The end of an assignment is an explicit null. -/
def forgotten : List AssetStep := [
  posted true 1 (.createAssignment ⟨20, 12⟩ { projectId := 3, assignedAt := 1 }),
  posted true 2 (.updateAssignment 20 12
    { status := some (some .completed), returnedAt := some none })]

/-- The second assignment begins before the first, which it ends. -/
def backdated : List AssetStep := [
  posted false 5 (.createAssignment ⟨20, 12⟩ { projectId := 3, assignedAt := 5 }),
  posted false 6 (.createAssignment ⟨21, 12⟩ { projectId := 4, assignedAt := 2 })]

end Sample

theorem completed_have_ended_rotation : Sample.loader.assignments.rows = [] ∧
    (Sample.rotation.foldl AssetFile.after Sample.loader).assignments.rows.map
      (fun row => (row.status, row.assignedAt, row.returnedAt)) =
        [(.completed, 2, some 4), (.completed, 4, some 9)] ∧
    (Sample.rotation.foldl AssetFile.after Sample.loader).Ended :=
  ⟨rfl, by decide +kernel,
    (completed_have_ended (show Sample.loader.assignments.rows = [] from rfl) Sample.rotation
      (by decide +kernel)).1⟩

/-- A completed assignment without an end, where the table has the checks, and one that ended before
it began, where it has not. -/
theorem completed_have_not_ended : Sample.loader.assignments.rows = [] ∧
    ¬ (Sample.forgotten.foldl AssetFile.after Sample.loader).Ended ∧
    ¬ (Sample.backdated.foldl AssetFile.after Sample.loader).Ended :=
  ⟨rfl, by decide +kernel, by decide +kernel⟩

end Cestos.Equipment
