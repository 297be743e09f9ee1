import Cestos.Equipment.Deployment

/-!
# Active assignments

A request about an asset leaves one active assignment at most, and none of an archived asset. It
makes an assignment active only if it is to, and if the asset is eligible.
-/

namespace Cestos.Equipment

open Cestos.Core

variable {call : Call} {seen : Seen} {file file' : AssetFile} {env : Surroundings}

/-- One assignment is active at most, and none of an archived asset. -/
structure AssetFile.Sound (file : AssetFile) : Prop where
  single : ∀ a ∈ file.assignments.rows, ∀ b ∈ file.assignments.rows, a.status = .active →
    b.status = .active → a.id = b.id
  free : ∀ a ∈ file.assignments.rows, a.status = .active →
    file.asset.isActive = true ∧ file.asset.archivedAt = none

/-- An assignment has become active. -/
def AssetFile.Activates (file file' : AssetFile) : Prop :=
  ∃ row ∈ file'.assignments.rows, row.status = .active ∧
    ∀ old ∈ file.assignments.rows, old.id = row.id → old.status ≠ .active

/-! ## Eligibility -/

theorem Asset.reasons_eq_nil {asset : Asset} : asset.reasons seen = [] ↔
    asset.isActive = true ∧ asset.archivedAt = none ∧ asset.status.stopped = false ∧
      seen.critical = false ∧ seen.unfit = false := by
  simp only [Asset.reasons, List.append_eq_nil_iff, ite_eq_right_iff, List.cons_ne_nil, imp_false,
    not_or, Bool.not_eq_false, Bool.not_eq_true, Option.isSome_eq_false_iff, Option.isNone_iff_eq_none,
    and_assoc]

theorem Asset.eligibility_notEligible {asset : Asset} {active : Option AssetAssignment}
    {e : Eligibility} (h : asset.eligibility env seen active = .ok e) :
    e.operationalEligibility = .notEligible ↔ asset.reasons seen ≠ [] := by
  obtain ⟨category, -, h⟩ := bind_eq_ok.1 h
  obtain rfl := Except.ok.inj h
  by_cases hreasons : asset.reasons seen = []
  · by_cases hwarnings : asset.warnings env category active = [] <;> simp [hreasons, hwarnings]
  · simp [hreasons]

theorem Asset.checkEligible_ok {asset : Asset} {active : Option AssetAssignment}
    (h : asset.checkEligible env seen active = .ok ()) : asset.reasons seen = [] := by
  obtain ⟨e, he, h⟩ := bind_eq_ok.1 h
  exact not_not.1 fun hreasons =>
    ensure_eq_ok.1 h ((Asset.eligibility_notEligible he).2 hreasons)

/-! ## What the requests write -/

/-- The assignments are the same, and whether the asset is archived. -/
structure AssetFile.SameAssignments (file file' : AssetFile) : Prop where
  assetId : file'.asset.id = file.asset.id
  isActive : file'.asset.isActive = file.asset.isActive
  archivedAt : file'.asset.archivedAt = file.asset.archivedAt
  assignments : file'.assignments = file.assignments

theorem AssetFile.setStatus_same (file : AssetFile) (status : AssetStatus) :
    file.SameAssignments (file.setStatus status) := ⟨rfl, rfl, rfl, rfl⟩

theorem AssetFile.SameAssignments.trans {file'' : AssetFile} (h : file.SameAssignments file')
    (h' : file'.SameAssignments file'') : file.SameAssignments file'' :=
  ⟨h'.assetId.trans h.assetId, h'.isActive.trans h.isActive, h'.archivedAt.trans h.archivedAt,
    h'.assignments.trans h.assignments⟩

theorem AssetFile.Sound.congr (h : file.Sound) (hsame : file.SameAssignments file') :
    file'.Sound := by
  refine ⟨?_, ?_⟩
  · rw [hsame.assignments]
    exact h.single
  · rw [hsame.assignments, hsame.isActive, hsame.archivedAt]
    exact h.free

theorem AssetFile.meter_same {id : Id} {body : AssetMeterReadingCreate} {replaced : Bool}
    (h : file.meter call id body replaced = .ok file') :
    file.SameAssignments file' ∧ file'.asset.status = file.asset.status := by
  simp only [AssetFile.meter, bind_eq_ok, orError_eq_ok] at h
  obtain ⟨_, -, _, -, _, -, _, -, hinsert⟩ := h
  obtain ⟨readings, -, rfl⟩ := Option.map_eq_some_iff.1 hinsert
  exact ⟨⟨rfl, rfl, rfl, rfl⟩, rfl⟩

theorem AssetFile.assignmentMeter_same {id : Id} {value : MeterValue} {moment : Instant}
    {source : String} (h : file.assignmentMeter call id value moment source = .ok file') :
    file.SameAssignments file' ∧ file'.asset.status = file.asset.status := by
  obtain ⟨type, -, hmeter⟩ := bind_eq_ok.1 h
  exact AssetFile.meter_same hmeter

theorem AssetFile.start_same {id : Id} {value : Option MeterValue} {moment : Instant}
    (h : file.start call id value moment = .ok file') : file.SameAssignments file' := by
  cases value with
  | none => exact Except.ok.inj h ▸ ⟨rfl, rfl, rfl, rfl⟩
  | some value => exact (file.setStatus_same _).trans (AssetFile.assignmentMeter_same h).1

/-- The end of an assignment does not make an asset eligible. -/
theorem AssetFile.stop_same {id : Id} {row : AssetAssignment}
    (h : file.stop call id row = .ok file') : file.SameAssignments file' ∧
      (file'.asset.status.stopped = false → file.asset.status.stopped = false) := by
  let freed := if file.asset.status.deployed = true then file.setStatus .available else file
  have hfreed : file.SameAssignments freed ∧
      (freed.asset.status.stopped = false → file.asset.status.stopped = false) := by
    by_cases hdeployed : file.asset.status.deployed = true
    · simp only [freed, if_pos hdeployed]
      refine ⟨file.setStatus_same _, fun _ => ?_⟩
      cases hstatus : file.asset.status <;> simp_all [AssetStatus.deployed, AssetStatus.stopped]
    · simp only [freed, if_neg hdeployed]
      exact ⟨⟨rfl, rfl, rfl, rfl⟩, fun h => h⟩
  unfold AssetFile.stop at h
  dsimp only at h
  cases hvalue : row.endingMeter.filter fun _ => decide (row.status = .completed) with
  | none =>
      rw [hvalue] at h
      exact Except.ok.inj h ▸ hfreed
  | some value =>
      rw [hvalue] at h
      obtain ⟨hsame, hstatus⟩ := AssetFile.assignmentMeter_same h
      exact ⟨hfreed.1.trans hsame, fun hstopped => hfreed.2 (hstatus ▸ hstopped)⟩

theorem AssetFile.closeActive_asset (file : AssetFile) (self : Option Id) (moment : Instant) :
    (file.closeActive self moment).asset = file.asset := by
  unfold AssetFile.closeActive
  split <;> rfl

/-- What a change of an assignment leads to: an asset that was eligible, if the assignment has become
active, and assignments that are active have been so. -/
structure AssetFile.Changed (seen : Seen) (data : AssetAssignmentUpdate) (file file' : AssetFile) :
    Prop where
  assetId : file'.asset.id = file.asset.id
  isActive : file'.asset.isActive = file.asset.isActive
  archivedAt : file'.asset.archivedAt = file.asset.archivedAt
  reasons : file'.asset.reasons seen = [] → file.asset.reasons seen = []
  active : ∀ a ∈ file'.assignments.rows, a.status = .active →
    (data.status = some (some .active) ∧ file.asset.reasons seen = []) ∨
      ∃ b ∈ file.assignments.rows, b.id = a.id ∧ b.status = .active

theorem AssetFile.activate_spec {id : Id} {row merged : AssetAssignment}
    {newStatus : AssignmentStatus} {data : AssetAssignmentUpdate}
    (h : file.activate call seen id row merged newStatus data = .ok file') :
    (newStatus = .active → row.status = .active) ∧ file' = file ∨
      (newStatus = .active ∧ row.status ≠ .active) ∧ file.asset.reasons seen = [] ∧ file'.asset.id = file.asset.id ∧
        file'.asset.isActive = file.asset.isActive ∧
        file'.asset.archivedAt = file.asset.archivedAt := by
  unfold AssetFile.activate at h
  by_cases hactive : newStatus = .active
  · rw [if_neg (not_not.2 hactive)] at h
    by_cases hold : row.status = .active
    · simp only [if_pos hold, bind_eq_ok] at h
      obtain ⟨_, -, _, -, h⟩ := h
      exact .inl ⟨fun _ => hold, (Except.ok.inj h).symm⟩
    · simp only [if_neg hold, bind_eq_ok, AssetFile.flush_eq_ok] at h
      obtain ⟨_, ⟨-, rfl⟩, _, -, _, hchecked, h⟩ := h
      have hstarted := AssetFile.start_same h
      have hclosed := file.closeActive_asset (some row.id) call.now
      rw [hclosed] at hchecked
      exact .inr ⟨⟨hactive, hold⟩, Asset.checkEligible_ok hchecked, hstarted.assetId.trans (congrArg _ hclosed),
        hstarted.isActive.trans (congrArg _ hclosed),
        hstarted.archivedAt.trans (congrArg _ hclosed)⟩
  · rw [if_pos hactive] at h
    exact .inl ⟨fun h => absurd h hactive, (Except.ok.inj h).symm⟩

theorem AssetFile.Changed.stop {data : AssetAssignmentUpdate} {updated : AssetFile} {id : Id}
    {row : AssetAssignment} (h : file.Changed seen data updated)
    (hstop : updated.stop call id row = .ok file') : file.Changed seen data file' := by
  obtain ⟨hsame, hstopped⟩ := AssetFile.stop_same hstop
  refine ⟨hsame.assetId.trans h.assetId, hsame.isActive.trans h.isActive,
    hsame.archivedAt.trans h.archivedAt, fun hreasons => h.reasons ?_, ?_⟩
  · obtain ⟨hactive, harchived, hstatus, hcritical, hunfit⟩ := Asset.reasons_eq_nil.1 hreasons
    exact Asset.reasons_eq_nil.2 ⟨hsame.isActive ▸ hactive, hsame.archivedAt ▸ harchived,
      hstopped hstatus, hcritical, hunfit⟩
  · rw [hsame.assignments]
    exact h.active

theorem AssetAssignmentUpdate.status_of_becomes {data : AssetAssignmentUpdate} {now : Instant}
    {row : AssetAssignment} {newStatus : AssignmentStatus}
    (h : (data.withReturn now).newStatus row = some newStatus) (hactive : newStatus = .active)
    (hold : row.status ≠ .active) : data.status = some (some .active) := by
  have hsame : (data.withReturn now).status = data.status := by
    unfold AssetAssignmentUpdate.withReturn
    split <;> rfl
  rw [AssetAssignmentUpdate.newStatus, hsame] at h
  cases hstatus : data.status with
  | none =>
      rw [hstatus] at h
      exact absurd ((Option.some.inj h).trans hactive) hold
  | some value =>
      rw [hstatus] at h
      exact congrArg some (h.trans (congrArg some hactive))

theorem AssetFile.finishOrUpdate_changed {id : Id} {row : AssetAssignment}
    {data : AssetAssignmentUpdate} (hrow : row ∈ file.assignments.rows)
    (h : file.finishOrUpdate call seen id row data = .ok file') : file.Changed seen data file' := by
  simp only [AssetFile.finishOrUpdate, bind_eq_ok, orError_eq_ok] at h
  obtain ⟨_, -, _, -, _, -, newStatus, hnew, activated, hactivated, h⟩ := h
  have hupdated : ∀ written : AssetAssignment, written.id = row.id → written.status = newStatus →
      file.Changed seen data { activated with assignments := activated.assignments.set written } := by
    intro written hid hstatus
    rcases AssetFile.activate_spec hactivated with ⟨hstays, rfl⟩ |
      ⟨hbecomes, hreasons, hsame, hactive, harchived⟩
    · refine ⟨rfl, rfl, rfl, fun hreasons => hreasons, fun a ha hactive => .inr ?_⟩
      rcases Table.mem_set.1 ha with ⟨hold, -⟩ | ⟨rfl, -⟩
      · exact ⟨a, hold, rfl, hactive⟩
      · exact ⟨row, hrow, hid.symm, hstays (hstatus ▸ hactive)⟩
    · refine ⟨hsame, hactive, harchived, fun _ => hreasons, fun _ _ _ => .inl ⟨?_, hreasons⟩⟩
      exact AssetAssignmentUpdate.status_of_becomes hnew hbecomes.1 hbecomes.2
  split_ifs at h
  · refine .stop ?_ h
    exact hupdated _ rfl rfl
  · exact Except.ok.inj h ▸ hupdated _ rfl rfl

/-- A new assignment is checked for eligibility, and written with the one that it closes. -/
theorem AssetFile.assign_spec {ids : Generated} {body : AssetAssignmentCreate}
    (h : file.assign call seen ids body = .ok file') : file.asset.reasons seen = [] ∧
      ∃ flushed : AssetFile, flushed.Permitted call.env ∧ flushed.asset = file.asset ∧
        flushed.SameAssignments file' ∧ (body.status ≠ .active →
          ∀ a ∈ flushed.assignments.rows, a.status = .active → a ∈ file.assignments.rows) := by
  simp only [AssetFile.assign, bind_eq_ok, orError_eq_ok, AssetFile.flush_eq_ok] at h
  obtain ⟨_, -, _, -, _, -, _, hchecked, _, -, inserted, hinsert, _, ⟨hpermitted, rfl⟩, h⟩ := h
  refine ⟨Asset.checkEligible_ok hchecked, inserted, hpermitted, ?_, ?_, fun hplanned a ha hactive => ?_⟩
  · obtain ⟨assignments, -, rfl⟩ := Option.map_eq_some_iff.1 hinsert
    dsimp only
    split
    · exact file.closeActive_asset none body.assignedAt
    · rfl
  · split_ifs at h
    · exact AssetFile.start_same h
    · exact Except.ok.inj h ▸ ⟨rfl, rfl, rfl, rfl⟩
  · rw [if_neg hplanned] at hinsert
    obtain ⟨assignments, hrows, rfl⟩ := Option.map_eq_some_iff.1 hinsert
    rcases (Table.mem_insert? hrows).1 ha with hold | rfl
    · exact hold
    · exact absurd hactive hplanned

/-- What a request leads to: assignments as they should be. One becomes active only if the request
deploys the asset, which was eligible. -/
structure AssetFile.Kept (seen : Seen) (deploys : Prop) (file file' : AssetFile) : Prop where
  assetId : file'.asset.id = file.asset.id
  sound : file'.Sound
  eligible : file.Activates file' → deploys ∧ file.asset.reasons seen = []

theorem AssetFile.assign_kept {ids : Generated} {body : AssetAssignmentCreate}
    (h : file.assign call seen ids body = .ok file') :
    file.Kept seen (body.status = .active) file' := by
  obtain ⟨hreasons, flushed, hpermitted, hasset, hsame, hplanned⟩ := AssetFile.assign_spec h
  obtain ⟨hactive, harchived, -⟩ := Asset.reasons_eq_nil.1 hreasons
  refine ⟨hasset ▸ hsame.assetId, AssetFile.Sound.congr ⟨?_, fun _ _ _ => ?_⟩ hsame,
    fun ⟨a, ha, hactivea, hold⟩ => ⟨?_, hreasons⟩⟩
  · exact fun a ha b hb => hpermitted.2 a ha b hb
  · exact hasset ▸ ⟨hactive, harchived⟩
  · refine by_contra fun hstatus => ?_
    rw [hsame.assignments] at ha
    exact hold a (hplanned hstatus a ha hactivea) rfl hactivea

theorem AssetFile.updateAssignment_kept {readingId assignmentId : Id}
    {data : AssetAssignmentUpdate} (hsound : file.Sound)
    (h : file.updateAssignment call seen readingId assignmentId data = .ok file') :
    file.Kept seen (data.status = some (some .active)) file' := by
  simp only [AssetFile.updateAssignment, bind_eq_ok, orError_eq_ok, AssetFile.flush_eq_ok] at h
  obtain ⟨row, hrow, updated, hupdated, hpermitted, rfl⟩ := h
  have hchanged := AssetFile.finishOrUpdate_changed (Table.mem_of_find? hrow) hupdated
  refine ⟨hchanged.assetId, ⟨fun a ha b hb => hpermitted.2 a ha b hb, fun a ha hactive => ?_⟩,
    fun ⟨a, ha, hactive, hold⟩ => ?_⟩
  · rw [hchanged.isActive, hchanged.archivedAt]
    rcases hchanged.active a ha hactive with ⟨-, hreasons⟩ | ⟨b, hb, -, hbactive⟩
    · obtain ⟨hisActive, harchived, -⟩ := Asset.reasons_eq_nil.1 hreasons
      exact ⟨hisActive, harchived⟩
    · exact hsound.free b hb hbactive
  · rcases hchanged.active a ha hactive with heligible | ⟨b, hb, hid, hbactive⟩
    · exact heligible
    · exact absurd hbactive (hold b hb hid)

theorem AssetFile.activeAssignment_mem {row : AssetAssignment}
    (h : file.activeAssignment = some row) : row ∈ file.assignments.rows :=
  List.mem_of_find?_eq_some h

theorem AssetFile.transfer_kept {ids : Generated} {returnId : Id} {body : AssetTransfer}
    (h : file.transfer call seen ids returnId body = .ok file') : file.Kept seen True file' := by
  simp only [AssetFile.transfer, bind_eq_ok, orError_eq_ok, AssetFile.flush_eq_ok] at h
  obtain ⟨current, hcurrent, _, -, _, -, returned, hreturned, _, ⟨-, rfl⟩, hassign⟩ := h
  have hchanged := AssetFile.finishOrUpdate_changed (AssetFile.activeAssignment_mem hcurrent)
    hreturned
  have hkept := AssetFile.assign_kept hassign
  refine ⟨hkept.assetId.trans hchanged.assetId, hkept.sound, fun _ => ⟨trivial, ?_⟩⟩
  exact hchanged.reasons (AssetFile.assign_spec hassign).1

theorem AssetFile.activeAssignment_eq_none :
    file.activeAssignment = none ↔ ∀ row ∈ file.assignments.rows, row.status ≠ .active := by
  simp [AssetFile.activeAssignment]

/-- A request that leaves the assignments as they are, for an asset that is as it should be. -/
theorem AssetFile.Kept.of_same {deploys : Prop} (hsound : file'.Sound)
    (hid : file'.asset.id = file.asset.id) (hassignments : file'.assignments = file.assignments) :
    file.Kept seen deploys file' :=
  ⟨hid, hsound, fun ⟨row, hrow, hactive, hold⟩ =>
    absurd hactive (hold row (hassignments ▸ hrow) rfl)⟩

theorem AssetFile.SameAssignments.kept {deploys : Prop} (hsound : file.Sound)
    (h : file.SameAssignments file') : file.Kept seen deploys file' :=
  .of_same (hsound.congr h) h.assetId h.assignments

theorem AssetFile.Kept.archived {deploys : Prop} {asset : Asset}
    (hnone : file.activeAssignment = none) (hid : asset.id = file.asset.id) :
    file.Kept seen deploys { file with asset := asset } := by
  have hinactive := AssetFile.activeAssignment_eq_none.1 hnone
  refine .of_same ⟨fun a ha _ _ hactive => ?_, fun a ha hactive => ?_⟩ hid rfl
  · exact absurd hactive (hinactive a ha)
  · exact absurd hactive (hinactive a ha)

/-- A request that makes an assignment active, or asks for it. -/
def AssetRequest.Deploys : AssetRequest → Prop
  | .createAssignment _ body => body.status = .active
  | .updateAssignment _ _ data => data.status = some (some .active)
  | .transfer _ _ _ => True
  | _ => False

instance : DecidablePred AssetRequest.Deploys
  | .createAssignment _ body => inferInstanceAs (Decidable (body.status = .active))
  | .updateAssignment _ _ data => inferInstanceAs (Decidable (data.status = some (some .active)))
  | .transfer _ _ _ => .isTrue trivial
  | .archive | .retire _ | .restore | .changeStatus _ _ | .recordMeterReading _ _
  | .resetMeter _ _ | .updateMeterReading _ _ => .isFalse id

theorem AssetFile.run_kept {r : AssetRequest} (hsound : file.Sound)
    (h : file.run call seen r = .ok file') : file.Kept seen r.Deploys file' := by
  cases r with
  | createAssignment ids body => exact AssetFile.assign_kept h
  | updateAssignment assignmentId readingId data => exact AssetFile.updateAssignment_kept hsound h
  | transfer ids returnId body => exact AssetFile.transfer_kept h
  | archive =>
      simp only [AssetFile.run, AssetFile.archive, bind_eq_ok, ensure_eq_ok] at h
      obtain ⟨_, -, _, hnone, h⟩ := h
      exact Except.ok.inj h ▸ .archived hnone rfl
  | retire openJob =>
      obtain ⟨_, -, h⟩ := bind_eq_ok.1 h
      by_cases hactive : file.asset.isActive = false
      · rw [if_pos hactive] at h
        exact Except.ok.inj h ▸ .of_same hsound rfl rfl
      · rw [if_neg hactive] at h
        obtain ⟨_, hnone, h⟩ := bind_eq_ok.1 h
        obtain ⟨_, -, h⟩ := bind_eq_ok.1 h
        exact Except.ok.inj h ▸ .archived (ensure_eq_ok.1 hnone) rfl
  | restore =>
      exact Except.ok.inj h ▸ .of_same ⟨hsound.single, fun _ _ _ => ⟨rfl, rfl⟩⟩ rfl rfl
  | changeStatus mayOverride new =>
      obtain ⟨_, -, h⟩ := bind_eq_ok.1 h
      exact Except.ok.inj h ▸ (file.setStatus_same new).kept hsound
  | recordMeterReading readingId body => exact (AssetFile.meter_same h).1.kept hsound
  | resetMeter readingId body =>
      simp only [AssetFile.run, AssetFile.resetMeter, bind_eq_ok] at h
      obtain ⟨_, -, _, -, _, -, h⟩ := h
      exact (AssetFile.meter_same h).1.kept hsound
  | updateMeterReading readingId data =>
      simp only [AssetFile.run, AssetFile.updateMeterReading, bind_eq_ok] at h
      obtain ⟨_, -, _, -, _, -, _, -, _, -, h⟩ := h
      exact Except.ok.inj h ▸ .of_same ⟨hsound.single, hsound.free⟩ rfl rfl

end Cestos.Equipment
