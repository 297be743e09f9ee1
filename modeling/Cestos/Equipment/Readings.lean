import Cestos.Equipment.Deployment
import Mathlib.Data.List.Chain

/-!
# Readings in the order of time

The readings of a type never decrease but at an adjustment, and the asset shows the latest, as long
as no reading is recorded at a moment at which a later transaction has recorded one, and edits leave
a reading between its neighbours and the value of the latest as it is.
-/

namespace Cestos.Equipment

open Cestos.Core

variable {call : Call} {seen : Seen} {file file' : AssetFile} {type : ReadingType}

/-- The later reading is not less, or is marked as an adjustment. -/
def Follows (r s : AssetMeterReading) : Prop := r.reading ≤ s.reading ∨ s.isAdjustment = true

/-- In some order of time the readings of a type do not decrease but at an adjustment, and the asset
shows the last of those of the type of its meter. -/
def AssetFile.InOrder (file : AssetFile) : Prop :=
  ∀ type, ∃ l : List AssetMeterReading, l.Perm (file.readingsOf type) ∧
    l.Pairwise (fun r s => r.recordedAt ≤ s.recordedAt) ∧ l.IsChain Follows ∧
    (file.asset.meterType.readingType = some type →
      file.asset.currentMeterReading = l.getLast?.map (·.reading))

/-- One reading may come after the other. -/
def Next (r s : AssetMeterReading) : Prop := r.key ≤ s.key ∧ Follows r s

/-- The order in which the readings were created is such an order of time. -/
structure AssetFile.Sorted (file : AssetFile) (type : ReadingType) : Prop where
  chain : (file.readingsOf type).IsChain Next
  current : file.asset.meterType.readingType = some type →
    file.asset.currentMeterReading = (file.readingsOf type).getLast?.map (·.reading)

/-- The latest readings of the type have one value, if there are several. -/
def AssetFile.Level (file : AssetFile) (type : ReadingType) : Prop :=
  ∀ r ∈ file.readingsOf type, ∀ s ∈ file.readingsOf type, r.key = s.key →
    (∀ u ∈ file.readingsOf type, u.key ≤ r.key) → r.reading = s.reading

/-- The readings of the type at a moment were created before. -/
def AssetFile.CreatedBefore (file : AssetFile) (type : ReadingType) (begun moment : Instant) : Prop :=
  ∀ r ∈ file.readingsOf type, r.recordedAt = moment → r.createdAt < begun

/-! ## New readings -/

theorem AssetMeterReading.key_le {r s : AssetMeterReading} : r.key ≤ s.key ↔
    r.recordedAt < s.recordedAt ∨ r.recordedAt = s.recordedAt ∧ r.createdAt ≤ s.createdAt :=
  Prod.Lex.toLex_le_toLex

theorem AssetFile.Sorted.ordered (h : file.Sorted type) :
    (file.readingsOf type).Pairwise fun r s => r.key ≤ s.key :=
  (h.chain.imp fun _ _ hnext => hnext.1).pairwise

theorem AssetFile.Sorted.inOrder (h : ∀ type, file.Sorted type) : file.InOrder := by
  intro type
  refine ⟨file.readingsOf type, .refl _, (h type).ordered.imp fun hkey => ?_,
    (h type).chain.imp fun _ _ hnext => hnext.2, (h type).current⟩
  rcases AssetMeterReading.key_le.1 hkey with hlt | ⟨heq, -⟩
  · exact Nat.le_of_lt hlt
  · exact Nat.le_of_eq heq

theorem AssetFile.insertReading_spec {row : AssetMeterReading}
    (h : file.insertReading row = some file') :
    (∀ type, file'.readingsOf type = file.readingsOf type ++ [row].filter (·.readingType = type)) ∧
      file'.asset.meterType = file.asset.meterType ∧
      file'.asset.currentMeterReading = if file.asset.meterType.readingType = some row.readingType
        then some row.reading else file.asset.currentMeterReading := by
  obtain ⟨readings, hinsert, rfl⟩ := Option.map_eq_some_iff.1 h
  refine ⟨fun type => ?_, rfl, rfl⟩
  show readings.rows.filter _ = _
  rw [Table.insert?_rows hinsert, List.filter_append]
  rfl

/-- What `_meter` writes has been compared with the reading that was found. -/
theorem AssetFile.meter_spec {id : Id} {body : AssetMeterReadingCreate} {replaced : Bool}
    (h : file.meter call id body replaced = .ok file') :
    (∀ previous ∈ call.previous.run (file.readingsOf body.readingType),
      previous.recordedAt ≤ body.recordedAt ∧
        (previous.reading ≤ body.reading ∨ body.adjusts = true)) ∧
    ∃ row : AssetMeterReading, file.insertReading row = some file' ∧
      row.reading = body.reading ∧ row.recordedAt = body.recordedAt ∧
      row.readingType = body.readingType ∧ row.isAdjustment = body.adjusts ∧
      row.createdAt = call.begun := by
  simp only [AssetFile.meter, checkPrevious, bind_eq_ok, ensure_eq_ok, orError_eq_ok] at h
  obtain ⟨_, -, _, -, _, -, _, ⟨_, htime, hvalue⟩, hinsert⟩ := h
  exact ⟨fun previous hprevious => ⟨htime previous hprevious, hvalue previous hprevious⟩,
    _, hinsert, rfl, rfl, rfl, rfl, rfl⟩

section Insertion

variable {id : Id} {body : AssetMeterReadingCreate} {replaced : Bool}

/-- The reading that is found has the value and the moment of the last one. -/
theorem AssetFile.Sorted.previous (h : file.Sorted type) (hlevel : file.Level type)
    {last : AssetMeterReading} (hlast : (file.readingsOf type).getLast? = some last) :
    ∃ previous, call.previous.run (file.readingsOf type) = some previous ∧
      previous.reading = last.reading ∧ previous.recordedAt = last.recordedAt := by
  cases hfound : call.previous.run (file.readingsOf type) with
  | none => simp [call.previous.eq_none_iff.1 hfound] at hlast
  | some previous =>
      have hkey : previous.key = last.key := call.previous.key_getLast h.ordered hlast hfound
      refine ⟨previous, rfl, ?_, congrArg (fun k => (ofLex k).1) hkey⟩
      exact hlevel previous (call.previous.mem hfound) last (List.mem_of_getLast? hlast) hkey
        fun u hu => call.previous.key_le hfound hu

theorem AssetFile.Sorted.meter (h : file.Sorted type)
    (hmeter : file.meter call id body replaced = .ok file')
    (hcreated : ∀ r ∈ file.readingsOf body.readingType, r.recordedAt = body.recordedAt →
      r.createdAt ≤ call.begun)
    (hlevel : file.Level body.readingType) : file'.Sorted type := by
  obtain ⟨hprevious, row, hinsert, hreading, hrecorded, htype, hadjusts, hbegun⟩ :=
    AssetFile.meter_spec hmeter
  obtain ⟨hreadings, hmeterType, hcurrent⟩ := AssetFile.insertReading_spec hinsert
  by_cases hsame : row.readingType = type
  · have hrows : file'.readingsOf type = file.readingsOf type ++ [row] := by
      rw [hreadings, List.filter_singleton, decide_eq_true hsame]
      rfl
    refine ⟨?_, fun hmeter => ?_⟩
    · rw [hrows, List.isChain_append]
      refine ⟨h.chain, .singleton _, fun last hlast row' hrow' => ?_⟩
      obtain rfl : row' = row := (Option.some.inj hrow').symm
      obtain rfl : body.readingType = type := htype.symm.trans hsame
      obtain ⟨previous, hfound, hvalue, htime⟩ := h.previous hlevel hlast
      obtain ⟨hafter, hnotless⟩ := hprevious previous hfound
      refine ⟨AssetMeterReading.key_le.2 ?_, ?_⟩
      · rw [hrecorded, hbegun, ← htime]
        rcases Nat.lt_or_eq_of_le hafter with hlt | heq
        · exact .inl hlt
        · exact .inr ⟨heq, hcreated last (List.mem_of_getLast? hlast) (htime.symm.trans heq)⟩
      · rw [Follows, hreading, hadjusts, ← hvalue]
        exact hnotless
    · rw [hcurrent, hrows, List.getLast?_concat, Option.map_some]
      rw [hmeterType] at hmeter
      rw [if_pos (hmeter.trans (congrArg some hsame.symm))]
  · have hrows : file'.readingsOf type = file.readingsOf type := by
      rw [hreadings, List.filter_singleton, decide_eq_false hsame]
      exact List.append_nil _
    refine ⟨hrows ▸ h.chain, fun hmeter => ?_⟩
    rw [hmeterType] at hmeter
    rw [hcurrent, if_neg fun hother => hsame ?_, hrows, h.current hmeter]
    exact Option.some.inj (hother.symm.trans hmeter)

/-- A reading that is written is not before the others of its type. -/
theorem AssetFile.meter_after (hmeter : file.meter call id body replaced = .ok file')
    {r : AssetMeterReading} (hr : r ∈ file.readingsOf body.readingType) :
    r.recordedAt ≤ body.recordedAt := by
  obtain ⟨hprevious, -⟩ := AssetFile.meter_spec hmeter
  cases hfound : call.previous.run (file.readingsOf body.readingType) with
  | none => simp [call.previous.eq_none_iff.1 hfound] at hr
  | some previous =>
      refine Nat.le_trans ?_ (hprevious previous hfound).1
      rcases AssetMeterReading.key_le.1 (call.previous.key_le hfound hr) with hlt | ⟨heq, -⟩
      · exact Nat.le_of_lt hlt
      · exact Nat.le_of_eq heq

theorem AssetFile.level_meter (hmeter : file.meter call id body replaced = .ok file')
    (hcreated : file.CreatedBefore body.readingType call.begun body.recordedAt) :
    file'.Level body.readingType := by
  have hafter := fun r hr => AssetFile.meter_after (r := r) hmeter hr
  obtain ⟨-, row, hinsert, -, hrecorded, htype, -, hbegun⟩ := AssetFile.meter_spec hmeter
  have hrows : file'.readingsOf body.readingType = file.readingsOf body.readingType ++ [row] := by
    rw [(AssetFile.insertReading_spec hinsert).1, List.filter_singleton, decide_eq_true htype]
    rfl
  have hlatest : ∀ r ∈ file'.readingsOf body.readingType, row.key ≤ r.key → r = row := by
    intro r hr hkey
    rw [hrows] at hr
    rcases List.mem_append.1 hr with hold | hnew
    · have hle := hafter r hold
      have hlt := hcreated r hold
      rw [AssetMeterReading.key_le, hrecorded, hbegun] at hkey
      rcases hkey with htime | ⟨heq, hbegun⟩
      · exact absurd hle (Nat.not_le_of_lt htime)
      · exact absurd (hlt heq.symm) (Nat.not_lt_of_le hbegun)
    · exact List.mem_singleton.1 hnew
  intro r hr s hs hkey hmax
  have hrow : row.key ≤ r.key := hmax row (hrows ▸ List.mem_append_right _ List.mem_cons_self)
  rw [hlatest r hr hrow, hlatest s hs (hkey ▸ hrow)]

/-- At the moment of a reading that is created last, all are created by then. -/
theorem AssetFile.created_meter (hmeter : file.meter call id body replaced = .ok file')
    (hcreated : file.CreatedBefore body.readingType call.begun body.recordedAt)
    {r : AssetMeterReading} (hr : r ∈ file'.readingsOf body.readingType)
    (hmoment : r.recordedAt = body.recordedAt) : r.createdAt ≤ call.begun := by
  obtain ⟨-, row, hinsert, -, -, -, -, hbegun⟩ := AssetFile.meter_spec hmeter
  rw [(AssetFile.insertReading_spec hinsert).1] at hr
  rcases List.mem_append.1 hr with hold | hnew
  · exact Nat.le_of_lt (hcreated r hold hmoment)
  · rw [List.mem_singleton.1 (List.mem_of_mem_filter hnew), hbegun]

end Insertion

/-! ## What the requests add -/

/-- The readings and the meter are the same. -/
structure AssetFile.SameReadings (file file' : AssetFile) : Prop where
  readings : file'.readings = file.readings
  meterType : file'.asset.meterType = file.asset.meterType
  current : file'.asset.currentMeterReading = file.asset.currentMeterReading

theorem AssetFile.SameReadings.refl (file : AssetFile) : file.SameReadings file := ⟨rfl, rfl, rfl⟩

theorem AssetFile.SameReadings.assignments (file : AssetFile)
    (assignments : Table AssetAssignment.id) :
    file.SameReadings { file with assignments := assignments } := ⟨rfl, rfl, rfl⟩

theorem AssetFile.SameReadings.trans {file'' : AssetFile} (h : file.SameReadings file')
    (h' : file'.SameReadings file'') : file.SameReadings file'' :=
  ⟨h'.readings.trans h.readings, h'.meterType.trans h.meterType, h'.current.trans h.current⟩

theorem AssetFile.SameReadings.readingsOf (h : file.SameReadings file') (type : ReadingType) :
    file'.readingsOf type = file.readingsOf type := by
  rw [AssetFile.readingsOf, AssetFile.readingsOf, h.readings]

theorem AssetFile.Sorted.congr (hsorted : file.Sorted type) (h : file.SameReadings file') :
    file'.Sorted type := by
  refine ⟨h.readingsOf type ▸ hsorted.chain, fun hmeter => ?_⟩
  rw [h.current, h.readingsOf, hsorted.current (h.meterType ▸ hmeter)]

/-- At most one reading of the meter is added, at one of the moments. -/
def AssetFile.Adds (call : Call) (file file' : AssetFile) (moments : List Instant) : Prop :=
  file.SameReadings file' ∨ ∃ mid mid' id body replaced, file.SameReadings mid ∧
    mid.meter call id body replaced = .ok mid' ∧ mid'.SameReadings file' ∧
    file.asset.meterType.readingType = some body.readingType ∧ body.recordedAt ∈ moments

/-- The moment of a value that is given. -/
def momentOf (value : Option MeterValue) (moment : Instant) : List Instant :=
  value.toList.map fun _ => moment

section Adds

variable {mid : AssetFile} {moments : List Instant}

theorem AssetFile.Adds.after (h : mid.Adds call file' moments) (hsame : file.SameReadings mid) :
    file.Adds call file' moments := by
  rcases h with hnone | ⟨before, after, id, body, replaced, hbefore, hmeter, hafter, htype, hmem⟩
  · exact .inl (hsame.trans hnone)
  · exact .inr ⟨before, after, id, body, replaced, hsame.trans hbefore, hmeter, hafter,
      hsame.meterType ▸ htype, hmem⟩

theorem AssetFile.Adds.before (h : file.Adds call mid moments) (hsame : mid.SameReadings file') :
    file.Adds call file' moments := by
  rcases h with hnone | ⟨before, after, id, body, replaced, hbefore, hmeter, hafter, htype, hmem⟩
  · exact .inl (hnone.trans hsame)
  · exact .inr ⟨before, after, id, body, replaced, hbefore, hmeter, hafter.trans hsame, htype, hmem⟩

theorem AssetFile.Adds.mono {moments' : List Instant} (h : file.Adds call file' moments)
    (hsub : moments ⊆ moments') : file.Adds call file' moments' := by
  rcases h with hnone | ⟨before, after, id, body, replaced, hbefore, hmeter, hafter, htype, hmem⟩
  · exact .inl hnone
  · exact .inr ⟨before, after, id, body, replaced, hbefore, hmeter, hafter, htype, hsub hmem⟩

end Adds

theorem AssetFile.assignmentMeter_adds {id : Id} {value : MeterValue} {moment : Instant}
    {source : String} (h : file.assignmentMeter call id value moment source = .ok file') :
    file.Adds call file' [moment] := by
  obtain ⟨type, htype, hmeter⟩ := bind_eq_ok.1 h
  exact .inr ⟨file, file', id, _, false, .refl _, hmeter, .refl _, orError_eq_ok.1 htype,
    List.mem_singleton_self _⟩

theorem AssetFile.resetMeter_adds {id : Id} {body : MeterReset}
    (h : file.resetMeter call id body = .ok file') : file.Adds call file' [body.recordedAt] := by
  simp only [AssetFile.resetMeter, bind_eq_ok, orError_eq_ok] at h
  obtain ⟨_, -, _, -, type, htype, hmeter⟩ := h
  exact .inr ⟨file, file', id, _, body.meterReplaced, .refl _, hmeter, .refl _, htype,
    List.mem_singleton_self _⟩

theorem AssetFile.start_adds {id : Id} {value : Option MeterValue} {moment : Instant}
    (h : file.start call id value moment = .ok file') :
    file.Adds call file' (momentOf value moment) := by
  cases value with
  | none => exact .inl (Except.ok.inj h ▸ ⟨rfl, rfl, rfl⟩)
  | some value => exact (AssetFile.assignmentMeter_adds h).after ⟨rfl, rfl, rfl⟩

theorem AssetFile.closeActive_same (self : Option Id) (moment : Instant) :
    file.SameReadings (file.closeActive self moment) := by
  unfold AssetFile.closeActive
  split <;> exact ⟨rfl, rfl, rfl⟩

theorem AssetFile.assign_adds {ids : Generated} {body : AssetAssignmentCreate}
    (h : file.assign call seen ids body = .ok file') : file.Adds call file'
      (if body.status = .active then momentOf body.startingMeter body.assignedAt else []) := by
  simp only [AssetFile.assign, bind_eq_ok, orError_eq_ok, AssetFile.flush_eq_ok] at h
  obtain ⟨_, -, _, -, _, -, _, -, _, -, inserted, hinsert, _, ⟨-, rfl⟩, h⟩ := h
  have hclosed : file.SameReadings
      (if body.status = .active then file.closeActive none body.assignedAt else file) := by
    split
    · exact AssetFile.closeActive_same _ _
    · exact .refl file
  have hsame : file.SameReadings inserted := by
    obtain ⟨assignments, -, rfl⟩ := Option.map_eq_some_iff.1 hinsert
    exact hclosed.trans (.assignments _ _)
  split_ifs at h ⊢
  · exact (AssetFile.start_adds h).after hsame
  · exact .inl (Except.ok.inj h ▸ hsame)

theorem AssetFile.activate_adds {id : Id} {row merged : AssetAssignment}
    {newStatus : AssignmentStatus} {data : AssetAssignmentUpdate}
    (h : file.activate call seen id row merged newStatus data = .ok file') : file.Adds call file'
      (if newStatus = .active ∧ row.status ≠ .active then
        momentOf merged.startingMeter merged.assignedAt else []) := by
  unfold AssetFile.activate at h
  by_cases hactive : newStatus = .active
  · rw [if_neg (not_not.2 hactive)] at h
    by_cases hold : row.status = .active
    · simp only [if_pos hold, bind_eq_ok] at h
      obtain ⟨_, -, _, -, h⟩ := h
      exact .inl (Except.ok.inj h ▸ .refl file)
    · simp only [if_neg hold, bind_eq_ok, AssetFile.flush_eq_ok] at h
      obtain ⟨_, ⟨-, rfl⟩, _, -, _, -, h⟩ := h
      rw [if_pos ⟨hactive, hold⟩]
      exact (AssetFile.start_adds h).after (AssetFile.closeActive_same _ _)
  · rw [if_pos hactive] at h
    exact .inl (Except.ok.inj h ▸ .refl file)

theorem AssetFile.stop_adds {id : Id} {row : AssetAssignment}
    (h : file.stop call id row = .ok file') : file.Adds call file'
      (if row.status = .completed then momentOf row.endingMeter (row.returnedAt.getD call.now)
        else []) := by
  have hfreed : file.SameReadings
      (if file.asset.status.deployed = true then file.setStatus .available else file) := by
    split
    · exact ⟨rfl, rfl, rfl⟩
    · exact .refl file
  unfold AssetFile.stop at h
  dsimp only at h
  cases hvalue : row.endingMeter.filter fun _ => decide (row.status = .completed) with
  | none =>
      rw [hvalue] at h
      exact .inl (Except.ok.inj h ▸ hfreed)
  | some value =>
      rw [hvalue] at h
      obtain ⟨hending, hcompleted⟩ := Option.filter_eq_some_iff.1 hvalue
      rw [if_pos (of_decide_eq_true hcompleted), hending]
      exact (AssetFile.assignmentMeter_adds h).after hfreed

/-- The moments at which an update may record: the start of an assignment that becomes active, and
the return of one that is completed. -/
def AssetAssignmentUpdate.moments (data : AssetAssignmentUpdate) (now : Instant)
    (row : AssetAssignment) : List Instant :=
  let data := data.withReturn now
  let merged := data.merged row
  let newStatus := data.newStatus row
  (if newStatus = some .active ∧ row.status ≠ .active then
    momentOf merged.startingMeter merged.assignedAt else []) ++
  (if newStatus = some .completed ∧ row.status = .active then
    momentOf merged.endingMeter (merged.returnedAt.getD now) else [])

theorem AssetFile.finishOrUpdate_adds {id : Id} {row : AssetAssignment}
    {data : AssetAssignmentUpdate}
    (h : file.finishOrUpdate call seen id row data = .ok file') :
    file.Adds call file' (data.moments call.now row) := by
  simp only [AssetFile.finishOrUpdate, bind_eq_ok, orError_eq_ok] at h
  obtain ⟨_, -, _, -, _, -, newStatus, hstatus, activated, hactivated, h⟩ := h
  simp only [AssetAssignmentUpdate.moments, hstatus, Option.some.injEq]
  split_ifs at h with hstop
  · obtain ⟨hactive, hended⟩ := hstop
    -- nothing has become active, and what was active is completed or cancelled
    have hidle : newStatus ≠ .active := by
      rcases hended with rfl | rfl <;> simp
    rw [AssetFile.activate, if_pos hidle] at hactivated
    obtain rfl := Except.ok.inj hactivated
    refine ((AssetFile.stop_adds h).after (.assignments file _)).mono
      (List.Subset.trans ?_ (List.subset_append_right _ _))
    dsimp only
    by_cases hcompleted : newStatus = .completed
    · rw [if_pos hcompleted, if_pos ⟨hcompleted, hactive⟩]
      exact List.Subset.refl _
    · rw [if_neg hcompleted]
      exact List.nil_subset _
  · refine ((AssetFile.activate_adds hactivated).before ?_).mono (List.subset_append_left _ _)
    exact Except.ok.inj h ▸ ⟨rfl, rfl, rfl⟩

/-! ## What the requests keep -/

/-- The moments are those of new readings: the latest readings of the type have one value, and those
of such a moment were created before. -/
def AssetFile.Timely (file : AssetFile) (type : ReadingType) (begun : Instant)
    (moments : List Instant) : Prop :=
  ∀ moment ∈ moments, file.Level type ∧ file.CreatedBefore type begun moment

/-- What a new reading at one of the moments needs. -/
def AssetFile.Ready (file : AssetFile) (type : ReadingType) (begun : Instant)
    (moments : List Instant) : Prop :=
  ∀ moment ∈ moments, file.Level type ∧
    ∀ r ∈ file.readingsOf type, r.recordedAt = moment → r.createdAt ≤ begun

theorem AssetFile.Ready.mono {begun : Instant} {moments moments' : List Instant}
    (h : file.Ready type begun moments') (hsub : moments ⊆ moments') :
    file.Ready type begun moments := fun moment hmoment => h moment (hsub hmoment)

theorem AssetFile.Timely.ready {begun : Instant} {moments : List Instant}
    (h : file.Timely type begun moments) : file.Ready type begun moments := fun moment hmoment =>
  ⟨(h moment hmoment).1, fun r hr htime => Nat.le_of_lt ((h moment hmoment).2 r hr htime)⟩

theorem AssetFile.Ready.congr {begun : Instant} {moments : List Instant}
    (h : file.Ready type begun moments) (hsame : file.SameReadings file') :
    file'.Ready type begun moments := by
  intro moment hmoment
  rw [AssetFile.Level, hsame.readingsOf]
  exact h moment hmoment

theorem AssetFile.Sorted.adds {moments : List Instant} (h : file.Sorted type)
    (hadds : file.Adds call file' moments)
    (hready : ∀ type, file.asset.meterType.readingType = some type →
      file.Ready type call.begun moments) : file'.Sorted type := by
  rcases hadds with hnone | ⟨mid, mid', id, body, replaced, hsame, hmeter, hsame', htype, hmoment⟩
  · exact h.congr hnone
  · obtain ⟨hlevel, hcreated⟩ := (hready _ htype).congr hsame _ hmoment
    exact ((h.congr hsame).meter hmeter hcreated hlevel).congr hsame'

theorem AssetFile.Adds.meterType {moments : List Instant} (h : file.Adds call file' moments) :
    file'.asset.meterType = file.asset.meterType := by
  rcases h with hnone | ⟨mid, mid', id, body, replaced, hsame, hmeter, hsame', -, -⟩
  · exact hnone.meterType
  · obtain ⟨-, row, hinsert, -⟩ := AssetFile.meter_spec hmeter
    rw [hsame'.meterType, (AssetFile.insertReading_spec hinsert).2.1, hsame.meterType]

/-- After a reading of the meter another can be added at the same moment. -/
theorem AssetFile.Timely.adds {moment : Instant} {moments : List Instant}
    (hadds : file.Adds call file' moments) (hmoments : moments ⊆ [moment])
    (htype : file.asset.meterType.readingType = some type)
    (h : file.Timely type call.begun [moment]) : file'.Ready type call.begun [moment] := by
  rcases hadds with hnone | ⟨mid, mid', id, body, replaced, hsame, hmeter, hsame', htype', hmem⟩
  · exact h.ready.congr hnone
  · obtain rfl : body.readingType = type := Option.some.inj (htype'.symm.trans htype)
    obtain rfl := List.mem_singleton.1 (hmoments hmem)
    have hcreated : mid.CreatedBefore body.readingType call.begun body.recordedAt := by
      rw [AssetFile.CreatedBefore, hsame.readingsOf]
      exact (h _ (List.mem_singleton_self _)).2
    refine AssetFile.Ready.congr (fun moment hmoment => ?_) hsame'
    obtain rfl := List.mem_singleton.1 hmoment
    exact ⟨AssetFile.level_meter hmeter hcreated,
      fun r hr htime => AssetFile.created_meter hmeter hcreated hr htime⟩

/-- The edited reading fits between its neighbours, and the meter still shows the latest one. -/
def AssetFile.Fits (file : AssetFile) (row new : AssetMeterReading) : Prop :=
  let before := (file.readingsOf row.readingType).takeWhile (·.id ≠ row.id)
  let after := ((file.readingsOf row.readingType).dropWhile (·.id ≠ row.id)).tail
  (∀ r ∈ before.getLast?, Next r new) ∧ (∀ s ∈ after.head?, Next new s) ∧
    (after = [] → file.asset.meterType.readingType = some row.readingType →
      new.reading = row.reading)

theorem MeterReadingUpdate.apply_spec {data : MeterReadingUpdate} {row new : AssetMeterReading}
    (h : data.apply row = .ok new) : new.id = row.id ∧ new.readingType = row.readingType := by
  simp only [MeterReadingUpdate.apply, bind_eq_ok] at h
  obtain ⟨_, -, _, -, _, -, _, -, _, -, h⟩ := h
  obtain rfl := Except.ok.inj h
  exact ⟨rfl, rfl⟩

/-- A row of a list, with those before it and those after it. -/
theorem split_of_mem {ρ κ : Type} [DecidableEq κ] {key : ρ → κ} {l : List ρ} {row : ρ}
    (hnodup : (l.map key).Nodup) (h : row ∈ l) (new : ρ) (hkey : key new = key row) :
    l = l.takeWhile (key · ≠ key row) ++ row :: (l.dropWhile (key · ≠ key row)).tail ∧
      l.map (fun s => if key s = key new then new else s) =
        l.takeWhile (key · ≠ key row) ++ new :: (l.dropWhile (key · ≠ key row)).tail := by
  induction l with
  | nil => cases h
  | cons first rest ih =>
      rw [List.map_cons, List.nodup_cons] at hnodup
      by_cases hfirst : key first = key row
      · have hrow : row = first := by
          refine (List.mem_cons.1 h).resolve_right fun hrest => hnodup.1 ?_
          exact hfirst ▸ List.mem_map_of_mem hrest
        have hothers : ∀ s ∈ rest, key s ≠ key row := fun s hs hsame =>
          hnodup.1 ((hsame.trans hfirst.symm) ▸ List.mem_map_of_mem hs)
        have hkept : rest.map (fun s => if key s = key row then new else s) = rest :=
          (List.map_congr_left fun s hs => if_neg (hothers s hs)).trans (List.map_id' rest)
        subst hrow
        simp [hkey, hkept]
      · have hrest : row ∈ rest :=
          (List.mem_cons.1 h).resolve_left fun hrow => hfirst (congrArg key hrow.symm)
        obtain ⟨hsplit, hmap⟩ := ih hnodup.2 hrest
        have hskip : (first :: rest).dropWhile (key · ≠ key row) =
            rest.dropWhile (key · ≠ key row) := List.dropWhile_cons_of_pos (by simpa using hfirst)
        have htake : (first :: rest).takeWhile (key · ≠ key row) =
            first :: rest.takeWhile (key · ≠ key row) :=
          List.takeWhile_cons_of_pos (by simpa using hfirst)
        rw [hskip, htake, List.cons_append, List.cons_append, ← hsplit, List.map_cons, hmap,
          if_neg (hkey ▸ hfirst)]
        exact ⟨rfl, rfl⟩

theorem AssetFile.readingsOf_set {row new : AssetMeterReading} (hrow : row ∈ file.readings.rows)
    (hid : new.id = row.id) (htype : new.readingType = row.readingType) (type : ReadingType) :
    AssetFile.readingsOf { file with readings := file.readings.set new } type =
      (file.readingsOf type).map fun s => if s.id = new.id then new else s := by
  show (file.readings.set new).rows.filter _ = _
  rw [Table.set_rows, List.filter_map]
  refine congrArg _ (List.filter_congr fun s hs => ?_)
  show decide ((if s.id = new.id then new else s).readingType = type) = _
  split
  · next hsame =>
    rw [file.readings.key_injective hs hrow (hsame.trans hid), htype]
  · rfl

theorem AssetFile.Sorted.edit (h : file.Sorted type) {row new : AssetMeterReading}
    (hrow : row ∈ file.readings.rows) (hid : new.id = row.id)
    (htype : new.readingType = row.readingType) (hfits : file.Fits row new) :
    AssetFile.Sorted { file with readings := file.readings.set new } type := by
  have hrows := AssetFile.readingsOf_set hrow hid htype type
  by_cases hsame : row.readingType = type
  · subst hsame
    obtain ⟨hbefore, hafter, hvalue⟩ := hfits
    have hnodup : ((file.readingsOf row.readingType).map AssetMeterReading.id).Nodup :=
      file.readings.nodup.sublist (List.filter_sublist.map _)
    obtain ⟨hsplit, hset⟩ := split_of_mem hnodup
      (List.mem_filter.2 ⟨hrow, decide_eq_true rfl⟩) new hid
    rw [hset] at hrows
    have hchain := h.chain
    have hcurrent := h.current
    generalize (file.readingsOf row.readingType).takeWhile (·.id ≠ row.id) = before at *
    generalize ((file.readingsOf row.readingType).dropWhile (·.id ≠ row.id)).tail = after at *
    rw [hsplit, List.isChain_append, List.isChain_cons] at hchain
    obtain ⟨hfirst, ⟨-, hrest⟩, -⟩ := hchain
    refine ⟨?_, fun hmeter => ?_⟩
    · rw [hrows, List.isChain_append, List.isChain_cons]
      refine ⟨hfirst, ⟨hafter, hrest⟩, fun r hr s hs => ?_⟩
      rw [← Option.some.inj hs]
      exact hbefore r hr
    · rw [hrows, hcurrent hmeter, hsplit, List.getLast?_append, List.getLast?_append,
        List.getLast?_cons, List.getLast?_cons]
      cases hlast : after.getLast? with
      | none =>
          have hend := hvalue (List.getLast?_eq_none_iff.1 hlast) hmeter
          simp [hend]
      | some last => simp
  · have hkept : (file.readingsOf type).map (fun s => if s.id = new.id then new else s) =
        file.readingsOf type := by
      refine (List.map_congr_left fun s hs => if_neg fun hkey => hsame ?_).trans (List.map_id' _)
      have hmem := List.mem_filter.1 hs
      rw [← file.readings.key_injective hmem.1 hrow (hkey.trans hid)]
      exact of_decide_eq_true hmem.2
    rw [hkept] at hrows
    exact ⟨hrows ▸ h.chain, fun hmeter => hrows ▸ h.current hmeter⟩

/-! ## Runs -/

/-- The moments at which a request may record a reading of the meter. -/
def AssetRequest.moments (call : Call) (file : AssetFile) : AssetRequest → List Instant
  | .createAssignment _ body =>
    if body.status = .active then momentOf body.startingMeter body.assignedAt else []
  | .updateAssignment id _ data => (file.assignments.find? id).toList.flatMap (data.moments call.now)
  | .transfer _ _ body => momentOf (body.startingMeter.or body.endingMeter) body.assignedAt
  | .resetMeter _ body => [body.recordedAt]
  | _ => []

/-- A request that records does so at a moment whose readings were created before it began, and
while the latest readings have one value. A reading that is edited fits in its place. -/
def AssetRequest.Orderly (call : Call) (file : AssetFile) : AssetRequest → Prop
  | .recordMeterReading _ body => file.Timely body.readingType call.begun [body.recordedAt]
  | .updateMeterReading id data => ∀ row ∈ file.readings.find? id,
    ∀ new ∈ (data.apply row).toOption, file.Fits row new
  | r => ∀ type ∈ file.asset.meterType.readingType,
    file.Timely type call.begun (r.moments call file)

theorem AssetFile.Sorted.assign {ids : Generated} {body : AssetAssignmentCreate}
    (h : file.Sorted type) (hrun : file.assign call seen ids body = .ok file')
    (hready : body.status = .active → ∀ type, file.asset.meterType.readingType = some type →
      file.Ready type call.begun (momentOf body.startingMeter body.assignedAt)) :
    file'.Sorted type := by
  refine h.adds (AssetFile.assign_adds hrun) fun type htype => ?_
  split
  · next hactive => exact hready hactive type htype
  · exact fun moment hmoment => by cases hmoment

theorem momentOf_subset (value : Option MeterValue) (moment : Instant) :
    momentOf value moment ⊆ [moment] := by
  cases value with
  | none => exact List.nil_subset _
  | some value => exact List.Subset.refl _

theorem AssetTransfer.completion_moments (body : AssetTransfer) (now : Instant)
    (row : AssetAssignment) :
    body.completion.moments now row ⊆ momentOf body.endingMeter body.assignedAt := by
  have hstatus : (body.completion.withReturn now).newStatus row = some .completed := rfl
  have hending : ((body.completion.withReturn now).merged row).endingMeter = body.endingMeter := rfl
  have hreturned : ((body.completion.withReturn now).merged row).returnedAt = some body.assignedAt :=
    rfl
  simp only [AssetAssignmentUpdate.moments, hstatus, hending, hreturned, Option.getD_some]
  rw [if_neg (by simp), List.nil_append]
  split
  · exact List.Subset.refl _
  · exact List.nil_subset _

theorem AssetFile.Sorted.transfer {ids : Generated} {returnId : Id} {body : AssetTransfer}
    (h : file.Sorted type) (hrun : file.transfer call seen ids returnId body = .ok file')
    (htimely : ∀ type, file.asset.meterType.readingType = some type → file.Timely type call.begun
      (momentOf (body.startingMeter.or body.endingMeter) body.assignedAt)) : file'.Sorted type := by
  simp only [AssetFile.transfer, bind_eq_ok, AssetFile.flush_eq_ok] at hrun
  obtain ⟨current, -, _, -, _, -, returned, hreturn, _, ⟨-, rfl⟩, hassign⟩ := hrun
  have hadds := (AssetFile.finishOrUpdate_adds hreturn).mono (body.completion_moments call.now current)
  have hsub : momentOf body.endingMeter body.assignedAt ⊆
      momentOf (body.startingMeter.or body.endingMeter) body.assignedAt := by
    cases body.startingMeter <;> cases body.endingMeter <;> simp [momentOf]
  have hreturned := h.adds hadds fun type htype => (htimely type htype).ready.mono hsub
  refine hreturned.assign hassign fun _ type htype moment hmoment => ?_
  rw [hadds.meterType] at htype
  have hmem := momentOf_subset _ _ hmoment
  have htimely' : file.Timely type call.begun [body.assignedAt] := by
    intro m hm
    obtain rfl := List.mem_singleton.1 hm
    exact htimely type htype _ (List.mem_singleton.1 hmem ▸ hmoment)
  exact htimely'.adds hadds (momentOf_subset _ _) htype moment hmem

/-- What a request makes of an asset, if it is admitted: its readings stay in order. -/
theorem AssetFile.Sorted.run {r : AssetRequest} (h : ∀ type, file.Sorted type)
    (hrun : file.run call seen r = .ok file') (horderly : r.Orderly call file) (type : ReadingType) :
    file'.Sorted type := by
  cases r with
  | createAssignment ids body =>
      refine (h type).assign hrun fun hactive type htype => ?_
      have htimely := horderly type htype
      simp only [AssetRequest.moments, if_pos hactive] at htimely
      exact htimely.ready
  | updateAssignment assignmentId readingId data =>
      simp only [AssetFile.run, AssetFile.updateAssignment, bind_eq_ok, orError_eq_ok,
        AssetFile.flush_eq_ok] at hrun
      obtain ⟨row, hrow, updated, hupdated, -, rfl⟩ := hrun
      refine (h type).adds (AssetFile.finishOrUpdate_adds hupdated) fun type htype => ?_
      have htimely := horderly type htype
      simp only [AssetRequest.moments, hrow, Option.toList_some, List.flatMap_singleton] at htimely
      exact htimely.ready
  | transfer ids returnId body => exact (h type).transfer hrun fun type htype => horderly type htype
  | archive =>
      simp only [AssetFile.run, AssetFile.archive, bind_eq_ok] at hrun
      obtain ⟨_, -, _, -, hrun⟩ := hrun
      exact (h type).congr (Except.ok.inj hrun ▸ ⟨rfl, rfl, rfl⟩)
  | retire openJob =>
      obtain ⟨_, -, hrun⟩ := bind_eq_ok.1 hrun
      by_cases hactive : file.asset.isActive = false
      · rw [if_pos hactive] at hrun
        exact Except.ok.inj hrun ▸ h type
      · rw [if_neg hactive] at hrun
        obtain ⟨_, -, hrun⟩ := bind_eq_ok.1 hrun
        obtain ⟨_, -, hrun⟩ := bind_eq_ok.1 hrun
        exact (h type).congr (Except.ok.inj hrun ▸ ⟨rfl, rfl, rfl⟩)
  | restore => exact (h type).congr (Except.ok.inj hrun ▸ ⟨rfl, rfl, rfl⟩)
  | changeStatus mayOverride new =>
      obtain ⟨_, -, hrun⟩ := bind_eq_ok.1 hrun
      exact (h type).congr (Except.ok.inj hrun ▸ ⟨rfl, rfl, rfl⟩)
  | recordMeterReading readingId body =>
      obtain ⟨hlevel, hcreated⟩ := horderly body.recordedAt (List.mem_singleton_self _)
      exact (h type).meter hrun (fun r hr htime => Nat.le_of_lt (hcreated r hr htime)) hlevel
  | resetMeter readingId body =>
      exact (h type).adds (AssetFile.resetMeter_adds hrun) fun type htype => (horderly type htype).ready
  | updateMeterReading readingId data =>
      simp only [AssetFile.run, AssetFile.updateMeterReading, bind_eq_ok, orError_eq_ok] at hrun
      obtain ⟨_, -, row, hrow, _, -, _, -, new, hnew, hrun⟩ := hrun
      obtain rfl := Except.ok.inj hrun
      obtain ⟨hid, htype⟩ := MeterReadingUpdate.apply_spec hnew
      refine (h type).edit (Table.mem_of_find? hrow) hid htype (horderly row hrow new ?_)
      rw [hnew]
      rfl

/-- A request with what comes with it and what its queries for defects and inspections return. -/
structure AssetStep where
  call : Call
  seen : Seen
  request : AssetRequest

/-- The rows after a request; one that raises leaves them as they are. -/
def AssetFile.after (file : AssetFile) (step : AssetStep) : AssetFile :=
  match file.run step.call step.seen step.request with
  | .ok file => file
  | .error _ => file

/-- A sequence of requests, each of which is as it should be when its turn comes. -/
def AssetFile.OrderlyRun : AssetFile → List AssetStep → Prop
  | _, [] => True
  | file, step :: steps => step.request.Orderly step.call file ∧ (file.after step).OrderlyRun steps

/-- A registered asset: of its type of meter there is the reading that it was registered with. -/
def AssetFile.Registered (file : AssetFile) : Prop :=
  file.readings.rows.map (fun r => (r.readingType, r.reading)) =
    (file.asset.meterType.readingType.toList.flatMap fun type =>
      file.asset.currentMeterReading.toList.map fun value => (type, value))

theorem AssetFile.Registered.sorted (h : file.Registered) (type : ReadingType) :
    file.Sorted type := by
  unfold AssetFile.Registered at h
  cases hmeter : file.asset.meterType.readingType with
  | none =>
      have hnone : file.readings.rows = [] := by simpa [hmeter] using h
      refine ⟨?_, fun hsame => by simp [hmeter] at hsame⟩
      simp [AssetFile.readingsOf, hnone]
  | some meter =>
      cases hcurrent : file.asset.currentMeterReading with
      | none =>
          have hnone : file.readings.rows = [] := by simpa [hmeter, hcurrent] using h
          constructor
          all_goals simp [AssetFile.readingsOf, hnone, hcurrent]
      | some value =>
          have hone : file.readings.rows.map (fun r => (r.readingType, r.reading)) =
              [(meter, value)] := by simpa [hmeter, hcurrent] using h
          obtain ⟨r, hr, hpair⟩ := List.map_eq_singleton_iff.1 hone
          obtain ⟨rfl, rfl⟩ := Prod.mk.inj hpair
          constructor
          · rw [AssetFile.readingsOf, hr, List.filter_singleton, Bool.cond_eq_ite]
            split <;> simp
          · intro hsame
            have htype : r.readingType = type := Option.some.inj (hmeter.symm.trans hsame)
            simp [AssetFile.readingsOf, hr, htype, hcurrent]

/-- In every sequence of orderly requests about a registered asset, the readings of a type never
decrease but at an adjustment, and the asset shows the latest reading of its type of meter. -/
theorem readings_in_order (hregistered : file.Registered) (steps : List AssetStep)
    (horderly : file.OrderlyRun steps) : (steps.foldl AssetFile.after file).InOrder := by
  have hrun : ∀ (steps : List AssetStep) {file : AssetFile}, (∀ type, file.Sorted type) →
      file.OrderlyRun steps → ∀ type, (steps.foldl AssetFile.after file).Sorted type := by
    intro steps
    induction steps with
    | nil => exact fun h _ => h
    | cons step steps ih =>
        intro file h horderly
        refine ih (fun type => ?_) horderly.2
        unfold AssetFile.after
        split
        · next hrun => exact .run h hrun horderly.1 type
        · exact h type
  exact AssetFile.Sorted.inOrder (hrun steps hregistered.sorted horderly)

/-! ## A digger -/

instance : DecidableRel Follows := fun _ _ => inferInstanceAs (Decidable (_ ∨ _))

instance : DecidableRel Next := fun _ _ => inferInstanceAs (Decidable (_ ∧ _))

instance (begun : Instant) (moments : List Instant) : Decidable (file.Timely type begun moments) :=
  inferInstanceAs (Decidable (∀ moment ∈ moments, (∀ r ∈ file.readingsOf type,
    ∀ s ∈ file.readingsOf type, r.key = s.key →
      (∀ u ∈ file.readingsOf type, u.key ≤ r.key) → r.reading = s.reading) ∧
    ∀ r ∈ file.readingsOf type, r.recordedAt = moment → r.createdAt < begun))

instance (row new : AssetMeterReading) : Decidable (file.Fits row new) :=
  inferInstanceAs (Decidable ((∀ r ∈ List.getLast? _, _) ∧ (∀ s ∈ List.head? _, _) ∧ (_ → _ → _)))

instance (call : Call) (file : AssetFile) : DecidablePred (AssetRequest.Orderly call file)
  | .recordMeterReading _ _ => inferInstanceAs (Decidable (AssetFile.Timely _ _ _ _))
  | .updateMeterReading _ _ => inferInstanceAs (Decidable (∀ row ∈ _, ∀ new ∈ _, _))
  | .createAssignment _ _ | .updateAssignment _ _ _ | .transfer _ _ _ | .archive | .retire _
  | .restore | .changeStatus _ _ | .resetMeter _ _ =>
    inferInstanceAs (Decidable (∀ type ∈ MeterType.readingType _, AssetFile.Timely _ _ _ _))

instance AssetFile.decidableOrderlyRun :
    (steps : List AssetStep) → (file : AssetFile) → Decidable (file.OrderlyRun steps)
  | [], _ => .isTrue trivial
  | step :: steps, file =>
    have := AssetFile.decidableOrderlyRun steps (file.after step)
    inferInstanceAs (Decidable (_ ∧ _))

namespace Sample

/-- A digger with a meter of hours that was registered at 100. -/
def digger : AssetFile where
  asset := ⟨1, 1, 5, .available, true, none, none, .engineHours, some 100⟩
  assignments := .empty
  readings := .single ⟨10, 100, 0, .engineHours, some "IMPORT", none, none, none, false, none, none,
    false, 0⟩

def surroundings : Surroundings where
  project id := if id = 3 ∨ id = 4 then some ⟨true, "ACTIVE"⟩ else none
  location _ := none
  employee _ := true
  category _ := some ⟨5, 1, none, false, false, false⟩
  insured := true
  registered := true
  checked := true
  strip := id

/-- A request at a time, whose transaction begins then. -/
def visit (now : Instant) (request : AssetRequest) : AssetStep :=
  ⟨⟨now, now, surroundings, true, true, .first _⟩, ⟨false, none⟩, request⟩

/-- A project is given the digger at 120 hours, which it returns to another one at 150 hours; then
the meter is replaced, and a note is made of the return. -/
def season : List AssetStep := [
  visit 1 (.recordMeterReading 11 { reading := 110, recordedAt := 1, readingType := .engineHours }),
  visit 2 (.createAssignment ⟨20, 12⟩ { projectId := 3, assignedAt := 2, startingMeter := some 120 }),
  visit 3 (.transfer ⟨21, 14⟩ 13 { projectId := 4, assignedAt := 3, endingMeter := some 150 }),
  visit 4 (.resetMeter 15 ⟨150, 0, "Replaced", true, 4⟩),
  visit 5 (.updateMeterReading 13 { notes := some (some "Returned clean") })]

/-- A reading is recorded, and edited. -/
def edits : List AssetStep := [
  visit 1 (.recordMeterReading 11 { reading := 110, recordedAt := 1, readingType := .engineHours }),
  visit 2 (.updateMeterReading 11 { reading := some (some 50) })]

end Sample

theorem readings_in_order_season : Sample.digger.Registered ∧
    (Sample.season.foldl AssetFile.after Sample.digger).readings.rows.map (·.reading) =
      [100, 110, 120, 150, 150, 0] ∧
    (Sample.season.foldl AssetFile.after Sample.digger).asset.currentMeterReading = some 0 ∧
    (Sample.season.foldl AssetFile.after Sample.digger).InOrder :=
  ⟨rfl, by decide +kernel, by decide +kernel,
    readings_in_order (show Sample.digger.Registered from rfl) Sample.season (by decide +kernel)⟩

/-- The latest reading is edited: it is less than the one before, and the asset still shows what it
was. -/
theorem readings_not_in_order : ¬ ∀ (file : AssetFile) (steps : List AssetStep), file.Registered →
    (steps.foldl AssetFile.after file).InOrder := by
  intro h
  obtain ⟨l, hperm, -, -, hcurrent⟩ := h Sample.digger Sample.edits rfl .engineHours
  obtain ⟨last, hlast, hvalue⟩ := Option.map_eq_some_iff.1 (hcurrent rfl).symm
  have hmem := hperm.mem_iff.1 (List.mem_of_getLast? hlast)
  have hother : ∀ r ∈ (Sample.edits.foldl AssetFile.after Sample.digger).readingsOf .engineHours,
      r.reading ≠ 110 := by decide +kernel
  exact hother last hmem hvalue

end Cestos.Equipment
