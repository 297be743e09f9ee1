import Cestos.Drilling.Cored.Faults

/-!
# Numbers that do not fit

A request fails as the first of its tests that fails. The percentages are quotients of recovered
and drilled metres, of which nothing bounds the first by the second, so an interval that is short
enough makes one that no column and, shorter still, no rounding takes.
-/

namespace Cestos.Drilling.Cored

open Cestos.Core Cestos.Core.Decimal

variable {ctx : Context 28 12} {refs : References} {env : Env} {db db' : Database}
  {report report' : Draft} {row : DrillingShiftReport} {r : Request} {w : Written}

/-! ## Numbers -/

theorem faultOf_column {p s : ℕ} {x : ℚ} :
    faultOf ShiftError.fault (column p s x) = columnTest p s x :=
  faultOf_orError_eq.trans (testOf_congr Column.isSome_store)

theorem faultOf_optionalColumn {p s : ℕ} {x : Option ℚ} :
    faultOf ShiftError.fault (optionalColumn p s x) = x.bind (columnTest p s) := by
  cases x with
  | none => rfl
  | some x => exact faultOf_bind_ok.trans faultOf_column

/-- A percentage as it stands, or rounded. -/
def RoundsTo (x stored : Option ℚ) : Prop := stored = x ∨ stored = x.map (quantize 2)

theorem columnTest_quantize {x : ℚ} : columnTest 5 2 (quantize 2 x) = columnTest 5 2 x := by
  refine testOf_congr ?_
  rw [← fits_iff, fits_quantize_iff (by omega)]

theorem RoundsTo.faultOf {x stored : Option ℚ} (h : RoundsTo x stored) :
    faultOf ShiftError.fault (optionalColumn 5 2 stored) = x.bind (columnTest 5 2) := by
  rw [faultOf_optionalColumn]
  rcases h with rfl | rfl
  · rfl
  · cases x with
    | none => rfl
    | some x => exact columnTest_quantize

theorem faultOf_roundPct {pct : Option ℚ} :
    faultOf ShiftError.fault (roundPct pct) = roundTest pct := by
  cases pct with
  | none => rfl
  | some x =>
      exact faultOf_bind_ok.trans (faultOf_ensure_eq.trans (testOf_congr
        (abs_quantize_lt_iff (by omega))))

theorem roundPct_eq {pct rounded : Option ℚ} (h : roundPct pct = .ok rounded) :
    rounded = pct.map (quantize 2) := by
  cases pct with
  | none => exact (Except.ok.inj h).symm
  | some x =>
      simp only [roundPct, ensure_bind_eq_ok] at h
      exact (Except.ok.inj h.2).symm

theorem column_coe {p s : ℕ} (v : Column p s) : column p s v.1 = .ok v :=
  column_eq_ok.2 (Column.store_coe v)

theorem optionalColumn_coe {p s : ℕ} (v : Option (Column p s)) :
    optionalColumn p s (v.map (·.1)) = .ok v := by
  cases v with
  | none => rfl
  | some v => rw [Option.map_some, optionalColumn, column_coe]; rfl

/-! ## Recalculation -/

theorem faultOf_recalculateInterval {iv : DraftInterval} :
    faultOf ShiftError.fault (recalculateInterval ctx iv) =
      firstFault (percentTests ctx iv.toMeasuredInterval) := by
  refine faultOf_bind_cons faultOf_ensure_eq fun _ _ => ?_
  exact (faultOf_bind_ok.trans faultOf_roundPct).trans (firstFault_singleton _).symm

theorem faultOf_recalculateShiftTotals :
    faultOf ShiftError.fault (recalculateShiftTotals ctx report) =
      firstFault (recalculationTests ctx (report.intervals.map (·.toMeasuredInterval))) := by
  unfold recalculateShiftTotals recalculationTests
  rw [List.flatMap_map]
  refine faultOf_bind (faultOf_mapM fun iv _ => faultOf_recalculateInterval) fun _ _ => ?_
  exact (faultOf_bind_ok.trans faultOf_roundPct).trans (firstFault_singleton _).symm

/-- What is known of the intervals and the average of a recalculated report. -/
structure RecalculatedPct (ctx : Context 28 12) (report report' : Draft) : Prop where
  intervals : ∀ iv ∈ report'.intervals, iv.coreRecoveryPct = (iv.recovery ctx).map (quantize 2)
  average : report'.avgCoreRecoveryPct =
    (averageRecovery ctx (report.intervals.map (·.toMeasuredInterval))).map (quantize 2)
  programId : report'.programId = report.programId
  supervisorId : report'.supervisorId = report.supervisorId
  crewMembers : report'.crewMembers = report.crewMembers

theorem recalculatedPct (h : recalculateShiftTotals ctx report = .ok report') :
    RecalculatedPct ctx report report' := by
  simp only [recalculateShiftTotals, bind_eq_ok] at h
  obtain ⟨intervals, hintervals, pct, hpct, hreport⟩ := h
  obtain rfl := Except.ok.inj hreport
  refine ⟨forall_of_mapM hintervals fun iv _ iv' hiv => ?_, roundPct_eq hpct, rfl, rfl, rfl⟩
  simp only [recalculateInterval, bind_eq_ok] at hiv
  obtain ⟨_, -, rounded, hrounded, hiv⟩ := hiv
  obtain rfl := Except.ok.inj hiv
  exact roundPct_eq hrounded

/-! ## The flush -/

/-- A recalculated interval. -/
structure Fresh (ctx : Context 28 12) (iv : DraftInterval) : Prop where
  drilled : iv.drilledMetres = iv.drilled ctx
  nonneg : 0 ≤ iv.drilled ctx
  pct : iv.coreRecoveryPct = (iv.recovery ctx).map (quantize 2)

/-- Only equal numbers have no difference. -/
def Exact (ctx : Context 28 12) : Prop := ∀ x, 0 ≤ ctx.round x → 0 ≤ x

theorem exact_python : Exact .python := by
  intro x h
  by_contra hneg
  have hpos : 0 < -x := by linarith
  have hbounds := (roundSignificant_bounds (p := 28) (by omega) hpos).1
  have hround : 0 < Context.python.round (-x) :=
    (zpow_pos (by norm_num : (0 : ℚ) < 10) _).trans_le hbounds
  rw [Context.python.neg] at hround
  linarith

theorem Fresh.faultOf_flush {iv : DraftInterval} (h : Fresh ctx iv) (hctx : Exact ctx) :
    faultOf ShiftError.fault iv.flush = firstFault (intervalTests ctx iv.toMeasuredInterval) := by
  have hordered : iv.fromDepthM ≤ iv.toDepthM := by
    have := hctx _ h.nonneg
    linarith
  unfold DraftInterval.flush intervalTests
  rw [h.drilled, h.pct]
  refine faultOf_bind_cons faultOf_column fun fromDepthM hfrom => ?_
  refine faultOf_bind_cons faultOf_column fun toDepthM hto => ?_
  refine faultOf_bind_cons faultOf_column fun drilledMetres hdrilled => ?_
  refine faultOf_bind_cons faultOf_optionalColumn fun coreRecoveredM _ => ?_
  refine (faultOf_bind_of_ok fun coreRecoveryPct _ => ?_).trans
    ((RoundsTo.faultOf (.inr rfl)).trans (firstFault_singleton _).symm)
  have hcheck : fromDepthM.1 ≤ toDepthM.1 ∧ 0 ≤ drilledMetres.1 := by
    rw [Column.store_val (column_eq_ok.1 hfrom), Column.store_val (column_eq_ok.1 hto),
      Column.store_val (column_eq_ok.1 hdrilled)]
    exact ⟨numeric_mono 2 hordered, numeric_nonneg 2 h.nonneg⟩
  rw [dif_pos hcheck]
  exact ⟨_, rfl⟩

theorem flush_draft (iv : DrillingShiftInterval) : iv.draft.flush = .ok iv := by
  have hcheck : iv.fromDepthM.1 ≤ iv.toDepthM.1 ∧ 0 ≤ iv.drilledMetres.1 :=
    ⟨iv.ordered, iv.drilled_nonneg⟩
  show (column 18 2 iv.fromDepthM.1 >>= fun _ => _) = _
  rw [column_coe, ok_bind]
  show (column 18 2 iv.toDepthM.1 >>= fun _ => _) = _
  rw [column_coe, ok_bind]
  show (column 18 2 iv.drilledMetres.1 >>= fun _ => _) = _
  rw [column_coe, ok_bind]
  show (optionalColumn 18 2 (iv.coreRecoveredM.map (·.1)) >>= fun _ => _) = _
  rw [optionalColumn_coe, ok_bind]
  show (optionalColumn 5 2 (iv.coreRecoveryPct.map (·.1)) >>= fun _ => _) = _
  rw [optionalColumn_coe, ok_bind]
  exact dif_pos hcheck

/-- Hours of a day, or hours that were stored. -/
def Hours (hours : ℚ) : Prop := 0 ≤ hours ∧ Fits 18 2 hours

theorem hours_of_day {hours : ℚ} (hpos : 0 < hours) (hle : hours ≤ 24) : Hours hours := by
  refine ⟨hpos.le, fits_iff.2 ?_⟩
  rw [abs_of_pos hpos]
  norm_num
  linarith

theorem hours_of_column {v : Column 18 2} (hnonneg : 0 ≤ v.1) : Hours v.1 :=
  ⟨hnonneg, fits_of_store (Column.store_coe v)⟩

theorem faultOf_mapM_eq_none {α β : Type} {f : α → Outcome β} {l : List α}
    (h : ∀ a ∈ l, faultOf ShiftError.fault (f a) = none) :
    faultOf ShiftError.fault (l.mapM f) = none := by
  have htests : faultOf ShiftError.fault (l.mapM f) = firstFault (l.flatMap fun _ => []) :=
    faultOf_mapM h
  rw [htests, List.flatMap_eq_nil_iff.2 fun _ _ => rfl, firstFault_nil]

theorem faultOf_flushSegments {segments : List WorkingSegment}
    (h : ∀ ts ∈ segments, Hours ts.hours) :
    faultOf ShiftError.fault (segments.mapM flushSegment) = none :=
  faultOf_mapM_eq_none fun ts hts =>
    faultOf_bind_ok.trans (faultOf_column.trans (if_pos (fits_iff.1 (h ts hts).2)))

theorem faultOf_flushCrew {cm : DraftCrew} (h : Fits 18 2 cm.hoursWorked) :
    faultOf ShiftError.fault (cm.flush refs) = testOf (refs.employees cm.employeeId) .key := by
  obtain ⟨hours, hhours⟩ := Option.isSome_iff_exists.1 (Column.isSome_store.2 (fits_iff.1 h))
  rw [DraftCrew.flush, column_eq_ok.2 hhours, ok_bind]
  exact faultOf_bind_ok.trans faultOf_ensure_eq

theorem faultOf_checkKeys : faultOf ShiftError.fault (checkKeys refs report) = firstFault
    [testOf (refs.projects report.header.projectId) .key,
      testOf (refs.assets report.header.rigId) .key, testOf (report.programId.all refs.programs) .key,
      testOf (report.supervisorId.all refs.employees) .key] := by
  refine faultOf_bind_cons faultOf_ensure_eq fun _ _ => ?_
  refine faultOf_bind_cons faultOf_ensure_eq fun _ _ => ?_
  refine faultOf_bind_cons faultOf_ensure_eq fun _ _ => ?_
  exact faultOf_ensure_eq.trans (firstFault_singleton _).symm

/-- The report in memory is to be written so: its intervals are all recalculated or all as they
were stored. -/
structure Matches (ctx : Context 28 12) (report : Draft) (w : Written) : Prop where
  header : report.header = w.header
  programId : report.programId = w.programId
  supervisorId : report.supervisorId = w.supervisorId
  metres : report.totalMetres = w.metres
  productive : report.totalProductiveHours = w.productive
  nonproductive : report.totalNonproductiveHours = w.nonproductive
  recovery : RoundsTo w.recovery report.avgCoreRecoveryPct
  intervals : (∀ iv ∈ report.intervals, Fresh ctx iv) ∧
      report.intervals.map (·.toMeasuredInterval) = w.intervals ∨
    (∃ stored : List DrillingShiftInterval, report.intervals = stored.map (·.draft)) ∧
      w.intervals = []
  timeSegments : ∀ ts ∈ report.timeSegments, Hours ts.hours
  hoursWorked : ∀ cm ∈ report.crewMembers, Fits 18 2 cm.hoursWorked
  crew : report.crewMembers.map (·.employeeId) = w.crew

theorem faultOf_bind_none {α β : Type} {x : Outcome α} {f : α → Outcome β}
    {tests : List (Option Fault)} (hx : faultOf ShiftError.fault x = none)
    (hf : ∀ a, x = .ok a → faultOf ShiftError.fault (f a) = firstFault tests) :
    faultOf ShiftError.fault (x >>= f) = firstFault tests := by
  obtain ⟨a, ha⟩ := faultOf_eq_none.1 hx
  rw [ha, ok_bind]
  exact hf a ha

theorem Matches.faultOf_intervals (h : Matches ctx report w) (hctx : Exact ctx) :
    faultOf ShiftError.fault (report.intervals.mapM (·.flush)) =
      firstFault (w.intervals.flatMap (intervalTests ctx)) := by
  rcases h.intervals with ⟨hfresh, hmeasured⟩ | ⟨⟨stored, hstored⟩, hnone⟩
  · rw [← hmeasured, List.flatMap_map]
    exact faultOf_mapM fun iv hiv => (hfresh iv hiv).faultOf_flush hctx
  · rw [hstored, hnone]
    refine faultOf_mapM_eq_none (List.forall_mem_map.2 fun iv _ => ?_)
    rw [flush_draft, faultOf_ok]

theorem Matches.faultOf_flush (h : Matches ctx report w) (hctx : Exact ctx) :
    faultOf ShiftError.fault (report.flush refs db) = firstFault (storageTests ctx refs db w) := by
  unfold Draft.flush storageTests totalTests keyTests
  simp only [List.cons_append, List.nil_append]
  refine faultOf_bind_cons (faultOf_column.trans (by rw [h.metres])) fun _ _ => ?_
  refine faultOf_bind_cons (faultOf_column.trans (by rw [h.productive])) fun _ _ => ?_
  refine faultOf_bind_cons (faultOf_column.trans (by rw [h.nonproductive])) fun _ _ => ?_
  refine faultOf_bind_cons h.recovery.faultOf fun _ _ => ?_
  refine faultOf_bind_cons (raises_checkUnique.faultOf.trans (by rw [h.header])) fun _ _ => ?_
  rw [← h.header, ← h.programId, ← h.supervisorId]
  refine faultOf_bind faultOf_checkKeys fun _ _ => ?_
  refine faultOf_bind (h.faultOf_intervals hctx) fun _ _ => ?_
  refine faultOf_bind_none (faultOf_flushSegments h.timeSegments) fun segments hsegments => ?_
  have hcrew : faultOf ShiftError.fault (report.crewMembers.mapM (·.flush refs)) =
      firstFault (report.crewMembers.map fun cm => testOf (refs.employees cm.employeeId) .key) :=
    faultOf_mapM_map fun cm hcm => faultOf_flushCrew (h.hoursWorked cm hcm)
  rw [← h.crew, List.map_map]
  have hnonneg : ∀ ts ∈ segments, 0 ≤ ts.hours.1 := by
    refine forall_of_mapM hsegments fun ts hts stored hstored => ?_
    rw [Column.store_val (flushSegment_spec hstored).2]
    exact numeric_nonneg 2 (h.timeSegments ts hts).1
  refine (faultOf_bind_of_ok fun crew _ => ?_).trans hcrew
  rw [dif_pos hnonneg]
  exact ⟨_, rfl⟩

/-! ## Requests -/

/-- What a recalculation makes of the totals, in terms of the intervals before it. -/
theorem recalculated_totals (h : recalculateShiftTotals ctx report = .ok report') :
    report'.totalMetres =
        total ctx ((report.intervals.map (·.toMeasuredInterval)).map (·.drilled ctx)) ∧
      report'.totalProductiveHours = hoursOf ctx report.timeSegments (· = .productive) ∧
      report'.totalNonproductiveHours = hoursOf ctx report.timeSegments (· ≠ .productive) := by
  obtain ⟨hrecalculated, hsame⟩ := recalculated h
  rw [hrecalculated.metres, hrecalculated.productive, hrecalculated.nonproductive,
    hsame.timeSegments, ← hsame.intervals, List.map_map]
  exact ⟨rfl, rfl, rfl⟩

theorem recalculated_fresh (h : recalculateShiftTotals ctx report = .ok report') :
    ∀ iv ∈ report'.intervals, Fresh ctx iv := by
  intro iv hiv
  obtain ⟨hdrilled, hnonneg⟩ := (recalculated h).1.drilled iv hiv
  exact ⟨hdrilled, hnonneg, (recalculatedPct h).intervals iv hiv⟩

theorem hours_of_segments {segments : List TimeSegmentCreate} :
    ∀ ts ∈ segments.map (·.working), Hours ts.hours :=
  List.forall_mem_map.2 fun ts _ => hours_of_day ts.hours.2.1 ts.hours.2.2

theorem fits_of_crew {crew : List CrewCreate} :
    ∀ cm ∈ crew.map (·.draft), Fits 18 2 cm.hoursWorked :=
  List.forall_mem_map.2 fun cm _ => (hours_of_day cm.hoursWorked.2.1 cm.hoursWorked.2.2).2

theorem faultOf_replaceInterval {iv : IntervalCreate} :
    faultOf ShiftError.fault (replaceInterval ctx iv) = roundTest (iv.measured.recovery ctx) :=
  faultOf_bind_ok.trans faultOf_roundPct

theorem faultOf_createInterval {iv : IntervalCreate} :
    faultOf ShiftError.fault (createInterval ctx iv) =
      firstFault (percentTests ctx iv.measured) := by
  refine faultOf_bind_cons faultOf_ensure_eq fun _ _ => ?_
  exact faultOf_replaceInterval.trans (firstFault_singleton _).symm

theorem replaceInterval_measured {iv : IntervalCreate} {iv' : DraftInterval}
    (h : replaceInterval ctx iv = .ok iv') : iv'.toMeasuredInterval = iv.measured := by
  simp only [replaceInterval, bind_eq_ok] at h
  obtain ⟨_, -, h⟩ := h
  obtain rfl := Except.ok.inj h
  rfl

theorem createIntervals_measured {ivs : List IntervalCreate} {drafts : List DraftInterval}
    (h : ivs.mapM (createInterval ctx) = .ok drafts) :
    drafts.map (·.toMeasuredInterval) = ivs.map (·.measured) :=
  map_eq_of_mapM h fun _ _ hiv => replaceInterval_measured (createInterval_eq_ok.1 hiv).2

theorem create_matches {payload : ShiftReportCreate} {actorId : Option Id}
    {intervals : List DraftInterval} (hintervals : payload.intervals.mapM (createInterval ctx) =
      .ok intervals)
    (h : recalculateShiftTotals ctx (newDraft env payload actorId intervals) = .ok report) :
    Matches ctx report (createWritten ctx env payload actorId) := by
  have hmeasured := createIntervals_measured hintervals
  obtain ⟨-, hsame⟩ := recalculated h
  obtain ⟨hmetres, hproductive, hnonproductive⟩ := recalculated_totals h
  have hpct := recalculatedPct h
  have hnew : (newDraft env payload actorId intervals).intervals.map (·.toMeasuredInterval) =
      payload.intervals.map (·.measured) := hmeasured
  refine ⟨hsame.header, hpct.programId, hpct.supervisorId, ?_, hproductive, hnonproductive, .inr ?_,
    .inl ⟨recalculated_fresh h, hsame.intervals.trans hnew⟩, ?_, ?_, ?_⟩
  · rw [hmetres, hnew, List.map_map]
    rfl
  · rw [hpct.average, hnew]
    rfl
  · rw [hsame.timeSegments]
    exact hours_of_segments
  · rw [hpct.crewMembers]
    exact fits_of_crew
  · rw [hpct.crewMembers]
    exact List.map_map

theorem isSome_insert? {t : Table reportId} : (t.insert? row).isSome ↔
    reportId row ∉ t.rows.map reportId := by
  unfold Table.insert?
  split <;> simp_all

theorem faultOf_create {payload : ShiftReportCreate} {actorId : Option Id} (hctx : Exact ctx) :
    faultOf ShiftError.fault (createShiftReport ctx refs env db payload actorId) =
      firstFault (createTests ctx refs db env payload actorId) := by
  unfold createShiftReport createTests
  refine faultOf_bind_cons raises_checkCreate.faultOf fun _ _ => ?_
  refine faultOf_bind (faultOf_mapM fun iv _ => faultOf_createInterval) fun intervals hintervals => ?_
  rw [← createIntervals_measured hintervals]
  refine faultOf_bind faultOf_recalculateShiftTotals fun report hreport => ?_
  have hmatches := create_matches hintervals hreport
  refine faultOf_bind (hmatches.faultOf_flush hctx) fun row hrow => ?_
  have hid : reportId row = env.uuid := by rw [reportId, (flushed hrow).id, hmatches.header]; rfl
  rw [firstFault_singleton, ← hid]
  exact faultOf_bind_ok.trans (faultOf_orError_eq.trans (testOf_congr isSome_insert?))

section Update

variable {payload : ShiftReportUpdate} {old : DrillingShiftReport} {intervals : List DraftInterval}

theorem faultOf_replaceIntervals {drafts : List DraftInterval} :
    faultOf ShiftError.fault (replaceIntervals ctx payload drafts) =
      firstFault ((payload.intervals.getD []).map fun iv => roundTest (iv.measured.recovery ctx)) := by
  unfold replaceIntervals
  cases payload.intervals with
  | none => rfl
  | some ivs => exact faultOf_mapM_map fun _ _ => faultOf_replaceInterval

theorem replaceIntervals_measured
    (h : replaceIntervals ctx payload old.draft.intervals = .ok intervals) :
    intervals.map (·.toMeasuredInterval) = updateIntervals payload old := by
  unfold replaceIntervals at h
  unfold updateIntervals
  cases hgiven : payload.intervals with
  | none =>
      simp only [hgiven] at h
      rw [← Except.ok.inj h]
      exact List.map_map
  | some ivs =>
      simp only [hgiven] at h
      exact map_eq_of_mapM h fun _ _ hiv => replaceInterval_measured hiv

/-- The report that an update recalculates. -/
def replaced (payload : ShiftReportUpdate) (old : DrillingShiftReport)
    (intervals : List DraftInterval) : Draft :=
  { replaceOthers payload old.draft with intervals }

theorem faultOf_recalculateIfGiven
    (h : replaceIntervals ctx payload old.draft.intervals = .ok intervals) :
    faultOf ShiftError.fault (recalculateIfGiven ctx payload (replaced payload old intervals)) =
      firstFault (if payload.Recalculates then
        recalculationTests ctx (updateIntervals payload old) else []) := by
  unfold recalculateIfGiven
  rw [← replaceIntervals_measured h]
  by_cases hnone : payload.intervals = none ∧ payload.timeSegments = none
  · have hnot : ¬ payload.Recalculates := not_not_intro hnone
    rw [if_pos hnone, if_neg hnot]
    rfl
  · have hyes : payload.Recalculates := hnone
    rw [if_neg hnone, if_pos hyes]
    exact faultOf_recalculateShiftTotals

variable (intervals) in
theorem hours_replaced : ∀ ts ∈ (replaced payload old intervals).timeSegments, Hours ts.hours := by
  show ∀ ts ∈ payload.timeSegments.elim _ _, _
  cases payload.timeSegments with
  | none => exact List.forall_mem_map.2 fun ts hts => hours_of_column (old.hours_nonneg ts hts)
  | some new => exact hours_of_segments

variable (intervals) in
theorem fits_replaced :
    ∀ cm ∈ (replaced payload old intervals).crewMembers, Fits 18 2 cm.hoursWorked := by
  show ∀ cm ∈ payload.crewMembers.elim _ _, _
  cases payload.crewMembers with
  | none =>
      exact List.forall_mem_map.2 fun cm _ => fits_of_store (Column.store_coe cm.hoursWorked)
  | some new => exact fits_of_crew

variable (intervals) in
theorem crew_replaced : (replaced payload old intervals).crewMembers.map (·.employeeId) =
    payload.crewMembers.elim (old.crewMembers.map (·.employeeId)) (·.map (·.employeeId)) := by
  show (payload.crewMembers.elim (old.crewMembers.map (·.draft)) (·.map (·.draft))).map _ = _
  cases payload.crewMembers with
  | none => exact List.map_map
  | some new => exact List.map_map

/-- Without parts in the payload what the payload does not set is as it was stored. -/
theorem matches_unchanged (hnone : ¬ payload.Recalculates)
    (h : replaceIntervals ctx payload old.draft.intervals = .ok intervals) :
    Matches ctx (setTotals payload (replaced payload old intervals))
      (updateWritten ctx payload old) := by
  unfold updateWritten
  rw [if_neg hnone, if_neg hnone, if_neg hnone, if_neg hnone, if_neg hnone]
  refine ⟨rfl, rfl, rfl, rfl, rfl, rfl, .inl rfl, .inr ⟨⟨old.cored, ?_⟩, rfl⟩,
    hours_replaced intervals, fits_replaced intervals, crew_replaced intervals⟩
  have hgiven : payload.intervals = none := (not_not.1 hnone).1
  unfold replaceIntervals at h
  simp only [hgiven] at h
  exact (Except.ok.inj h).symm

theorem matches_recalculated (hsome : payload.Recalculates)
    (h : replaceIntervals ctx payload old.draft.intervals = .ok intervals)
    (hreport : recalculateShiftTotals ctx (replaced payload old intervals) = .ok report) :
    Matches ctx (setTotals payload report) (updateWritten ctx payload old) := by
  have hmeasured : (replaced payload old intervals).intervals.map (·.toMeasuredInterval) =
      updateIntervals payload old := replaceIntervals_measured h
  obtain ⟨-, hsame⟩ := recalculated hreport
  obtain ⟨hmetres, hproductive, hnonproductive⟩ := recalculated_totals hreport
  have hpct := recalculatedPct hreport
  unfold updateWritten
  rw [if_pos hsome, if_pos hsome, if_pos hsome, if_pos hsome, if_pos hsome]
  refine ⟨hsame.header, hpct.programId, hpct.supervisorId, ?_, ?_, ?_, ?_,
    .inl ⟨?_, hsame.intervals.trans hmeasured⟩, ?_, ?_, ?_⟩
  · rw [← hmeasured, ← hmetres]
    rfl
  · exact congrArg payload.productive.getD hproductive
  · exact congrArg payload.nonproductive.getD hnonproductive
  · show RoundsTo (payload.recoveryPct.or _) (payload.recoveryPct.or report.avgCoreRecoveryPct)
    cases payload.recoveryPct with
    | some pct => exact .inl rfl
    | none =>
        rw [Option.none_or, Option.none_or, hpct.average, hmeasured]
        exact .inr rfl
  · exact fun iv hiv => recalculated_fresh hreport iv hiv
  · show ∀ ts ∈ report.timeSegments, _
    rw [hsame.timeSegments]
    exact hours_replaced intervals
  · show ∀ cm ∈ report.crewMembers, _
    rw [hpct.crewMembers]
    exact fits_replaced intervals
  · show report.crewMembers.map _ = _
    rw [hpct.crewMembers]
    exact crew_replaced intervals

theorem update_matches (h : replaceIntervals ctx payload old.draft.intervals = .ok intervals)
    (hreport : recalculateIfGiven ctx payload (replaced payload old intervals) = .ok report) :
    Matches ctx (setTotals payload report) (updateWritten ctx payload old) := by
  unfold recalculateIfGiven at hreport
  split at hreport
  · next hnone =>
      obtain rfl := Except.ok.inj hreport
      exact matches_unchanged (not_not_intro hnone) h
  · next hsome => exact matches_recalculated hsome h hreport

theorem faultOf_update {shiftId : Id} (hctx : Exact ctx) :
    faultOf ShiftError.fault (updateShiftReport ctx refs db shiftId payload) =
      firstFault ((Request.update shiftId payload).tests ctx refs db env) := by
  unfold updateShiftReport
  simp only [Request.tests]
  cases hold : db.reports.find? shiftId with
  | none => rfl
  | some old =>
      rw [orError, ok_bind]
      refine faultOf_bind_cons raises_checkUpdate.faultOf fun _ _ => ?_
      refine faultOf_bind faultOf_replaceIntervals fun intervals hintervals => ?_
      refine faultOf_bind (faultOf_recalculateIfGiven hintervals) fun report hreport => ?_
      exact faultOf_bind_ok.trans ((update_matches hintervals hreport).faultOf_flush hctx)

end Update

theorem faultOf_exec (hctx : Exact ctx) : faultOf ShiftError.fault (exec ctx refs env db r) =
    firstFault (r.tests ctx refs db env) := by
  cases r with
  | create payload actorId => exact faultOf_create hctx
  | update shiftId payload => exact faultOf_update hctx

/-- A request that stores its numbers or raises a `ValueError`. -/
def Settled (x : Outcome Database) : Prop :=
  (∃ db, x = .ok db) ∨ ∃ e, x = .error e ∧ e.fault = .value

theorem settled_iff {x : Outcome Database} : Settled x ↔
    faultOf ShiftError.fault x = none ∨ faultOf ShiftError.fault x = some .value := by
  cases x with
  | ok db => simp [Settled]
  | error e => simp [Settled]

/-- A request stores what it is given in columns that take it, or raises a `ValueError`, if and only
if the first of its tests that fails, should one fail, is one that raises a `ValueError`. -/
theorem numbers_stored_iff : Settled (exec .python refs env db r) ↔
    firstFault (r.tests .python refs db env) = none ∨
      firstFault (r.tests .python refs db env) = some .value := by
  rw [settled_iff, faultOf_exec exact_python]

/-- A centimetre drilled of which a metre was recovered. -/
def Sample.metreFromCentimetre : Request :=
  .create (Sample.creation [Sample.interval ⟨1 / 100, by decide +kernel⟩ ⟨1, by decide +kernel⟩]) none

/-- A metre recovered from a hundredth of a metre is ten thousand percent. -/
theorem numbers_stored_fails : ¬ ∀ (env : Env) (db : Database) (r : Request),
    (∀ iv ∈ r.newIntervals, iv.fromDepthM.1 < 10 ^ 16 ∧ iv.toDepthM.1 < 10 ^ 16 ∧
      iv.coreRecoveredM.all (·.1 < 10 ^ 16)) →
    Settled (exec .python Sample.references env db r) := by
  intro hall
  have hnumber : errorOf (exec .python Sample.references ⟨1, 1⟩ Sample.noReports
      Sample.metreFromCentimetre) = some (.drilling .data) := by decide +kernel
  have hsettled := hall ⟨1, 1⟩ Sample.noReports Sample.metreFromCentimetre
    (by decide +kernel)
  rw [settled_iff, faultOf, hnumber] at hsettled
  simp [ShiftError.fault] at hsettled

end Cestos.Drilling.Cored
