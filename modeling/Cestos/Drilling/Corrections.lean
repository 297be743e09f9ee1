import Cestos.Drilling.Holes

/-!
# Corrections that touch no interval

An update validates the intervals of its report even if it leaves them as they are. What other
reports have drilled in the same holes since, and a target that has been lowered, may then refuse
it.
-/

namespace Cestos.Drilling

open Cestos.Core Cestos.Core.Decimal

/-- What the validation of the depth refuses an interval with. -/
def depthError (hole : DrillHole) : DrillingError :=
  .value ("Drill hole " ++ hole.holeNumber ++ " has reached its target or the interval exceeds it")

/-- An update that leaves the project, the site and the intervals as they are. -/
structure KeepsIntervals (payload : ShiftReportUpdate) (report : DrillingShiftReport) : Prop where
  project : payload.projectId.getD report.projectId = report.projectId
  site : payload.siteLocationId.getD report.siteLocationId = report.siteLocationId
  intervals : ∀ intervals ∈ payload.intervals,
    intervals.map (·.working) = report.intervals.map (·.working)

/-- The update is refused before the depths are looked at. -/
def RefusedBefore (refs : References) (payload : ShiftReportUpdate) (report : DrillingShiftReport) :
    Prop :=
  (report.status = .approved ∧ ¬ given payload.correctionReason) ∨
    ∃ site ∈ report.siteLocationId, refs.site report.projectId site = false

/-- The other reports stay above the target of the hole, and the interval does not exceed it. -/
def WithinTarget (db : Database) (shiftId : Id) (p : Id × ℚ) : Prop :=
  ∀ hole ∈ db.holes.find? p.1, ∀ target ∈ hole.targetDepthM, target.1 = 0 ∨
    (∀ r ∈ db.reports.rows, r.id ≠ shiftId → ∀ iv ∈ r.intervals,
      iv.drillHoleId = p.1 → iv.toDepthM.1 < target.1) ∧ p.2 ≤ target.1

instance (db : Database) (shiftId : Id) (p : Id × ℚ) : Decidable (WithinTarget db shiftId p) :=
  inferInstanceAs (Decidable (∀ hole ∈ _, ∀ target ∈ _, _ = _ ∨ (∀ r ∈ _, _ → ∀ iv ∈ _,
    _ → _ < _) ∧ _ ≤ _))

variable {ctx : Context 28 12} {refs : References} {db : Database} {shiftId : Id}
  {payload : ShiftReportUpdate} {report : DrillingShiftReport}

theorem foldl_max_lt {d target : ℚ} {rest : List ℚ} :
    rest.foldl max d < target ↔ ∀ x ∈ d :: rest, x < target := by
  induction rest generalizing d with
  | nil => simp
  | cons e rest ih =>
      rw [List.foldl_cons, ih]
      simp [and_assoc]

/-- The others have not reached a target if none of their intervals has. -/
theorem previousDepth_lt {holeId : Id} {target : ℚ} (htarget : 0 < target) :
    previousDepth db (some shiftId) holeId < target ↔
      ∀ r ∈ db.reports.rows, r.id ≠ shiftId → ∀ iv ∈ r.intervals,
        iv.drillHoleId = holeId → iv.toDepthM.1 < target := by
  unfold previousDepth
  generalize hends : List.flatMap _ _ = ends
  have hall : (∀ d ∈ ends, d < target) ↔ ∀ r ∈ db.reports.rows, r.id ≠ shiftId →
      ∀ iv ∈ r.intervals, iv.drillHoleId = holeId → iv.toDepthM.1 < target := by
    simp only [← hends, List.mem_flatMap, List.mem_filter, List.mem_map, decide_eq_true_eq, ne_eq,
      Option.some.injEq]
    constructor
    · intro h r hr hid iv hiv hhole
      exact h _ ⟨r, ⟨hr, fun heq => hid heq.symm⟩, iv, ⟨hiv, hhole⟩, rfl⟩
    · rintro h _ ⟨r, ⟨hr, hid⟩, iv, ⟨hiv, hhole⟩, rfl⟩
      exact h r hr (fun heq => hid heq.symm) iv hiv hhole
  rw [← hall]
  cases ends with
  | nil => simpa using htarget
  | cons d rest => exact foldl_max_lt

theorem value_ne_depthError {text : String} (h : text.toList.head? ≠ some 'D') (hole : DrillHole) :
    DrillingError.value text ≠ depthError hole := by
  intro heq
  have heq := congrArg (fun text => text.toList.head?) (DrillingError.value.inj heq)
  exact h (heq.trans (by simp [String.toList_append]))

/-- Intervals in holes of the project and the site are refused for their depth only. -/
theorem validate_eq_error {projectId : Id} {site : Option Id} {intervals : List (Id × ℚ)}
    (htargets : TargetsBelow db) (hsite : requireSite refs projectId site = .ok ())
    (hfits : ∀ p ∈ intervals, HoleFits db.holes projectId site p.1) :
    (∃ hole, validateSiteIntervals refs db projectId site intervals (some shiftId) =
      .error (depthError hole)) ↔ ∃ p ∈ intervals, ¬ WithinTarget db shiftId p := by
  have hcheck : ∀ p ∈ intervals, ∃ hole, db.holes.find? p.1 = some hole ∧ (
      hole.projectId = projectId ∧ ¬ hole.archived ∧ hole.siteLocationId = site) ∧
      ((hole.targetDepthM.all fun target => target.1 = 0 ∨
        (previousDepth db (some shiftId) p.1 < target.1 ∧ p.2 ≤ target.1)) = true ↔
        WithinTarget db shiftId p) := by
    intro p hp
    obtain ⟨hole, hhole, hplace⟩ := Option.map_eq_some_iff.1 (hfits p hp)
    simp only [DrillHole.place, Prod.mk.injEq] at hplace
    obtain ⟨hproject, hsite, harchived⟩ := hplace
    refine ⟨hole, hhole, ⟨hproject, by simp [harchived], hsite⟩, ?_⟩
    rw [WithinTarget, hhole]
    cases htarget : hole.targetDepthM with
    | none => simp [htarget]
    | some target =>
        have hnonneg := htargets hole (Table.mem_of_find? hhole) target htarget
        simp only [Option.all_some, decide_eq_true_eq, Option.mem_some, forall_eq', htarget]
        refine or_congr_right' fun hne => and_congr_left fun _ => ?_
        exact previousDepth_lt (lt_of_le_of_ne hnonneg (Ne.symm hne))
  have herrors : ∀ e, validateSiteIntervals refs db projectId site intervals (some shiftId) =
      .error e → ∃ p ∈ intervals, ¬ WithinTarget db shiftId p ∧ ∃ hole, e = depthError hole := by
    intro e h
    rw [validateSiteIntervals, hsite, ok_bind] at h
    rcases bind_eq_error.1 h with hmap | ⟨_, -, hok⟩
    · obtain ⟨p, hp, herror⟩ := error_of_mapM hmap
      obtain ⟨hole, hhole, hplace, hdepth⟩ := hcheck p hp
      simp only [hhole, orError, ok_bind, ensure, if_pos hplace, reduceCtorEq, if_false] at herror
      split at herror
      · cases herror
      · next houtside =>
        exact ⟨p, hp, fun hwithin => houtside (hdepth.2 hwithin), hole, (Except.error.inj herror).symm⟩
    · cases hok
  constructor
  · rintro ⟨hole, h⟩
    obtain ⟨p, hp, houtside, -⟩ := herrors _ h
    exact ⟨p, hp, houtside⟩
  · rintro ⟨p, hp, houtside⟩
    cases h : validateSiteIntervals refs db projectId site intervals (some shiftId) with
    | error e =>
        obtain ⟨-, -, -, hole, rfl⟩ := herrors e h
        exact ⟨hole, rfl⟩
    | ok _ =>
        obtain ⟨hole, hhole, hplace, hdepth⟩ := hcheck p hp
        simp only [validateSiteIntervals, bind_eq_ok] at h
        obtain ⟨_, -, _, hmap, -⟩ := h
        obtain ⟨_, hcheck⟩ := ok_of_mapM hmap p hp
        simp only [hhole, orError, ok_bind, ensure_bind_eq_ok, ensure_eq_ok, reduceCtorEq,
          if_false] at hcheck
        exact absurd (hdepth.1 hcheck.2) houtside

theorem setTotal_error {value : Option ℚ} {current : Column 18 2} {text : String} :
    setTotal value current ≠ .error (.value text) := by
  cases value <;> simp [setTotal]

theorem recalculateShiftTotals_error {ivs : List WorkingInterval} {segments : List WorkingSegment}
    {text : String} : recalculateShiftTotals ctx ivs segments report ≠ .error (.value text) := by
  intro h
  simp only [recalculateShiftTotals, bind_eq_error, orError_eq_error, reduceCtorEq, and_false,
    exists_false, or_false] at h
  rcases h with hivs | ⟨_, -, hsegments⟩
  · obtain ⟨iv, -, hiv⟩ := error_of_mapM hivs
    simp only [WorkingInterval.store, bind_eq_error, ensure_eq_error, orError_eq_error,
      reduceCtorEq, and_false, false_or] at hiv
    obtain ⟨_, -, _, -, _, -, _, -, hiv⟩ := hiv
    split at hiv <;> cases hiv
  · obtain ⟨segment, -, hsegment⟩ := error_of_mapM hsegments
    simp [WorkingSegment.store, bind_eq_error] at hsegment

theorem updateShiftReport_eq_error (hreport : db.reports.find? shiftId = some report)
    {hole : DrillHole} :
    updateShiftReport ctx refs db shiftId payload = .error (depthError hole) ↔
      ¬ (report.status = .approved ∧ ¬ given payload.correctionReason) ∧
      validateSiteIntervals refs db (payload.projectId.getD report.projectId)
        (payload.siteLocationId.getD report.siteLocationId)
        (payload.intervals.elim (report.intervals.map fun iv => (iv.drillHoleId, iv.toDepthM.1))
          (·.map fun iv => (iv.drillHoleId, iv.toDepthM.1))) (some shiftId) =
        .error (depthError hole) := by
  rw [updateShiftReport, getShiftReport, hreport, orError, ok_bind, bind_eq_error]
  constructor
  · rintro (h | ⟨_, hreason, h⟩)
    · exact absurd (ensure_eq_error.1 h).2 (value_ne_depthError (by simp) hole)
    · refine ⟨ensure_eq_ok.1 hreason, ?_⟩
      rcases bind_eq_error.1 h with hvalid | ⟨_, -, hrest⟩
      · exact hvalid
      -- what comes after the validation raises other errors
      · simp only [bind_eq_error, checkUnique, ensure_eq_error, reduceCtorEq, and_false, or_false,
          exists_false, depthError, setTotal_error] at hrest
        unfold replaceParts at hrest
        split at hrest
        · cases hrest
        · exact absurd hrest recalculateShiftTotals_error
  · rintro ⟨hreason, hvalid⟩
    exact .inr ⟨(), ensure_eq_ok.2 hreason, bind_eq_error.2 (.inl hvalid)⟩

theorem KeepsIntervals.validated (h : KeepsIntervals payload report) :
    payload.intervals.elim (report.intervals.map fun iv => (iv.drillHoleId, iv.toDepthM.1))
      (·.map fun iv => (iv.drillHoleId, iv.toDepthM.1)) =
      report.intervals.map fun iv => (iv.drillHoleId, iv.toDepthM.1) := by
  cases hintervals : payload.intervals with
  | none => rfl
  | some intervals =>
      have hsame := congrArg (List.map fun iv : WorkingInterval => (iv.drillHoleId, iv.toDepthM))
        (h.intervals intervals hintervals)
      rwa [List.map_map, List.map_map] at hsame

/-- In every history an update that leaves project, site and intervals as they are is not refused
for a depth if and only if it is refused before, or in each hole of the report that has a target
the other reports stay above it and the report does not exceed it. -/
theorem correction_depth {cond : Database → HoleOperation → Prop} (h : History ctx cond db)
    (hreport : db.reports.find? shiftId = some report) (hkeep : KeepsIntervals payload report) :
    (∀ hole, updateShiftReport ctx refs db shiftId payload ≠ .error (depthError hole)) ↔
      RefusedBefore refs payload report ∨ ∀ iv ∈ report.intervals,
        WithinTarget db shiftId (iv.drillHoleId, iv.toDepthM.1) := by
  simp only [ne_eq, updateShiftReport_eq_error hreport, hkeep.project, hkeep.site, hkeep.validated]
  by_cases hreason : report.status = .approved ∧ ¬ given payload.correctionReason
  · simp [RefusedBefore, hreason]
  simp only [RefusedBefore, hreason, not_false_eq_true, true_and, false_or]
  cases hsite : requireSite refs report.projectId report.siteLocationId with
  | error e =>
      have hrefused : ∃ site ∈ report.siteLocationId, refs.site report.projectId site = false := by
        cases hloc : report.siteLocationId with
        | none => simp [hloc, requireSite] at hsite
        | some site =>
            rw [hloc, requireSite] at hsite
            exact ⟨site, rfl, Bool.eq_false_iff.2 (ensure_eq_error.1 hsite).1⟩
      refine iff_of_true (fun hole herror => ?_) (.inl hrefused)
      rw [validateSiteIntervals, hsite] at herror
      obtain rfl := Except.error.inj herror
      cases hloc : report.siteLocationId with
      | none => simp [hloc, requireSite] at hsite
      | some site =>
          rw [hloc, requireSite] at hsite
          exact value_ne_depthError (by simp) hole (ensure_eq_error.1 hsite).2
  | ok u =>
      have haccepted : ¬ ∃ site ∈ report.siteLocationId, refs.site report.projectId site = false := by
        rintro ⟨site, hloc, hrefused⟩
        rw [hloc, requireSite, ensure_eq_ok, hrefused] at hsite
        cases hsite
      have hfits : ∀ p ∈ report.intervals.map fun iv => (iv.drillHoleId, iv.toDepthM.1),
          HoleFits db.holes report.projectId report.siteLocationId p.1 :=
        h.placed report (Table.mem_of_find? hreport)
      rw [or_iff_right haccepted, ← not_exists, validate_eq_error h.targets hsite hfits]
      simp only [List.mem_map, not_exists, not_and, not_not, forall_exists_index, and_imp,
        forall_apply_eq_imp_iff₂]

namespace Sample

def editNotes : ShiftReportUpdate where
  siteLocationId := none
  projectId := none
  rigId := none
  date := none
  shiftType := none
  notes := some "Rain in the morning"
  correctionReason := none
  totalMetres := none
  totalProductiveHours := none
  totalNonproductiveHours := none
  intervals := none
  timeSegments := none

theorem editNotes_keeps (report : DrillingShiftReport) : KeepsIntervals editNotes report :=
  ⟨rfl, rfl, fun _ h => nomatch h⟩

theorem five_nonneg : (0 : ℚ) ≤ 5 := by norm_num

/-- A hole with a target of ten metres, two reports in it, and one more. -/
def shifts (depth : {x : ℚ // 0 ≤ x}) : List (Env × HoleOperation) :=
  [(⟨1, 1⟩, newHole (some tenMetres)), (⟨2, 2⟩, drilling 1 .draft ⟨5, five_nonneg⟩),
    (⟨3, 3⟩, drilling 2 .draft depth)]

end Sample

/-- The target is not reached, so the notes may be edited. -/
theorem correction_depth_above : ∃ db report, db.reports.find? 2 = some report ∧
    ∀ hole, updateShiftReport .python Sample.references db 2 Sample.editNotes ≠
      .error (depthError hole) := by
  obtain ⟨db, hrun, hdb⟩ := History.of_execHistory .python Sample.references (fun _ _ => True)
    (Sample.shifts ⟨9, by decide +kernel⟩)
    (p := fun db => (db.reports.find? 2).any fun report => ∀ iv ∈ report.intervals,
      WithinTarget db 2 (iv.drillHoleId, iv.toDepthM.1)) (by decide +kernel)
  obtain ⟨report, hreport, hwithin⟩ := (Option.any_eq_true _ _).1 hdb
  exact ⟨db, report, hreport, (correction_depth hrun hreport (Sample.editNotes_keeps report)).2
    (.inr (by simpa using hwithin))⟩

/-- The later report reaches the target, so the notes of the earlier one may not be edited. -/
theorem correction_depth_fails : ¬ ∀ db shiftId report payload,
    History .python (fun _ _ => True) db → db.reports.find? shiftId = some report →
      KeepsIntervals payload report → ∀ hole,
        updateShiftReport .python Sample.references db shiftId payload ≠ .error (depthError hole) := by
  intro hall
  obtain ⟨db, hrun, hdb⟩ := History.of_execHistory .python Sample.references (fun _ _ => True)
    (Sample.shifts Sample.tenMetres)
    (p := fun db => (db.reports.find? 2).any fun _ => (db.holes.find? 1).any fun hole =>
      errorOf (updateShiftReport .python Sample.references db 2 Sample.editNotes) =
        some (depthError hole)) (by decide +kernel)
  obtain ⟨report, hreport, hhole⟩ := (Option.any_eq_true _ _).1 hdb
  obtain ⟨hole, -, herror⟩ := (Option.any_eq_true _ _).1 hhole
  have hfine := hall db 2 report Sample.editNotes hrun hreport (Sample.editNotes_keeps report) hole
  cases hupdate : updateShiftReport .python Sample.references db 2 Sample.editNotes with
  | ok _ => simp [hupdate, errorOf] at herror
  | error e => exact hfine (by simpa [hupdate, errorOf] using herror)

end Cestos.Drilling
