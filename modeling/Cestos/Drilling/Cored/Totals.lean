import Cestos.Core.Decimal.Column
import Cestos.Drilling.Cored.Requests

/-!
# Totals and parts

A request that gives intervals or segments has the totals recalculated from all parts, and
then sets the totals it gives itself. A total is rounded once and its parts one by one, so the
two are only known to agree on amounts of at most two decimals.
-/

namespace Cestos.Drilling.Cored

open Cestos.Core Cestos.Core.Decimal

variable {ctx : Context 28 12} {refs : References} {env : Env} {db db' : Database}
  {report report' : Draft} {row : DrillingShiftReport} {r : Request}

/-! ## What requests give -/

/-- A request that gives intervals or segments. -/
def Request.Supplies : Request → Prop
  | .create _ _ => True
  | .update _ payload => payload.intervals ≠ none ∨ payload.timeSegments ≠ none

instance : DecidablePred Request.Supplies
  | .create _ _ => .isTrue trivial
  | .update _ _ => inferInstanceAs (Decidable (_ ∨ _))

/-- The report that a request writes. -/
def Request.reportId (env : Env) : Request → Id
  | .create _ _ => env.uuid
  | .update shiftId _ => shiftId

/-- Totals that a request sets by itself. -/
structure GivenTotals where
  metres : Option ℚ
  productive : Option ℚ
  nonproductive : Option ℚ

def Request.totals : Request → GivenTotals
  | .create _ _ => ⟨none, none, none⟩
  | .update _ payload => ⟨payload.metres, payload.productive, payload.nonproductive⟩

/-- The intervals of the payload. -/
def Request.newIntervals : Request → List IntervalCreate
  | .create payload _ => payload.intervals
  | .update _ payload => payload.intervals.getD []

def Request.newSegments : Request → List TimeSegmentCreate
  | .create payload _ => payload.timeSegments
  | .update _ payload => payload.timeSegments.getD []

/-- Depths and hours of the payload have at most two decimals. -/
def Request.Hundredths (r : Request) : Prop :=
  (∀ iv ∈ r.newIntervals, OnGrid 2 iv.fromDepthM.1 ∧ OnGrid 2 iv.toDepthM.1) ∧
    ∀ ts ∈ r.newSegments, OnGrid 2 ts.hours.1

instance : DecidablePred Request.Hundredths := fun _ => inferInstanceAs (Decidable (_ ∧ _))

/-- The intervals that a report has after a request, before they are rounded. -/
def Request.intervals (db : Database) : Request → List WorkingInterval
  | .create payload _ => payload.intervals.map (·.toIntervalCreate.working)
  | .update shiftId payload => payload.intervals.elim
      ((db.reports.find? shiftId).elim [] (·.intervals.map (·.working)))
      (·.map (·.toIntervalCreate.working))

def Request.timeSegments (db : Database) : Request → List WorkingSegment
  | .create payload _ => payload.timeSegments.map (·.working)
  | .update shiftId payload => payload.timeSegments.elim
      ((db.reports.find? shiftId).elim [] (·.timeSegments.map (·.working)))
      (·.map (·.working))

/-- The hours of the segments that are chosen, as they are added up. -/
def hoursOf (ctx : Context 28 12) (segments : List WorkingSegment) (p : TimeCategory → Bool) : ℚ :=
  total ctx ((segments.filter (p ·.category)).map (·.hours))

/-- The stored hours of the segments that are chosen. -/
def storedHours (row : DrillingShiftReport) (p : TimeCategory → Bool) : ℚ :=
  ((row.timeSegments.filter (p ·.category)).map (·.hours.1)).sum

/-- Each total of a report is the one that was given, or what the parts add up to before they
are rounded. -/
structure RoundedTotals (ctx : Context 28 12) (db : Database) (r : Request)
    (row : DrillingShiftReport) : Prop where
  metres : row.totalMetres.1 = numeric 2 (r.totals.metres.getD
    (total ctx ((r.intervals db).map (·.drilled ctx))))
  productive : row.totalProductiveHours.1 = numeric 2 (r.totals.productive.getD
    (hoursOf ctx (r.timeSegments db) (· = .productive)))
  nonproductive : row.totalNonproductiveHours.1 = numeric 2 (r.totals.nonproductive.getD
    (hoursOf ctx (r.timeSegments db) (· ≠ .productive)))

/-- Each total of a report is the one that was given, or the sum of the stored parts. -/
structure SummedTotals (given : GivenTotals) (row : DrillingShiftReport) : Prop where
  metres : row.totalMetres.1 =
    (given.metres.map (numeric 2)).getD (row.intervals.map (·.drilledMetres.1)).sum
  productive : row.totalProductiveHours.1 =
    (given.productive.map (numeric 2)).getD (storedHours row (· = .productive))
  nonproductive : row.totalNonproductiveHours.1 =
    (given.nonproductive.map (numeric 2)).getD (storedHours row (· ≠ .productive))

/-! ## Recalculation -/

/-- The totals are those of the parts in memory. -/
structure Recalculated (ctx : Context 28 12) (report : Draft) : Prop where
  drilled : ∀ iv ∈ report.intervals, iv.drilledMetres = iv.drilled ctx ∧ 0 ≤ iv.drilled ctx
  metres : report.totalMetres = total ctx (report.intervals.map (·.drilled ctx))
  productive : report.totalProductiveHours = hoursOf ctx report.timeSegments (· = .productive)
  nonproductive :
    report.totalNonproductiveHours = hoursOf ctx report.timeSegments (· ≠ .productive)

/-- What a recalculation keeps of a report. -/
structure SameParts (report report' : Draft) : Prop where
  header : report'.header = report.header
  intervals : report'.intervals.map (·.toMeasuredInterval) =
    report.intervals.map (·.toMeasuredInterval)
  timeSegments : report'.timeSegments = report.timeSegments

theorem SameParts.working (h : SameParts report report') :
    report'.intervals.map (·.toWorkingInterval) = report.intervals.map (·.toWorkingInterval) := by
  have hmap := congrArg (List.map (·.toWorkingInterval)) h.intervals
  rwa [List.map_map, List.map_map] at hmap

theorem recalculateInterval_spec {iv iv' : DraftInterval}
    (h : recalculateInterval ctx iv = .ok iv') :
    iv'.toMeasuredInterval = iv.toMeasuredInterval ∧ iv'.drilledMetres = iv'.drilled ctx ∧
      0 ≤ iv'.drilled ctx := by
  simp only [recalculateInterval, bind_eq_ok, ensure_eq_ok] at h
  obtain ⟨_, hsign, pct, -, hiv⟩ := h
  obtain rfl := Except.ok.inj hiv
  exact ⟨rfl, rfl, hsign⟩

theorem recalculated (h : recalculateShiftTotals ctx report = .ok report') :
    Recalculated ctx report' ∧ SameParts report report' := by
  simp only [recalculateShiftTotals, bind_eq_ok] at h
  obtain ⟨intervals, hintervals, pct, -, hreport⟩ := h
  obtain rfl := Except.ok.inj hreport
  have hsame : intervals.map (·.toMeasuredInterval) = report.intervals.map (·.toMeasuredInterval) :=
    map_eq_of_mapM hintervals fun iv iv' hiv => (recalculateInterval_spec hiv).1
  refine ⟨⟨forall_of_mapM hintervals fun iv _ iv' hiv => (recalculateInterval_spec hiv).2, ?_, rfl,
    rfl⟩, rfl, hsame, rfl⟩
  show total ctx _ = total ctx _
  have hdrilled := congrArg (List.map (·.drilled ctx)) hsame
  rw [List.map_map, List.map_map] at hdrilled
  exact congrArg (total ctx) hdrilled.symm

/-! ## The rows -/

theorem column_eq_ok {p s : ℕ} {x : ℚ} {v : Column p s} :
    column p s x = .ok v ↔ Column.store p s x = some v := orError_eq_ok

theorem fits_of_store {p s : ℕ} {x : ℚ} {v : Column p s} (h : Column.store p s x = some v) :
    Fits p s x := by
  unfold Column.store at h
  split at h
  · assumption
  · cases h

/-- What a flush makes of a report. -/
structure Flushed (report : Draft) (row : DrillingShiftReport) : Prop where
  id : row.id = report.header.id
  metres : Column.store 18 2 report.totalMetres = some row.totalMetres
  productive : Column.store 18 2 report.totalProductiveHours = some row.totalProductiveHours
  nonproductive :
    Column.store 18 2 report.totalNonproductiveHours = some row.totalNonproductiveHours
  fits : ∀ iv ∈ report.intervals, Fits 18 2 iv.drilledMetres
  intervals : row.intervals.map (·.drilledMetres.1) =
    report.intervals.map fun iv => numeric 2 iv.drilledMetres
  timeSegments : row.timeSegments.map (fun ts => (ts.category, ts.hours.1)) =
    report.timeSegments.map fun ts => (ts.category, numeric 2 ts.hours)

theorem flushInterval_spec {iv : DraftInterval} {stored : DrillingShiftInterval}
    (h : iv.flush = .ok stored) : Column.store 18 2 iv.drilledMetres = some stored.drilledMetres := by
  simp only [DraftInterval.flush, bind_eq_ok, column_eq_ok] at h
  obtain ⟨_, -, _, -, drilled, hdrilled, _, -, _, -, h⟩ := h
  split at h
  · obtain rfl := Except.ok.inj h
    exact hdrilled
  · cases h

theorem flushSegment_spec {ts : WorkingSegment} {stored : DrillingShiftTimeSegment}
    (h : flushSegment ts = .ok stored) :
    stored.category = ts.category ∧ Column.store 18 2 ts.hours = some stored.hours := by
  simp only [flushSegment, bind_eq_ok, column_eq_ok] at h
  obtain ⟨hours, hhours, h⟩ := h
  obtain rfl := Except.ok.inj h
  exact ⟨rfl, hhours⟩

theorem flushed (h : report.flush refs db = .ok row) : Flushed report row := by
  simp only [Draft.flush, bind_eq_ok, column_eq_ok] at h
  obtain ⟨metres, hmetres, productive, hproductive, nonproductive, hnonproductive, _, -, _, -, _, -,
    cored, hcored, segments, hsegments, _, -, h⟩ := h
  split at h
  · obtain rfl := Except.ok.inj h
    refine ⟨rfl, hmetres, hproductive, hnonproductive, fun iv hiv => ?_, ?_, ?_⟩
    · obtain ⟨stored, hstored⟩ := ok_of_mapM hcored iv hiv
      exact fits_of_store (flushInterval_spec hstored)
    · rw [List.map_map]
      exact map_eq_of_mapM hcored fun iv stored hstored =>
        Column.store_val (flushInterval_spec hstored)
    · refine map_eq_of_mapM hsegments fun ts stored hstored => ?_
      obtain ⟨hcategory, hhours⟩ := flushSegment_spec hstored
      rw [hcategory, Column.store_val hhours]
  · cases h

/-! ## Sums -/

section Sums

variable {given : Option ℚ}

/-- A total that was given is rounded; otherwise it is what the code has added up. -/
theorem total_eq {x sum : ℚ} {v : Column 18 2} (h : Column.store 18 2 (given.getD x) = some v)
    (hsum : Column.store 18 2 x = some v → v.1 = sum) :
    v.1 = (given.map (numeric 2)).getD sum := by
  cases given with
  | none => exact hsum h
  | some y => exact Column.store_val h

theorem Flushed.metres_eq_sum {v : Column 18 2} (hflushed : Flushed report row)
    (hdrilled : ∀ iv ∈ report.intervals, iv.drilledMetres = iv.drilled ctx ∧ 0 ≤ iv.drilled ctx)
    (hgrid : ∀ iv ∈ report.intervals, OnGrid 2 iv.fromDepthM ∧ OnGrid 2 iv.toDepthM)
    (h : Column.store 18 2 (total ctx (report.intervals.map (·.drilled ctx))) = some v) :
    v.1 = (row.intervals.map (·.drilledMetres.1)).sum := by
  have hround : ∀ iv ∈ report.intervals, OnGrid 2 (iv.drilled ctx) := by
    intro iv hiv
    have hfits := hflushed.fits iv hiv
    rw [(hdrilled iv hiv).1] at hfits
    obtain ⟨hfrom, hto⟩ := hgrid iv hiv
    have hexact : iv.drilled ctx = iv.toDepthM + -iv.fromDepthM :=
      add_eq_of_fits ctx (by omega) (by omega) hto hfrom.neg hfits
    rw [hexact]
    exact hto.add hfrom.neg
  rw [total, List.foldl_map] at h
  rw [Column.store_foldl ctx (by omega) (by omega) hround (fun iv hiv => (hdrilled iv hiv).2) h,
    hflushed.intervals]
  refine congrArg List.sum (List.map_congr_left fun iv hiv => ?_)
  rw [(hdrilled iv hiv).1, numeric_of_onGrid (hround iv hiv)]

theorem Flushed.storedHours_eq (hflushed : Flushed report row) (p : TimeCategory → Bool) :
    storedHours row p =
      ((report.timeSegments.filter (p ·.category)).map fun ts => numeric 2 ts.hours).sum := by
  have hpairs := congrArg (fun l => ((l.filter fun x => p x.1).map (·.2)).sum)
    hflushed.timeSegments
  simp only [List.filter_map, List.map_map] at hpairs
  exact hpairs

theorem Flushed.hours_eq_sum {v : Column 18 2} (hflushed : Flushed report row)
    (hgrid : ∀ ts ∈ report.timeSegments, OnGrid 2 ts.hours ∧ 0 ≤ ts.hours)
    {p : TimeCategory → Bool}
    (h : Column.store 18 2 (hoursOf ctx report.timeSegments p) = some v) :
    v.1 = storedHours row p := by
  have hchosen : ∀ ts ∈ report.timeSegments.filter (p ·.category),
      OnGrid 2 ts.hours ∧ 0 ≤ ts.hours := fun ts hts => hgrid ts (List.mem_of_mem_filter hts)
  rw [hoursOf, total, List.foldl_map] at h
  rw [Column.store_foldl ctx (by omega) (by omega) (fun ts hts => (hchosen ts hts).1)
    (fun ts hts => (hchosen ts hts).2) h, hflushed.storedHours_eq]
  refine congrArg List.sum (List.map_congr_left fun ts hts => ?_)
  rw [numeric_of_onGrid (hchosen ts hts).1]

end Sums

/-! ## Requests -/

/-- What a request that succeeds writes: the report in memory before the totals that are given
are set, and the row. -/
structure Effect (ctx : Context 28 12) (env : Env) (db db' : Database) (r : Request)
    (report : Draft) (row : DrillingShiftReport) : Prop where
  id : report.header.id = r.reportId env
  intervals : report.intervals.map (·.toWorkingInterval) = r.intervals db
  timeSegments : report.timeSegments = r.timeSegments db
  recalculated : r.Supplies → Recalculated ctx report
  flushed : Flushed { report with
    totalMetres := r.totals.metres.getD report.totalMetres
    totalProductiveHours := r.totals.productive.getD report.totalProductiveHours
    totalNonproductiveHours := r.totals.nonproductive.getD report.totalNonproductiveHours } row
  stored : db'.reports.find? (r.reportId env) = some row

theorem replaceInterval_working {iv : IntervalCreate} {iv' : DraftInterval}
    (h : replaceInterval ctx iv = .ok iv') :
    iv'.toWorkingInterval = iv.toIntervalCreate.working := by
  simp only [replaceInterval, bind_eq_ok] at h
  obtain ⟨_, -, h⟩ := h
  obtain rfl := Except.ok.inj h
  rfl

theorem createInterval_eq_ok {iv : IntervalCreate} {iv' : DraftInterval} :
    createInterval ctx iv = .ok iv' ↔
      0 ≤ iv.measured.drilled ctx ∧ replaceInterval ctx iv = .ok iv' := ensure_bind_eq_ok

theorem draft_working (report : DrillingShiftReport) :
    report.draft.intervals.map (·.toWorkingInterval) = report.intervals.map (·.working) := by
  show (report.cored.map (·.draft)).map _ = _
  rw [← report.matched, List.map_map, List.map_map]
  rfl

theorem create_effect {payload : ShiftReportCreate} {actorId : Option Id}
    (h : createShiftReport ctx refs env db payload actorId = .ok db') :
    ∃ report row, Effect ctx env db db' (.create payload actorId) report row := by
  simp only [createShiftReport, bind_eq_ok, orError_eq_ok] at h
  obtain ⟨_, -, intervals, hintervals, report, hreport, row, hrow, reports, hreports, hdb⟩ := h
  obtain rfl := Except.ok.inj hdb
  obtain ⟨hrecalculated, hsame⟩ := recalculated hreport
  have hflushed := flushed hrow
  have hid : row.id = env.uuid := by rw [hflushed.id, hsame.header]; rfl
  refine ⟨report, row, by rw [hsame.header]; rfl, ?_, hsame.timeSegments, fun _ => hrecalculated,
    hflushed, ?_⟩
  · rw [hsame.working]
    refine map_eq_of_mapM hintervals fun iv iv' hiv => ?_
    exact replaceInterval_working (createInterval_eq_ok.1 hiv).2
  · show reports.find? env.uuid = some row
    rw [Table.find?_insert? hreports, if_pos hid]

theorem replaceIntervals_working {payload : ShiftReportUpdate} {old ivs : List DraftInterval}
    (h : replaceIntervals ctx payload old = .ok ivs) :
    ivs.map (·.toWorkingInterval) = payload.intervals.elim (old.map (·.toWorkingInterval))
      (·.map (·.toIntervalCreate.working)) := by
  unfold replaceIntervals at h
  cases hgiven : payload.intervals with
  | none =>
      simp only [hgiven] at h
      rw [← Except.ok.inj h]
      rfl
  | some new =>
      simp only [hgiven] at h
      exact map_eq_of_mapM h fun iv iv' hiv => replaceInterval_working hiv

theorem recalculateIfGiven_spec {payload : ShiftReportUpdate} (shiftId : Id)
    (h : recalculateIfGiven ctx payload report = .ok report') :
    SameParts report report' ∧
      ((Request.update shiftId payload).Supplies → Recalculated ctx report') := by
  unfold recalculateIfGiven at h
  split at h
  · next hnone =>
      obtain rfl := Except.ok.inj h
      exact ⟨⟨rfl, rfl, rfl⟩, fun hsupplies => absurd hnone (by simpa [Request.Supplies,
        imp_iff_not_or] using hsupplies)⟩
  · exact ⟨(recalculated h).2, fun _ => (recalculated h).1⟩

theorem update_effect {shiftId : Id} {payload : ShiftReportUpdate}
    (h : updateShiftReport ctx refs db shiftId payload = .ok db') :
    ∃ report row, Effect ctx env db db' (.update shiftId payload) report row := by
  simp only [updateShiftReport, bind_eq_ok, orError_eq_ok] at h
  obtain ⟨old, hold, _, -, intervals, hintervals, report, hreport, row, hrow, hdb⟩ := h
  obtain rfl := Except.ok.inj hdb
  obtain ⟨hsame, hrecalculated⟩ := recalculateIfGiven_spec shiftId hreport
  have hflushed := flushed hrow
  have hid : report.header.id = shiftId := by
    rw [hsame.header]
    exact (Table.key_of_find? hold : reportId old = shiftId)
  refine ⟨report, row, hid, ?_, ?_, hrecalculated, ⟨hflushed.id, hflushed.metres,
    hflushed.productive, hflushed.nonproductive, hflushed.fits, hflushed.intervals,
    hflushed.timeSegments⟩, ?_⟩
  · rw [hsame.working, replaceIntervals_working hintervals, draft_working, Request.intervals,
      hold, Option.elim_some]
  · rw [hsame.timeSegments, Request.timeSegments, hold, Option.elim_some]
    rfl
  · have hkey : reportId row = shiftId := hflushed.id.trans hid
    show (db.reports.set row).find? shiftId = some row
    rw [Table.find?_set, if_pos hkey, hold, Option.map_some]

theorem exec_effect (h : exec ctx refs env db r = .ok db') :
    ∃ report row, Effect ctx env db db' r report row := by
  cases r with
  | create payload actorId => exact create_effect h
  | update shiftId payload => exact update_effect h

/-- Stored parts have at most two decimals, and those of the payload where it is so written. -/
theorem onGrid_intervals (db : Database) (h : r.Hundredths) :
    ∀ iv ∈ r.intervals db, OnGrid 2 iv.fromDepthM ∧ OnGrid 2 iv.toDepthM := by
  have hstored : ∀ shiftId, ∀ iv ∈ (db.reports.find? shiftId).elim [] (·.intervals.map (·.working)),
      OnGrid 2 iv.fromDepthM ∧ OnGrid 2 iv.toDepthM := by
    intro shiftId iv hiv
    cases hold : db.reports.find? shiftId with
    | none => simp [hold] at hiv
    | some old =>
        simp only [hold, Option.elim_some] at hiv
        obtain ⟨stored, -, rfl⟩ := List.mem_map.1 hiv
        exact ⟨stored.fromDepthM.2.1, stored.toDepthM.2.1⟩
  cases r with
  | create payload actorId => exact List.forall_mem_map.2 h.1
  | update shiftId payload =>
      obtain ⟨hgiven, -⟩ := h
      rw [Request.newIntervals] at hgiven
      rw [Request.intervals]
      cases hnew : payload.intervals with
      | none => exact hstored shiftId
      | some new =>
          rw [hnew] at hgiven
          exact List.forall_mem_map.2 hgiven

theorem onGrid_timeSegments (h : r.Hundredths) :
    ∀ ts ∈ r.timeSegments db, OnGrid 2 ts.hours ∧ 0 ≤ ts.hours := by
  have hstored : ∀ shiftId,
      ∀ ts ∈ (db.reports.find? shiftId).elim [] (·.timeSegments.map (·.working)),
        OnGrid 2 ts.hours ∧ 0 ≤ ts.hours := by
    intro shiftId ts hts
    cases hold : db.reports.find? shiftId with
    | none => simp [hold] at hts
    | some old =>
        simp only [hold, Option.elim_some] at hts
        obtain ⟨stored, hmem, rfl⟩ := List.mem_map.1 hts
        exact ⟨stored.hours.2.1, old.hours_nonneg stored hmem⟩
  have hnew : ∀ new : List TimeSegmentCreate, (∀ ts ∈ new, OnGrid 2 ts.hours.1) →
      ∀ ts ∈ new.map (·.working), OnGrid 2 ts.hours ∧ 0 ≤ ts.hours := fun new hgrid =>
    List.forall_mem_map.2 fun ts hts => ⟨hgrid ts hts, ts.hours.2.1.le⟩
  cases r with
  | create payload actorId => exact hnew _ h.2
  | update shiftId payload =>
      obtain ⟨-, hgiven⟩ := h
      rw [Request.newSegments] at hgiven
      rw [Request.timeSegments]
      cases hsegments : payload.timeSegments with
      | none => exact hstored shiftId
      | some new =>
          rw [hsegments] at hgiven
          exact hnew new hgiven

theorem Effect.rounded (h : Effect ctx env db db' r report row) (hsupplies : r.Supplies) :
    RoundedTotals ctx db r row := by
  have hrecalculated := h.recalculated hsupplies
  have hdrilled := congrArg (List.map (·.drilled ctx)) h.intervals
  rw [List.map_map] at hdrilled
  constructor
  · rw [← hdrilled, Column.store_val h.flushed.metres, hrecalculated.metres]
    rfl
  · rw [← h.timeSegments, Column.store_val h.flushed.productive, hrecalculated.productive]
  · rw [← h.timeSegments, Column.store_val h.flushed.nonproductive, hrecalculated.nonproductive]

theorem Effect.summed (h : Effect ctx env db db' r report row) (hsupplies : r.Supplies)
    (hhundredths : r.Hundredths) : SummedTotals r.totals row := by
  have hrecalculated := h.recalculated hsupplies
  have hgrid : ∀ iv ∈ report.intervals, OnGrid 2 iv.fromDepthM ∧ OnGrid 2 iv.toDepthM := by
    have hall := onGrid_intervals db hhundredths
    rw [← h.intervals] at hall
    exact fun iv hiv => hall _ (List.mem_map_of_mem hiv)
  have hhours : ∀ ts ∈ report.timeSegments, OnGrid 2 ts.hours ∧ 0 ≤ ts.hours := by
    rw [h.timeSegments]
    exact onGrid_timeSegments hhundredths
  refine ⟨total_eq h.flushed.metres fun hstore => ?_, total_eq h.flushed.productive fun hstore => ?_,
    total_eq h.flushed.nonproductive fun hstore => ?_⟩
  · rw [hrecalculated.metres] at hstore
    exact h.flushed.metres_eq_sum hrecalculated.drilled hgrid hstore
  · rw [hrecalculated.productive] at hstore
    exact h.flushed.hours_eq_sum hhours hstore
  · rw [hrecalculated.nonproductive] at hstore
    exact h.flushed.hours_eq_sum hhours hstore

/-- After every request that gives intervals or segments each total is the one that the request
gives itself, or what the parts add up to; and that is the sum of the stored parts when the
depths and hours that the request gives have at most two decimals. -/
theorem shift_totals (h : exec ctx refs env db r = .ok db') (hsupplies : r.Supplies) :
    ∃ row, db'.reports.find? (r.reportId env) = some row ∧ RoundedTotals ctx db r row ∧
      (r.Hundredths → SummedTotals r.totals row) := by
  obtain ⟨report, row, heffect⟩ := exec_effect h
  exact ⟨row, heffect.stored, heffect.rounded hsupplies, heffect.summed hsupplies⟩

namespace Sample

/-- One rig and no sites. -/
def references : References where
  users := fun _ => none
  projectManager := fun _ => none
  site := fun _ _ => false
  rigs := fun id => if id = 1 then some "Rig 1" else none
  contracts := []
  lower := String.toLower
  projects := fun id => id = 1
  assets := fun id => id = 1
  programs := fun _ => false
  employees := fun _ => false

def hole : DrillHole where
  id := 1
  holeNumber := "H1"
  projectId := 1
  siteLocationId := none
  targetDepthM := none
  finalDepthM := none
  status := .planned
  startedAt := none
  archived := false

def noReports : Database := ⟨.single hole, .empty⟩

def interval (toDepth recovered : {x : ℚ // 0 ≤ x}) : IntervalCreate where
  drillHoleId := 1
  fromDepthM := ⟨0, le_rfl⟩
  toDepthM := toDepth
  drillingMethod := none
  coreRecoveredM := some recovered

def creation (intervals : List IntervalCreate) : ShiftReportCreate where
  siteLocationId := none
  projectId := 1
  rigId := 1
  programId := none
  date := 0
  shiftType := .day
  supervisorId := none
  status := none
  notes := none
  intervals := intervals
  timeSegments := [⟨.productive, 8, by decide +kernel⟩, ⟨.standby, 4, by decide +kernel⟩]
  crewMembers := []

def correction (metres : Option ℚ) (intervals : List IntervalCreate) : ShiftReportUpdate where
  siteLocationId := none
  projectId := none
  rigId := none
  programId := none
  date := none
  shiftType := none
  supervisorId := none
  notes := none
  correctionReason := none
  totalMetres := none
  totalMetresDrilled := metres.map some
  avgCoreRecoveryPct := none
  coreRecoveryPct := none
  totalProductiveHours := none
  productiveHours := none
  totalNonproductiveHours := none
  intervals := some intervals
  timeSegments := none
  crewMembers := none

theorem ten_nonneg : (0 : ℚ) ≤ 10 := by decide +kernel

def tenMetres : {x : ℚ // 0 ≤ x} := ⟨10, ten_nonneg⟩

/-- Half a hundredth of a metre. -/
def halfCentimetre : {x : ℚ // 0 ≤ x} := ⟨1 / 200, by decide +kernel⟩

/-- A report of ten metres. -/
def tenMetresDrilled : Request := .create (creation [interval tenMetres tenMetres]) none

/-- A report of two intervals of half a centimetre each. -/
def centimetreDrilled : Request :=
  .create (creation [interval halfCentimetre halfCentimetre, interval halfCentimetre halfCentimetre])
    none

def tenMetresAgain : Request := .update 1 (correction none [interval tenMetres tenMetres])

/-- A correction that gives ten metres of intervals and a total of 99 metres. -/
def overridden : Request := .update 1 (correction (some 99) [interval tenMetres tenMetres])

def corrected (r : Request) : Except ShiftError Database := do
  let db ← exec .python references ⟨1, 1⟩ noReports tenMetresDrilled
  exec .python references ⟨2, 2⟩ db r

end Sample

/-- The ten metres are the total after they were given again. -/
theorem shift_totals_given : ∃ db db' : Database,
    exec .python Sample.references ⟨2, 2⟩ db Sample.tenMetresAgain = .ok db' ∧
      ∃ row, db'.reports.find? 1 = some row ∧
        SummedTotals Sample.tenMetresAgain.totals row := by
  obtain ⟨db', hdb', -⟩ := exists_of_any (x := Sample.corrected Sample.tenMetresAgain)
    (p := fun _ => true) (by decide +kernel)
  obtain ⟨db, -, hexec⟩ := bind_eq_ok.1 hdb'
  obtain ⟨row, hrow, -, hsummed⟩ := shift_totals hexec (by decide)
  exact ⟨db, db', hexec, row, hrow, hsummed (by decide +kernel)⟩

theorem not_summed {x : Except ShiftError Database} (shiftId : Id)
    (h : x.toOption.any (fun db => (db.reports.find? shiftId).any fun row =>
      row.totalMetres.1 ≠ (row.intervals.map (·.drilledMetres.1)).sum) = true) :
    ∃ db row, x = .ok db ∧ db.reports.find? shiftId = some row ∧
      ¬ SummedTotals ⟨none, none, none⟩ row := by
  obtain ⟨db, hdb, hrow⟩ := exists_of_any h
  obtain ⟨row, hfind, hne⟩ := (Option.any_eq_true _ _).1 hrow
  exact ⟨db, row, hdb, hfind, fun hsummed => of_decide_eq_true hne hsummed.metres⟩

/-- A total that is given stands beside intervals that do not add up to it, and two halves of a
centimetre are stored as a centimetre each and one in all. -/
theorem shift_totals_broken :
    (¬ ∀ db db' : Database, exec .python Sample.references ⟨2, 2⟩ db Sample.overridden = .ok db' →
      ∀ row, db'.reports.find? 1 = some row → SummedTotals ⟨none, none, none⟩ row) ∧
    ¬ ∀ db db' : Database,
      exec .python Sample.references ⟨2, 2⟩ db Sample.centimetreDrilled = .ok db' →
      ∀ row, db'.reports.find? 2 = some row → SummedTotals ⟨none, none, none⟩ row := by
  constructor
  · intro hall
    obtain ⟨db', row, hdb', hrow, hne⟩ := not_summed (x := Sample.corrected Sample.overridden) 1
      (by decide +kernel)
    obtain ⟨db, -, hexec⟩ := bind_eq_ok.1 hdb'
    exact hne (hall db db' hexec row hrow)
  · intro hall
    obtain ⟨db', row, hexec, hrow, hne⟩ := not_summed
      (x := exec .python Sample.references ⟨2, 2⟩ Sample.noReports Sample.centimetreDrilled)
      2 (by decide +kernel)
    exact hne (hall Sample.noReports db' hexec row hrow)

end Cestos.Drilling.Cored
