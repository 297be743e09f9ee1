import Mathlib.Data.List.Sort
import Cestos.Core.Lookup
import Cestos.Core.Maxima
import Cestos.Reports.Records

/-!
# Metres of projects

`report_metrics` combines what field reports and shift reports say by the larger of the two: for
the organization, for a project and for a month. So the parts add up to the whole exactly where one
of the two kinds says as much as the other in every part.
-/

namespace Cestos.Reports

open Cestos.Core Cestos.Core.Decimal

structure Month where
  month : Nat
  metres : ℚ
  drillHoles : Nat
  deriving DecidableEq

structure Metrics where
  reports : Nat
  metres : ℚ
  drillHoles : Nat
  lastReportDate : Option CalendarDate
  byMonth : List Month
  deriving DecidableEq

section Metrics

variable (db : Tables) (organizationId : Id) (projectId : Option Id)

/-- The field reports of the organization, or of one of its projects. -/
def fieldReports : List ProjectReport :=
  db.reports.rows.filter fun r => r.organizationId = organizationId ∧ projectId.all (r.projectId = ·)

/-- The shift reports that count. -/
def shiftReports : List DrillingShiftReport :=
  db.shifts.rows.filter fun s => s.organizationId = organizationId ∧
    s.status ∈ [.approved, .submitted] ∧ s.archived = false ∧ projectId.all (s.projectId = ·)

def ProjectReport.metresOrZero (r : ProjectReport) : ℚ := r.metres.elim 0 (·.1)

/-- The larger of the two sums of metres, or that of the field reports. -/
def combine (field shift : ℚ) : ℚ := if 0 < shift then max field shift else field

def combineHoles (field shift : Nat) : Nat := if 0 < shift then max field shift else field

def distinctHoles (shifts : List DrillingShiftReport) : Nat :=
  ((shifts.flatMap (·.intervals)).map (·.drillHoleId)).dedup.length

def fieldMetres : ℚ := ((fieldReports db organizationId projectId).map (·.metresOrZero)).sum

def shiftMetres : ℚ := ((shiftReports db organizationId projectId).map (·.totalMetres.1)).sum

/-- The drilling updates of the months with their metres. -/
def fieldMonthRows : List (Nat × ℚ) :=
  ((fieldReports db organizationId projectId).filter (·.reportType = .drillingUpdate)).map
    fun r => (r.reportDate.monthNumber, r.metresOrZero)

def fieldHoleRows : List (Nat × Nat) :=
  ((fieldReports db organizationId projectId).filter (·.reportType = .drillingUpdate)).map
    fun r => (r.reportDate.monthNumber, r.drillHoles.getD 0)

def shiftMonthRows : List (Nat × ℚ) :=
  (shiftReports db organizationId projectId).map fun s => (s.date.monthNumber, s.totalMetres.1)

/-- The holes that were worked in a month. -/
def holesOfMonth (month : Nat) : Nat :=
  distinctHoles ((shiftReports db organizationId projectId).filter (·.date.monthNumber = month))

/-- The months in which something was reported. -/
def months : List Nat :=
  ((fieldMonthRows db organizationId projectId ++
    shiftMonthRows db organizationId projectId).map (·.1)).dedup

/-- The last twelve of the months. -/
def lastMonths : List Nat := ((months db organizationId projectId).insertionSort (· ≥ ·)).take 12

def byMonth : List Month :=
  (lastMonths db organizationId projectId).reverse.map fun month => {
    month
    metres := combine
      (((groupSums (fieldMonthRows db organizationId projectId)).lookup month).getD 0)
      (((groupSums (shiftMonthRows db organizationId projectId)).lookup month).getD 0)
    drillHoles := combineHoles
      (((groupSums (fieldHoleRows db organizationId projectId)).lookup month).getD 0)
      (holesOfMonth db organizationId projectId month) }

def projectHoles : Nat :=
  (db.holes.rows.filter fun h => h.organizationId = organizationId ∧ h.archived = false ∧
    projectId.all (h.projectId = ·)).length

/-- `report_metrics`, without the average depth. Metres are given before they are made floats. -/
def reportMetrics : Metrics where
  reports := (fieldReports db organizationId projectId).length +
    (shiftReports db organizationId projectId).length
  metres := combine (fieldMetres db organizationId projectId) (shiftMetres db organizationId projectId)
  drillHoles := max (max
    ((fieldReports db organizationId projectId).map (·.drillHoles.getD 0)).sum
    (distinctHoles (shiftReports db organizationId projectId)))
    (projectHoles db organizationId projectId)
  lastReportDate := List.argmax CalendarDate.serial
    ((fieldReports db organizationId projectId).map (·.reportDate) ++
      (shiftReports db organizationId projectId).map (·.date))
  byMonth := byMonth db organizationId projectId

end Metrics

/-! ## The larger of two sums -/

variable {db : Tables} {organizationId : Id} {projectId : Option Id}

theorem ProjectReport.metresOrZero_nonneg (r : ProjectReport) : 0 ≤ r.metresOrZero := by
  unfold ProjectReport.metresOrZero
  cases hmetres : r.metres with
  | none => exact le_rfl
  | some m => exact r.metres_nonneg m hmetres

theorem combine_eq_max {field shift : ℚ} (h : 0 ≤ field) :
    combine field shift = max field shift := by
  unfold combine
  split
  · rfl
  · next hshift => exact (max_eq_left ((not_lt.1 hshift).trans h)).symm

theorem sum_nonneg_of_field {l : List ProjectReport} : 0 ≤ (l.map (·.metresOrZero)).sum := by
  refine List.sum_nonneg fun x hx => ?_
  obtain ⟨r, -, rfl⟩ := List.mem_map.1 hx
  exact r.metresOrZero_nonneg

theorem metres_eq_max : (reportMetrics db organizationId projectId).metres =
    max (fieldMetres db organizationId projectId) (shiftMetres db organizationId projectId) :=
  combine_eq_max sum_nonneg_of_field

/-! ## Projects -/

/-- A sum over the rows of the organization is the sum over its projects. -/
theorem sum_projects {ρ M : Type} [AddCommMonoid M] {rows : List ρ} {projects : List Id}
    {project : ρ → Id} {p : ρ → Bool} (f : ρ → M) (hnodup : projects.Nodup)
    (hproject : ∀ r ∈ rows, p r → project r ∈ projects) :
    ((rows.filter p).map f).sum = (projects.map fun i =>
      (((rows.filter p).filter (project · = i)).map f).sum).sum := by
  have hsum := sum_sumOf hnodup ((rows.filter p).map fun r => (project r, f r))
  have hall : ((rows.filter p).map fun r => (project r, f r)).filter (·.1 ∈ projects) =
      (rows.filter p).map fun r => (project r, f r) := by
    refine List.filter_eq_self.2 (List.forall_mem_map.2 fun r hr => ?_)
    obtain ⟨hmem, hp⟩ := List.mem_filter.1 hr
    exact decide_eq_true (hproject r hmem hp)
  rw [hall, List.map_map] at hsum
  refine hsum.symm.trans (congrArg List.sum (List.map_congr_left fun i _ => ?_))
  rw [sumOf, List.filter_map, List.map_map]
  rfl

theorem fieldReports_project (p : Id) : fieldReports db organizationId (some p) =
    (fieldReports db organizationId none).filter (·.projectId = p) := by
  unfold fieldReports
  rw [List.filter_filter]
  refine List.filter_congr fun r _ => Bool.eq_iff_iff.2 ?_
  simp only [Option.all_some, Option.all_none, decide_eq_true_eq, Bool.and_eq_true, and_true]
  exact and_comm

theorem shiftReports_project (p : Id) : shiftReports db organizationId (some p) =
    (shiftReports db organizationId none).filter (·.projectId = p) := by
  unfold shiftReports
  rw [List.filter_filter]
  refine List.filter_congr fun s _ => Bool.eq_iff_iff.2 ?_
  simp only [Option.all_some, Option.all_none, decide_eq_true_eq, Bool.and_eq_true, and_true]
  tauto

/-- The project of every report of the organization is one of the list. -/
def BelongTo (db : Tables) (organizationId : Id) (projects : List Id) : Prop :=
  (∀ r ∈ db.reports.rows, r.organizationId = organizationId → r.projectId ∈ projects) ∧
    ∀ s ∈ db.shifts.rows, s.organizationId = organizationId → s.projectId ∈ projects

section Projects

variable {projects : List Id}

theorem field_sum {M : Type} [AddCommMonoid M] (f : ProjectReport → M) (hnodup : projects.Nodup)
    (h : BelongTo db organizationId projects) :
    ((fieldReports db organizationId none).map f).sum =
      (projects.map fun p => ((fieldReports db organizationId (some p)).map f).sum).sum := by
  simp only [fieldReports_project]
  refine sum_projects f hnodup fun r hr hp => h.1 r hr ?_
  exact (of_decide_eq_true hp).1

theorem shift_sum {M : Type} [AddCommMonoid M] (f : DrillingShiftReport → M)
    (hnodup : projects.Nodup) (h : BelongTo db organizationId projects) :
    ((shiftReports db organizationId none).map f).sum =
      (projects.map fun p => ((shiftReports db organizationId (some p)).map f).sum).sum := by
  simp only [shiftReports_project]
  refine sum_projects f hnodup fun s hs hp => h.2 s hs ?_
  exact (of_decide_eq_true hp).1

theorem reports_sum (hnodup : projects.Nodup) (h : BelongTo db organizationId projects) :
    (reportMetrics db organizationId none).reports =
      (projects.map fun p => (reportMetrics db organizationId (some p)).reports).sum := by
  have hfield := field_sum (fun _ => 1) hnodup h
  have hshift := shift_sum (fun _ => 1) hnodup h
  simp only [List.map_const', List.sum_replicate_nat, mul_one] at hfield hshift
  show _ + _ = (projects.map fun p => _ + _).sum
  rw [hfield, hshift, List.sum_map_add]

theorem metres_projects :
    (projects.map fun p => (reportMetrics db organizationId (some p)).metres).sum =
      (projects.map fun p => max (fieldMetres db organizationId (some p))
        (shiftMetres db organizationId (some p))).sum :=
  congrArg List.sum (List.map_congr_left fun _ _ => metres_eq_max)

theorem metres_le_sum (hnodup : projects.Nodup) (h : BelongTo db organizationId projects) :
    (reportMetrics db organizationId none).metres ≤
      (projects.map fun p => (reportMetrics db organizationId (some p)).metres).sum := by
  rw [metres_projects, metres_eq_max, fieldMetres, shiftMetres, field_sum _ hnodup h,
    shift_sum _ hnodup h]
  exact max_sum_le_sum_max _ _ _

/-- The metres of the projects are those of the organization where the same kind of report says at
least as much as the other in every project. -/
theorem metres_eq_sum_iff (hnodup : projects.Nodup) (h : BelongTo db organizationId projects) :
    (reportMetrics db organizationId none).metres =
        (projects.map fun p => (reportMetrics db organizationId (some p)).metres).sum ↔
      (∀ p ∈ projects,
        shiftMetres db organizationId (some p) ≤ fieldMetres db organizationId (some p)) ∨
      ∀ p ∈ projects,
        fieldMetres db organizationId (some p) ≤ shiftMetres db organizationId (some p) := by
  rw [metres_projects, metres_eq_max, fieldMetres, shiftMetres, field_sum _ hnodup h,
    shift_sum _ hnodup h, eq_comm]
  exact sum_max_eq_max_sum_iff _ _ _

end Projects

/-! ## Months -/

/-- What field reports say of a month. -/
def fieldMetresOf (db : Tables) (organizationId : Id) (projectId : Option Id) (month : Nat) : ℚ :=
  sumOf (fieldMonthRows db organizationId projectId) month

def shiftMetresOf (db : Tables) (organizationId : Id) (projectId : Option Id) (month : Nat) : ℚ :=
  sumOf (shiftMonthRows db organizationId projectId) month

theorem fieldMetresOf_nonneg (month : Nat) : 0 ≤ fieldMetresOf db organizationId projectId month := by
  unfold fieldMetresOf sumOf fieldMonthRows
  rw [List.filter_map, List.map_map]
  exact sum_nonneg_of_field

theorem lastMonths_perm (h : (months db organizationId projectId).length ≤ 12) :
    (lastMonths db organizationId projectId).Perm (months db organizationId projectId) := by
  have hlength : ((months db organizationId projectId).insertionSort (· ≥ ·)).length ≤ 12 := by
    rwa [List.length_insertionSort]
  rw [lastMonths, List.take_of_length_le hlength]
  exact List.perm_insertionSort _ _

theorem byMonth_sum (h : (months db organizationId projectId).length ≤ 12) :
    ((byMonth db organizationId projectId).map (·.metres)).sum =
      ((months db organizationId projectId).map fun month =>
        max (fieldMetresOf db organizationId projectId month)
          (shiftMetresOf db organizationId projectId month)).sum := by
  have hmetres : (byMonth db organizationId projectId).map (·.metres) =
      (lastMonths db organizationId projectId).reverse.map fun month =>
        max (fieldMetresOf db organizationId projectId month)
          (shiftMetresOf db organizationId projectId month) := by
    rw [byMonth, List.map_map]
    refine List.map_congr_left fun month _ => ?_
    show combine _ _ = _
    rw [getD_lookup_groupSums, getD_lookup_groupSums]
    exact combine_eq_max (fieldMetresOf_nonneg month)
  rw [hmetres]
  exact ((List.reverse_perm _).trans (lastMonths_perm h)).map _ |>.sum_eq

theorem shift_months : shiftMetres db organizationId projectId =
    ((months db organizationId projectId).map (shiftMetresOf db organizationId projectId)).sum := by
  have hsum := sum_sumOf (List.nodup_dedup ((fieldMonthRows db organizationId projectId ++
    shiftMonthRows db organizationId projectId).map (·.1))) (shiftMonthRows db organizationId projectId)
  have hall : (shiftMonthRows db organizationId projectId).filter (·.1 ∈
      months db organizationId projectId) = shiftMonthRows db organizationId projectId := by
    refine List.filter_eq_self.2 fun row hrow => decide_eq_true ?_
    exact List.mem_dedup.2 (List.mem_map_of_mem (List.mem_append_right _ hrow))
  unfold months at hall
  rw [hall] at hsum
  refine Eq.trans ?_ hsum.symm
  rw [shiftMonthRows, List.map_map]
  rfl

theorem sum_map_filter {ρ M : Type} [AddCommMonoid M] {l : List ρ} {p : ρ → Bool} {f : ρ → M}
    (h : ∀ r ∈ l, p r = false → f r = 0) : ((l.filter p).map f).sum = (l.map f).sum := by
  induction l with
  | nil => rfl
  | cons r l ih =>
      obtain ⟨hr, hl⟩ := List.forall_mem_cons.1 h
      cases hp : p r with
      | true => rw [List.filter_cons_of_pos hp, List.map_cons, List.map_cons, List.sum_cons,
          List.sum_cons, ih hl]
      | false =>
          rw [List.filter_cons_of_neg (by simp [hp]), ih hl, List.map_cons, List.sum_cons, hr hp,
            zero_add]

/-- Only drilling updates have metres. -/
def UpdatesOnly (db : Tables) (organizationId : Id) (projectId : Option Id) : Prop :=
  ∀ r ∈ fieldReports db organizationId projectId, r.reportType ≠ .drillingUpdate →
    r.metresOrZero = 0

theorem field_months (h : UpdatesOnly db organizationId projectId) :
    fieldMetres db organizationId projectId =
      ((months db organizationId projectId).map
        (fieldMetresOf db organizationId projectId)).sum := by
  have hsum := sum_sumOf (List.nodup_dedup ((fieldMonthRows db organizationId projectId ++
    shiftMonthRows db organizationId projectId).map (·.1))) (fieldMonthRows db organizationId projectId)
  have hall : (fieldMonthRows db organizationId projectId).filter (·.1 ∈
      months db organizationId projectId) = fieldMonthRows db organizationId projectId := by
    refine List.filter_eq_self.2 fun row hrow => decide_eq_true ?_
    exact List.mem_dedup.2 (List.mem_map_of_mem (List.mem_append_left _ hrow))
  unfold months at hall
  rw [hall] at hsum
  refine Eq.trans ?_ hsum.symm
  rw [fieldMonthRows, List.map_map]
  exact (sum_map_filter fun r hr hother => h r hr (of_decide_eq_false (by simpa using hother))).symm

theorem metres_le_byMonth (h : (months db organizationId projectId).length ≤ 12)
    (hupdates : UpdatesOnly db organizationId projectId) :
    (reportMetrics db organizationId projectId).metres ≤
      ((reportMetrics db organizationId projectId).byMonth.map (·.metres)).sum := by
  show _ ≤ ((byMonth db organizationId projectId).map (·.metres)).sum
  rw [byMonth_sum h, metres_eq_max, field_months hupdates, shift_months]
  exact max_sum_le_sum_max _ _ _

theorem metres_eq_byMonth_iff (h : (months db organizationId projectId).length ≤ 12)
    (hupdates : UpdatesOnly db organizationId projectId) :
    (reportMetrics db organizationId projectId).metres =
        ((reportMetrics db organizationId projectId).byMonth.map (·.metres)).sum ↔
      (∀ month ∈ months db organizationId projectId,
        shiftMetresOf db organizationId projectId month ≤
          fieldMetresOf db organizationId projectId month) ∨
      ∀ month ∈ months db organizationId projectId,
        fieldMetresOf db organizationId projectId month ≤
          shiftMetresOf db organizationId projectId month := by
  show _ = ((byMonth db organizationId projectId).map (·.metres)).sum ↔ _
  rw [byMonth_sum h, metres_eq_max, field_months hupdates, shift_months, eq_comm]
  exact sum_max_eq_max_sum_iff _ _ _

/-! ## The parts and the whole -/

/-- The reports of the projects add up to those of the organization. Their metres, and those of at
most twelve months, add up to no less than the metres of the whole, and to as much exactly where the
same kind of report says at least as much as the other in every part. -/
theorem metrics_of_parts {projects : List Id} (hnodup : projects.Nodup)
    (h : BelongTo db organizationId projects) :
    ((reportMetrics db organizationId none).reports =
        (projects.map fun p => (reportMetrics db organizationId (some p)).reports).sum ∧
      (reportMetrics db organizationId none).metres ≤
        (projects.map fun p => (reportMetrics db organizationId (some p)).metres).sum ∧
      ((reportMetrics db organizationId none).metres =
          (projects.map fun p => (reportMetrics db organizationId (some p)).metres).sum ↔
        (∀ p ∈ projects,
          shiftMetres db organizationId (some p) ≤ fieldMetres db organizationId (some p)) ∨
        ∀ p ∈ projects,
          fieldMetres db organizationId (some p) ≤ shiftMetres db organizationId (some p))) ∧
    ∀ p ∈ projects, (months db organizationId (some p)).length ≤ 12 →
      UpdatesOnly db organizationId (some p) →
      (reportMetrics db organizationId (some p)).metres ≤
          ((reportMetrics db organizationId (some p)).byMonth.map (·.metres)).sum ∧
        ((reportMetrics db organizationId (some p)).metres =
            ((reportMetrics db organizationId (some p)).byMonth.map (·.metres)).sum ↔
          (∀ month ∈ months db organizationId (some p),
            shiftMetresOf db organizationId (some p) month ≤
              fieldMetresOf db organizationId (some p) month) ∨
          ∀ month ∈ months db organizationId (some p),
            fieldMetresOf db organizationId (some p) month ≤
              shiftMetresOf db organizationId (some p) month) :=
  ⟨⟨reports_sum hnodup h, metres_le_sum hnodup h, metres_eq_sum_iff hnodup h⟩,
    fun _ _ hmonths hupdates => ⟨metres_le_byMonth hmonths hupdates,
      metres_eq_byMonth_iff hmonths hupdates⟩⟩

namespace Sample

def january : CalendarDate := .of 2024 1 15 (by decide)

def february : CalendarDate := .of 2024 2 15 (by decide)

theorem hundred_fits : OnGrid 2 (100 : ℚ) ∧ |(100 : ℚ)| < 10 ^ (18 - 2) := by decide +kernel

def hundred : Column 18 2 := ⟨100, hundred_fits⟩

theorem sixty_fits : OnGrid 2 (60 : ℚ) ∧ |(60 : ℚ)| < 10 ^ (18 - 2) := by decide +kernel

def sixty : Column 18 2 := ⟨60, sixty_fits⟩

def drillingUpdate : ProjectReport where
  id := 1
  organizationId := 1
  projectId := 1
  siteId := 1
  siteName := "North"
  reportType := .drillingUpdate
  reportDate := january
  title := "Week 3"
  notes := none
  metres := some hundred
  drillHoles := some 1
  averageDepth := some hundred
  authorName := "Team member"
  storagePath := none
  fileName := none
  mimeType := none
  sizeBytes := none
  createdAt := ⟨january, 0, by decide⟩
  metres_nonneg := fun m hm => by
    rw [Option.mem_some_iff] at hm
    rw [← hm]
    decide +kernel

def approvedShift (id projectId : Id) : DrillingShiftReport where
  id := id
  organizationId := 1
  projectId := projectId
  siteLocationId := some 1
  reportNumber := "SR-1"
  date := february
  shiftType := .day
  status := .approved
  supervisorId := none
  submittedById := none
  archived := false
  totalMetres := sixty
  avgCoreRecoveryPct := none
  notes := none
  intervals := []
  createdAt := ⟨february, 0, by decide⟩

/-- A hundred metres of a field report in January, and sixty of a shift report in February in each
of two projects. -/
def twoProjects : Tables where
  reports := .single drillingUpdate
  shifts := ⟨[approvedShift 1 1, approvedShift 2 2], by decide⟩
  holes := .empty
  locations := .empty

end Sample

/-- All reports of the second project are shift reports. -/
theorem metrics_of_parts_two : BelongTo Sample.twoProjects 1 [1, 2] ∧
    (reportMetrics Sample.twoProjects 1 none).reports =
      ([1, 2].map fun p => (reportMetrics Sample.twoProjects 1 (some p)).reports).sum ∧
    (reportMetrics Sample.twoProjects 1 (some 2)).metres =
      ((reportMetrics Sample.twoProjects 1 (some 2)).byMonth.map (·.metres)).sum := by
  have hbelong : BelongTo Sample.twoProjects 1 [1, 2] := ⟨by decide, by decide⟩
  obtain ⟨⟨hreports, -, -⟩, hmonths⟩ := metrics_of_parts (by decide) hbelong
  obtain ⟨-, heq⟩ := hmonths 2 (by decide) (by decide +kernel) fun r hr => by
    have hnone : fieldReports Sample.twoProjects 1 (some 2) = [] := by decide
    rw [hnone] at hr
    cases hr
  exact ⟨hbelong, hreports, heq.2 (.inr (by decide +kernel))⟩

/-- The field reports of one project and the shift reports of both count for the organization by the
larger of their sums, and so do the two months of the first project. -/
theorem metrics_of_parts_broken :
    (¬ ∀ (db : Tables) (organizationId : Id) (projects : List Id), projects.Nodup →
      BelongTo db organizationId projects → (reportMetrics db organizationId none).metres =
        (projects.map fun p => (reportMetrics db organizationId (some p)).metres).sum) ∧
    ¬ ∀ (db : Tables) (organizationId p : Id),
      (months db organizationId (some p)).length ≤ 12 →
      (reportMetrics db organizationId (some p)).metres =
        ((reportMetrics db organizationId (some p)).byMonth.map (·.metres)).sum := by
  constructor
  · intro hall
    have hsum := hall Sample.twoProjects 1 [1, 2] (by decide) ⟨by decide, by decide⟩
    revert hsum
    decide +kernel
  · intro hall
    have hsum := hall Sample.twoProjects 1 1 (by decide +kernel)
    revert hsum
    decide +kernel

end Cestos.Reports
