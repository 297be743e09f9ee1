import Mathlib.Data.Prod.Lex
import Cestos.Core.Paging
import Cestos.Core.Texts
import Cestos.Reports.Records

/-!
# The list of a project's reports

The reports of two kinds are put together, sorted by their texts of dates and shown page by page.
Authors, titles and numbers of the items are left out.
-/

namespace Cestos.Reports

open Cestos.Core

/-- The tables with dates that Python has. -/
structure Archive extends Tables where
  report_years : ∀ r ∈ reports.rows, r.reportDate.year ≤ 9999 ∧ r.createdAt.date.year ≤ 9999
  shift_years : ∀ s ∈ shifts.rows, s.date.year ≤ 9999 ∧ s.createdAt.date.year ≤ 9999

inductive Report
  | field (r : ProjectReport)
  | shift (s : DrillingShiftReport)
  deriving DecidableEq

def ReportType.text : ReportType → String
  | .drillingUpdate => "DRILLING_UPDATE"
  | .progressUpdate => "PROGRESS_UPDATE"
  | .safetyReport => "SAFETY_REPORT"
  | .siteIssue => "SITE_ISSUE"

structure ReportItem where
  report : Report
  siteId : Option Id
  siteName : String
  reportDate : String
  createdAt : String
  fileName : Option String
  mimeType : Option String
  sizeBytes : Option Nat

abbrev PageSize := {n : Nat // 1 ≤ n ∧ n ≤ 100}

structure ListQuery where
  reportType : Option String
  siteId : Option Id
  page : Nat
  pageSize : PageSize
  page_pos : 1 ≤ page

structure ReportPage where
  items : List ReportItem
  total : Nat
  page : Nat
  pages : Nat

section Query

variable (db : Tables) (organizationId projectId : Id)

def openShifts : List DrillingShiftReport :=
  db.shifts.rows.filter fun s =>
    s.organizationId = organizationId ∧ s.projectId = projectId ∧ s.archived = false

def projectSites : List Location :=
  db.locations.rows.filter fun l =>
    l.organizationId = organizationId ∧ l.locationType = .projectSite ∧ l.isActive

/-- What the database answers where the query leaves it open: the order of the shift reports, and
which of the active project sites is the first. -/
structure Answers where
  shiftRows : List DrillingShiftReport
  projectSite : Option Location
  visiblePaths : List String
  shiftRows_perm : shiftRows.Perm (openShifts db organizationId projectId)
  projectSite_mem : ∀ site ∈ projectSite, site ∈ projectSites db organizationId
  projectSite_none : projectSite = none → projectSites db organizationId = []

/-- A filter by a text; an empty one does not filter. -/
def ofType (wanted : Option String) (r : ProjectReport) : Bool :=
  wanted.all fun text => text = "" ∨ r.reportType.text = text

def orderKey (r : ProjectReport) : ℕ ×ₗ ℕ ×ₗ ℕ :=
  toLex (r.reportDate.serial, toLex (r.createdAt.serial, r.id))

/-- In the order of `report_date`, `created_at` and `id`, from the last to the first. -/
def projectReportRows (reportType : Option String) (siteId : Option Id) : List ProjectReport :=
  (db.reports.rows.filter fun r => r.organizationId = organizationId ∧ r.projectId = projectId ∧
    ofType reportType r ∧ siteId.all (r.siteId = ·)).insertionSort
      fun a b => orderKey b ≤ orderKey a

/-- `visible_reports`: a file that is not in the library for the actor is left out. -/
def fieldItem (visiblePaths : List String) (r : ProjectReport) : ReportItem :=
  let hidden : Bool := r.storagePath.any fun path => path ≠ "" ∧ path ∉ visiblePaths
  { report := .field r
    siteId := some r.siteId
    siteName := r.siteName
    reportDate := r.reportDate.isoformat
    createdAt := r.createdAt.str
    fileName := if hidden then none else r.fileName
    mimeType := if hidden then none else r.mimeType
    sizeBytes := if hidden then none else r.sizeBytes }

def shiftItem (projectSite : Option Location) (s : DrillingShiftReport) : ReportItem where
  report := .shift s
  siteId := projectSite.map (·.id)
  siteName := (projectSite.map (·.name)).getD "Main Site"
  reportDate := s.date.isoformat
  createdAt := s.createdAt.isoformat
  fileName := none
  mimeType := none
  sizeBytes := none

/-- The shift reports are shown with the site of the organization. -/
def showsShifts (reportType : Option String) (siteId : Option Id) (projectSite : Option Location) :
    Bool :=
  reportType ∈ [none, some "DRILLING_UPDATE"] ∧
    siteId.all fun site => projectSite.all fun default => site = default.id

/-- Texts compare by their characters. -/
def sortKey (item : ReportItem) : List Char ×ₗ List Char :=
  toLex (item.reportDate.toList, item.createdAt.toList)

variable {db organizationId projectId}

/-- The items of both kinds, sorted; those with the same key stay in their order. -/
def combined (reportType : Option String) (siteId : Option Id)
    (answers : Answers db organizationId projectId) : List ReportItem :=
  ((projectReportRows db organizationId projectId reportType siteId).map
      (fieldItem answers.visiblePaths) ++
    if showsShifts reportType siteId answers.projectSite then
      answers.shiftRows.map (shiftItem answers.projectSite)
    else []).insertionSort fun a b => ¬ sortKey a < sortKey b

/-- `math.ceil(total / page_size)`, at least one page. -/
def pageCount (total pageSize : Nat) : Nat :=
  if 0 < total then (total + pageSize - 1) / pageSize else 1

def reports (query : ListQuery) (answers : Answers db organizationId projectId) : ReportPage :=
  let items := combined query.reportType query.siteId answers
  { items := page query.pageSize (query.page - 1) items
    total := items.length
    page := query.page
    pages := pageCount items.length query.pageSize }

end Query

/-!
## The order of the list

The texts sort the reports by their date, by the day on which they were created, by their kind and
only then by the time of that day: a blank is before a `T`. Shift reports of one moment are left in
the order of the query.
-/

namespace Report

def date : Report → CalendarDate
  | field r => r.reportDate
  | shift s => s.date

def createdAt : Report → Moment
  | field r => r.createdAt
  | shift s => s.createdAt

def isField : Report → Bool
  | field _ => true
  | shift _ => false

/-- Field reports are before shift reports. -/
def kind (x : Report) : ℕ := if x.isField then 0 else 1

/-- Field reports of one moment are told apart. -/
def tieBreak : Report → ℕ
  | field r => r.id
  | shift _ => 0

/-- Where the texts put a report. -/
def place (x : Report) : ℕ ×ₗ ℕ ×ₗ ℕ ×ₗ ℕ :=
  toLex (x.date.serial, toLex (x.createdAt.date.serial, toLex (x.kind, x.createdAt.microsecond)))

def key (x : Report) : (ℕ ×ₗ ℕ ×ₗ ℕ ×ₗ ℕ) ×ₗ ℕ := toLex (x.place, x.tieBreak)

/-- A report in the order of time. -/
def instant (x : Report) : ℕ ×ₗ ℕ := toLex (x.date.serial, x.createdAt.serial)

def HasYears (x : Report) : Prop := x.date.year ≤ 9999 ∧ x.createdAt.date.year ≤ 9999

/-- The texts of an item. -/
def textKey (x : Report) : List Char ×ₗ List Char :=
  match x with
  | field r => toLex (r.reportDate.isoformat.toList, r.createdAt.str.toList)
  | shift s => toLex (s.date.isoformat.toList, s.createdAt.isoformat.toList)

theorem kind_lt (x : Report) : x.kind < 2 := by
  unfold kind
  split <;> decide

/-- The character between date and time. -/
def separator (x : Report) : Char := if x.isField then ' ' else 'T'

theorem compares_separator (x y : Report) : Compares [x.separator] [y.separator] x.kind y.kind := by
  unfold separator kind
  cases x.isField <;> cases y.isField
  · exact Compares.refl _ _
  · exact ⟨by decide, by decide⟩
  · exact ⟨by decide, by decide⟩
  · exact Compares.refl _ _

theorem textKey_eq {x : Report} (h : x.HasYears) :
    x.textKey = toLex (dateChars x.date, momentChars x.separator x.createdAt) := by
  cases x with
  | field r =>
      rw [textKey, toList_isoformat (d := r.reportDate) h.1, toList_str (m := r.createdAt) h.2]
      rfl
  | shift s =>
      rw [textKey, toList_isoformat (d := s.date) h.1, toList_isoformat_moment (m := s.createdAt) h.2]
      rfl

theorem place_lt_iff {x y : Report} : x.place < y.place ↔ x.date.serial < y.date.serial ∨
    x.date.serial = y.date.serial ∧
      (x.createdAt.date.serial * 2 + x.kind) * 86400000000 + x.createdAt.microsecond <
        (y.createdAt.date.serial * 2 + y.kind) * 86400000000 + y.createdAt.microsecond := by
  rw [mul_add_lt_iff x.createdAt.microsecond_lt y.createdAt.microsecond_lt,
    mul_add_lt_iff x.kind_lt y.kind_lt, mul_add_eq_iff x.kind_lt y.kind_lt]
  simp only [place, Prod.Lex.toLex_lt_toLex]
  tauto

theorem textKey_lt_iff {x y : Report} (hx : x.HasYears) (hy : y.HasYears) :
    x.textKey < y.textKey ↔ x.place < y.place := by
  have hdates := compares_dateChars hx.1 hy.1
  have hmoments := compares_momentChars hx.2 hy.2 (compares_separator x y) x.kind_lt y.kind_lt
  rw [textKey_eq hx, textKey_eq hy, Prod.Lex.toLex_lt_toLex, place_lt_iff, hdates.lt, hdates.eq,
    hmoments.lt]

end Report

section Sorted

/-- The field reports of a request, with shift reports. -/
def reportRows (db : Tables) (organizationId projectId : Id) (siteId : Option Id)
    (shifts : List DrillingShiftReport) : List Report :=
  (projectReportRows db organizationId projectId none siteId).map .field ++ shifts.map .shift

variable {db : Archive} {organizationId projectId : Id}

/-- The shift reports that are shown. -/
def shown (siteId : Option Id) (answers : Answers db.toTables organizationId projectId) :
    List DrillingShiftReport :=
  if showsShifts none siteId answers.projectSite then answers.shiftRows else []

/-- The list that is cut into pages. -/
def listed (siteId : Option Id) (answers : Answers db.toTables organizationId projectId) :
    List Report :=
  (combined none siteId answers).map (·.report)

theorem mem_projectReportRows {reportType : Option String} {siteId : Option Id} {r : ProjectReport} :
    r ∈ projectReportRows db.toTables organizationId projectId reportType siteId ↔
      r ∈ db.reports.rows ∧ r.organizationId = organizationId ∧ r.projectId = projectId ∧
        ofType reportType r ∧ siteId.all (r.siteId = ·) := by
  simp [projectReportRows, List.mem_insertionSort]

theorem mem_of_shown {siteId : Option Id} {answers : Answers db.toTables organizationId projectId}
    {s : DrillingShiftReport} (h : s ∈ shown siteId answers) :
    s ∈ openShifts db.toTables organizationId projectId := by
  unfold shown at h
  split at h
  · exact answers.shiftRows_perm.mem_iff.1 h
  · exact absurd h List.not_mem_nil

theorem hasYears_shift {s : DrillingShiftReport}
    (h : s ∈ openShifts db.toTables organizationId projectId) : (Report.shift s).HasYears :=
  db.shift_years s (List.mem_of_mem_filter h)

theorem listed_eq (siteId : Option Id) (answers : Answers db.toTables organizationId projectId) :
    listed siteId answers =
      (reportRows db.toTables organizationId projectId siteId (shown siteId answers)).insertionSort
        fun x y => y.place ≤ x.place := by
  have hitems : ((projectReportRows db.toTables organizationId projectId none siteId).map
      (fieldItem answers.visiblePaths) ++
        if showsShifts none siteId answers.projectSite then
          answers.shiftRows.map (shiftItem answers.projectSite)
        else []) =
      (projectReportRows db.toTables organizationId projectId none siteId).map
        (fieldItem answers.visiblePaths) ++
          (shown siteId answers).map (shiftItem answers.projectSite) := by
    unfold shown
    split <;> rfl
  unfold listed combined
  rw [hitems, List.map_insertionSort _ (fun x y : Report => y.place ≤ x.place)]
  · rw [List.map_append, List.map_map, List.map_map]
    rfl
  · have hall : ∀ item ∈ (projectReportRows db.toTables organizationId projectId none siteId).map
        (fieldItem answers.visiblePaths) ++
          (shown siteId answers).map (shiftItem answers.projectSite),
        sortKey item = item.report.textKey ∧ item.report.HasYears := by
      intro item hitem
      rcases List.mem_append.1 hitem with hitem | hitem
      · obtain ⟨r, hr, rfl⟩ := List.mem_map.1 hitem
        exact ⟨rfl, db.report_years r (mem_projectReportRows.1 hr).1⟩
      · obtain ⟨s, hs, rfl⟩ := List.mem_map.1 hitem
        exact ⟨rfl, hasYears_shift (mem_of_shown hs)⟩
    intro a ha b hb
    rw [(hall a ha).1, (hall b hb).1, Report.textKey_lt_iff (hall a ha).2 (hall b hb).2, not_lt]

theorem listed_perm (siteId : Option Id) (answers : Answers db.toTables organizationId projectId) :
    (listed siteId answers).Perm
      (reportRows db.toTables organizationId projectId siteId (shown siteId answers)) := by
  rw [listed_eq]
  exact List.perm_insertionSort _ _

instance place_total : Std.Total fun x y : Report => y.place ≤ x.place := ⟨fun x y => le_total y.place x.place⟩

instance place_trans : IsTrans Report fun x y => y.place ≤ x.place := ⟨fun _ _ _ hxy hyz => hyz.trans hxy⟩

/-- Field reports are put into the order of their keys by the query. -/
theorem falling_fields (siteId : Option Id) :
    Falling Report.key
      ((projectReportRows db.toTables organizationId projectId none siteId).map .field) := by
  have htotal : Std.Total fun a b : ProjectReport => orderKey b ≤ orderKey a :=
    ⟨fun a b => le_total (orderKey b) (orderKey a)⟩
  have htrans : IsTrans ProjectReport fun a b => orderKey b ≤ orderKey a :=
    ⟨fun _ _ _ hab hbc => hbc.trans hab⟩
  refine List.pairwise_map.2 ((List.pairwise_insertionSort _ _).imp fun {a b} hle => ?_)
  have hmicro := mul_add_lt_iff (m := b.createdAt.date.serial) (n := a.createdAt.date.serial)
    b.createdAt.microsecond_lt a.createdAt.microsecond_lt
  have heq := mul_add_eq_iff (m := b.createdAt.date.serial) (n := a.createdAt.date.serial)
    b.createdAt.microsecond_lt a.createdAt.microsecond_lt
  simp only [orderKey, Prod.Lex.toLex_le_toLex, Moment.serial, hmicro, heq] at hle
  clear hmicro heq
  simp only [Report.key, Report.place, Report.date, Report.createdAt, Report.kind, Report.isField,
    Report.tieBreak, Prod.Lex.toLex_le_toLex, Prod.Lex.toLex_lt_toLex, toLex_inj, Prod.mk.injEq]
  tauto

/-- The field reports of the list, in the order of the query. -/
theorem filter_listed (siteId : Option Id)
    (answers : Answers db.toTables organizationId projectId) :
    (listed siteId answers).filter Report.isField =
      (projectReportRows db.toTables organizationId projectId none siteId).map .field := by
  have hall : ((projectReportRows db.toTables organizationId projectId none siteId).map
      Report.field).filter Report.isField =
      (projectReportRows db.toTables organizationId projectId none siteId).map .field := by
    refine List.filter_eq_self.2 fun x hx => ?_
    obtain ⟨r, -, rfl⟩ := List.mem_map.1 hx
    rfl
  have hnone : ((shown siteId answers).map Report.shift).filter Report.isField = [] := by
    refine List.filter_eq_nil_iff.2 fun x hx => ?_
    obtain ⟨s, -, rfl⟩ := List.mem_map.1 hx
    exact Bool.false_ne_true
  have hsorted : ((projectReportRows db.toTables organizationId projectId none siteId).map
      Report.field).Pairwise fun x y => y.place ≤ x.place :=
    (falling_fields siteId).imp fun hle => (Prod.Lex.toLex_le_toLex.1 hle).elim le_of_lt fun h => h.1.le
  have hsub := (List.sublist_insertionSort hsorted (List.sublist_append_left _
    ((shown siteId answers).map Report.shift))).filter Report.isField
  have hlength := ((listed_perm siteId answers).filter Report.isField).length_eq
  rw [reportRows, List.filter_append, hall, hnone, List.append_nil] at hlength
  rw [hall, ← reportRows, ← listed_eq] at hsub
  exact (hsub.eq_of_length hlength.symm).symm

theorem falling_listed (siteId : Option Id)
    (answers : Answers db.toTables organizationId projectId) :
    Falling Report.key (listed siteId answers) := by
  have hplaces : (listed siteId answers).Pairwise fun x y => y.place ≤ x.place := by
    rw [listed_eq]
    exact List.pairwise_insertionSort _ _
  have hfields : Falling Report.key
      ((projectReportRows db.toTables organizationId projectId none siteId).map .field) :=
    falling_fields siteId
  rw [← filter_listed siteId answers] at hfields
  refine (hplaces.and (List.pairwise_filter.1 hfields)).imp fun {x y} h => ?_
  obtain ⟨hle, hties⟩ := h
  rcases lt_or_eq_of_le hle with hlt | heq
  · exact Prod.Lex.toLex_le_toLex.2 (.inl hlt)
  · have hkind : y.kind = x.kind := congrArg (fun p => (ofLex (ofLex (ofLex p).2).2).1) heq
    cases x with
    | field r =>
        cases y with
        | field r' => exact hties rfl rfl
        | shift s => cases hkind
    | shift s =>
        cases y with
        | field r => cases hkind
        | shift s' => exact Prod.Lex.toLex_le_toLex.2 (.inr ⟨heq, le_refl 0⟩)

end Sorted

end Cestos.Reports
