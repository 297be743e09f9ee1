import Cestos.Reports.Listing

/-!
# The pages of the list

Every page is a request of its own, and the database may answer it with another order of the shift
reports. The pages together are every report once, from the newest to the oldest, if field reports
were not created after the shift reports of their day and no page ends between shift reports of
one moment.
-/

namespace Cestos.Reports

open Cestos.Core

section Answered

variable {db : Archive} {organizationId projectId : Id}

theorem openShifts_nodup : (openShifts db.toTables organizationId projectId).Nodup :=
  db.shifts.nodup.of_map.filter _

/-- The rows in the order in which they are stored. -/
def Answers.stored (db : Tables) (organizationId projectId : Id) :
    Answers db organizationId projectId where
  shiftRows := openShifts db organizationId projectId
  projectSite := (projectSites db organizationId).head?
  visiblePaths := []
  shiftRows_perm := .refl _
  projectSite_mem := fun _ h => List.mem_of_mem_head? h
  projectSite_none := List.head?_eq_none_iff.1

/-- Two shift reports change their places. -/
def Answers.swap (answers : Answers db.toTables organizationId projectId)
    {s t : DrillingShiftReport} (hs : s ∈ openShifts db.toTables organizationId projectId)
    (ht : t ∈ openShifts db.toTables organizationId projectId) :
    Answers db.toTables organizationId projectId :=
  { answers with
    shiftRows := answers.shiftRows.map (Equiv.swap s t)
    shiftRows_perm := (answers.shiftRows_perm.map _).trans (map_swap_perm openShifts_nodup hs ht) }

theorem field_ne_shift (r : ProjectReport) (s : DrillingShiftReport) :
    Report.field r ≠ .shift s := by
  intro h
  cases h

theorem place_swap {x y : Report} (h : x.place = y.place) (z : Report) :
    (Equiv.swap x y z).place = z.place := by
  rw [Equiv.swap_apply_def]
  split
  next hz => rw [hz, h]
  next =>
    split
    next hz => rw [hz, h]
    next => rfl

theorem listed_swap (siteId : Option Id) (answers : Answers db.toTables organizationId projectId)
    {s t : DrillingShiftReport} (hs : s ∈ openShifts db.toTables organizationId projectId)
    (ht : t ∈ openShifts db.toTables organizationId projectId)
    (hplace : (Report.shift s).place = (Report.shift t).place) :
    listed siteId (answers.swap hs ht) =
      (listed siteId answers).map (Equiv.swap (.shift s) (.shift t)) := by
  have hshown : shown siteId (answers.swap hs ht) =
      (shown siteId answers).map (Equiv.swap s t) := by
    show (if showsShifts none siteId answers.projectSite then _ else _) = _
    unfold shown
    split <;> rfl
  rw [listed_eq, listed_eq, List.map_insertionSort _ (fun x y : Report => y.place ≤ x.place)]
  · rw [reportRows, reportRows, List.map_append, List.map_map, List.map_map, hshown, List.map_map]
    refine congrArg (List.insertionSort _) (congrArg₂ List.append ?_ ?_)
    · refine List.map_congr_left fun r _ => ?_
      exact (Equiv.swap_apply_of_ne_of_ne (field_ne_shift r s) (field_ne_shift r t)).symm
    · refine List.map_congr_left fun u _ => ?_
      exact Function.Injective.map_swap (fun _ _ => Report.shift.inj) s t u
  · intro x _ y _
    rw [place_swap hplace, place_swap hplace]

theorem reportRows_nodup (siteId : Option Id) {shifts : List DrillingShiftReport}
    (h : shifts.Nodup) : (reportRows db.toTables organizationId projectId siteId shifts).Nodup := by
  have hfields : (projectReportRows db.toTables organizationId projectId none siteId).Nodup :=
    (List.perm_insertionSort _ _).nodup_iff.2 (db.reports.nodup.of_map.filter _)
  refine List.nodup_append.2 ⟨hfields.map fun _ _ => Report.field.inj,
    h.map fun _ _ => Report.shift.inj, fun x hx y hy => ?_⟩
  obtain ⟨r, -, rfl⟩ := List.mem_map.1 hx
  obtain ⟨s, -, rfl⟩ := List.mem_map.1 hy
  exact field_ne_shift r s

theorem shown_nodup (siteId : Option Id) (answers : Answers db.toTables organizationId projectId) :
    (shown siteId answers).Nodup := by
  unfold shown
  split
  · exact answers.shiftRows_perm.nodup_iff.2 openShifts_nodup
  · exact List.nodup_nil

theorem listed_nodup (siteId : Option Id) (answers : Answers db.toTables organizationId projectId) :
    (listed siteId answers).Nodup :=
  (listed_perm siteId answers).nodup_iff.2 (reportRows_nodup siteId (shown_nodup siteId answers))

theorem mem_listed {siteId : Option Id} {answers : Answers db.toTables organizationId projectId}
    {x : Report} : x ∈ listed siteId answers ↔
      (∃ r ∈ projectReportRows db.toTables organizationId projectId none siteId, x = .field r) ∨
        ∃ s ∈ shown siteId answers, x = .shift s := by
  rw [(listed_perm siteId answers).mem_iff, reportRows, List.mem_append, List.mem_map, List.mem_map]
  simp only [eq_comm]

/-- Reports with the same key are shift reports of one moment. -/
theorem shifts_of_key_eq {siteId : Option Id} {answers : Answers db.toTables organizationId projectId}
    {x y : Report} (hx : x ∈ listed siteId answers) (hy : y ∈ listed siteId answers)
    (hne : x ≠ y) (hkey : x.key = y.key) :
    ∃ s ∈ shown siteId answers, ∃ t ∈ shown siteId answers, x = .shift s ∧ y = .shift t := by
  have hkind : x.kind = y.kind := congrArg (fun k => (ofLex (ofLex (ofLex (ofLex k).1).2).2).1) hkey
  rcases mem_listed.1 hx with ⟨r, hr, rfl⟩ | ⟨s, hs, rfl⟩ <;>
    rcases mem_listed.1 hy with ⟨r', hr', rfl⟩ | ⟨t, ht, rfl⟩
  · have hid : r.id = r'.id := congrArg (fun k => (ofLex k).2) hkey
    exact absurd (congrArg Report.field (db.reports.key_injective (mem_projectReportRows.1 hr).1
      (mem_projectReportRows.1 hr').1 hid)) hne
  · cases hkind
  · cases hkind
  · exact ⟨s, hs, t, ht, rfl, rfl⟩

/-- Where a page ends between shift reports of one moment, one of them may be on no page. -/
theorem exists_lost {siteId : Option Id} {n p : Nat}
    (answers : Answers db.toTables organizationId projectId)
    (hcut : ¬ Uncut Report.key (p * n) (listed siteId answers)) :
    ∃ others : Nat → Answers db.toTables organizationId projectId,
      ∃ y ∈ listed siteId answers, ∀ q, y ∉ page n q (listed siteId (others q)) := by
  simp only [Uncut, not_forall, not_not] at hcut
  obtain ⟨x, hx, y, hy, hkey⟩ := hcut
  have hnodup := listed_nodup siteId answers
  have hne : x ≠ y := fun heq =>
    List.disjoint_take_drop hnodup (le_refl (p * n)) hx (heq ▸ hy)
  obtain ⟨s, hs, t, ht, rfl, rfl⟩ := shifts_of_key_eq (List.mem_of_mem_take hx)
    (List.mem_of_mem_drop hy) hne hkey
  have hplace : (Report.shift s).place = (Report.shift t).place :=
    congrArg (fun k => (ofLex k).1) hkey
  refine ⟨fun q => if q < p then answers else answers.swap (mem_of_shown hs) (mem_of_shown ht),
    .shift t, List.mem_of_mem_drop hy, fun q => ?_⟩
  rw [apply_ite (listed siteId), listed_swap siteId answers _ _ hplace]
  exact notMem_page_of_swap hnodup hx hy q

end Answered

section Requests

variable (db : Archive) (organizationId projectId : Id)

/-- The reports of a project. -/
def allReports : List Report :=
  (db.reports.rows.filter fun r =>
    r.organizationId = organizationId ∧ r.projectId = projectId).map .field ++
      (openShifts db.toTables organizationId projectId).map .shift

/-- No page ends between shift reports of one moment. -/
def Unsplit (n : Nat) (rows : List Report) : Prop :=
  ∀ x ∈ rows, ∀ p, ¬ (ahead Report.key rows x < p * n ∧
    p * n < ahead Report.key rows x + tied Report.key rows x)

/-- A request for a page, counted from 0. -/
def request (n : PageSize) (siteId : Option Id) (p : Nat) : ListQuery :=
  ⟨none, siteId, p + 1, n, Nat.le_add_left 1 p⟩

variable {db organizationId projectId} {n : PageSize}

/-- The pages of the whole list, one after the other. -/
def readAll (n : PageSize) (answers : Nat → Answers db.toTables organizationId projectId) :
    List Report :=
  (List.range (reports (request n none 0) (answers 0)).pages).flatMap fun p =>
    (reports (request n none p) (answers p)).items.map (·.report)

theorem items_reports (siteId : Option Id) (p : Nat)
    (answers : Answers db.toTables organizationId projectId) :
    (reports (request n siteId p) answers).items.map (·.report) = page n p (listed siteId answers) :=
  map_page _

theorem readAll_eq (answers : Nat → Answers db.toTables organizationId projectId) :
    readAll n answers = pages n (fun p => listed none (answers p))
      (pageCount (listed none (answers 0)).length n) := by
  have hpages : (reports (request n none 0) (answers 0)).pages =
      pageCount (listed none (answers 0)).length n :=
    congrArg (pageCount · n) (List.length_map _).symm
  unfold readAll pages
  rw [hpages]
  exact congrArg (List.flatMap · _) (funext fun p => items_reports none p (answers p))

theorem le_pageCount (total : Nat) : total ≤ pageCount total n * n := by
  have hpos := n.2.1
  unfold pageCount
  split
  · have hdiv := Nat.div_add_mod (total + n - 1) n
    have hmod := Nat.mod_lt (total + n - 1) (show 0 < n.1 by omega)
    rw [Nat.mul_comm]
    omega
  · omega

theorem listed_perm_all (answers : Answers db.toTables organizationId projectId) :
    (listed none answers).Perm (allReports db organizationId projectId) := by
  refine (listed_perm none answers).trans (List.Perm.append ?_ (answers.shiftRows_perm.map _))
  refine ((List.perm_insertionSort _ _).trans (List.Perm.of_eq ?_)).map _
  refine List.filter_congr fun r _ => ?_
  simp [ofType]

/-- Where pages end is told by the numbers of reports that come first. -/
theorem uncut_iff_unsplit {siteId : Option Id} {rows : List Report}
    {answers : Answers db.toTables organizationId projectId}
    (h : (listed siteId answers).Perm rows) :
    (∀ p, Uncut Report.key (p * n) (listed siteId answers)) ↔ Unsplit n rows := by
  have hahead : ∀ x, ahead Report.key (listed siteId answers) x = ahead Report.key rows x :=
    fun x => h.countP_eq _
  have htied : ∀ x, tied Report.key (listed siteId answers) x = tied Report.key rows x :=
    fun x => h.countP_eq _
  simp only [uncut_iff (falling_listed siteId answers), hahead, htied, h.mem_iff]
  exact ⟨fun hall x hx p => hall p x hx, fun hall p x hx => hall x hx p⟩

/-! ## Every report once, from the newest to the oldest -/

variable (db organizationId projectId n) in
/-- The pages are every report once, the newest ones first. -/
def Complete : Prop :=
  ∀ answers : Nat → Answers db.toTables organizationId projectId,
    (readAll n answers).Perm (allReports db organizationId projectId) ∧
      (readAll n answers).Pairwise fun x y => y.instant ≤ x.instant

variable (db organizationId projectId) in
/-- Of the reports of one date that were created on one day, the field reports were created first. -/
def FieldFirst : Prop :=
  ∀ r s, .field r ∈ allReports db organizationId projectId →
    .shift s ∈ allReports db organizationId projectId → r.reportDate = s.date →
      r.createdAt.date = s.createdAt.date → r.createdAt ≤ s.createdAt

theorem instant_le_of_key_le (h : FieldFirst db organizationId projectId) {x y : Report}
    (hx : x ∈ allReports db organizationId projectId)
    (hy : y ∈ allReports db organizationId projectId) (hkey : y.key ≤ x.key) :
    y.instant ≤ x.instant := by
  by_contra hinstant
  have hplace : ¬ x.place < y.place := fun hlt =>
    (Prod.Lex.toLex_lt_toLex.2 (.inl hlt)).not_ge hkey
  have hx' := x.createdAt.microsecond_lt
  have hy' := y.createdAt.microsecond_lt
  have hkind := x.kind_lt
  have hkind' := y.kind_lt
  simp only [Report.instant, not_le, Prod.Lex.toLex_lt_toLex, Moment.serial] at hinstant
  simp only [Report.place_lt_iff, not_or, not_and, not_lt] at hplace
  rcases hinstant with hdate | ⟨hdate, hcreated⟩
  · omega
  have hlater := hplace.2 hdate
  have hday : x.createdAt.date.serial = y.createdAt.date.serial := by omega
  have hkinds : y.kind < x.kind := by omega
  cases x with
  | field r => cases hkinds
  | shift s =>
      cases y with
      | shift t => exact absurd hkinds (lt_irrefl _)
      | field r =>
          have hle := h r s hy hx (CalendarDate.serial_injective hdate.symm)
            (CalendarDate.serial_injective hday.symm)
          rw [Moment.le_def, Moment.serial, Moment.serial] at hle
          exact absurd hcreated hle.not_gt

theorem complete_of_conditions (h : FieldFirst db organizationId projectId)
    (hsplit : Unsplit n (allReports db organizationId projectId)) :
    Complete db organizationId projectId n := by
  intro answers
  have hls : ∀ p, (listed none (answers p)).Perm (listed none (answers 0)) ∧
      Falling Report.key (listed none (answers p)) := fun p =>
    ⟨(listed_perm_all _).trans (listed_perm_all _).symm, falling_listed none _⟩
  have hfalling := falling_listed none (answers 0)
  have hwhole : (listed none (answers 0)).take
      (pageCount (listed none (answers 0)).length n * n) = listed none (answers 0) :=
    List.take_of_length_le (le_pageCount _)
  have hperm := pages_perm (pageCount (listed none (answers 0)).length n) hfalling hls
    ((uncut_iff_unsplit (listed_perm_all _)).2 hsplit)
  rw [hwhole, ← readAll_eq] at hperm
  have hkeys := map_pages_key n (pageCount (listed none (answers 0)).length n)
    hfalling hls
  rw [hwhole, ← readAll_eq] at hkeys
  have hall := hperm.trans (listed_perm_all _)
  have hsorted : Falling Report.key (readAll n answers) := by
    have hpairwise : ((readAll n answers).map Report.key).Pairwise fun a b => b ≤ a := by
      rw [hkeys]
      exact List.pairwise_map.2 hfalling
    exact List.pairwise_map.1 hpairwise
  refine ⟨hall, hsorted.imp_of_mem fun hx hy hle => ?_⟩
  exact instant_le_of_key_le h (hall.mem_iff.1 hx) (hall.mem_iff.1 hy) hle

theorem readAll_const (answers : Answers db.toTables organizationId projectId) :
    readAll n (fun _ => answers) = listed none answers := by
  rw [readAll_eq, pages_const]
  exact List.take_of_length_le (le_pageCount _)

theorem fieldFirst_of_complete (h : Complete db organizationId projectId n) :
    FieldFirst db organizationId projectId := by
  intro r s hr hs hdate hday
  by_contra hcreated
  have hone := (h fun _ => Answers.stored db.toTables organizationId projectId).2
  rw [readAll_const] at hone
  have hall := listed_perm_all (Answers.stored db.toTables organizationId projectId)
  have heither := rel_or_rel (hone.and (falling_listed none _)) (hall.mem_iff.2 hr)
    (hall.mem_iff.2 hs) (field_ne_shift r s)
  have hinstant : (Report.shift s).instant < (Report.field r).instant :=
    Prod.Lex.toLex_lt_toLex.2 (.inr ⟨congrArg CalendarDate.serial hdate.symm, not_le.1 hcreated⟩)
  have hplace : (Report.field r).place < (Report.shift s).place := by
    have hmicro := r.createdAt.microsecond_lt
    refine Report.place_lt_iff.2 (.inr ⟨congrArg CalendarDate.serial hdate, ?_⟩)
    show (r.createdAt.date.serial * 2 + 0) * 86400000000 + r.createdAt.microsecond <
      (s.createdAt.date.serial * 2 + 1) * 86400000000 + s.createdAt.microsecond
    rw [hday]
    omega
  have hkey : (Report.field r).key < (Report.shift s).key :=
    Prod.Lex.toLex_lt_toLex.2 (.inl hplace)
  rcases heither with ⟨-, hle⟩ | ⟨hle, -⟩
  · exact absurd hle hkey.not_ge
  · exact absurd hle hinstant.not_ge

theorem unsplit_of_complete (h : Complete db organizationId projectId n) :
    Unsplit n (allReports db organizationId projectId) := by
  refine (uncut_iff_unsplit (listed_perm_all
    (Answers.stored db.toTables organizationId projectId))).1 fun p => ?_
  by_contra hcut
  obtain ⟨others, y, hy, hlost⟩ := exists_lost _ hcut
  have hperm := (h others).1
  rw [readAll_eq] at hperm
  obtain ⟨q, -, hmem⟩ := mem_pages.1 (hperm.mem_iff.2 ((listed_perm_all _).mem_iff.1 hy))
  exact hlost q hmem

variable (db organizationId projectId n) in
/-- Whatever order the database gives the shift reports for each page, the pages are every report
once, from the newest to the oldest, exactly if the field reports come first on every day and no
page ends between shift reports of one moment. -/
theorem pages_complete_iff : Complete db organizationId projectId n ↔
    FieldFirst db organizationId projectId ∧ Unsplit n (allReports db organizationId projectId) :=
  ⟨fun h => ⟨fieldFirst_of_complete h, unsplit_of_complete h⟩,
    fun h => complete_of_conditions h.1 h.2⟩

end Requests

namespace Sample

def july : CalendarDate := .of 2026 7 15 (by decide)

def julyAt (hour : Nat) (h : hour < 24) : Moment := ⟨july, hour * 3600000000, by omega⟩

/-- A visit to the site 1. -/
def visit : ProjectReport where
  id := 1
  organizationId := 1
  projectId := 1
  siteId := 1
  siteName := "North"
  reportType := .safetyReport
  reportDate := july
  title := "Visit"
  notes := none
  metres := none
  drillHoles := none
  averageDepth := none
  authorName := "Team member"
  storagePath := none
  fileName := none
  mimeType := none
  sizeBytes := none
  createdAt := julyAt 10 (by decide)
  metres_nonneg := fun _ h => absurd h (Option.not_mem_none _)

/-- A shift at the site 2. -/
def nightShift : DrillingShiftReport where
  id := 1
  organizationId := 1
  projectId := 1
  siteLocationId := some 2
  reportNumber := "SR-1"
  date := july
  shiftType := .night
  status := .approved
  supervisorId := none
  submittedById := none
  archived := false
  totalMetres := ⟨0, by decide +kernel⟩
  avgCoreRecoveryPct := none
  notes := none
  intervals := []
  createdAt := julyAt 8 (by decide)

/-- The night shift was reported two hours before the visit. -/
def oneDay : Archive where
  reports := .single visit
  shifts := .single nightShift
  holes := .empty
  locations := ⟨[⟨1, 1, "North", .projectSite, true⟩, ⟨2, 1, "South", .projectSite, true⟩],
    by decide⟩
  report_years := by decide
  shift_years := by decide

end Sample

/-- A shift report is listed before a field report of the same day that is newer. -/
theorem pages_complete_fails : ¬ ∀ (db : Archive) (organizationId projectId : Id) (n : PageSize),
    Complete db organizationId projectId n := by
  intro h
  have hone := (h Sample.oneDay 1 1 ⟨20, by decide⟩ fun _ => Answers.stored _ 1 1).2
  revert hone
  decide +kernel

end Cestos.Reports
