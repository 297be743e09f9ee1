import Cestos.Reports.Pages

/-!
# The list of a site

Field reports are selected by their own site. Shift reports are all shown or all left out, by the
site that the organization is found to have.
-/

namespace Cestos.Reports

open Cestos.Core

/-- The site that a report is for. -/
def Report.siteId : Report → Option Id
  | .field r => some r.siteId
  | .shift s => s.siteLocationId

section Sites

variable (db : Archive) (organizationId projectId : Id) (n : PageSize) (siteId : Id)

def reportsFor : List Report :=
  (allReports db organizationId projectId).filter (·.siteId = some siteId)

/-- The sites that may be found for an organization. -/
def possibleSites : List (Option Location) :=
  if projectSites db.toTables organizationId = [] then [none]
  else (projectSites db.toTables organizationId).map some

/-- The pages of a site are the reports of the whole list that are for it. -/
def Selects : Prop :=
  ∀ (answers : Nat → Answers db.toTables organizationId projectId)
    (unfiltered : Answers db.toTables organizationId projectId) (x : Report),
    (∃ p, x ∈ (reports (request n (some siteId) p) (answers p)).items.map (·.report)) ↔
      x ∈ (combined none none unfiltered).map (·.report) ∧ x.siteId = some siteId

/-- Shift reports are for the site exactly if the organization may have no other one. -/
def ShiftsAtSite : Prop :=
  ∀ s ∈ openShifts db.toTables organizationId projectId, ∀ found ∈ possibleSites db organizationId,
    (∀ site ∈ found, site.id = siteId) ↔ s.siteLocationId = some siteId

variable {db organizationId projectId n siteId}

theorem projectSite_mem_possible (answers : Answers db.toTables organizationId projectId) :
    answers.projectSite ∈ possibleSites db organizationId := by
  unfold possibleSites
  split
  next hnone =>
    cases hsite : answers.projectSite with
    | none => exact List.mem_singleton_self _
    | some site =>
        have hmem := answers.projectSite_mem site hsite
        rw [hnone] at hmem
        cases hmem
  next hsome =>
    cases hsite : answers.projectSite with
    | none => exact absurd (answers.projectSite_none hsite) hsome
    | some site => exact List.mem_map_of_mem (answers.projectSite_mem site hsite)

theorem showsShifts_iff {found : Option Location} :
    showsShifts none (some siteId) found ↔ ∀ site ∈ found, site.id = siteId := by
  cases found <;> simp [showsShifts, eq_comm]

variable (projectId) in
theorem exists_answers {found : Option Location} (h : found ∈ possibleSites db organizationId) :
    ∃ answers : Answers db.toTables organizationId projectId, answers.projectSite = found := by
  unfold possibleSites at h
  split at h
  next hnone =>
    obtain rfl := List.mem_singleton.1 h
    exact ⟨{ Answers.stored db.toTables organizationId projectId with
      projectSite := none
      projectSite_mem := fun _ hsite => absurd hsite (Option.not_mem_none _)
      projectSite_none := fun _ => hnone }, rfl⟩
  next =>
    obtain ⟨site, hsite, rfl⟩ := List.mem_map.1 h
    exact ⟨{ Answers.stored db.toTables organizationId projectId with
      projectSite := some site
      projectSite_mem := fun _ hmem => Option.some.inj hmem ▸ hsite
      projectSite_none := fun hnone => absurd hnone (Option.some_ne_none site) }, rfl⟩

theorem listed_perm_reportsFor (h : ShiftsAtSite db organizationId projectId siteId)
    (answers : Answers db.toTables organizationId projectId) :
    (listed (some siteId) answers).Perm (reportsFor db organizationId projectId siteId) := by
  have hshown : (shown (some siteId) answers).Perm
      ((openShifts db.toTables organizationId projectId).filter (·.siteLocationId = some siteId)) := by
    unfold shown
    split
    next hshows =>
      refine answers.shiftRows_perm.trans (List.Perm.of_eq (List.filter_eq_self.2 fun s hs => ?_).symm)
      exact decide_eq_true
        ((h s hs _ (projectSite_mem_possible answers)).1 (showsShifts_iff.1 hshows))
    next hshows =>
      refine List.Perm.of_eq (List.filter_eq_nil_iff.2 fun s hs hsite => hshows ?_).symm
      exact showsShifts_iff.2
        ((h s hs _ (projectSite_mem_possible answers)).2 (of_decide_eq_true hsite))
  have hfields : (projectReportRows db.toTables organizationId projectId none (some siteId)).Perm
      ((db.reports.rows.filter fun r => r.organizationId = organizationId ∧
        r.projectId = projectId).filter (·.siteId = siteId)) := by
    refine (List.perm_insertionSort _ _).trans (List.Perm.of_eq ?_)
    rw [List.filter_filter]
    refine List.filter_congr fun r _ => ?_
    simp [ofType, eq_comm, Bool.and_comm, Bool.and_assoc]
  refine (listed_perm _ answers).trans ?_
  rw [reportsFor, allReports, List.filter_append, List.filter_map, List.filter_map]
  have hsites : ((fun x : Report => decide (x.siteId = some siteId)) ∘ Report.field) =
      fun r => decide (r.siteId = siteId) :=
    funext fun r => decide_eq_decide.2 Option.some_inj
  rw [hsites]
  exact (hfields.map _).append (hshown.map _)

theorem exists_mem_page {l : List Report} {x : Report} : (∃ p, x ∈ page n p l) ↔ x ∈ l := by
  constructor
  · rintro ⟨p, hx⟩
    exact mem_of_mem_page hx
  · intro hx
    have hle : l.length ≤ l.length * n := Nat.le_mul_of_pos_right _ n.2.1
    rw [← List.take_of_length_le hle, ← pages_const] at hx
    obtain ⟨p, -, hp⟩ := mem_pages.1 hx
    exact ⟨p, hp⟩

theorem mem_reportsFor {x : Report} (unfiltered : Answers db.toTables organizationId projectId) :
    x ∈ reportsFor db organizationId projectId siteId ↔
      x ∈ listed none unfiltered ∧ x.siteId = some siteId := by
  rw [reportsFor, List.mem_filter, (listed_perm_all unfiltered).mem_iff, decide_eq_true_eq]

theorem selects_of_conditions (h : ShiftsAtSite db organizationId projectId siteId)
    (hsplit : Unsplit n (reportsFor db organizationId projectId siteId)) :
    Selects db organizationId projectId n siteId := by
  intro answers unfiltered x
  have hls : ∀ p, (listed (some siteId) (answers p)).Perm (listed (some siteId) (answers 0)) ∧
      Falling Report.key (listed (some siteId) (answers p)) := fun p =>
    ⟨(listed_perm_reportsFor h _).trans (listed_perm_reportsFor h _).symm, falling_listed _ _⟩
  refine Iff.trans ?_ (mem_reportsFor unfiltered)
  simp only [items_reports]
  constructor
  · rintro ⟨p, hx⟩
    exact (listed_perm_reportsFor h _).mem_iff.1 (mem_of_mem_page hx)
  · intro hx
    have hperm := pages_perm (listed (some siteId) (answers 0)).length
      (falling_listed _ _) hls ((uncut_iff_unsplit (listed_perm_reportsFor h _)).2 hsplit)
    rw [List.take_of_length_le (Nat.le_mul_of_pos_right _ n.2.1)] at hperm
    obtain ⟨p, -, hp⟩ := mem_pages.1
      (hperm.mem_iff.2 ((listed_perm_reportsFor h (answers 0)).mem_iff.2 hx))
    exact ⟨p, hp⟩

theorem shiftsAtSite_of_selects (h : Selects db organizationId projectId n siteId) :
    ShiftsAtSite db organizationId projectId siteId := by
  intro s hs found hfound
  obtain ⟨answers, rfl⟩ := exists_answers projectId hfound
  have hone := h (fun _ => answers) answers (.shift s)
  simp only [items_reports, exists_mem_page] at hone
  have hin : Report.shift s ∈ listed none answers :=
    mem_listed.2 (.inr ⟨s, answers.shiftRows_perm.mem_iff.2 hs, rfl⟩)
  have hshown : Report.shift s ∈ listed (some siteId) answers ↔
      showsShifts none (some siteId) answers.projectSite := by
    rw [mem_listed]
    constructor
    · rintro (⟨r, -, heq⟩ | ⟨t, ht, -⟩)
      · exact absurd heq.symm (field_ne_shift r s)
      · by_contra hnot
        rw [shown, if_neg hnot] at ht
        cases ht
    · intro hshows
      refine .inr ⟨s, ?_, rfl⟩
      rw [shown, if_pos hshows]
      exact answers.shiftRows_perm.mem_iff.2 hs
  rw [← showsShifts_iff, ← hshown, hone]
  exact ⟨fun hboth => hboth.2, fun hsite => ⟨hin, hsite⟩⟩

theorem unsplit_of_selects (h : Selects db organizationId projectId n siteId) :
    Unsplit n (reportsFor db organizationId projectId siteId) := by
  have hperm := listed_perm_reportsFor (shiftsAtSite_of_selects h)
    (Answers.stored db.toTables organizationId projectId)
  refine (uncut_iff_unsplit hperm).1 fun p => ?_
  by_contra hcut
  obtain ⟨others, y, hy, hlost⟩ := exists_lost _ hcut
  obtain ⟨q, hmem⟩ := (h others (Answers.stored db.toTables organizationId projectId) y).2
    ((mem_reportsFor _).1 (hperm.mem_iff.1 hy))
  rw [items_reports] at hmem
  exact hlost q hmem

variable (db organizationId projectId n siteId) in
/-- The pages of a site are its reports exactly if the shift reports are all for the only site that
the organization may be found to have, or all for others, and no page ends between shift reports of
one moment. -/
theorem site_pages_iff : Selects db organizationId projectId n siteId ↔
    ShiftsAtSite db organizationId projectId siteId ∧
      Unsplit n (reportsFor db organizationId projectId siteId) :=
  ⟨fun h => ⟨shiftsAtSite_of_selects h, unsplit_of_selects h⟩,
    fun h => selects_of_conditions h.1 h.2⟩

end Sites

/-- A shift report of the second site is shown for the first one. -/
theorem site_pages_fail : ¬ ∀ (db : Archive) (organizationId projectId : Id) (n : PageSize)
    (siteId : Id), Selects db organizationId projectId n siteId := by
  intro h
  have hshift := (h Sample.oneDay 1 1 ⟨20, by decide⟩ 1 (fun _ => Answers.stored _ 1 1)
    (Answers.stored _ 1 1) (.shift Sample.nightShift)).1 ⟨0, by decide +kernel⟩
  exact absurd hshift.2 (by decide)

end Cestos.Reports
