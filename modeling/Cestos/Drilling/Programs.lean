import Cestos.Core.Lookup
import Cestos.Drilling.Meterage

/-!
# Metres of the programs

A program is given the metres of the reports that name it, and the metres that other reports
drilled in its holes. What a report with a program of its own drilled in the holes of another one
is given to both.
-/

namespace Cestos.Drilling

open Cestos.Core

/-- A hole with its program. -/
structure ProgramHole extends DrillHole where
  programId : Option Id

/-- A report with its program. -/
structure ProgramReport extends DrillingShiftReport where
  organizationId : Id
  archived : Bool
  programId : Option Id

structure ProgramTables where
  holes : Table fun hole : ProgramHole => hole.id
  reports : Table fun report : ProgramReport => report.id

namespace ProgramTables

variable (db : ProgramTables) (organizationId : Id) (programs : List Id)

/-- The reports that are not archived. -/
def counted : List ProgramReport :=
  db.reports.rows.filter fun r => r.organizationId = organizationId ∧ r.archived = false

def programOf (iv : DrillingShiftInterval) : Option Id :=
  (db.holes.find? iv.drillHoleId).bind (·.programId)

/-- The program of a report, if it is one of the programs. -/
def ownProgram (r : ProgramReport) : Option Id := r.programId.filter (· ∈ programs)

/-- The program of the hole of an interval, if it is one of the programs and not that of the
report. -/
def otherProgram (r : ProgramReport) (iv : DrillingShiftInterval) : Option Id :=
  (db.programOf iv).filter fun p => p ∈ programs ∧ r.programId ≠ some p

/-- The rows of the first query, before they are grouped. -/
def reportRows : List (Id × ℚ) :=
  (db.counted organizationId).flatMap fun r =>
    (ownProgram programs r).toList.map fun p => (p, r.totalMetres.1)

/-- The rows of the second query, before they are grouped. -/
def holeRows : List (Id × ℚ) :=
  (db.counted organizationId).flatMap fun r => r.intervals.flatMap fun iv =>
    (db.otherProgram programs r iv).toList.map fun p => (p, iv.drilledMetres.1)

/-- `enrich_program_drilled_metres`. A program without rows has zero metres. -/
def enrichProgramDrilledMetres : List (Id × ℚ) :=
  let totals := addSums (fun _ => 0) (groupSums (db.reportRows organizationId programs))
  let totals := addSums totals (groupSums (db.holeRows organizationId programs))
  programs.map fun p => (p, totals p)

/-! ## All programs together -/

/-- An interval counts for a program by the first query, with its report, or by the second. -/
def CountsFor (r : ProgramReport) (iv : DrillingShiftInterval) (p : Id) : Prop :=
  ownProgram programs r = some p ∨ db.otherProgram programs r iv = some p

/-- No interval counts for two programs. -/
def CountedOnce : Prop :=
  ∀ r ∈ db.counted organizationId, ∀ iv ∈ r.intervals, ∀ p q,
    db.CountsFor programs r iv p → db.CountsFor programs r iv q → p = q

/-- The reports that name a program drill in no hole of another one. -/
def OwnHoles : Prop :=
  ∀ r ∈ db.counted organizationId, ∀ iv ∈ r.intervals, (ownProgram programs r).isSome = true →
    (db.otherProgram programs r iv).isNone = true

/-- The metres of a report in holes of other programs than its own. -/
def otherMetres (r : ProgramReport) : ℚ :=
  (r.intervals.map fun iv =>
    if (db.otherProgram programs r iv).isSome = true then iv.drilledMetres.1 else 0).sum

/-- The reports that name none of the programs. -/
def unassigned : List ProgramReport :=
  (db.counted organizationId).filter fun r => (ownProgram programs r).isNone

instance : Decidable (db.OwnHoles organizationId programs) :=
  inferInstanceAs (Decidable (∀ r ∈ _, ∀ iv ∈ _, _ = true → _ = true))

variable {db organizationId programs} {r : ProgramReport} {iv : DrillingShiftInterval} {p : Id}

theorem ownProgram_eq_some :
    ownProgram programs r = some p ↔ r.programId = some p ∧ p ∈ programs := by
  simp [ownProgram, Option.filter_eq_some_iff]

theorem otherProgram_eq_some : db.otherProgram programs r iv = some p ↔
    db.programOf iv = some p ∧ p ∈ programs ∧ r.programId ≠ some p := by
  simp [otherProgram, Option.filter_eq_some_iff]

theorem reportRows_keys : ∀ row ∈ db.reportRows organizationId programs, row.1 ∈ programs := by
  intro row hrow
  obtain ⟨r, -, hrow⟩ := List.mem_flatMap.1 hrow
  obtain ⟨p, hp, rfl⟩ := List.mem_map.1 hrow
  exact (ownProgram_eq_some.1 (Option.mem_toList.1 hp)).2

theorem holeRows_keys : ∀ row ∈ db.holeRows organizationId programs, row.1 ∈ programs := by
  intro row hrow
  obtain ⟨r, -, hrow⟩ := List.mem_flatMap.1 hrow
  obtain ⟨iv, -, hrow⟩ := List.mem_flatMap.1 hrow
  obtain ⟨p, hp, rfl⟩ := List.mem_map.1 hrow
  exact (otherProgram_eq_some.1 (Option.mem_toList.1 hp)).2.1

theorem sum_reportRows : ((db.reportRows organizationId programs).map (·.2)).sum =
    ((db.counted organizationId).map fun r =>
      if (ownProgram programs r).isNone = true then 0 else r.totalMetres.1).sum := by
  unfold reportRows
  induction db.counted organizationId with
  | nil => rfl
  | cons r reports ih =>
      rw [List.flatMap_cons, List.map_append, List.sum_append, ih, List.map_cons, List.sum_cons]
      cases ownProgram programs r <;> simp

theorem sum_holeRows : ((db.holeRows organizationId programs).map (·.2)).sum =
    ((db.counted organizationId).map (db.otherMetres programs)).sum := by
  unfold holeRows
  induction db.counted organizationId with
  | nil => rfl
  | cons r reports ih =>
      rw [List.flatMap_cons, List.map_append, List.sum_append, ih, List.map_cons, List.sum_cons]
      congr 1
      unfold otherMetres
      induction r.intervals with
      | nil => rfl
      | cons iv intervals ih =>
          rw [List.flatMap_cons, List.map_append, List.sum_append, ih, List.map_cons,
            List.sum_cons]
          cases db.otherProgram programs r iv <;> simp

theorem sum_drilledMetres (hnodup : programs.Nodup) :
    ((db.enrichProgramDrilledMetres organizationId programs).map (·.2)).sum =
      ((db.counted organizationId).map fun r =>
        if (ownProgram programs r).isNone = true then 0 else r.totalMetres.1).sum +
        ((db.counted organizationId).map (db.otherMetres programs)).sum := by
  have hall : ∀ rows : List (Id × ℚ), (∀ row ∈ rows, row.1 ∈ programs) →
      (programs.map (sumOf rows)).sum = (rows.map (·.2)).sum := by
    intro rows hkeys
    rw [sum_sumOf hnodup, List.filter_eq_self.2 fun row hrow => by simpa using hkeys row hrow]
  rw [← sum_reportRows, ← sum_holeRows, ← hall _ reportRows_keys, ← hall _ holeRows_keys,
    ← List.sum_map_add]
  simp only [enrichProgramDrilledMetres, List.map_map]
  refine congrArg List.sum (List.map_congr_left fun p _ => ?_)
  simp only [Function.comp_apply, addSums_apply, sumOf_groupSums, zero_add]

variable (programs) in
theorem sum_totalMetres : ((db.counted organizationId).map fun r => r.totalMetres.1).sum =
    ((db.counted organizationId).map fun r =>
      if (ownProgram programs r).isNone = true then 0 else r.totalMetres.1).sum +
      ((db.unassigned organizationId programs).map fun r => r.totalMetres.1).sum := by
  unfold unassigned
  induction db.counted organizationId with
  | nil => simp
  | cons r reports ih =>
      rw [List.map_cons, List.sum_cons, ih, List.map_cons, List.sum_cons]
      cases hown : ownProgram programs r <;> simp [hown] <;> ring

theorem countedOnce_iff :
    db.CountedOnce organizationId programs ↔ db.OwnHoles organizationId programs := by
  refine forall₄_congr fun r _ iv _ => ?_
  constructor
  · intro honce hown
    obtain ⟨p, hown⟩ := Option.isSome_iff_exists.1 hown
    rw [Option.isNone_iff_eq_none, Option.eq_none_iff_forall_ne_some]
    intro q hother
    obtain rfl := honce p q (.inl hown) (.inr hother)
    exact (otherProgram_eq_some.1 hother).2.2 (ownProgram_eq_some.1 hown).1
  · intro hnone p q hp hq
    cases hown : ownProgram programs r with
    | none =>
        have hother : ∀ {p}, db.CountsFor programs r iv p → db.otherProgram programs r iv = some p :=
          fun h => h.resolve_left (by simp [hown])
        exact Option.some.inj ((hother hp).symm.trans (hother hq))
    | some own =>
        have hother := Option.isNone_iff_eq_none.1 (hnone (by simp [hown]))
        have hself : ∀ {p}, db.CountsFor programs r iv p → p = own := fun h =>
          (Option.some.inj (hown.symm.trans (h.resolve_right (by simp [hother])))).symm
        rw [hself hp, hself hq]

/-- Only the reports without a program have metres in holes of other programs. -/
theorem OwnHoles.sum_otherMetres (h : db.OwnHoles organizationId programs) :
    ((db.counted organizationId).map (db.otherMetres programs)).sum =
      ((db.unassigned organizationId programs).map (db.otherMetres programs)).sum := by
  have hzero : ∀ r ∈ db.counted organizationId, (ownProgram programs r).isNone = false →
      db.otherMetres programs r = 0 := by
    intro r hr hown
    refine List.sum_eq_zero fun metres hmetres => ?_
    obtain ⟨iv, hiv, rfl⟩ := List.mem_map.1 hmetres
    have hnone := h r hr iv hiv (by simpa using hown)
    rw [if_neg (by simpa using hnone)]
  unfold unassigned
  revert hzero
  induction db.counted organizationId with
  | nil => exact fun _ => rfl
  | cons r reports ih =>
      intro hzero
      rw [List.map_cons, List.sum_cons, ih fun r hr => hzero r (List.mem_cons_of_mem _ hr)]
      cases hown : (ownProgram programs r).isNone with
      | false =>
          rw [List.filter_cons_of_neg (by simp [hown]), hzero r List.mem_cons_self hown, zero_add]
      | true => rw [List.filter_cons_of_pos (by simp [hown]), List.map_cons, List.sum_cons]

end ProgramTables

/-! ## A hole of two programs -/

namespace Sample

open ProgramTables

/-- The hole of the interval, in a program. -/
def holeIn (program : Id) : ProgramHole where
  id := 1
  holeNumber := "DH-1"
  projectId := 1
  siteLocationId := none
  targetDepthM := none
  finalDepthM := none
  status := .inProgress
  startedAt := none
  archived := false
  programId := some program

/-- Ten metres in the hole, reported for a program. -/
def reportFor (program : Option Id) : ProgramReport where
  toDrillingShiftReport := shift
  organizationId := 1
  archived := false
  programId := program

def drilledIn (hole : Id) (program : Option Id) : ProgramTables :=
  ⟨.single (holeIn hole), .single (reportFor program)⟩

end Sample

end Cestos.Drilling
