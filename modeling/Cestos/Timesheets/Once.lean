import Cestos.Core.Runs
import Cestos.Timesheets.Import

/-!
# Imports once

A run writes all the timesheets that a grid has more than there are, or none. As they name their
file, the same grid finds nothing more to write.
-/

namespace Cestos.Timesheets

open Cestos.Core

section Looked

variable (env : Env) (db : Database) (command : Command) (period : Period)

/-- The rows of a grid with their employees. -/
def pairs (records : List Record) : List (Record × Employee) :=
  records.filterMap fun r => (matchRecord env db command r).map (r, ·)

/-- Those without a timesheet of the month. -/
def due (records : List Record) : List (Record × Employee) :=
  (pairs env db command records).filter fun x => (existing db command period x.2.id).isNone

/-- What is found in rows without a conflict. -/
structure Settled (records : List Record) (p : Progress) : Prop where
  found : ∀ r ∈ records, (matchRecord env db command r).isSome
  ids : p.matchedEmployeeIds =
    (pairs env db command records).map fun x => (x.2.id, x.1.sourceName)
  nodup : ((pairs env db command records).map (·.2.id)).Nodup
  pending : p.pending = due env db command period records

variable {env db command period}

theorem pairs_append {records records' : List Record} :
    pairs env db command (records ++ records') =
      pairs env db command records ++ pairs env db command records' :=
  List.filterMap_append

theorem pairs_singleton {r : Record} {e : Employee} (h : matchRecord env db command r = some e) :
    pairs env db command [r] = [(r, e)] := by
  rw [pairs, List.filterMap_cons, h]
  rfl

theorem due_append {records records' : List Record} :
    due env db command period (records ++ records') =
      due env db command period records ++ due env db command period records' := by
  rw [due, pairs_append, List.filter_append]
  rfl

theorem settled_nil : Settled env db command period [] ⟨[], [], []⟩ where
  found := fun _ hr => absurd hr List.not_mem_nil
  ids := rfl
  nodup := List.nodup_nil
  pending := rfl

theorem Settled.fresh {records : List Record} {p : Progress} {id : Id}
    (h : Settled env db command period records p)
    (hid : ¬ (p.matchedEmployeeIds.find? (·.1 = id)).any (·.2 ≠ "")) :
    id ∉ (pairs env db command records).map (·.2.id) := by
  intro hmem
  obtain ⟨x, hx, hxid⟩ := List.mem_map.1 hmem
  have hfound : (p.matchedEmployeeIds.find? (·.1 = id)).isSome := by
    rw [List.find?_isSome, h.ids]
    exact ⟨(x.2.id, x.1.sourceName), List.mem_map_of_mem hx, decide_eq_true hxid⟩
  obtain ⟨seen, hseen⟩ := Option.isSome_iff_exists.1 hfound
  have hin := List.mem_of_find?_eq_some hseen
  rw [h.ids] at hin
  obtain ⟨y, -, rfl⟩ := List.mem_map.1 hin
  refine hid ?_
  rw [hseen]
  exact decide_eq_true y.1.sourceName_ne

theorem Settled.concat {records : List Record} {p p' : Progress} {r : Record} {e : Employee}
    (h : Settled env db command period records p) (he : matchRecord env db command r = some e)
    (hid : ¬ (p.matchedEmployeeIds.find? (·.1 = e.id)).any (·.2 ≠ ""))
    (hids : p'.matchedEmployeeIds = p.matchedEmployeeIds ++ [(e.id, r.sourceName)])
    (hpending : p'.pending = p.pending ++ due env db command period [r]) :
    Settled env db command period (records ++ [r]) p' where
  found := by
    refine List.forall_mem_append.2 ⟨h.found, List.forall_mem_singleton.2 ?_⟩
    rw [he]
    rfl
  ids := by
    rw [hids, h.ids, pairs_append, pairs_singleton he, List.map_append]
    rfl
  nodup := by
    rw [pairs_append, pairs_singleton he, List.map_append]
    refine List.nodup_append.2 ⟨h.nodup, List.nodup_singleton _, ?_⟩
    rintro id hmem id' hid' rfl
    rw [List.mem_singleton.1 hid'] at hmem
    exact h.fresh hid hmem
  pending := by rw [hpending, h.pending, due_append]

theorem settled_turn {records : List Record} {p : Progress} {r : Record}
    (h : p.unmatched = [] → Settled env db command period records p) :
    (turn env db command period p r).unmatched = [] →
      Settled env db command period (records ++ [r]) (turn env db command period p r) := by
  unfold turn
  split
  · intro hnone
    exact absurd hnone (List.append_ne_nil_of_right_ne_nil _ (List.cons_ne_nil _ _))
  next e he =>
    dsimp only
    split
    · intro hnone
      exact absurd hnone (List.append_ne_nil_of_right_ne_nil _ (List.cons_ne_nil _ _))
    next hid =>
      split
      next row hrow =>
        split
        · intro hnone
          refine (h hnone).concat he hid rfl ?_
          rw [due, pairs_singleton he, List.filter_singleton, hrow]
          exact (List.append_nil _).symm
        · intro hnone
          exact absurd hnone (List.append_ne_nil_of_right_ne_nil _ (List.cons_ne_nil _ _))
      next hrow =>
        intro hnone
        refine (h hnone).concat he hid rfl ?_
        rw [due, pairs_singleton he, List.filter_singleton, hrow]
        rfl

theorem settled_look {records : List Record}
    (h : (look env db command period records).unmatched = []) :
    Settled env db command period records (look env db command period records) :=
  foldl_along (R := fun before p => p.unmatched = [] → Settled env db command period before p)
    (fun _ => settled_turn) (fun _ => settled_nil) records h

end Looked

section Written

variable {command : Command} {period : Period}

/-- A timesheet has the days and the hours of its row. -/
structure IsTimesheet (command : Command) (period : Period) (x : Record × Employee)
    (t : EmployeeTimesheet) : Prop where
  organizationId : t.organizationId = command.organizationId
  employeeId : t.employeeId = some x.2.id
  month : t.period = period
  siteName : t.siteName = x.1.siteName
  sourceFile : t.sourceFile = some command.file.name
  days : (t.days.rows.map fun d => (d.workDate.year, d.workDate.month, d.workDate.day, d.hours)) =
    x.1.dailyHours.map fun d => (period.year, period.month.1, d.1, d.2)

theorem IsTimesheet.employeePeriod {x : Record × Employee} {t : EmployeeTimesheet}
    (h : IsTimesheet command period x t) :
    t.employeePeriod = some (command.organizationId, x.2.id, period) := by
  rw [EmployeeTimesheet.employeePeriod, h.employeeId, h.organizationId, h.month]
  rfl

theorem dayOf_eq_ok {day : Nat × Hours} {d : TimesheetDay} (h : dayOf period day = .ok d) :
    (d.workDate.year, d.workDate.month, d.workDate.day, d.hours) =
      (period.year, period.month.1, day.1, day.2) := by
  simp only [dayOf, orError_bind_eq_ok, Except.ok.injEq] at h
  obtain ⟨date, hdate, rfl⟩ := h
  unfold Period.date? at hdate
  split at hdate
  · cases hdate
    rfl
  · cases hdate

theorem insertDays_eq_ok {daily : List (Nat × Hours)} {days : Table TimesheetDay.workDate}
    (h : insertDays period daily = .ok days) :
    (days.rows.map fun d => (d.workDate.year, d.workDate.month, d.workDate.day, d.hours)) =
      daily.map fun d => (period.year, period.month.1, d.1, d.2) := by
  obtain ⟨added, hrows, hadded⟩ := Table.foldlM_insert? h
  rw [hrows, Table.empty_rows, List.nil_append]
  exact map_eq_of_forall₂ hadded fun _ _ => dayOf_eq_ok

theorem insertRow_eq_ok {id : Id} {ts ts' : TimesheetTable} {x : Record × Employee}
    (h : insertRow command period id ts x.1 x.2 = .ok ts') :
    ∃ t, ts'.table.rows = ts.table.rows ++ [t] ∧ IsTimesheet command period x t := by
  simp only [insertRow, bind_eq_ok, orError_eq_ok] at h
  obtain ⟨_, -, days, hdays, hinsert⟩ := h
  exact ⟨_, TimesheetTable.insert?_rows hinsert, rfl, rfl, rfl, rfl, rfl, insertDays_eq_ok hdays⟩

theorem write_eq_ok {db : Database} {uuid4 : Nat → Id} {pending : List (Record × Employee)}
    {ts : TimesheetTable} (h : write db command period uuid4 pending = .ok ts) :
    ∃ added, ts.table.rows = db.timesheets.table.rows ++ added ∧
      List.Forall₂ (IsTimesheet command period) pending added := by
  obtain ⟨added, hrows, hadded⟩ := foldlM_along
    (R := fun before (ts : TimesheetTable) => ∃ added,
      ts.table.rows = db.timesheets.table.rows ++ added ∧
        List.Forall₂ (fun x t => IsTimesheet command period x.1 t) before added)
    (fun {before s x s'} hs hturn => by
      obtain ⟨added, hrows, hadded⟩ := hs
      obtain ⟨t, hrows', ht⟩ := insertRow_eq_ok hturn
      exact ⟨added ++ [t], by rw [hrows', hrows, List.append_assoc],
        List.rel_append hadded (.cons ht .nil)⟩)
    ⟨[], (List.append_nil _).symm, .nil⟩ h
  refine ⟨added, hrows, ?_⟩
  rw [List.nil_append] at hadded
  have hfirst := List.forall₂_map_left_iff.2 hadded
  rwa [List.zipIdx_map_fst] at hfirst

end Written

section Runs

variable (env : Env) (db : Database) (command : Command) (production : Bool) (uuid4 : Nat → Id)

/-- What is stored after a run; one that raises rolls back. -/
def stored : TimesheetTable :=
  match run env db command production uuid4 with
  | .ok (_, ts) => ts
  | .error _ => db.timesheets

/-- A run that writes and ends well. -/
def Applies (ts : TimesheetTable) : Prop :=
  (command.apply ∨ command.applyLocal) ∧ run env db command production uuid4 = .ok (0, ts)

/-- Every row has its employee, no two of them the same one. To the timesheets of before are added
those of the rows whose employee had none of the month, one for each. -/
structure Imported (period : Period) (records : List Record) (ts : TimesheetTable)
    (added : List EmployeeTimesheet) : Prop where
  parsed : parseTimesheet env command.file = .ok (period, records)
  found : ∀ r ∈ records, (matchRecord env db command r).isSome
  apart : ((pairs env db command records).map (·.2.id)).Nodup
  rows : ts.table.rows = db.timesheets.table.rows ++ added
  each : ∀ x ∈ due env db command period records, ∃ t ∈ added, IsTimesheet command period x t ∧
    ∀ t' ∈ added, t'.employeeId = some x.2.id → t' = t
  only_due : ∀ t ∈ added, ∃ x ∈ due env db command period records, IsTimesheet command period x t
  once : (added.map (·.employeeId)).Nodup

variable {env db command production uuid4}

theorem gridOf_eq_ok {file : GridFile} {grid : Period × List Record} :
    gridOf env file = .ok grid ↔ parseTimesheet env file = .ok grid := by
  unfold gridOf
  cases parseTimesheet env file <;> simp [Except.mapError]

theorem due_nodup (period : Period) {records : List Record}
    (h : ((pairs env db command records).map (·.2.id)).Nodup) :
    ((due env db command period records).map (·.2.id)).Nodup :=
  h.sublist (List.filter_sublist.map _)

/-- A run leaves the timesheets as they are, or has settled its rows and writes them. -/
theorem run_eq_ok {code : Nat} {ts : TimesheetTable}
    (h : run env db command production uuid4 = .ok (code, ts)) :
    ts = db.timesheets ∧ (code = 2 ∨ ¬ (command.apply ∨ command.applyLocal)) ∨
      ∃ period records p, (code = 0 ∧ (command.apply ∨ command.applyLocal)) ∧
        parseTimesheet env command.file = .ok (period, records) ∧
        Settled env db command period records p ∧
        write db command period uuid4 (due env db command period records) = .ok ts := by
  simp only [run, bind_eq_ok, gridOf_eq_ok] at h
  obtain ⟨⟨period, records⟩, hgrid, h⟩ := h
  split at h
  · simp only [Except.ok.injEq, Prod.mk.injEq] at h
    exact .inl ⟨h.2.symm, .inl h.1.symm⟩
  next hnone =>
    have hsettled := settled_look (not_not.1 hnone)
    split at h
    next hdry =>
      simp only [Except.ok.injEq, Prod.mk.injEq] at h
      exact .inl ⟨h.2.symm, .inr (not_or.2 hdry)⟩
    next hwet =>
      simp only [bind_eq_ok, Except.ok.injEq, Prod.mk.injEq] at h
      obtain ⟨_, -, _, -, _, hwrite, rfl, rfl⟩ := h
      rw [hsettled.pending] at hwrite
      exact .inr ⟨period, records, _, ⟨rfl, or_iff_not_and_not.2 hwet⟩, hgrid, hsettled, hwrite⟩

theorem imported_write {period : Period} {records : List Record} {p : Progress}
    {ts : TimesheetTable} (hparsed : parseTimesheet env command.file = .ok (period, records))
    (hsettled : Settled env db command period records p)
    (hwrite : write db command period uuid4 (due env db command period records) = .ok ts) :
    ∃ added, Imported env db command period records ts added := by
  obtain ⟨added, hrows, hadded⟩ := write_eq_ok hwrite
  have hids : added.map (·.employeeId) =
      (due env db command period records).map fun x => some x.2.id :=
    map_eq_of_forall₂ hadded fun _ _ ht => ht.employeeId
  have honce : (added.map (·.employeeId)).Nodup := by
    have hsome := (due_nodup period hsettled.nodup).map (Option.some_injective Id)
    rw [List.map_map] at hsome
    rw [hids]
    exact hsome
  refine ⟨added, hparsed, hsettled.found, hsettled.nodup, hrows, fun x hx => ?_,
    exists_left hadded, honce⟩
  obtain ⟨t, ht, hx⟩ := exists_right hadded x hx
  exact ⟨t, ht, hx, fun t' ht' hid =>
    List.inj_on_of_nodup_map honce ht' ht (hid.trans hx.employeeId.symm)⟩

/-- Every row of a grid that was imported has its timesheet. -/
theorem Imported.exists_existing {period : Period} {records : List Record} {ts : TimesheetTable}
    {added : List EmployeeTimesheet} (h : Imported env db command period records ts added)
    {x : Record × Employee} (hx : x ∈ pairs env db command records) :
    (existing { db with timesheets := ts } command period x.2.id).isSome := by
  rw [existing, List.find?_isSome]
  show ∃ t ∈ ts.table.rows, _
  rw [h.rows]
  by_cases hdue : x ∈ due env db command period records
  · obtain ⟨t, ht, hrow, -⟩ := h.each x hdue
    exact ⟨t, List.mem_append_right _ ht, decide_eq_true hrow.employeePeriod⟩
  · have hsome : (existing db command period x.2.id).isSome := by
      by_contra hnone
      refine hdue (List.mem_filter.2 ⟨hx, ?_⟩)
      simpa using hnone
    rw [existing, List.find?_isSome] at hsome
    obtain ⟨t, ht, hkey⟩ := hsome
    exact ⟨t, List.mem_append_left _ ht, hkey⟩

theorem Imported.due_eq_nil {period : Period} {records : List Record} {ts : TimesheetTable}
    {added : List EmployeeTimesheet} (h : Imported env db command period records ts added) :
    due env { db with timesheets := ts } command period records = [] := by
  refine List.filter_eq_nil_iff.2 fun x hx hnone => ?_
  rw [Option.isNone_iff_eq_none] at hnone
  have hsome := h.exists_existing hx
  rw [hnone] at hsome
  cases hsome

theorem Imported.stored_again {period : Period} {records : List Record} {ts : TimesheetTable}
    {added : List EmployeeTimesheet} (h : Imported env db command period records ts added)
    (apply applyLocal production : Bool) (uuid4 : Nat → Id) :
    stored env { db with timesheets := ts } { command with apply, applyLocal } production uuid4 =
      ts := by
  unfold stored
  split
  next code ts' hrun =>
    rcases run_eq_ok hrun with ⟨hts, -⟩ | ⟨period', records', p, -, hgrid, -, hwrite⟩
    · exact hts
    · obtain ⟨rfl, rfl⟩ := Prod.mk.inj (Except.ok.inj (hgrid.symm.trans h.parsed))
      have hnil := h.due_eq_nil
      change write _ _ _ _ (due env { db with timesheets := ts } command _ _) = _ at hwrite
      rw [hnil] at hwrite
      exact (Except.ok.inj hwrite).symm
  · rfl

variable (env db command production uuid4) in
/-- A run that applies and ends well imports its file, and further runs find nothing to write. All
other runs leave the timesheets as they are. -/
theorem imports_once :
    (∀ ts, Applies env db command production uuid4 ts →
      stored env db command production uuid4 = ts ∧
        ∃ period records added, Imported env db command period records ts added ∧
          ∀ apply applyLocal production' uuid4',
            stored env { db with timesheets := ts } { command with apply, applyLocal } production'
              uuid4' = ts) ∧
      ((∀ ts, ¬ Applies env db command production uuid4 ts) →
        stored env db command production uuid4 = db.timesheets) := by
  constructor
  · rintro ts ⟨happly, hrun⟩
    refine ⟨by rw [stored, hrun], ?_⟩
    rcases run_eq_ok hrun with ⟨-, hcode | hdry⟩ | ⟨period, records, p, -, hgrid, hsettled, hwrite⟩
    · cases hcode
    · exact absurd happly hdry
    · obtain ⟨added, hadded⟩ := imported_write hgrid hsettled hwrite
      exact ⟨period, records, added, hadded, hadded.stored_again⟩
  · intro hnot
    unfold stored
    split
    next code ts hrun =>
      rcases run_eq_ok hrun with ⟨hts, -⟩ | ⟨_, _, _, ⟨rfl, happly⟩, -⟩
      · exact hts
      · exact absurd ⟨happly, hrun⟩ (hnot ts)
    · rfl

end Runs

namespace Sample

def library : Env where
  strip := id
  casefold := fun text => String.ofList (text.toList.map Char.toLower)
  nfkd := id
  isWord := Char.isAlphanum
  digit := fun c => if c.isDigit then some (c.toNat - 48) else none
  decimal := fun text => if text = "7.5" then some (.finite 75 (-1)) else none
  serialMonth := fun _ => none
  uuid := fun _ => none

/-- A month of 28 days, one of them worked. -/
def hours : GridFile where
  name := "Hours 2026.csv"
  stem := "Hours 2026"
  rows := [[], "Name" :: "Site" :: "Rate" :: "1-Feb" :: List.replicate 29 "",
    "Ada  Moore" :: "North" :: "" :: "7.5" :: List.replicate 27 "" ++ ["7.5", "1"]]

def office : Database where
  employees := .single ⟨7, 1, "Ada", some "B", "Moore", none⟩
  timesheets := ⟨.empty, fun _ h => absurd h List.not_mem_nil⟩

def order : Command := ⟨1, hours, [], false, true⟩

end Sample

open Sample in
/-- The day is written for the employee, whose middle name the grid leaves out. -/
example :
    ((run library office order false id).toOption.map fun outcome =>
      (outcome.1, outcome.2.table.rows.map fun t =>
        (t.employeeId, t.days.rows.map fun d => (d.workDate.day, d.hours.1)))) =
      some (0, [(some 7, [(1, 15 / 2)])]) := by
  decide +kernel

end Cestos.Timesheets
