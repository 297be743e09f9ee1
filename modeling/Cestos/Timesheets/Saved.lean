import Cestos.Core.Runs
import Cestos.Timesheets.Import

/-!
# Timesheets saved by requests

`_save_employee_timesheet` and the batches of it that an import sends. A request names an employee,
or somebody who is not registered, and a month; the sheet there is of both is written over.
-/

namespace Cestos.Timesheets

open Cestos.Core Cestos.Core.Decimal

/-! ## Rows and requests -/

/-- `lower` of the database, beside that of Python. -/
structure Texts where
  strip : String → String
  lower : String → String
  sqlLower : String → String

/-- `EmployeeTimesheet` with the names that it keeps and its days. -/
structure Timesheet where
  id : Id
  organizationId : Id
  employeeId : Option Id
  employeeName : Option String
  projectId : Option Id
  projectName : Option String
  scopeProjectId : Option Id
  period : Period
  siteName : Option String
  sourceFile : Option String
  days : Table TimesheetDay.workDate

/-- `EmployeeTimesheetWrite`. -/
structure TimesheetWrite where
  employeeId : Option Id
  employeeName : Option String
  projectId : Option Id
  projectName : Option String
  scopeProjectId : Option Id
  period : Period
  siteName : Option String
  sourceFile : Option String
  /-- A day is entered once, in the month, with at most 15 hours. -/
  entries : Table TimesheetDay.workDate
  inMonth : ∀ e ∈ entries.rows, e.workDate.year = period.year ∧ e.workDate.month = period.month.1
  hours : ∀ e ∈ entries.rows, e.hours.1 ≤ 15

/-- Whose month a sheet is: that of an employee, or of a name in lower case. -/
structure SheetKey where
  organizationId : Id
  who : Id ⊕ String
  period : Period
  deriving DecidableEq

/-- The columns of `uq_employee_timesheet_employee_period` and of
`uq_employee_timesheet_custom_name_period`. -/
def Timesheet.key? (texts : Texts) (row : Timesheet) : Option SheetKey :=
  match row.employeeId, row.employeeName with
  | some id, _ => some ⟨row.organizationId, .inl id, row.period⟩
  | none, some name => some ⟨row.organizationId, .inr (texts.sqlLower name), row.period⟩
  | none, none => none

/-- The two unique indexes. -/
structure Sheets (texts : Texts) where
  table : Table Timesheet.id
  unique : table.UniqueOn (Timesheet.key? texts)

inductive SaveError
  /-- "Enter the employee name from the source timesheet or select a registered employee". -/
  | nameless
  /-- "Project not found in this organization". -/
  | project
  /-- "Selected project scope not found in this organization". -/
  | scope
  /-- "Employee not found in this organization". -/
  | employee
  /-- "You can only report timesheets for a project assigned to you". -/
  | unassigned
  /-- "You can only report hours for an employee actively assigned to the selected project". -/
  | notOnProject
  /-- "Timesheet not found". -/
  | notFound
  /-- "Employee and period cannot be changed when editing a timesheet". -/
  | fixed
  | integrity
  deriving DecidableEq

/-- Who sends a request. -/
structure Reporter where
  id : Id
  organizationId : Id
  /-- `str(actor.portal_type or "").upper() == "FIELD_ADMIN"`. -/
  isFieldAdmin : Bool

/-- What the requests look up and do not write. -/
structure Directory where
  employees : List (Id × Id)
  projects : List (Id × Id)
  /-- `assigned_project_ids` of a user. -/
  assignedProjects : Id → List Id
  /-- The active assignments: organization, employee, project. -/
  assignments : List (Id × Id × Id)

section Save

variable (texts : Texts) (directory : Directory) (actor : Reporter)

/-- `(body.employee_name or "").strip()`. -/
def TimesheetWrite.name (w : TimesheetWrite) : String := texts.strip (w.employeeName.getD "")

/-- A text that is stripped, null when nothing is left. -/
def stripped (text : Option String) : Option String := given (texts.strip (text.getD ""))

/-- The source file, unless the request has none. -/
def TimesheetWrite.file (w : TimesheetWrite) : Option String :=
  (w.sourceFile.filter (· ≠ "")).map fun file => ((texts.strip file).take 255).toString

/-- What is refused before any sheet is read. -/
def check (w : TimesheetWrite) : Except SaveError Unit := do
  let employee := w.employeeId.filter fun id => (actor.organizationId, id) ∈ directory.employees
  ensure (employee ≠ none ∨ w.name texts ≠ "") .nameless
  ensure (∀ id ∈ w.projectId, (actor.organizationId, id) ∈ directory.projects) .project
  ensure (∀ id ∈ w.scopeProjectId, (actor.organizationId, id) ∈ directory.projects) .scope
  ensure (w.employeeId ≠ none → employee ≠ none) .employee
  match w.scopeProjectId.or w.projectId with
  | none => .ok ()
  | some projectId =>
    if actor.isFieldAdmin then do
      ensure (projectId ∈ directory.assignedProjects actor.id) .unassigned
      ensure (∀ id ∈ w.employeeId, (actor.organizationId, id, projectId) ∈ directory.assignments)
        .notOnProject
    else .ok ()

/-- A sheet as a request writes it over. -/
def TimesheetWrite.over (w : TimesheetWrite) (row : Timesheet) : Timesheet :=
  { row with
    siteName := stripped texts w.siteName
    sourceFile := (w.file texts).or row.sourceFile
    employeeName := given (w.name texts)
    projectId := w.projectId
    projectName := stripped texts w.projectName
    scopeProjectId := w.scopeProjectId
    days := w.entries }

/-- A sheet as a request creates it. -/
def TimesheetWrite.sheet (w : TimesheetWrite) (id : Id) : Timesheet where
  id := id
  organizationId := actor.organizationId
  employeeId := w.employeeId
  employeeName := given (w.name texts)
  projectId := w.projectId
  projectName := stripped texts w.projectName
  scopeProjectId := w.scopeProjectId
  period := w.period
  siteName := stripped texts w.siteName
  sourceFile := w.file texts
  days := w.entries

variable {texts}

/-- `UPDATE` of a row. -/
def Sheets.set? (s : Sheets texts) (row : Timesheet) : Option (Sheets texts) :=
  if h : s.table.Apart (Timesheet.key? texts) row then some ⟨s.table.set row, s.unique.set h⟩ else none

/-- `INSERT` of a row. -/
def Sheets.insert? (s : Sheets texts) (row : Timesheet) : Option (Sheets texts) :=
  if h : s.table.Apart (Timesheet.key? texts) row then
    (s.table.insert? row).pmap (fun table hinsert => ⟨table, s.unique.insert h hinsert⟩)
      fun _ hinsert => hinsert
  else none

/-- `_save_employee_timesheet` with the id of a sheet. -/
def Sheets.edit (s : Sheets texts) (id : Id) (w : TimesheetWrite) :
    Except SaveError (Sheets texts × Id) := do
  check texts directory actor w
  let row ← orError ((s.table.find? id).filter (·.organizationId = actor.organizationId)) .notFound
  ensure (row.employeeId = w.employeeId ∧ row.period = w.period) .fixed
  let s' ← orError (s.set? (w.over texts row)) .integrity
  .ok (s', id)

/-- The query for a sheet of the employee, or of the name, and the month. -/
def Sheets.existing (s : Sheets texts) (w : TimesheetWrite) : Option Timesheet :=
  match w.employeeId with
  | some id => s.table.rows.find? fun row =>
      row.organizationId = actor.organizationId ∧ row.period = w.period ∧ row.employeeId = some id
  | none => s.table.rows.find? fun row =>
      row.organizationId = actor.organizationId ∧ row.period = w.period ∧ row.employeeId = none ∧
        row.employeeName.map texts.sqlLower = some (texts.lower (w.name texts))

/-- `_save_employee_timesheet` without an id: a sheet that exists is edited. -/
def Sheets.save (fresh : Id) (s : Sheets texts) (w : TimesheetWrite) :
    Except SaveError (Sheets texts × Id) := do
  check texts directory actor w
  match s.existing actor w with
  | some row => s.edit directory actor row.id w
  | none =>
    let s' ← orError (s.insert? (w.sheet texts actor fresh)) .integrity
    .ok (s', fresh)

/-- One item of a batch; `uuid4` gives the ids of new rows. -/
def Sheets.saveNext (uuid4 : Nat → Id) (p : Sheets texts × List Id) (item : TimesheetWrite × Nat) :
    Except SaveError (Sheets texts × List Id) := do
  let saved ← p.1.save directory actor (uuid4 item.2) item.1
  .ok (saved.1, p.2 ++ [saved.2])

/-- `create_employee_timesheets_batch`. -/
def Sheets.saveAll (uuid4 : Nat → Id) (s : Sheets texts) (ws : List TimesheetWrite) :
    Except SaveError (Sheets texts × List Id) := do
  let saved ← ws.zipIdx.foldlM (Sheets.saveNext directory actor uuid4) (s, [])
  .ok (saved.1, saved.2.eraseDups)

end Save

inductive SheetRequest
  | create (actor : Reporter) (fresh : Id) (w : TimesheetWrite)
  | batch (actor : Reporter) (uuid4 : Nat → Id) (ws : List TimesheetWrite)
  | update (actor : Reporter) (id : Id) (w : TimesheetWrite)

variable {texts : Texts}

/-- The sheets that a request commits, with the ids that it answers. -/
def Sheets.respond (directory : Directory) (s : Sheets texts) :
    SheetRequest → Except SaveError (Sheets texts × List Id)
  | .create actor fresh w => (s.save directory actor fresh w).map fun p => (p.1, [p.2])
  | .batch actor uuid4 ws => s.saveAll directory actor uuid4 ws
  | .update actor id w => (s.edit directory actor id w).map fun p => (p.1, [p.2])

/-- A request that is refused leaves the sheets as they were. -/
def Sheets.serve (directory : Directory) : Sheets texts → SheetRequest → Sheets texts :=
  settled fun s r => (s.respond directory r).map Prod.fst

/-! ## Months -/

/-- What the requests are for: a sheet for each month of somebody. -/
abbrev Months := SheetKey → Option Timesheet

def Sheets.months (s : Sheets texts) : Months := s.table.byIndex (Timesheet.key? texts)

/-- Whose month a request is about. -/
def TimesheetWrite.key (texts : Texts) (actor : Reporter) (w : TimesheetWrite) : SheetKey where
  organizationId := actor.organizationId
  who := match w.employeeId with
    | some id => .inl id
    | none => .inr (texts.lower (w.name texts))
  period := w.period

/-- The sheet of a month after a request about it. -/
def TimesheetWrite.written (texts : Texts) (actor : Reporter) (fresh : Id) (w : TimesheetWrite) :
    Option Timesheet → Timesheet
  | none => w.sheet texts actor fresh
  | some row => w.over texts row

def Months.save (texts : Texts) (actor : Reporter) (fresh : Id) (m : Months) (w : TimesheetWrite) :
    Months :=
  Function.update m (w.key texts actor)
    (some (w.written texts actor fresh (m (w.key texts actor))))

/-- The items of a batch, one after the other. -/
def Months.saveAll (texts : Texts) (actor : Reporter) (uuid4 : Nat → Id) (m : Months)
    (items : List (TimesheetWrite × Nat)) : Months :=
  items.foldl (fun m item => m.save texts actor (uuid4 item.2) item.1) m

/-- The sheet with an id, in whatever month it is. -/
noncomputable def Months.withId (m : Months) (id : Id) : Option Timesheet :=
  open Classical in
  if h : ∃ row : Timesheet, (∃ k, m k = some row) ∧ row.id = id then some h.choose else none

/-- A sheet is written over, and moved to the month that the request names, if no other sheet is
there. -/
noncomputable def Months.edit (texts : Texts) (actor : Reporter) (m : Months) (id : Id)
    (w : TimesheetWrite) : Months :=
  match m.withId id with
  | none => m
  | some row =>
    if row.organizationId = actor.organizationId ∧ row.employeeId = w.employeeId ∧
        row.period = w.period ∧ ∀ other ∈ m (w.key texts actor), other.id = id then
      fun k => if w.key texts actor = k then some (w.over texts row)
        else (m k).filter fun other => other.id ≠ id
    else m

/-- What a request does to the months: a batch all that it says, or nothing. -/
noncomputable def Months.step (texts : Texts) (directory : Directory) (m : Months) :
    SheetRequest → Months
  | .create actor fresh w =>
    if (check texts directory actor w).isOk then m.save texts actor fresh w else m
  | .batch actor uuid4 ws =>
    if ∀ w ∈ ws, (check texts directory actor w).isOk then m.saveAll texts actor uuid4 ws.zipIdx
    else m
  | .update actor id w =>
    if (check texts directory actor w).isOk then m.edit texts actor id w else m

/-! ## Keys -/

section Keys

variable {directory : Directory} {actor : Reporter} {w : TimesheetWrite} {row : Timesheet}
  {s s' : Sheets texts}

/-- The database and Python agree on the name in lower case. -/
def TimesheetWrite.LowersAlike (texts : Texts) (w : TimesheetWrite) : Prop :=
  texts.sqlLower (w.name texts) = texts.lower (w.name texts)

/-- Every sheet has an employee or a name. -/
def Sheets.Keyed (s : Sheets texts) : Prop := ∀ row ∈ s.table.rows, row.key? texts ≠ none

theorem months_eq_some {k : SheetKey} :
    s.months k = some row ↔ row ∈ s.table.rows ∧ row.key? texts = some k :=
  Table.byIndex_eq_some s.unique

theorem name_of_check (h : check texts directory actor w = .ok ()) (hw : w.employeeId = none) :
    given (w.name texts) = some (w.name texts) := by
  simp only [check, ensure_bind_eq_ok, hw, Option.filter_none, ne_eq, not_true_eq_false,
    false_or] at h
  rw [given, if_neg h.1]

theorem key?_of_same (hcheck : check texts directory actor w = .ok ()) (hlower : w.LowersAlike texts)
    (horganization : row.organizationId = actor.organizationId)
    (hemployee : row.employeeId = w.employeeId) (hperiod : row.period = w.period)
    (hname : row.employeeName = given (w.name texts)) :
    row.key? texts = some (w.key texts actor) := by
  unfold Timesheet.key? TimesheetWrite.key
  rw [horganization, hemployee, hperiod, hname]
  cases hw : w.employeeId with
  | some id => rfl
  | none =>
      rw [name_of_check hcheck hw]
      simp only [hlower.symm]

theorem key?_sheet {fresh : Id} (hcheck : check texts directory actor w = .ok ())
    (hlower : w.LowersAlike texts) :
    (w.sheet texts actor fresh).key? texts = some (w.key texts actor) :=
  key?_of_same hcheck hlower rfl rfl rfl rfl

theorem key?_over (hcheck : check texts directory actor w = .ok ()) (hlower : w.LowersAlike texts)
    (horganization : row.organizationId = actor.organizationId)
    (hemployee : row.employeeId = w.employeeId) (hperiod : row.period = w.period) :
    (w.over texts row).key? texts = some (w.key texts actor) :=
  key?_of_same hcheck hlower horganization hemployee hperiod rfl

theorem existing_eq : s.existing actor w = s.months (w.key texts actor) := by
  unfold Sheets.existing Sheets.months Table.byIndex TimesheetWrite.key
  cases hw : w.employeeId with
  | some id =>
      simp only
      congr 1
      funext row
      rw [decide_eq_decide]
      unfold Timesheet.key?
      cases row.employeeId <;> cases row.employeeName <;> simp <;> tauto
  | none =>
      simp only
      congr 1
      funext row
      rw [decide_eq_decide]
      unfold Timesheet.key?
      cases row.employeeId with
      | some id => simp
      | none =>
          cases row.employeeName with
          | none => simp
          | some name =>
              simp
              tauto

theorem same_of_key? (h : row.key? texts = some (w.key texts actor)) :
    row.organizationId = actor.organizationId ∧ row.employeeId = w.employeeId ∧
      row.period = w.period := by
  unfold Timesheet.key? TimesheetWrite.key at h
  cases hw : w.employeeId <;> cases hrow : row.employeeId <;> cases hname : row.employeeName <;>
    simp_all

theorem withId_months (hs : s.Keyed) (id : Id) : s.months.withId id = s.table.find? id := by
  unfold Months.withId
  split
  · next h =>
    obtain ⟨⟨k, hk⟩, hid⟩ := h.choose_spec
    have hfind := Table.find?_of_mem (months_eq_some.1 hk).1
    rw [hid] at hfind
    exact hfind.symm
  · next h =>
    symm
    refine Table.find?_eq_none.2 fun row hrow hid => h ⟨row, ?_, hid⟩
    obtain ⟨k, hk⟩ := Option.ne_none_iff_exists'.1 (hs row hrow)
    exact ⟨k, months_eq_some.2 ⟨hrow, hk⟩⟩

/-! ## Writing -/

theorem months_written {k : SheetKey} (hwritten : s.table.Written s'.table row)
    (hk : row.key? texts = some k) :
    s'.months = fun k' => if k = k' then some row else (s.months k').filter fun other =>
      other.id ≠ row.id := by
  funext k'
  have hshown := Table.byIndex_written s.unique s'.unique hwritten k'
  rw [hk] at hshown
  simp only [Option.some.injEq] at hshown
  exact hshown

theorem keyed_written {k : SheetKey} (hs : s.Keyed) (hwritten : s.table.Written s'.table row)
    (hk : row.key? texts = some k) : s'.Keyed := by
  intro other hother
  cases (hwritten other).1 hother with
  | inl hold => exact hs other hold.1
  | inr heq => simp [heq, hk]

theorem apart_iff {k : SheetKey} (hk : row.key? texts = some k) :
    s.table.Apart (Timesheet.key? texts) row ↔ ∀ other ∈ s.months k, other.id = row.id := by
  constructor
  · intro hapart other hother
    have hrow := months_eq_some.1 hother
    by_contra hne
    exact hapart other hrow.1 hne k hk hrow.2
  · intro hsame other hother hne v hv hkey
    cases hk.symm.trans hv
    exact hne (hsame other (months_eq_some.2 ⟨hother, hkey⟩))

theorem filter_months {k k' : SheetKey} (hrow : s.months k = some row) (hne : k ≠ k') :
    (s.months k').filter (fun other => other.id ≠ row.id) = s.months k' := by
  cases hk' : s.months k' with
  | none => rfl
  | some other =>
      have hold := months_eq_some.1 hrow
      have hother := months_eq_some.1 hk'
      have hid : other.id ≠ row.id := by
        intro hid
        cases s.table.key_injective hother.1 hold.1 hid
        exact hne (Option.some.inj (hold.2.symm.trans hother.2))
      simp [Option.filter, hid]

theorem filter_months_fresh {id : Id} (hfresh : s.table.find? id = none) (k : SheetKey) :
    (s.months k).filter (fun other => other.id ≠ id) = s.months k := by
  cases hk : s.months k with
  | none => rfl
  | some other =>
      have hid := Table.find?_eq_none.1 hfresh other (months_eq_some.1 hk).1
      simp [Option.filter, hid]

theorem insert?_spec (hinsert : s.insert? row = some s') : s.table.Written s'.table row := by
  unfold Sheets.insert? at hinsert
  split at hinsert
  · obtain ⟨table, -, hrow, rfl⟩ := Option.pmap_eq_some_iff.1 hinsert
    exact Table.written_insert hrow
  · cases hinsert

theorem find?_written {id : Id} (hwritten : s.table.Written s'.table row) (hid : id ≠ row.id)
    (hnone : s.table.find? id = none) : s'.table.find? id = none := by
  refine Table.find?_eq_none.2 fun other hother heq => ?_
  cases (hwritten other).1 hother with
  | inl hold => exact Table.find?_eq_none.1 hnone other hold.1 heq
  | inr hrow => exact hid (by rw [← heq, hrow])

theorem edit_existing (hcheck : check texts directory actor w = .ok ())
    (hlower : w.LowersAlike texts) (hrow : s.months (w.key texts actor) = some row) :
    ∃ s', s.edit directory actor row.id w = .ok (s', row.id) ∧
      s.table.Written s'.table (w.over texts row) := by
  have hold := months_eq_some.1 hrow
  have hfind := Table.find?_of_mem hold.1
  obtain ⟨horganization, hemployee, hperiod⟩ := same_of_key? hold.2
  have hkey := key?_over hcheck hlower horganization hemployee hperiod
  have hapart : s.table.Apart (Timesheet.key? texts) (w.over texts row) :=
    (apart_iff hkey).2 fun other hother => by rw [hrow] at hother; cases hother; rfl
  refine ⟨⟨s.table.set (w.over texts row), s.unique.set hapart⟩, ?_, Table.written_set hfind⟩
  have hloaded : (s.table.find? row.id).filter (·.organizationId = actor.organizationId) =
      some row := by
    rw [hfind]
    simp [Option.filter, horganization]
  have hset : s.set? (w.over texts row) =
      some ⟨s.table.set (w.over texts row), s.unique.set hapart⟩ := dif_pos hapart
  simp [Sheets.edit, hcheck, hloaded, hemployee, hperiod, hset, orError, ensure]

/-- A request writes the sheet of its month, and answers its id. -/
theorem save_spec {fresh : Id} (hs : s.Keyed) (hcheck : check texts directory actor w = .ok ())
    (hlower : w.LowersAlike texts)
    (hfresh : s.months (w.key texts actor) ≠ none ∨ s.table.find? fresh = none) :
    ∃ s' id, s.save directory actor fresh w = .ok (s', id) ∧ s'.Keyed ∧
      s'.months = s.months.save texts actor fresh w ∧
      (s'.months (w.key texts actor)).map Timesheet.id = some id ∧
      ∀ other, other ≠ fresh → s.table.find? other = none → s'.table.find? other = none := by
  cases hexisting : s.months (w.key texts actor) with
  | some row =>
      obtain ⟨s', hedit, hwritten⟩ := edit_existing hcheck hlower hexisting
      have hold := months_eq_some.1 hexisting
      obtain ⟨horganization, hemployee, hperiod⟩ := same_of_key? hold.2
      have hkey := key?_over hcheck hlower horganization hemployee hperiod
      have hmonths := months_written hwritten hkey
      refine ⟨s', row.id, ?_, keyed_written hs hwritten hkey, ?_, ?_, fun other _ hnone => ?_⟩
      · simp [Sheets.save, hcheck, existing_eq, hexisting, hedit]
      · rw [hmonths]
        funext k
        by_cases hk : w.key texts actor = k
        · subst hk
          rw [if_pos rfl, Months.save, Function.update_self, hexisting]
          rfl
        · rw [if_neg hk, Months.save, Function.update_of_ne (Ne.symm hk)]
          exact (filter_months hexisting hk :)
      · simp [hmonths, TimesheetWrite.over]
      · refine find?_written hwritten (fun heq => ?_) hnone
        exact Table.find?_eq_none.1 hnone row hold.1 heq.symm
  | none =>
      have hunused : s.table.find? fresh = none := hfresh.resolve_left (absurd hexisting)
      have hkey : (w.sheet texts actor fresh).key? texts = some (w.key texts actor) :=
        key?_sheet hcheck hlower
      have hapart : s.table.Apart (Timesheet.key? texts) (w.sheet texts actor fresh) :=
        (apart_iff hkey).2 fun other hother => by rw [hexisting] at hother; cases hother
      have hnew : (w.sheet texts actor fresh).id ∉ s.table.rows.map Timesheet.id := by
        intro hmem
        obtain ⟨other, hother, hid⟩ := List.mem_map.1 hmem
        exact Table.find?_eq_none.1 hunused other hother hid
      obtain ⟨table, hinsert, -⟩ := Table.insert?_of_fresh hnew
      obtain ⟨s', hs'⟩ : ∃ s', s.insert? (w.sheet texts actor fresh) = some s' := by
        simp [Sheets.insert?, hapart, hinsert]
      have hwritten := insert?_spec hs'
      have hmonths := months_written hwritten hkey
      refine ⟨s', fresh, ?_, keyed_written hs hwritten hkey, ?_, ?_, fun other hne hnone => ?_⟩
      · simp [Sheets.save, hcheck, existing_eq, hexisting, hs', orError]
      · rw [hmonths]
        funext k
        by_cases hk : w.key texts actor = k
        · subst hk
          rw [if_pos rfl, Months.save, Function.update_self, hexisting]
          rfl
        · rw [if_neg hk, Months.save, Function.update_of_ne (Ne.symm hk)]
          exact filter_months_fresh hunused k
      · simp [hmonths, TimesheetWrite.sheet]
      · exact find?_written hwritten hne hnone

/-! ## Batches -/

variable {uuid4 : Nat → Id} {items : List (TimesheetWrite × Nat)}

/-- The items pass, and what they need of new ids are new ones. -/
def Sheets.Ready (directory : Directory) (actor : Reporter) (uuid4 : Nat → Id) (s : Sheets texts)
    (items : List (TimesheetWrite × Nat)) : Prop :=
  ∀ p ∈ items, check texts directory actor p.1 = .ok () ∧ p.1.LowersAlike texts ∧
    (s.months (p.1.key texts actor) ≠ none ∨
      s.table.find? (uuid4 p.2) = none ∧ ∀ q ∈ items, q.2 ≠ p.2 → uuid4 q.2 ≠ uuid4 p.2)

theorem save_isSome {m : Months} {fresh : Id} {k : SheetKey} (h : m k ≠ none) :
    m.save texts actor fresh w k ≠ none := by
  by_cases hk : k = w.key texts actor
  · simp [Months.save, hk]
  · rwa [Months.save, Function.update_of_ne hk]

theorem map_id_save {m : Months} {fresh : Id} {k : SheetKey} (h : m k ≠ none) :
    (m.save texts actor fresh w k).map Timesheet.id = (m k).map Timesheet.id := by
  by_cases hk : k = w.key texts actor
  · obtain ⟨row, hrow⟩ := Option.ne_none_iff_exists'.1 h
    subst hk
    rw [Months.save, Function.update_self, hrow]
    rfl
  · rw [Months.save, Function.update_of_ne hk]

theorem map_id_saveAll {m : Months} {k : SheetKey} (h : m k ≠ none) :
    (m.saveAll texts actor uuid4 items k).map Timesheet.id = (m k).map Timesheet.id := by
  induction items generalizing m with
  | nil => rfl
  | cons p items ih => exact (ih (save_isSome h)).trans (map_id_save h)

theorem saveAll_spec (answered : List Id) (hs : s.Keyed) (hnodup : (items.map Prod.snd).Nodup)
    (hready : s.Ready directory actor uuid4 items) :
    ∃ s' ids, items.foldlM (Sheets.saveNext directory actor uuid4) (s, answered) =
        .ok (s', answered ++ ids) ∧ s'.Keyed ∧
      s'.months = s.months.saveAll texts actor uuid4 items ∧
      ids.map some = items.map fun p => (s'.months (p.1.key texts actor)).map Timesheet.id := by
  induction items generalizing s answered with
  | nil => exact ⟨s, [], by simp, hs, rfl, rfl⟩
  | cons p items ih =>
      obtain ⟨hcheck, hlower, hid⟩ := hready p List.mem_cons_self
      obtain ⟨mid, id, hsave, hmid, hmonths, hanswer, hunused⟩ :=
        save_spec hs hcheck hlower (hid.imp_right And.left)
      rw [List.map_cons, List.nodup_cons] at hnodup
      have hrest : mid.Ready directory actor uuid4 items := by
        intro q hq
        obtain ⟨hcheck', hlower', hid'⟩ := hready q (List.mem_cons_of_mem p hq)
        refine ⟨hcheck', hlower', ?_⟩
        rw [hmonths]
        cases hid' with
        | inl hfound => exact .inl (save_isSome hfound)
        | inr hfresh =>
            have hne : q.2 ≠ p.2 := fun heq => hnodup.1 (heq ▸ List.mem_map_of_mem hq)
            have hother := hfresh.2 p List.mem_cons_self (Ne.symm hne)
            exact .inr ⟨hunused _ (Ne.symm hother) hfresh.1, fun r hr =>
              hfresh.2 r (List.mem_cons_of_mem p hr)⟩
      obtain ⟨s', ids, hfold, hs', hmonths', hids⟩ := ih (answered ++ [id]) hmid hnodup.2 hrest
      refine ⟨s', id :: ids, ?_, hs', ?_, ?_⟩
      · simp [Sheets.saveNext, hsave, hfold]
      · rw [hmonths', hmonths]
        rfl
      · rw [List.map_cons, List.map_cons, hids]
        have hkept : mid.months (p.1.key texts actor) ≠ none := by
          intro hnone
          rw [hnone] at hanswer
          cases hanswer
        rw [← hanswer, hmonths', map_id_saveAll hkept]

theorem check_of_save {fresh : Id} {p : Sheets texts × Id}
    (h : s.save directory actor fresh w = .ok p) : check texts directory actor w = .ok () := by
  obtain ⟨u, hu, -⟩ := bind_eq_ok.1 h
  exact hu

theorem check_of_saveAll {ws : List TimesheetWrite} {p : Sheets texts × List Id}
    (h : s.saveAll directory actor uuid4 ws = .ok p) :
    ∀ w ∈ ws, check texts directory actor w = .ok () := by
  obtain ⟨saved, hsaved, -⟩ := bind_eq_ok.1 h
  have hall := forall_of_foldlM (P := fun item : TimesheetWrite × Nat =>
    check texts directory actor item.1 = .ok ()) (fun q item q' _ hnext => by
      obtain ⟨r, hr, -⟩ := bind_eq_ok.1 hnext
      exact check_of_save hr) hsaved
  intro w hw
  rw [← List.zipIdx_map_fst 0 ws] at hw
  obtain ⟨item, hitem, rfl⟩ := List.mem_map.1 hw
  exact hall item hitem

/-! ## Runs -/

/-- The database and Python agree on the names in lower case, and `uuid4` gives new ids. -/
def SheetRequest.Regular (s : Sheets texts) : SheetRequest → Prop
  | .create _ fresh w => w.LowersAlike texts ∧ s.table.find? fresh = none
  | .batch _ uuid4 ws => (∀ w ∈ ws, w.LowersAlike texts) ∧ Function.Injective uuid4 ∧
      ∀ n, s.table.find? (uuid4 n) = none
  | .update _ _ w => w.LowersAlike texts

theorem mem_of_mem_zipIdx {ws : List TimesheetWrite} {item : TimesheetWrite × Nat}
    (h : item ∈ ws.zipIdx) : item.1 ∈ ws := by
  rw [← List.zipIdx_map_fst 0 ws]
  exact List.mem_map_of_mem h

theorem snd_zipIdx_nodup (ws : List TimesheetWrite) : (ws.zipIdx.map Prod.snd).Nodup := by
  rw [List.zipIdx_map_snd]
  exact List.nodup_range'

theorem serve_of_error {r : SheetRequest} {e : SaveError} (h : s.respond directory r = .error e) :
    s.serve directory r = s := by
  simp [Sheets.serve, settled, h, Except.map, Except.toOption]

theorem serve_of_ok {r : SheetRequest} {p : Sheets texts × List Id}
    (h : s.respond directory r = .ok p) : s.serve directory r = p.1 := by
  simp [Sheets.serve, settled, h, Except.map, Except.toOption]

theorem update_months {id : Id} (hs : s.Keyed) (hcheck : check texts directory actor w = .ok ())
    (hlower : w.LowersAlike texts) :
    (s.serve directory (.update actor id w)).Keyed ∧
      (s.serve directory (.update actor id w)).months = s.months.edit texts actor id w := by
  have hrefused : ∀ e, s.edit directory actor id w = .error e → s.months.edit texts actor id w =
      s.months → (s.serve directory (.update actor id w)).Keyed ∧
        (s.serve directory (.update actor id w)).months = s.months.edit texts actor id w := by
    intro e he hsame
    have herror : s.respond directory (.update actor id w) = .error e := by
      simp [Sheets.respond, he, Except.map]
    rw [serve_of_error herror, hsame]
    exact ⟨hs, rfl⟩
  have hwith := withId_months hs id
  cases hfind : s.table.find? id with
  | none =>
      refine hrefused .notFound ?_ ?_
      · simp [Sheets.edit, hcheck, hfind, orError, bind, Except.bind]
      · rw [Months.edit, hwith, hfind]
  | some row =>
      have hid : row.id = id := Table.key_of_find? hfind
      by_cases horganization : row.organizationId = actor.organizationId
      · by_cases hsame : row.employeeId = w.employeeId ∧ row.period = w.period
        · have hkey := key?_over hcheck hlower horganization hsame.1 hsame.2
          by_cases hapart : s.table.Apart (Timesheet.key? texts) (w.over texts row)
          · have hset : s.set? (w.over texts row) =
                some ⟨s.table.set (w.over texts row), s.unique.set hapart⟩ := dif_pos hapart
            have hok : s.respond directory (.update actor id w) =
                .ok (⟨s.table.set (w.over texts row), s.unique.set hapart⟩, [id]) := by
              simp [Sheets.respond, Sheets.edit, hcheck, hfind, Option.filter, horganization, hsame,
                hset, orError, ensure, Except.map]
            have hfound : s.table.find? (w.over texts row).id = some row := by
              rw [← hfind, ← hid]
              rfl
            have hwritten := Table.written_set hfound
            rw [serve_of_ok hok]
            refine ⟨keyed_written hs hwritten hkey, (months_written hwritten hkey).trans ?_⟩
            rw [Months.edit, hwith, hfind]
            simp only
            rw [if_pos ⟨horganization, hsame.1, hsame.2, hid ▸ (apart_iff hkey).1 hapart⟩, ← hid]
            rfl
          · have hset : s.set? (w.over texts row) = none := dif_neg hapart
            refine hrefused .integrity ?_ ?_
            · simp [Sheets.edit, hcheck, hfind, Option.filter, horganization, hsame, hset, orError,
                ensure, bind, Except.bind]
            · rw [apart_iff hkey] at hapart
              rw [Months.edit, hwith, hfind]
              exact if_neg fun hall => hapart (hid ▸ hall.2.2.2)
        · refine hrefused .fixed ?_ ?_
          · simp [Sheets.edit, hcheck, hfind, Option.filter, horganization, hsame, orError, ensure,
              bind, Except.bind]
          · rw [Months.edit, hwith, hfind]
            exact if_neg fun hall => hsame ⟨hall.2.1, hall.2.2.1⟩
      · refine hrefused .notFound ?_ ?_
        · simp [Sheets.edit, hcheck, hfind, Option.filter, horganization, orError, bind, Except.bind]
        · rw [Months.edit, hwith, hfind]
          exact if_neg fun hall => horganization hall.1

theorem serve_months {r : SheetRequest} (hs : s.Keyed) (hr : r.Regular s) :
    (s.serve directory r).Keyed ∧
      (s.serve directory r).months = s.months.step texts directory r := by
  cases r with
  | create actor fresh w =>
      cases hcheck : check texts directory actor w with
      | error e =>
          have herror : s.respond directory (.create actor fresh w) = .error e := by
            simp [Sheets.respond, Sheets.save, hcheck, bind, Except.bind, Except.map]
          rw [serve_of_error herror, Months.step, hcheck,
            if_neg (by simp [Except.isOk, Except.toBool])]
          exact ⟨hs, rfl⟩
      | ok u =>
          obtain ⟨s', id, hsave, hs', hmonths, -⟩ := save_spec hs hcheck hr.1 (.inr hr.2)
          have hok : s.respond directory (.create actor fresh w) = .ok (s', [id]) := by
            simp [Sheets.respond, hsave, Except.map]
          rw [serve_of_ok hok, Months.step, hcheck, if_pos (isOk_iff.2 ⟨u, rfl⟩)]
          exact ⟨hs', hmonths⟩
  | batch actor uuid4 ws =>
      obtain ⟨hlower, hinjective, hfresh⟩ := hr
      by_cases hall : ∀ w ∈ ws, (check texts directory actor w).isOk
      · have hready : s.Ready directory actor uuid4 ws.zipIdx := by
          intro item hitem
          obtain ⟨u, hu⟩ := isOk_iff.1 (hall item.1 (mem_of_mem_zipIdx hitem))
          exact ⟨hu, hlower item.1 (mem_of_mem_zipIdx hitem), .inr ⟨hfresh _, fun q _ hne heq =>
            hne (hinjective heq)⟩⟩
        obtain ⟨s', ids, hfold, hs', hmonths, -⟩ := saveAll_spec [] hs (snd_zipIdx_nodup ws) hready
        have hok : s.respond directory (.batch actor uuid4 ws) = .ok (s', ids.eraseDups) := by
          simp [Sheets.respond, Sheets.saveAll, hfold]
        rw [serve_of_ok hok, Months.step, if_pos hall]
        exact ⟨hs', hmonths⟩
      · cases hrespond : s.respond directory (.batch actor uuid4 ws) with
        | ok p =>
            refine absurd (fun w hw => ?_) hall
            exact isOk_iff.2 ⟨(), check_of_saveAll hrespond w hw⟩
        | error e =>
            rw [serve_of_error hrespond, Months.step, if_neg hall]
            exact ⟨hs, rfl⟩
  | update actor id w =>
      cases hcheck : check texts directory actor w with
      | error e =>
          have herror : s.respond directory (.update actor id w) = .error e := by
            simp [Sheets.respond, Sheets.edit, hcheck, bind, Except.bind, Except.map]
          rw [serve_of_error herror, Months.step, hcheck,
            if_neg (by simp [Except.isOk, Except.toBool])]
          exact ⟨hs, rfl⟩
      | ok u =>
          rw [Months.step, hcheck, if_pos (isOk_iff.2 ⟨u, rfl⟩)]
          exact update_months hs hcheck hr

end Keys

namespace Sample

def plainTexts : Texts := ⟨fun text => text.trimAscii.toString, String.toLower, String.toLower⟩

def registry : Directory := ⟨[(1, 1), (1, 2)], [(1, 1)], fun _ => [], []⟩

def reporter : Reporter := ⟨1, 1, false⟩

theorem january_isMonth : 1 ≤ 1 ∧ 1 ≤ 12 := by decide

theorem newYear_isDate : IsDate 2026 1 1 := by decide

theorem eight_isHours : OnGrid 2 8 ∧ 0 ≤ (8 : ℚ) ∧ (8 : ℚ) ≤ 24 := by decide +kernel

def newYear : TimesheetDay := ⟨.of 2026 1 1 newYear_isDate, 8, eight_isHours⟩

theorem newYear_inMonth : ∀ e ∈ (Table.single newYear : Table TimesheetDay.workDate).rows,
    e.workDate.year = 2026 ∧ e.workDate.month = 1 := by
  simp [newYear, CalendarDate.of]

theorem newYear_hours : ∀ e ∈ (Table.single newYear : Table TimesheetDay.workDate).rows,
    e.hours.1 ≤ 15 := by
  decide +kernel

/-- Eight hours of an employee on the first of January. -/
def eightHours (employeeId : Id) : TimesheetWrite where
  employeeId := some employeeId
  employeeName := none
  projectId := some 1
  projectName := none
  scopeProjectId := none
  period := ⟨2026, 1, january_isMonth⟩
  siteName := none
  sourceFile := none
  entries := .single newYear
  inMonth := newYear_inMonth
  hours := newYear_hours

/-- A batch for two employees that has the first one twice. -/
def newYearBatch : SheetRequest :=
  .batch reporter (· + 1) [eightHours 1, eightHours 2, eightHours 1]

theorem noSheets_unique :
    (Table.empty : Table Timesheet.id).UniqueOn (Timesheet.key? plainTexts) := by
  simp [Table.UniqueOn]

def noSheets : Sheets plainTexts := ⟨.empty, noSheets_unique⟩

theorem noSheets_keyed : noSheets.Keyed := by simp [Sheets.Keyed, noSheets]

theorem newYearBatch_regular : newYearBatch.Regular noSheets :=
  ⟨fun _ _ => rfl, fun _ _ h => Nat.succ.inj h, fun _ => rfl⟩

end Sample

section Retries

variable {texts : Texts} {directory : Directory} {actor : Reporter} {w : TimesheetWrite}
  {row : Timesheet} {s s' : Sheets texts} {uuid4 : Nat → Id} {items : List (TimesheetWrite × Nat)}

/-- A sheet that requests have written over, one after the other. -/
def overAll (texts : Texts) (ws : List TimesheetWrite) (row : Timesheet) : Timesheet :=
  ws.foldl (fun row w => w.over texts row) row

variable (texts) in
theorem over_absorbs : Absorbs fun row (w : TimesheetWrite) => w.over texts row where
  again row w := by cases hfile : w.file texts <;> simp [TimesheetWrite.over, hfile]
  between row w v := by
    cases hfile : w.file texts <;> simp [TimesheetWrite.over, hfile]

/-- The requests about a month. -/
def about (texts : Texts) (actor : Reporter) (k : SheetKey) (items : List (TimesheetWrite × Nat)) :
    List TimesheetWrite :=
  (items.filter fun p => p.1.key texts actor = k).map Prod.fst

variable (texts actor w) in
/-- Whatever was there, a request writes a sheet over, if only an empty one. -/
theorem exists_over (fresh : Id) (sheet : Option Timesheet) :
    ∃ row, w.written texts actor fresh sheet = w.over texts row := by
  cases sheet with
  | some row => exact ⟨row, rfl⟩
  | none =>
      refine ⟨{ w.sheet texts actor fresh with sourceFile := none }, ?_⟩
      simp [TimesheetWrite.written, TimesheetWrite.over, TimesheetWrite.sheet]

theorem saveAll_of_some {m : Months} {k : SheetKey} (h : m k = some row) :
    m.saveAll texts actor uuid4 items k = some (overAll texts (about texts actor k items) row) := by
  induction items generalizing m row with
  | nil => exact h
  | cons p items ih =>
      by_cases hk : p.1.key texts actor = k
      · have hnext : m.save texts actor (uuid4 p.2) p.1 k = some (p.1.over texts row) := by
          rw [Months.save, hk, Function.update_self, h]
          rfl
        refine (ih hnext).trans ?_
        simp [about, hk, overAll]
      · have hnext : m.save texts actor (uuid4 p.2) p.1 k = some row := by
          rw [Months.save, Function.update_of_ne (Ne.symm hk), h]
        refine (ih hnext).trans ?_
        simp [about, hk]

/-- What a batch leaves of a month, it has written over something. -/
theorem exists_overAll {m : Months} {k : SheetKey}
    (h : m.saveAll texts actor uuid4 items k = some row) :
    ∃ first, row = overAll texts (about texts actor k items) first := by
  induction items generalizing m with
  | nil => exact ⟨row, rfl⟩
  | cons p items ih =>
      by_cases hk : p.1.key texts actor = k
      · obtain ⟨first, hfirst⟩ := exists_over texts actor p.1 (uuid4 p.2) (m k)
        have hnext : m.save texts actor (uuid4 p.2) p.1 k = some (p.1.over texts first) := by
          rw [Months.save, hk, Function.update_self, hfirst]
        have hrow : (m.save texts actor (uuid4 p.2) p.1).saveAll texts actor uuid4 items k =
            some row := h
        rw [saveAll_of_some hnext, Option.some.injEq] at hrow
        refine ⟨first, hrow.symm.trans ?_⟩
        simp [about, hk, overAll]
      · obtain ⟨first, hfirst⟩ := ih h
        refine ⟨first, hfirst.trans ?_⟩
        simp [about, hk]

theorem saveAll_ne_none {m : Months} {k : SheetKey}
    (h : m k ≠ none ∨ ∃ p ∈ items, p.1.key texts actor = k) :
    m.saveAll texts actor uuid4 items k ≠ none := by
  induction items generalizing m with
  | nil => exact h.resolve_right (by simp)
  | cons p items ih =>
      refine ih ?_
      cases h with
      | inl hsome => exact .inl (save_isSome hsome)
      | inr hitem =>
          obtain ⟨q, hq, hk⟩ := hitem
          cases List.mem_cons.1 hq with
          | inl heq => exact .inl (by simp [Months.save, ← hk, heq])
          | inr hrest => exact .inr ⟨q, hrest, hk⟩

theorem saveAll_of_ne {m : Months} {k : SheetKey} (h : ∀ p ∈ items, p.1.key texts actor ≠ k) :
    m.saveAll texts actor uuid4 items k = m k := by
  induction items generalizing m with
  | nil => rfl
  | cons p items ih =>
      have hrest := ih (m := m.save texts actor (uuid4 p.2) p.1) fun q hq =>
        h q (List.mem_cons_of_mem p hq)
      refine hrest.trans ?_
      rw [Months.save, Function.update_of_ne (Ne.symm (h p List.mem_cons_self))]

/-- A batch that is repeated changes no month, whatever ids it draws. -/
theorem saveAll_again {m : Months} {uuid4' : Nat → Id} :
    (m.saveAll texts actor uuid4 items).saveAll texts actor uuid4' items =
      m.saveAll texts actor uuid4 items := by
  funext k
  cases hk : m.saveAll texts actor uuid4 items k with
  | some row =>
      obtain ⟨first, rfl⟩ := exists_overAll hk
      have hall : about texts actor k items ⊆ about texts actor k items := fun _ hw => hw
      exact (saveAll_of_some hk).trans (congrArg some ((over_absorbs texts).subset first hall))
  | none =>
      have hne : ∀ p ∈ items, p.1.key texts actor ≠ k := fun p hp heq =>
        saveAll_ne_none (.inr ⟨p, hp, heq⟩) hk
      rw [saveAll_of_ne hne, hk]

end Retries

end Cestos.Timesheets
