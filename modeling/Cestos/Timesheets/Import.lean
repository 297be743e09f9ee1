import Cestos.Core.Calendar
import Cestos.Core.Decimal.Column
import Cestos.Core.Outcome
import Cestos.Core.Table

/-!
# Grids of monthly hours

`parse_timesheet_csv`: the rows of a sheet with two header rows, one column for every day of a
month, and the totals. A sheet is read as a whole or refused.
-/

namespace Cestos.Timesheets

open Cestos.Core Cestos.Core.Decimal

abbrev Id := Nat

/-- What Python's `Decimal` reads: a coefficient with an exponent, an infinity or no number. -/
inductive Number
  | finite (coefficient exponent : Int)
  | infinite (negative : Bool)
  | nan (signaling : Bool)
  deriving DecidableEq

/-- The number of a month. -/
abbrev Month := {m : Nat // 1 ≤ m ∧ m ≤ 12}

/-- What the standard library knows of texts. -/
structure Env where
  strip : String → String
  casefold : String → String
  /-- `unicodedata.normalize("NFKD", value)`. -/
  nfkd : String → String
  /-- Word characters of regular expressions. -/
  isWord : Char → Bool
  digit : Char → Option Nat
  decimal : String → Option Number
  /-- The month of the day that spreadsheets give the number, where there is such a day. -/
  serialMonth : String → Option Month
  uuid : String → Option Id

/-- Why a grid is refused, with the parameters of the message. -/
inductive GridError
  /-- "Expected two header rows, daily columns, Hrs, and Total Days". -/
  | headers
  /-- "Unknown month abbreviation in {header!r}". -/
  | abbreviation (header : String)
  /-- "Could not determine report month from column: {header!r}". -/
  | month (header : String)
  /-- "The source filename must contain the report year, such as 'August 2026'". -/
  | year
  /-- "Expected {days} daily columns followed by Hrs and Total Days". -/
  | columns (days : Nat)
  /-- "Row {line} has {columns} columns; expected at least {least}". -/
  | width (line columns least : Nat)
  /-- "Row {line} has hours but no employee name". -/
  | nameless (line : Nat)
  /-- "Invalid hours at row {line}, day {day}: {value!r}". -/
  | hours (line day : Nat) (value : String)
  /-- "Hours must be between 0 and 24 with at most 2 decimals at row {line}, day {day}". -/
  | range (line day : Nat)
  /-- "Row {line} ({name}) Hrs total {stated} does not match daily sum {calculated}". -/
  | total (line : Nat) (name : String)
  /-- Python's `decimal.InvalidOperation`. -/
  | invalidOperation
  deriving DecidableEq

/-- Hours of a day. -/
abbrev Hours := {x : ℚ // OnGrid 2 x ∧ 0 ≤ x ∧ x ≤ 24}

structure Record where
  sourceName : String
  sourceName_ne : sourceName ≠ ""
  siteName : Option String
  /-- The numbers of the days with their hours. -/
  dailyHours : List (Nat × Hours)
  totalHours : ℚ
  sourceTotalDays : Option String
  lineNumber : Nat

/-- The month of the first day that `period_start` is. -/
structure Period where
  year : Nat
  month : Month
  deriving DecidableEq

/-- The first sheet of a workbook, or the lines of a file of comma-separated values. -/
structure GridFile where
  name : String
  stem : String
  rows : List (List String)
  deriving DecidableEq

/-! ## Headers -/

def monthNames : List String :=
  ["jan", "feb", "mar", "apr", "may", "jun", "jul", "aug", "sep", "oct", "nov", "dec"]

section Parse

variable (env : Env)

/-- The letters of a text that matches `(\d{1,2})-([A-Za-z]{3})`. -/
def namedMonth (text : List Char) : Option (List Char) :=
  let letters (l : List Char) := if l.length = 3 ∧ l.all (·.isAlpha) then some l else none
  match text with
  | a :: '-' :: rest => if (env.digit a).isSome then letters rest else none
  | a :: b :: '-' :: rest =>
    if (env.digit a).isSome ∧ (env.digit b).isSome then letters rest else none
  | _ => none

def reportMonth (header : String) : Except GridError Month :=
  match namedMonth env (env.strip header).toList with
  | some letters => do
    let index ← orError (monthNames.findFinIdx? (· = String.ofList (letters.map (·.toLower))))
      (.abbreviation header)
    .ok ⟨index + 1, Nat.succ_pos _, index.isLt⟩
  | none => orError (env.serialMonth (env.strip header)) (.month header)

/-- No word goes on here. -/
def boundary (c : Option Char) : Bool := ¬ c.any env.isWord

/-- A match of `\b(20\d{2})\b` at the start of a text, after a character. -/
def yearAt (before : Option Char) : List Char → Option Nat
  | '2' :: '0' :: a :: b :: rest =>
    if boundary env before ∧ boundary env rest.head? then
      match env.digit a, env.digit b with
      | some tens, some ones => some (2000 + 10 * tens + ones)
      | _, _ => none
    else none
  | _ => none

/-- The first match in a text. -/
def findYear (before : Option Char) : List Char → Option Nat
  | [] => none
  | c :: rest => (yearAt env before (c :: rest)).or (findYear (some c) rest)

/-! ## Rows -/

def value (coefficient exponent : Int) : ℚ := coefficient * 10 ^ exponent

theorem onGrid_value {coefficient exponent : Int} (h : -2 ≤ exponent) :
    OnGrid 2 (value coefficient exponent) := by
  obtain ⟨n, hn⟩ : ∃ n : Nat, exponent = (n : Int) - 2 := ⟨(exponent + 2).toNat, by omega⟩
  refine onGrid_iff.2 ⟨coefficient * 10 ^ n, ?_⟩
  rw [value, hn, zpow_sub₀ (by norm_num), zpow_natCast]
  push_cast
  norm_num
  ring

/-- The hours of a cell, none where it is empty. -/
def parseHours (line day : Nat) (cell : String) : Except GridError (Option (Nat × Hours)) :=
  if env.strip cell = "" then .ok none else
    match env.decimal (env.strip cell) with
    | none => .error (.hours line day (env.strip cell))
    | some (.nan _) => .error .invalidOperation
    | some (.infinite _) => .error (.range line day)
    | some (.finite coefficient exponent) =>
      if h : (0 ≤ value coefficient exponent ∧ value coefficient exponent ≤ 24) ∧ -2 ≤ exponent then
        .ok (some (day, ⟨value coefficient exponent, onGrid_value h.2, h.1⟩))
      else .error (.range line day)

def dailySum (daily : List (Nat × Hours)) : ℚ := (daily.map (·.2.1)).sum

/-- The total that a row states is the sum of its hours. -/
def checkTotal (line : Nat) (name stated : String) (sum : ℚ) : Except GridError Unit :=
  match env.decimal (if env.strip stated = "" then "0" else env.strip stated) with
  | none | some (.nan true) => .error .invalidOperation
  | some (.nan false) | some (.infinite _) => .error (.total line name)
  | some (.finite coefficient exponent) =>
    ensure (value coefficient exponent = sum) (.total line name)

def given (text : String) : Option String := if text = "" then none else some text

/-- A row of a month of `days` days; blank rows and footers have no record. -/
def parseRow (days : Nat) (cells : List String) (line : Nat) : Except GridError (Option Record) :=
  if ∀ cell ∈ cells, env.strip cell = "" then .ok none else
  if cells.length ≤ days + 4 then .error (.width line cells.length (days + 5)) else
  let cell (i : Nat) := cells[i]?.getD ""
  let name := env.strip (cell 0)
  if name = "" ∧ env.casefold (env.strip (cell 1)) ∈ ["hrs", "hours", "total"] then .ok none else
  if hname : name = "" then .error (.nameless line) else do
    let found ← (((cells.drop 3).take days).zipIdx 1).mapM fun c => parseHours env line c.2 c.1
    let dailyHours := found.filterMap id
    checkTotal env line name (cell (days + 3)) (dailySum dailyHours)
    .ok (some {
      sourceName := name
      sourceName_ne := hname
      siteName := given (env.strip (cell 1))
      dailyHours
      totalHours := dailySum dailyHours
      sourceTotalDays := given (env.strip (cell (days + 4)))
      lineNumber := line })

/-- `parse_timesheet_csv`. -/
def parseTimesheet (file : GridFile) : Except GridError (Period × List Record) :=
  match file.rows with
  | _ :: header :: first :: rest => do
    ensure (6 ≤ header.length) .headers
    let month ← reportMonth env (header[3]?.getD "")
    let year ← orError (findYear env none file.stem.toList) .year
    let days := monthLength year month
    ensure (days + 4 < header.length) (.columns days)
    let records ← ((first :: rest).zipIdx 3).mapM fun row => parseRow env days row.1 row.2
    .ok (⟨year, month⟩, records.filterMap id)
  | _ => .error .headers

end Parse

/-!
## The import of timesheets

`run` of the import script: the names of a grid are matched with employees, and timesheets are
written if every row has its employee and none has a timesheet from elsewhere. What is printed is
left out, and so are the suggestions for names.
-/

structure Employee where
  id : Id
  organizationId : Id
  firstName : String
  middleName : Option String
  lastName : String
  preferredName : Option String

structure TimesheetDay where
  workDate : CalendarDate
  hours : Hours

structure EmployeeTimesheet where
  id : Id
  organizationId : Id
  employeeId : Option Id
  period : Period
  siteName : Option String
  sourceFile : Option String
  days : Table TimesheetDay.workDate

/-- The columns of `uq_employee_timesheet_employee_period`. -/
def EmployeeTimesheet.employeePeriod (t : EmployeeTimesheet) : Option (Id × Id × Period) :=
  t.employeeId.map fun id => (t.organizationId, id, t.period)

structure TimesheetTable where
  table : Table EmployeeTimesheet.id
  unique : table.UniqueOn EmployeeTimesheet.employeePeriod

namespace TimesheetTable

def insert? (ts : TimesheetTable) (row : EmployeeTimesheet) : Option TimesheetTable :=
  if h : ts.table.Apart EmployeeTimesheet.employeePeriod row then
    (ts.table.insert? row).pmap (fun table hinsert => ⟨table, ts.unique.insert h hinsert⟩)
      fun _ hinsert => hinsert
  else none

theorem insert?_rows {ts ts' : TimesheetTable} {row : EmployeeTimesheet}
    (h : ts.insert? row = some ts') : ts'.table.rows = ts.table.rows ++ [row] := by
  unfold insert? at h
  split at h
  · obtain ⟨table, -, hinsert, rfl⟩ := Option.pmap_eq_some_iff.1 h
    exact Table.insert?_rows hinsert
  · cases h

end TimesheetTable

structure Database where
  employees : Table Employee.id
  timesheets : TimesheetTable

structure Command where
  organizationId : Id
  file : GridFile
  mapping : List (String × String)
  apply : Bool
  applyLocal : Bool

inductive RunError
  | grid (e : GridError)
  /-- "Refusing to import: APP_ENV must be production when --apply is set". -/
  | notProduction
  /-- "Refusing local import: APP_ENV is production". -/
  | production
  /-- No such day. -/
  | value
  /-- A text is too long for its column. -/
  | data
  | integrity

section Run

variable (env : Env)

/-! ### Names -/

/-- The words of letters and digits, in lower case. -/
def normalizeName (value : String) : String :=
  let ascii := String.ofList ((env.nfkd value).toList.filter (·.toNat < 128))
  let key (c : Char) : Bool := c.isLower || c.isDigit
  -- runs of other characters part the words, as single ones do
  " ".intercalate ((((env.casefold ascii).toList.splitOnP (¬ key ·)).filter (· ≠ [])).map
    String.ofList)

def employeeNameKeys (e : Employee) : List String :=
  let names (first : String) :=
    [first ++ " " ++ e.middleName.getD "" ++ " " ++ e.lastName, first ++ " " ++ e.lastName]
  let preferred := (e.preferredName.filter (· ≠ "")).toList
  (((e.firstName :: preferred).flatMap names).map (normalizeName env)).filter (· ≠ "")

/-- The only element. -/
def only {α : Type} : List α → Option α
  | [a] => some a
  | _ => none

def matchEmployee (sourceName : String) (employees : List Employee)
    (mapping : List (String × String)) : Option Employee :=
  match (mapping.lookup sourceName).filter (· ≠ "") with
  | some mappedId => do
    let selectedId ← env.uuid mappedId
    only (employees.filter (·.id = selectedId))
  | none =>
    only (employees.filter (normalizeName env sourceName ∈ employeeNameKeys env ·))

/-! ### Rows -/

/-- What the loop over the rows has found. -/
structure Progress where
  matchedEmployeeIds : List (Id × String)
  unmatched : List String
  pending : List (Record × Employee)

variable (db : Database) (command : Command) (period : Period)

def selected : List Employee :=
  db.employees.rows.filter (·.organizationId = command.organizationId)

def matchRecord (r : Record) : Option Employee :=
  matchEmployee env r.sourceName (selected db command) command.mapping

/-- The timesheet of the month that an employee has. Its index is unique. -/
def existing (id : Id) : Option EmployeeTimesheet :=
  db.timesheets.table.rows.find? (·.employeePeriod = some (command.organizationId, id, period))

def turn (p : Progress) (r : Record) : Progress :=
  let conflict (p : Progress) : Progress := { p with unmatched := p.unmatched ++ [r.sourceName] }
  match matchRecord env db command r with
  | none => conflict p
  | some e =>
    if (p.matchedEmployeeIds.find? (·.1 = e.id)).any (·.2 ≠ "") then conflict p else
    let p := { p with matchedEmployeeIds := p.matchedEmployeeIds ++ [(e.id, r.sourceName)] }
    match existing db command period e.id with
    | some row => if row.sourceFile = some command.file.name then p else conflict p
    | none => { p with pending := p.pending ++ [(r, e)] }

def look (records : List Record) : Progress :=
  records.foldl (turn env db command period) ⟨[], [], []⟩

/-! ### Writing -/

/-- `date(period_start.year, period_start.month, day)`. -/
def Period.date? (period : Period) (day : Nat) : Option CalendarDate :=
  if h : 1 ≤ day ∧ day ≤ monthLength period.year period.month then
    some ⟨period.year, period.month, day, period.month.2.1, period.month.2.2, h.1, h.2⟩
  else none

def dayOf (day : Nat × Hours) : Except RunError TimesheetDay := do
  let workDate ← orError (period.date? day.1) .value
  .ok ⟨workDate, day.2⟩

def insertDays (daily : List (Nat × Hours)) : Except RunError (Table TimesheetDay.workDate) :=
  daily.foldlM (fun days day => do
    let row ← dayOf period day
    orError (days.insert? row) .integrity) .empty

def insertRow (id : Id) (ts : TimesheetTable) (r : Record) (e : Employee) :
    Except RunError TimesheetTable := do
  ensure (r.siteName.all (·.length ≤ 200) ∧ command.file.name.length ≤ 255) .data
  let days ← insertDays period r.dailyHours
  orError (ts.insert? {
    id
    organizationId := command.organizationId
    employeeId := some e.id
    period
    siteName := r.siteName
    sourceFile := some command.file.name
    days }) .integrity

/-- `uuid4` gives the ids of the rows. -/
def write (uuid4 : Nat → Id) (pending : List (Record × Employee)) : Except RunError TimesheetTable :=
  pending.zipIdx.foldlM (fun ts row => insertRow command period (uuid4 row.2) ts row.1.1 row.1.2)
    db.timesheets

def gridOf (file : GridFile) : Except RunError (Period × List Record) :=
  (parseTimesheet env file).mapError .grid

/-- The exit code, with the timesheets that are committed. -/
def run (production : Bool) (uuid4 : Nat → Id) : Except RunError (Nat × TimesheetTable) := do
  let grid ← gridOf env command.file
  let progress := look env db command grid.1 grid.2
  if progress.unmatched ≠ [] then .ok (2, db.timesheets)
  else if ¬ command.apply ∧ ¬ command.applyLocal then .ok (0, db.timesheets)
  else do
    ensure (command.apply → production) .notProduction
    ensure (command.applyLocal → ¬ production) .production
    let ts ← write db command grid.1 uuid4 progress.pending
    .ok (0, ts)

end Run

end Cestos.Timesheets
