import Mathlib.Data.List.Basic
import Mathlib.Tactic.Common

/-!
# CSV files

Files as `csv.DictReader` reads them in the dialect of Excel: the reader goes over the lines
character by character, and a record may run over several lines.
-/

namespace Cestos.Inventory.Csv

/-! ## Records -/

inductive CsvError
  /-- `new-line character seen in unquoted field`. -/
  | newline
  /-- `field larger than field limit`. -/
  | fieldLimit
  deriving DecidableEq

inductive Phase
  | startRecord | startField | inField | inQuotedField | quoteInQuotedField | eatNewline
  deriving DecidableEq

structure Reader where
  phase : Phase
  /-- The characters of the field, the last first. -/
  field : List Char
  /-- The fields of the record, the last first. -/
  fields : List String

def Reader.start : Reader := ⟨.startRecord, [], []⟩

def quoteChar : Char := '\x22'

def IsNewline (c : Char) : Prop := c = '\n' ∨ c = '\r'

instance : DecidablePred IsNewline := fun c => inferInstanceAs (Decidable (c = '\n' ∨ c = '\r'))

/-- `parse_add_char`. -/
def Reader.add (r : Reader) (c : Char) (phase : Phase) : Except CsvError Reader :=
  if r.field.length < 131072 then .ok { r with field := c :: r.field, phase := phase }
  else .error .fieldLimit

/-- `parse_save_field`. -/
def Reader.save (r : Reader) (phase : Phase) : Reader :=
  ⟨phase, [], String.ofList r.field.reverse :: r.fields⟩

def Reader.startField (r : Reader) (c : Char) : Except CsvError Reader :=
  if IsNewline c then .ok (r.save .eatNewline)
  else if c = quoteChar then .ok { r with phase := .inQuotedField }
  else if c = ',' then .ok (r.save .startField)
  else r.add c .inField

/-- `parse_process_char`. -/
def Reader.char (r : Reader) (c : Char) : Except CsvError Reader :=
  match r.phase with
  | .startRecord => if IsNewline c then .ok { r with phase := .eatNewline } else r.startField c
  | .startField => r.startField c
  | .inField =>
    if IsNewline c then .ok (r.save .eatNewline)
    else if c = ',' then .ok (r.save .startField)
    else r.add c .inField
  | .inQuotedField =>
    if c = quoteChar then .ok { r with phase := .quoteInQuotedField } else r.add c .inQuotedField
  | .quoteInQuotedField =>
    if c = quoteChar then r.add c .inQuotedField
    else if c = ',' then .ok (r.save .startField)
    else if IsNewline c then .ok (r.save .eatNewline)
    else r.add c .inField
  | .eatNewline => if IsNewline c then .ok r else .error .newline

/-- `parse_process_char` at the end of a line. -/
def Reader.endLine (r : Reader) : Reader :=
  match r.phase with
  | .startRecord | .eatNewline => { r with phase := .startRecord }
  | .inQuotedField => r
  | .startField | .inField | .quoteInQuotedField => r.save .startRecord

/-- The lines of a text, with the newlines that end them. -/
def lines : List Char → List (List Char)
  | [] => []
  | c :: rest =>
    if c = '\n' then [c] :: lines rest
    else match lines rest with
      | [] => [[c]]
      | line :: more => (c :: line) :: more

/-- The records before the reader stops, and the error that stops it. -/
structure Records where
  records : List (List String)
  failure : Option CsvError

def records : Reader → List (List Char) → Records
  | r, [] =>
    if r.field = [] ∧ r.phase ≠ .inQuotedField then ⟨[], none⟩
    else ⟨[(r.save .startRecord).fields.reverse], none⟩
  | r, line :: rest =>
    match line.foldlM Reader.char r with
    | .error e => ⟨[], some e⟩
    | .ok r =>
      if r.endLine.phase = .startRecord then
        let more := records .start rest
        ⟨r.endLine.fields.reverse :: more.records, more.failure⟩
      else records r.endLine rest

/-! ## Rows -/

/-- A `dict`, in the order of its keys; `None` is the value of a column that a record lacks. -/
abbrev Dict : Type := List (String × Option String)

/-- `d[key] = value`. -/
def Dict.set : Dict → String → Option String → Dict
  | [], key, value => [(key, value)]
  | (k, v) :: rest, key, value =>
    if k = key then (k, value) :: rest else (k, v) :: Dict.set rest key value

structure Row where
  cells : Dict
  /-- Whether the record has more fields than the header. -/
  tooLong : Bool

/-- The row of a record under a header. -/
def row (names record : List String) : Row where
  cells := (names.zip (record.map some) ++ (names.drop record.length).map (·, none)).foldl
    (fun d (key, value) => Dict.set d key value) []
  tooLong := names.length < record.length

/-- What `csv.DictReader` yields; empty records are left out. -/
def dictReader (text : List Char) : List Row × Option CsvError :=
  match records .start (lines text) with
  | ⟨[], failure⟩ => ([], failure)
  | ⟨names :: rest, failure⟩ => ((rest.filter (· ≠ [])).map (row names), failure)

end Cestos.Inventory.Csv
