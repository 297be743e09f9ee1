import Mathlib.Data.List.Dedup
import Mathlib.Data.Rat.Cast.Order
import Cestos.Core.Json
import Cestos.Core.Outcome

/-!
# Sheets of a shared workbook

What `clean_workbook` lets through of a sheet. The payload is whatever a client sends; a sheet is
checked and copied field by field, and hidden sheets are left out.
-/

namespace Cestos.Shares

open Cestos.Core Cestos.Core.Json

/-- An `HTTPException`, or another exception that is not handled. -/
inductive Refusal
  | http (status : Nat) (detail : String)
  | raised
  deriving DecidableEq

def invalid (detail : String) : Refusal := .http 422 detail

/-- What the text functions of Python do: `str.strip`, `str.lower`, the value of a decimal digit,
`repr`, and how many bytes `b64decode` finds, unless it raises. -/
structure Env where
  strip : String → String
  lower : String → String
  digit : Char → Option Nat
  repr : Json → String
  b64decode : String → Option Nat

/-- A sheet that was let through. -/
structure PublicSheet where
  id : String
  name : String
  cells : List Json
  widths : List Json
  heights : List Json
  merges : List Json
  formats : Members
  settings : Members
  folderId : Option String
  media : List (String × List String)

def shorten (length : Nat) (text : String) : String := String.ofList (text.toList.take length)

/-! ## Coordinates -/

/-- The digits of a row and a column, as `\d+:\d+` matches them. -/
def splitCoordinates (env : Env) (key : String) : Option (List Char × List Char) :=
  let row := key.toList.takeWhile fun c => c ≠ ':'
  let column := (key.toList.dropWhile fun c => c ≠ ':').tail
  if ':' ∈ key.toList ∧ row ≠ [] ∧ column ≠ [] ∧
      (row ++ column).all (fun c => (env.digit c).isSome) = true then
    some (row, column)
  else none

/-- More digits than this `int` does not convert. -/
def maxStrDigits : Nat := 4300

def readInt (env : Env) (digits : List Char) : Option Nat :=
  if maxStrDigits < digits.length then none
  else some (digits.foldl (fun n c => 10 * n + (env.digit c).getD 0) 0)

/-- The corners of an area. -/
structure Area where
  r : Int
  c : Int
  er : Int
  ec : Int

def Area.read (m : Json) : Option Area := do
  let members ← m.members?
  let r ← (getD members "r" .null).int?
  let c ← (getD members "c" .null).int?
  let er ← (getD members "er" .null).int?
  let ec ← (getD members "ec" .null).int?
  some ⟨r, c, er, ec⟩

def Area.within (rows columns : Nat) (a : Area) : Prop :=
  (0 ≤ a.r ∧ a.r ≤ a.er ∧ a.er < rows) ∧ 0 ≤ a.c ∧ a.c ≤ a.ec ∧ a.ec < columns

instance (rows columns : Nat) : DecidablePred (Area.within rows columns) :=
  fun _ => inferInstanceAs (Decidable ((_ ∧ _ ∧ _) ∧ _ ∧ _ ∧ _))

def Area.cells (a : Area) : List (Nat × Nat) :=
  (List.range' a.r.toNat (a.er.toNat + 1 - a.r.toNat)).flatMap fun r =>
    (List.range' a.c.toNat (a.ec.toNat + 1 - a.c.toNat)).map fun c => (r, c)

def Area.json (a : Area) : Json :=
  .obj [("r", .int a.r), ("c", .int a.c), ("er", .int a.er), ("ec", .int a.ec)]

/-! ## Cells and dimensions -/

def validRow (columns : Nat) : Json → Bool
  | .arr cells => cells.length = columns && cells.all fun cell =>
      cell.str?.any fun text => text.length ≤ 32767
  | _ => false

/-- A truth value counts as an integer; an integer that is too large for a float raises. -/
def checkDimension : Json → Except Refusal Unit
  | .bool _ => .ok ()
  | .int n =>
    if Nat.pow 2 1024 - Nat.pow 2 970 ≤ n.natAbs then .error .raised
    else ensure (0 ≤ n ∧ n ≤ 10000) (invalid "Invalid dimensions")
  | .float (some x) _ => ensure (0 ≤ x ∧ x ≤ 10000) (invalid "Invalid dimensions")
  | _ => .error (invalid "Invalid dimensions")

/-- The rows, the widths and the heights. -/
def dimensions (sheet : Members) : Option (List Json × List Json × List Json) := do
  let rows ← (getD sheet "cells" .null).items?
  let widths ← (getD sheet "widths" (.arr [])).items?
  let heights ← (getD sheet "heights" (.arr [])).items?
  if (1 ≤ rows.length ∧ rows.length ≤ 2000) ∧ (1 ≤ widths.length ∧ widths.length ≤ 100) ∧
      heights.length = rows.length then
    some (rows, widths, heights)
  else none

scoped instance cellLawful : LawfulBEq (Nat × Nat) := inferInstance

scoped instance folderLawful : LawfulBEq (Option String) := inferInstance

/-- The cells that are occupied after one more merge. -/
def occupy (rows columns : Nat) (occupied : List (Nat × Nat)) (m : Json) :
    Except Refusal (List (Nat × Nat)) := do
  let area ← orError ((Area.read m).filter fun a => a.within rows columns)
    (invalid "Invalid merge")
  ensure (∀ cell ∈ area.cells, cell ∉ occupied) (invalid "Overlapping merges")
  .ok (area.cells ++ occupied)

/-! ## Formats and settings -/

/-- A field that may be kept, left out, or refused. -/
abbrev Field := String × (Json → Except Refusal (Option Json))

/-- The fields of a configuration that are there and kept. -/
def pick (config : Members) (fields : List Field) : Except Refusal Members :=
  fields.foldlM (fun safe field =>
    match config.lookup field.1 with
    | none => .ok safe
    | some value => do
      let kept ← field.2 value
      .ok (safe ++ kept.toList.map fun v => (field.1, v))) []

def flag (field : String) : Field := (field, fun
  | .bool value => .ok (some (.bool value))
  | _ => .error (invalid "Invalid format"))

def choice (detail field : String) (allowed : List String) : Field := (field, fun value => do
  let text ← orError (value.str?.filter fun text => text ∈ allowed) (invalid detail)
  .ok (some (.str text)))

/-- `#[0-9a-fA-F]{6}`. -/
def isColor (text : String) : Bool :=
  match text.toList with
  | c :: digits => c = '#' && digits.length = 6 && digits.all fun d => d ∈ "0123456789abcdefABCDEF".toList
  | [] => false

def color (field : String) : Field := (field, fun value =>
  .ok ((value.str?.filter fun text => isColor text).map .str))

def text (field : String) : Field := (field, fun value =>
  .ok (value.str?.map fun text => .str (shorten 100 text)))

def number (field : String) : Field := (field, fun
  | .int n => .ok (if 0 ≤ n ∧ n ≤ 100 then some (.int n) else none)
  | .float (some x) text => .ok (if 0 ≤ x ∧ x ≤ 100 then some (.float (some x) text) else none)
  | _ => .ok none)

def formatFields : List Field :=
  ["bold", "italic", "underline", "strike", "wrap", "showSeconds"].map flag ++
  [choice "Invalid format" "dateOrder" ["ymd", "dmy", "mdy"],
    choice "Invalid format" "dateSeparator" ["-", "/", "."],
    choice "Invalid format" "timeClock" ["12", "24"],
    choice "Invalid format" "align" ["left", "center", "right"],
    choice "Invalid format" "vertical" ["top", "middle", "bottom"],
    choice "Invalid format" "dataType"
      ["general", "text", "number", "currency", "percent", "date", "time", "datetime"]] ++
  ["color", "background"].map color ++ ["fontName", "currency"].map text ++
  ["fontSize", "decimals"].map number

/-- The format of one cell. -/
def cleanFormat (env : Env) (rows columns : Nat) (entry : String × Json) :
    Except Refusal (String × Json) := do
  let (row, column) ← orError (splitCoordinates env entry.1) (invalid "Invalid format coordinates")
  let r ← orError (readInt env row) .raised
  let c ← orError (readInt env column) .raised
  ensure (r < rows ∧ c < columns) (invalid "Invalid format coordinates")
  let safe ← pick (entry.2.members?.getD []) formatFields
  .ok (entry.1, .obj safe)

def limit (field : String) (maximum : Int) : Field := (field, fun value => do
  let n ← orError (value.int?.filter fun n => 0 ≤ n ∧ n ≤ maximum) (invalid "Invalid sheet settings")
  .ok (some (.int n)))

def viewFields (rows columns : Nat) : List Field :=
  [limit "freezeRows" rows, limit "freezeColumns" columns, limit "filterColumn" (columns - 1),
    ("filterText", fun value => do
      let text ← orError (value.str?.filter fun text => text.length ≤ 32767) (invalid "Invalid filter")
      .ok (some (.str text)))]

def printFields (rows columns : Nat) : List Field :=
  [limit "repeatRows" 20,
    choice "Invalid print settings" "orientation" ["portrait", "landscape"],
    choice "Invalid print settings" "fit" ["width", "actual"],
    ("area", fun value => do
      let area ← orError ((Area.read value).filter fun a => a.within rows columns)
        (invalid "Invalid print area")
      .ok (some area.json)),
    ("breakRows", fun value => do
      let breaks ← orError ((value.items?.filter fun breaks => breaks.length ≤ rows).bind
        fun breaks => breaks.mapM fun r => r.int?.filter fun r => 0 ≤ r ∧ r < rows)
        (invalid "Invalid page breaks")
      .ok (some (.arr ((breaks.dedup.mergeSort fun r s => r ≤ s).map .int))))]

/-- The settings `view` and `print` that are there. -/
def cleanSettings (rows columns : Nat) (sheet : Members) : Except Refusal Members :=
  [("view", viewFields rows columns), ("print", printFields rows columns)].foldlM
    (fun settings field =>
      match sheet.lookup field.1 with
      | none => .ok settings
      | some config => do
        let config ← orError config.members? (invalid "Invalid sheet settings")
        let safe ← pick config field.2
        .ok (settings ++ [(field.1, .obj safe)])) []

/-! ## Sheets -/

/-- The sheets that were let through so far, with their identifiers and names. -/
structure Cleaned where
  clean : List PublicSheet
  ids : List String
  names : List String

/-- A sheet that is not hidden. -/
def cleanSheet (env : Env) (seen : Cleaned) (sheet : Members) : Except Refusal PublicSheet := do
  ensure ((getD sheet "previewLimited" .null).truthy = false)
    (invalid "Partially loaded sheets cannot be shared")
  let (rows, widths, heights) ← orError (dimensions sheet) (invalid "Invalid sheet dimensions")
  ensure (∀ row ∈ rows, validRow widths.length row = true) (invalid "Invalid cells")
  (widths ++ heights).forM checkDimension
  let merges ← orError ((getD sheet "merges" (.arr [])).items?.filter fun l => l.length ≤ 25000)
    (invalid "Invalid merges")
  let _ ← merges.foldlM (occupy rows.length widths.length) []
  let id ← orError (getD sheet "id" .null).str? (invalid "Invalid sheet name")
  let name ← orError (getD sheet "name" .null).str? (invalid "Invalid sheet name")
  ensure (id ∉ seen.ids ∧ env.strip name ≠ "" ∧ name.length ≤ 31 ∧
      name.toList.all (fun c => c ∉ ['\\', '/', '?', '*', '[', ']', ':']) = true ∧
      env.lower name ∉ seen.names)
    (invalid "Duplicate or invalid sheet name")
  let formats ← orError ((getD sheet "formats" (.obj [])).members?.filter fun formats =>
    formats.all fun entry => entry.2.members?.isSome) (invalid "Invalid formatting")
  let safeFormats ← formats.mapM (cleanFormat env rows.length widths.length)
  let settings ← cleanSettings rows.length widths.length sheet
  .ok {
    id
    name := shorten 31 name
    cells := rows
    widths
    heights
    merges
    formats := safeFormats
    settings
    folderId := none
    media := [] }

/-- One turn of the loop over the sheets; the names that are let through are whole. -/
def visit (env : Env) (seen : Cleaned) (sheet : Json) : Except Refusal Cleaned := do
  let members ← orError sheet.members? (invalid "Invalid sheet")
  if (getD members "hidden" .null).truthy then .ok seen
  else do
    let s ← cleanSheet env seen members
    .ok ⟨seen.clean ++ [s], s.id :: seen.ids, env.lower s.name :: seen.names⟩

/-!
## Shared workbooks

`clean_workbook` makes of a payload the workbook that the link shows. `clean_workbook_media` joins
the folder and the attachments of each sheet back to it, by the identifier of the sheet.
-/

/-- What the link shows. -/
structure PublicWorkbook where
  id : String
  name : String
  sheets : List PublicSheet
  folders : List (String × String)
  assets : List (String × Json)

/-! ### Folders -/

/-- `[a-zA-Z0-9_-]{1,100}`. -/
def isIdentifier (text : String) : Bool :=
  1 ≤ text.length && text.length ≤ 100 &&
    text.toList.all fun c => c.isAlphanum || c = '_' || c = '-'

/-- The identifier and the name of a folder. -/
def readFolder (f : Json) : Option (String × String) := do
  let members ← f.members?
  let id ← (getD members "id" .null).str?
  let name ← (getD members "name" .null).str?
  some (id, name)

/-- One more folder, with an identifier and a name of its own. -/
def cleanFolder (env : Env) (clean : List (String × String)) (f : Json) :
    Except Refusal (List (String × String)) := do
  let (id, name) ← orError (readFolder f) (invalid "Invalid sheet folder")
  ensure (isIdentifier id = true ∧ id ≠ "unfiled" ∧ id ∉ clean.map (·.1) ∧ env.strip name ≠ "" ∧
      name.length ≤ 60 ∧
      env.lower (env.strip name) ∉ clean.map fun folder => env.lower (env.strip folder.2))
    (invalid "Invalid sheet folder")
  .ok (clean ++ [(id, name)])

def cleanFolders (env : Env) (folders : List Json) : Except Refusal (List (String × String)) :=
  folders.foldlM (cleanFolder env) []

/-! ### References -/

/-- The sheets by identifier, the last with an identifier in place of the others. A sheet without
one raises, and so does one that cannot be a key. -/
def originals (sheets : List Json) : Except Refusal (List (Json × Members)) :=
  sheets.mapM fun sheet => do
    let members ← orError sheet.members? .raised
    let id ← orError (members.lookup "id") .raised
    ensure (id.hashable = true) .raised
    .ok (id, members)

def original (sheets : List (Json × Members)) (id : String) : Option Members :=
  (sheets.reverse.find? fun sheet => sheet.1.str? = some id).map (·.2)

/-- The folder of a sheet, if it has one. -/
def checkFolder (ids : List String) (source : Members) : Except Refusal (Option String) :=
  let folder := getD source "folderId" .null
  if folder.truthy then do
    ensure (folder.hashable = true) .raised
    let id ← orError (folder.str?.filter fun id => id ∈ ids) (invalid "Missing sheet folder")
    .ok (some id)
  else .ok none

/-- What `int` says of too many digits. -/
def tooManyDigits (digits : List Char) : Refusal :=
  invalid <| "Exceeds the limit (4300 digits) for integer string conversion: value has " ++
    toString digits.length ++ " digits; use sys.set_int_max_str_digits() to increase the limit"

/-- The attachments of one cell. -/
def checkRefs (env : Env) (assets : Members) (rows columns : Nat) (entry : String × Json) :
    Except Refusal (String × List String) := do
  let (row, column) ← orError (splitCoordinates env entry.1)
    (invalid "Invalid cell attachment reference")
  let refs ← orError (((entry.2.items?.filter fun refs => refs.length ≤ 10).bind
    fun refs => refs.mapM Json.str?).filter fun refs => refs.Nodup)
    (invalid "Invalid cell attachment reference")
  let r ← orError (readInt env row) (tooManyDigits row)
  let c ← orError (readInt env column) (tooManyDigits column)
  ensure (r < rows ∧ c < columns ∧ ∀ id ∈ refs, (assets.lookup id).isSome = true)
    (invalid "Missing cell attachment")
  .ok (entry.1, refs)

/-- The sheet with its folder and its attachments. -/
def attach (env : Env) (ids : List String) (assets : Members) (sources : List (Json × Members))
    (target : PublicSheet) : Except Refusal PublicSheet := do
  let source ← orError (original sources target.id) .raised
  let folderId ← checkFolder ids source
  let media ← orError (getD source "media" (.obj [])).members? (invalid "Invalid cell attachments")
  let safe ← media.mapM (checkRefs env assets target.cells.length target.widths.length)
  .ok { target with folderId, media := safe }

/-! ### Attachments -/

def mimeTypes : List String :=
  ["image/png", "image/jpeg", "image/gif", "image/webp", "video/mp4", "video/webm", "video/ogg",
    "application/octet-stream"]

structure Asset where
  name : String
  size : Nat
  mime : String
  data : String

def readAsset (id : String) (a : Members) : Option Asset := do
  let name ← (getD a "name" .null).str?
  let size ← (getD a "size" .null).int?
  let mime ← (getD a "mime" .null).str?
  let data ← (getD a "data" .null).str?
  if isIdentifier id = true ∧ (getD a "id" .null).str? = some id ∧ name ≠ "" ∧ name.length ≤ 250 ∧
      (1 ≤ size ∧ size ≤ 8 * 1024 * 1024) ∧ mime ∈ mimeTypes ∧
      data.length = 4 * ((size.toNat + 2) / 3) then
    some ⟨name, size.toNat, mime, data⟩
  else none

/-- `[0-9a-fA-F-]{36}`. -/
def isDocumentId (text : String) : Bool :=
  text.length = 36 && text.toList.all fun c => c ∈ "0123456789abcdefABCDEF-".toList

/-- One more attachment, and the bytes of all so far. -/
def cleanAsset (env : Env) (assets : Members) (clean : Nat × List (String × Json)) (id : String) :
    Except Refusal (Nat × List (String × Json)) := do
  let value ← orError (assets.lookup id) .raised
  let members ← orError value.members? (invalid "Invalid workbook attachment")
  let asset ← orError (readAsset id members) (invalid "Invalid workbook attachment")
  let decoded ← orError (env.b64decode asset.data) (invalid "Invalid attachment encoding")
  ensure (decoded = asset.size) (invalid "Invalid attachment size")
  let documentId ← match getD members "documentId" .null with
    | .null => .ok none
    | .str text => do
      ensure (isDocumentId text = true) (invalid "Invalid media document ID")
      .ok (some text)
    | _ => .error (invalid "Invalid media document ID")
  let total := clean.1 + asset.size
  ensure (total ≤ 20 * 1024 * 1024) (invalid "Workbook attachments exceed 20 MB")
  .ok (total, clean.2 ++ [(id, .obj ([("id", .str id), ("name", .str asset.name),
    ("size", .int asset.size), ("mime", .str asset.mime), ("data", .str asset.data)] ++
    documentId.toList.map fun text => ("documentId", .str text)))])

/-- The attachments that the sheets refer to, each once. -/
def used (sheets : List PublicSheet) : List String :=
  (sheets.flatMap fun sheet => sheet.media.flatMap (·.2)).dedup

/-- The sheets with what belongs to them, the folders that they are in, and the attachments that
they refer to. -/
def joinMedia (env : Env) (folders : List (String × String)) (assets : Members)
    (sheets : List Json) (targets : List PublicSheet) :
    Except Refusal (List PublicSheet × List (String × String) × List (String × Json)) := do
  let sources ← originals sheets
  let attached ← targets.mapM (attach env (folders.map (·.1)) assets sources)
  let (_, kept) ← (used attached).foldlM (cleanAsset env assets) (0, [])
  .ok (attached, folders.filter fun folder => some folder.1 ∈ attached.map (·.folderId), kept)

/-- `clean_workbook_media`. -/
def cleanWorkbookMedia (env : Env) (book : Members) (sheets : List Json)
    (targets : List PublicSheet) :
    Except Refusal (List PublicSheet × List (String × String) × List (String × Json)) := do
  let folders ← orError ((getD book "folders" (.arr [])).items?.filter fun l => l.length ≤ 50)
    (invalid "Invalid workbook folders or attachments")
  let assets ← orError (getD book "assets" (.obj [])).members?
    (invalid "Invalid workbook folders or attachments")
  let cleaned ← cleanFolders env folders
  joinMedia env cleaned assets sheets targets

/-! ### Workbooks -/

/-- Whether the value is equal to one. -/
def isOne : Json → Bool
  | .bool value => value
  | .int n => n = 1
  | .float x _ => x = some 1
  | _ => false

/-- `str`. -/
def textOf (env : Env) : Json → String
  | .str text => text
  | value => env.repr value

/-- The checks before the sheets are looked at: the identifier and the sheets. -/
def checkBook (book : Members) : Except Refusal (String × List Json) := do
  ensure ((Json.obj book).dumpsLength ≤ 35000000) (.http 413 "Shared workbook exceeds 35 MB")
  ensure (isOne (getD book "version" .null) = true) (invalid "Invalid workbook")
  let id ← orError ((getD book "id" .null).str?.filter fun id => id.length ≤ 100)
    (invalid "Invalid workbook")
  let sheets ← orError ((getD book "sheets" .null).items?.filter fun l =>
    1 ≤ l.length ∧ l.length ≤ 30) (invalid "Invalid sheets")
  .ok (id, sheets)

/-- `clean_workbook`. -/
def cleanWorkbook (env : Env) (book : Members) : Except Refusal PublicWorkbook := do
  let (id, sheets) ← checkBook book
  let cleaned ← sheets.foldlM (visit env) ⟨[], [], []⟩
  ensure (cleaned.clean ≠ []) (invalid "No visible sheets to share")
  let (attached, folders, assets) ← cleanWorkbookMedia env book sheets cleaned.clean
  .ok {
    id
    name := shorten 250 (textOf env (getD book "name" (.str "Workbook")))
    sheets := attached
    folders
    assets }

namespace Sample

/-- The text functions on plain ASCII, without attachments. -/
def ascii : Env where
  strip text := String.ofList
    (((text.toList.dropWhile Char.isWhitespace).reverse.dropWhile Char.isWhitespace).reverse)
  lower text := String.ofList (text.toList.map Char.toLower)
  digit c := if c.isDigit then some (c.toNat - 48) else none
  repr _ := ""
  b64decode _ := none

def shown : Json :=
  .obj [("id", .str "s1"), ("name", .str "Log"), ("cells", .arr [.arr [.str "depth"]]),
    ("widths", .arr [.int 80]), ("heights", .arr [.int 20])]

/-- A workbook with a visible sheet and a hidden one. -/
def workbook (hidden : Members) (folders : List Json) : Members :=
  [("version", .int 1), ("id", .str "w"),
    ("sheets", .arr [shown, .obj (("hidden", .bool true) :: hidden)]), ("folders", .arr folders)]

def folder (id name : String) : Json := .obj [("id", .str id), ("name", .str name)]

end Sample

end Cestos.Shares
