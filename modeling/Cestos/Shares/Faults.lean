import Cestos.Shares.Hidden

/-!
# How a workbook fails the check

The tests of `clean_workbook` in their order, read off the payload. Most of them refuse the workbook
where they fail; a few operations raise instead, when they meet what the tests before them let pass.
-/

namespace Cestos.Shares

open Cestos.Core Cestos.Core.Json

variable {env : Env} {book members : Members}

/-- Whether the client is told what is wrong, with the status of too large or invalid a payload. -/
inductive Fault
  | refused
  | raised
  deriving DecidableEq

def Refusal.fault : Refusal → Fault
  | .http status _ => if status = 413 ∨ status = 422 then .refused else .raised
  | .raised => .raised

/-- A test that refuses the workbook where it fails. -/
def refusal (passed : Bool) : Option Fault := if passed then none else some .refused

/-- An operation that raises where it fails. -/
def raising (passed : Bool) : Option Fault := if passed then none else some .raised

theorem faultOf_ensure {p : Prop} [Decidable p] {detail : String} :
    faultOf Refusal.fault (ensure p (invalid detail)) = refusal p := by
  by_cases hp : p
  · simp [ensure, refusal, hp]
  · simp [ensure, refusal, hp, invalid, Refusal.fault]

theorem faultOf_orError {α : Type} {x : Option α} {detail : String} :
    faultOf Refusal.fault (orError x (invalid detail)) = refusal x.isSome := by
  cases x <;> rfl

theorem faultOf_raise {α : Type} {x : Option α} :
    faultOf Refusal.fault (orError x .raised) = raising x.isSome := by
  cases x <;> rfl

/-! ## A sheet -/

def rowsOf (members : Members) : List Json := ((dimensions members).getD ([], [], [])).1

def widthsOf (members : Members) : List Json := ((dimensions members).getD ([], [], [])).2.1

def heightsOf (members : Members) : List Json := ((dimensions members).getD ([], [], [])).2.2

def listOf (members : Members) (name : String) : List Json :=
  ((getD members name (.arr [])).items?).getD []

def objectOf (members : Members) (name : String) : Members :=
  ((getD members name (.obj [])).members?).getD []

def textAt (members : Members) (name : String) : String :=
  ((getD members name .null).str?).getD ""

/-- `math.isfinite` makes a float of an integer. -/
def dimensionFault : Json → Option Fault
  | .bool _ => none
  | .int n =>
    if Nat.pow 2 1024 - Nat.pow 2 970 ≤ n.natAbs then some .raised
    else refusal (0 ≤ n ∧ n ≤ 10000)
  | .float (some x) _ => refusal (0 ≤ x ∧ x ≤ 10000)
  | _ => some .refused

def areaCells (m : Json) : List (Nat × Nat) := ((Area.read m).map Area.cells).getD []

def occupiedBy (merges : List Json) : List (Nat × Nat) := merges.flatMap areaCells

def mergeFaults (rows columns : Nat) (before : List Json) (m : Json) : List (Option Fault) :=
  [refusal ((Area.read m).any fun a => a.within rows columns),
    refusal (∀ cell ∈ areaCells m, cell ∉ occupiedBy before)]

def number? (env : Env) (digits : List Char) : Nat := (readInt env digits).getD 0

/-- `int` of the row and the column of a format. -/
def coordinateFaults (env : Env) (rows columns : Nat) (key : String) : List (Option Fault) :=
  let digits := (splitCoordinates env key).getD ([], [])
  [refusal (splitCoordinates env key).isSome,
    raising (digits.1.length ≤ maxStrDigits), raising (digits.2.length ≤ maxStrDigits),
    refusal (number? env digits.1 < rows ∧ number? env digits.2 < columns)]

def fieldFault (config : Members) (field : Field) : Option Fault :=
  refusal ((config.lookup field.1).all fun value => (field.2 value).isOk)

def formatFaults (env : Env) (rows columns : Nat) (entry : String × Json) : List (Option Fault) :=
  coordinateFaults env rows columns entry.1 ++
    formatFields.map (fieldFault (entry.2.members?.getD []))

def settingFaults (sheet : Members) (part : String × List Field) : List (Option Fault) :=
  match sheet.lookup part.1 with
  | none => []
  | some config =>
    refusal config.members?.isSome :: part.2.map (fieldFault (config.members?.getD []))

/-- The identifiers and the names of the visible sheets among those before. -/
def textsBefore (before : List Json) (name : String) : List String :=
  (visible before).map fun sheet => textAt (sheet.members?.getD []) name

def nameFaults (env : Env) (before : List Json) (members : Members) : List (Option Fault) :=
  let id := textAt members "id"
  let name := textAt members "name"
  [refusal (getD members "id" .null).str?.isSome, refusal (getD members "name" .null).str?.isSome,
    refusal (id ∉ textsBefore before "id" ∧ env.strip name ≠ "" ∧ name.length ≤ 31 ∧
      name.toList.all (fun c => c ∉ ['\\', '/', '?', '*', '[', ']', ':']) = true ∧
      env.lower name ∉ (textsBefore before "name").map env.lower)]

def cellFaults (members : Members) : List (Option Fault) :=
  [refusal ((getD members "previewLimited" .null).truthy = false),
    refusal (dimensions members).isSome,
    refusal (∀ row ∈ rowsOf members, validRow (widthsOf members).length row = true)] ++
  ((widthsOf members ++ heightsOf members).map dimensionFault ++
    refusal (((getD members "merges" (.arr [])).items?.filter fun l => l.length ≤ 25000).isSome) ::
      testsAlong (mergeFaults (rowsOf members).length (widthsOf members).length) []
        (listOf members "merges"))

def layoutFaults (env : Env) (members : Members) : List (Option Fault) :=
  refusal (((getD members "formats" (.obj [])).members?.filter fun formats =>
    formats.all fun entry => entry.2.members?.isSome).isSome) ::
  ((objectOf members "formats").flatMap
      (formatFaults env (rowsOf members).length (widthsOf members).length) ++
    [("view", viewFields (rowsOf members).length (widthsOf members).length),
      ("print", printFields (rowsOf members).length (widthsOf members).length)].flatMap
        (settingFaults members))

def visitFaults (env : Env) (before : List Json) (sheet : Json) : List (Option Fault) :=
  let members := sheet.members?.getD []
  refusal sheet.members?.isSome :: if isHidden sheet then [] else
    cellFaults members ++ (nameFaults env before members ++ layoutFaults env members)

/-! ## What is joined back -/

def folderIds (folders : List Json) : List String :=
  (folders.filterMap readFolder).map (·.1)

def folderFaults (env : Env) (before : List Json) (f : Json) : List (Option Fault) :=
  let folder := (readFolder f).getD ("", "")
  [refusal (readFolder f).isSome,
    refusal (isIdentifier folder.1 = true ∧ folder.1 ≠ "unfiled" ∧ folder.1 ∉ folderIds before ∧
      env.strip folder.2 ≠ "" ∧ folder.2.length ≤ 60 ∧
      env.lower (env.strip folder.2) ∉
        (before.filterMap readFolder).map fun folder => env.lower (env.strip folder.2))]

/-- All sheets are put into a dict by their identifiers, hidden ones with the others. -/
def keyFault (sheet : Json) : Option Fault :=
  raising (((sheet.members?.getD []).lookup "id").any Json.hashable)

/-- The sheet that the dict has for an identifier: the last. -/
def sourceOf (sheets : List Json) (id : String) : Members :=
  ((sheets.reverse.find? fun sheet => sheetId sheet = some id).bind Json.members?).getD []

/-- A folder that is there is looked up in a set. -/
def placeFaults (folders : List Json) (source : Members) : List (Option Fault) :=
  let folder := getD source "folderId" .null
  if folder.truthy then
    [raising folder.hashable, refusal (folder.str?.any fun id => id ∈ folderIds folders)]
  else []

def refsFault (env : Env) (assets : Members) (rows columns : Nat) (entry : String × Json) :
    Option Fault :=
  refusal (checkRefs env assets rows columns entry).isOk

/-- What of a visible sheet the joining looks at: its identifier, rows and columns. -/
def shapeOf (members : Members) : String × Nat × Nat :=
  (textAt members "id", (rowsOf members).length, (widthsOf members).length)

def attachFaults (env : Env) (folders : List Json) (assets : Members) (sheets : List Json)
    (shape : String × Nat × Nat) : List (Option Fault) :=
  let source := sourceOf sheets shape.1
  placeFaults folders source ++ refusal (getD source "media" (.obj [])).members?.isSome ::
    (objectOf source "media").map (refsFault env assets shape.2.1 shape.2.2)

/-! ## A workbook -/

def headFaults (book : Members) : List (Option Fault) :=
  [refusal ((Json.obj book).dumpsLength ≤ 35000000),
    refusal (isOne (getD book "version" .null) = true),
    refusal ((getD book "id" .null).str?.filter fun id => id.length ≤ 100).isSome,
    refusal ((getD book "sheets" .null).items?.filter fun l => 1 ≤ l.length ∧ l.length ≤ 30).isSome]

def mediaFaults (book : Members) : List (Option Fault) :=
  [refusal ((getD book "folders" (.arr [])).items?.filter fun l => l.length ≤ 50).isSome,
    refusal (getD book "assets" (.obj [])).members?.isSome]

/-- The tests up to those of the attachments themselves, which only refuse. -/
def workbookFaults (env : Env) (book : Members) : List (Option Fault) :=
  let sheets := sheetsOf book
  let folders := listOf book "folders"
  headFaults book ++ (testsAlong (visitFaults env) [] sheets ++
    (refusal (visible sheets ≠ []) :: (mediaFaults book ++
      (testsAlong (folderFaults env) [] folders ++ (sheets.map keyFault ++
        ((visible sheets).map fun sheet => shapeOf (sheet.members?.getD [])).flatMap
          (attachFaults env folders (objectOf book "assets") sheets))))))

end Cestos.Shares
