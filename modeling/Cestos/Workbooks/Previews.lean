import Cestos.Core.Runs
import Cestos.Workbooks.Mapping

/-!
# Inserting what was previewed

Rows that a preview has no issues with can be inserted exactly if the rules that it does not check
are met: columns outside of the schema that need a value, unique indexes, values of a key that the
schema does not give, and keys that hold across organizations.
-/

namespace Cestos.Workbooks.Mapping

open Cestos.Core Cestos.Core.Constraints

section Previewed

variable {ν : Type}

section Insertion

variable (model : Model) (organizationId : ν)

/-- What the defaults of the columns give. -/
def Model.defaulted (defaults : String → ν) : Row String ν := fun name =>
  if (model.columns.find? name).any (·.hasDefault) = true then some (defaults name) else none

/-- A row as it is written: a default stands in for a value that is not given. -/
def Model.written (defaults : String → ν) (values : Row String ν) : Row String ν := fun name =>
  (inScope organizationId values name).or (model.defaulted defaults name)

/-- All columns that are unique together, those of the indexes included. -/
def Model.uniques : List (List String) := model.keys ++ model.uniqueIndexes

/-- What the database enforces. -/
def Model.rules : Rules String String where
  required := (model.columns.rows.filter fun c => c.nullable = false).map (·.name)
  references := model.columns.rows.flatMap fun c =>
    c.foreignKeys.map fun fk => ⟨c.name, fk.table, fk.column⟩
  keys := ["id"] :: model.uniques

/-- The rows of a sheet as they are written, each with defaults of its own. -/
def Model.newRows (defaults : Nat → String → ν) (prepared : List (Row String ν)) :
    List (Row String ν) :=
  prepared.zipIdx.map fun values => model.written organizationId (defaults values.2) values.1

/-- The preview looks for the values of a row under a key. -/
def Model.Compares (values : Row String ν) (names : List String) : Prop :=
  names ∈ model.keys ∧ ∀ name ∈ names, (inScope organizationId values name).isSome = true

end Insertion

/-- The values of a row, unless it is blank or refused. -/
def record (strip : String → String) (schema : Schema ν) (mapping : List (String × Int))
    (row : List String) : Option (Row String ν) :=
  if isBlank strip row = true then none
  else (schema.validate (rowData strip mapping row)).toOption

def records (strip : String → String) (schema : Schema ν) (body : MappingRequest) :
    List (Row String ν) :=
  body.rows.filterMap (record strip schema body.mapping)

/-- The identifiers are in no row of the table, and no two of them are the same. -/
structure Fresh (db : Tables String String ν) (tablename : String)
    (defaults : Nat → String → ν) : Prop where
  unused : ∀ n, ∀ s ∈ db tablename, s "id" ≠ some (defaults n "id")
  distinct : ∀ m n, defaults m "id" = defaults n "id" → m = n

/-- The organization is where its column refers to. -/
def Known (db : Tables String String ν) (model : Model) (organizationId : ν) : Prop :=
  ∀ ref ∈ model.rules.references, ref.column = "organization_id" →
    ∃ r ∈ db ref.table, r ref.target = some organizationId

/-- The rules that the preview does not check are met. -/
structure Unchecked (db : Tables String String ν) (entry : Entry ν) (organizationId : ν)
    (defaults : Nat → String → ν) (rows : List (Row String ν)) : Prop where
  /-- A column outside of the schema can do without a value. -/
  required : ∀ c ∈ entry.model.columns.rows, c.name ∉ entry.schema.fields →
    c.name ≠ "organization_id" → c.nullable = true ∨ c.hasDefault = true
  /-- A row of the table has other values, if it is of another organization or the key is not one
  that the preview compares. -/
  stored : ∀ values ∈ rows.zipIdx, ∀ names ∈ entry.model.uniques, ∀ s ∈ db entry.model.tablename,
    ¬ (entry.model.Compares organizationId values.1 names ∧
      s "organization_id" = some organizationId) →
    ¬ Same names (entry.model.written organizationId (defaults values.2) values.1) s
  /-- An earlier row of the sheet has other values, if the preview does not compare both. -/
  sheet : rows.zipIdx.Pairwise fun earlier later => ∀ names ∈ entry.model.uniques,
    ¬ (entry.model.Compares organizationId earlier.1 names ∧
      entry.model.Compares organizationId later.1 names) →
    ¬ Same names (entry.model.written organizationId (defaults later.2) later.1)
      (entry.model.written organizationId (defaults earlier.2) earlier.1)

/-! ## What a preview without issues has checked -/

/-- The checks of a row that do not depend on the sheet. -/
structure Clear (db : Tables String String ν) (entry : Entry ν) (organizationId : ν)
    (values : Row String ν) : Prop where
  dumped : ∀ name ∉ entry.schema.fields, values name = none
  given : ∀ c ∈ entry.model.columns.rows, c.name ∈ entry.schema.fields → values c.name = none →
    c.nullable = true ∨ c.hasDefault = true
  related : ∀ c ∈ entry.model.columns.rows, ∀ value ∈ values c.name, ∀ fk ∈ c.foreignKeys,
    ∃ r ∈ db fk.table, r fk.column = some value
  stored : ∀ names, entry.model.Compares organizationId values names →
    ∀ s ∈ db entry.model.tablename, s "organization_id" = some organizationId →
      ¬ ∀ name ∈ names, s name = inScope organizationId values name

/-- The later row has other values under the keys that are compared. -/
def Apart (model : Model) (organizationId : ν) (earlier later : Row String ν) : Prop :=
  ∀ names, model.Compares organizationId later names →
    ¬ ∀ name ∈ names, inScope organizationId earlier name = inScope organizationId later name

section Checked

variable [DecidableEq ν] {db : Tables String String ν} {entry : Entry ν} {organizationId : ν}
  {values : Row String ν} {prepared : List (Row String ν)} {index : Nat}

theorem related_of_relationIssues {name : String} {value : ν} {fk : ForeignKey}
    (h : relationIssues db organizationId index name value fk = []) :
    ∃ r ∈ db fk.table, r fk.column = some value := by
  unfold relationIssues at h
  split at h
  · cases h
  split at h
  · rename_i hrelated
    obtain ⟨r, hr, hvalue, -⟩ := hrelated
    exact ⟨r, hr, hvalue⟩
  · cases h

theorem keyIssues_eq_nil {tablename : String} {names : List String}
    (h : keyIssues db organizationId tablename index prepared values names = [])
    (hall : ∀ name ∈ names, (inScope organizationId values name).isSome = true) :
    (∀ s ∈ db tablename, s "organization_id" = some organizationId →
      ¬ ∀ name ∈ names, s name = inScope organizationId values name) ∧
    ∀ prior ∈ prepared, ¬ ∀ name ∈ names,
      inScope organizationId prior name = inScope organizationId values name := by
  simp only [keyIssues, if_pos hall, List.append_eq_nil_iff, ite_eq_right_iff, List.cons_ne_nil,
    imp_false] at h
  obtain ⟨hstored, hsheet⟩ := h
  exact ⟨fun s hs horg hsame => hstored ⟨s, hs, horg, hsame⟩,
    fun prior hprior hsame => hsheet ⟨prior, hprior, hsame⟩⟩

/-- A row without issues has passed the checks of its columns and keys. -/
theorem clear_of_valueIssues (hdumped : ∀ name ∉ entry.schema.fields, values name = none)
    (h : valueIssues db organizationId entry index prepared values = []) :
    Clear db entry organizationId values ∧
      ∀ prior ∈ prepared, Apart entry.model organizationId prior values := by
  obtain ⟨hcolumns, hkeys⟩ := List.append_eq_nil_iff.1 h
  have hcolumn : ∀ c ∈ entry.model.columns.rows, c.name ∈ entry.schema.fields →
      columnIssues db organizationId index c (values c.name) = [] := by
    intro c hc hfield
    have hfind := List.flatMap_eq_nil_iff.1 hcolumns c.name hfield
    rwa [Table.find?_of_mem hc] at hfind
  have hkey : ∀ names, entry.model.Compares organizationId values names → _ :=
    fun names hcompares => keyIssues_eq_nil (List.flatMap_eq_nil_iff.1 hkeys names hcompares.1)
      hcompares.2
  refine ⟨⟨hdumped, fun c hc hfield hnone => ?_, fun c hc value hvalue fk hfk => ?_,
    fun names hcompares => (hkey names hcompares).1⟩,
    fun prior hprior names hcompares => (hkey names hcompares).2 prior hprior⟩
  · have hissues := hcolumn c hc hfield
    rw [hnone, columnIssues, ite_eq_right_iff] at hissues
    cases hnullable : c.nullable
    · cases hdefault : c.hasDefault
      · exact absurd (hissues ⟨hnullable, hdefault⟩) (List.cons_ne_nil _ _)
      · exact .inr rfl
    · exact .inl rfl
  · have hfield : c.name ∈ entry.schema.fields := by
      by_contra hout
      rw [hdumped c.name hout] at hvalue
      cases hvalue
    have hissues := hcolumn c hc hfield
    rw [Option.mem_def.1 hvalue, columnIssues] at hissues
    exact related_of_relationIssues (List.flatMap_eq_nil_iff.1 hissues fk hfk)

/-! ### All rows of a sheet -/

variable {strip : String → String} {body : MappingRequest}

/-- What the rows so far have come to. -/
structure Examined (db : Tables String String ν) (entry : Entry ν) (organizationId : ν)
    (values : List (Row String ν)) (progress : Progress ν) : Prop where
  prepared : progress.prepared = values
  clear : progress.issues = [] → ∀ v ∈ values, Clear db entry organizationId v
  apart : progress.issues = [] → values.Pairwise (Apart entry.model organizationId)

theorem previewRow_examined {mapping : List (String × Int)} {progress : Progress ν}
    {before : List (List String × Nat)} (row : List String × Nat)
    (h : Examined db entry organizationId
      ((before.map Prod.fst).filterMap (record strip entry.schema mapping)) progress) :
    Examined db entry organizationId
      (((before ++ [row]).map Prod.fst).filterMap (record strip entry.schema mapping))
      (previewRow db organizationId strip entry mapping progress row) := by
  rw [List.map_append, List.map_singleton, List.filterMap_append, previewRow]
  by_cases hblank : isBlank strip row.1 = true
  · have hnone : record strip entry.schema mapping row.1 = none := if_pos hblank
    rw [List.filterMap_cons_none hnone, List.filterMap_nil, List.append_nil, if_pos hblank]
    exact h
  rw [if_neg hblank]
  have hrecord : record strip entry.schema mapping row.1 =
      (entry.schema.validate (rowData strip mapping row.1)).toOption := if_neg hblank
  cases hvalid : entry.schema.validate (rowData strip mapping row.1) with
  | error faults =>
      rw [hvalid] at hrecord
      rw [List.filterMap_cons_none hrecord, List.filterMap_nil, List.append_nil]
      exact ⟨h.prepared, fun hnil => h.clear (List.append_eq_nil_iff.1 hnil).1,
        fun hnil => h.apart (List.append_eq_nil_iff.1 hnil).1⟩
  | ok values =>
      rw [hvalid] at hrecord
      rw [List.filterMap_cons_some hrecord, List.filterMap_nil]
      have hdumped := entry.schema.dumped _ _ hvalid
      refine ⟨congrArg (· ++ [values]) h.prepared, fun hnil v hv => ?_, fun hnil => ?_⟩
      · obtain ⟨hbefore, hissues⟩ := List.append_eq_nil_iff.1 hnil
        rcases List.mem_append.1 hv with hold | hnew
        · exact h.clear hbefore v hold
        · exact List.mem_singleton.1 hnew ▸ (clear_of_valueIssues hdumped hissues).1
      · obtain ⟨hbefore, hissues⟩ := List.append_eq_nil_iff.1 hnil
        refine List.pairwise_append.2 ⟨h.apart hbefore, List.pairwise_singleton _ _, ?_⟩
        intro prior hprior v hv
        rw [List.mem_singleton.1 hv]
        exact (clear_of_valueIssues hdumped hissues).2 prior (h.prepared ▸ hprior)

theorem previewRows_examined :
    Examined db entry organizationId (records strip entry.schema body)
      (previewRows db organizationId strip entry body) := by
  have hstart : Examined db entry organizationId
      ((([] : List (List String × Nat)).map Prod.fst).filterMap
        (record strip entry.schema body.mapping)) ⟨[], []⟩ :=
    ⟨rfl, fun _ _ hv => absurd hv List.not_mem_nil, fun _ => .nil⟩
  have hrun := foldl_along (R := fun before progress => Examined db entry organizationId
      ((before.map Prod.fst).filterMap (record strip entry.schema body.mapping)) progress)
    (fun row h => previewRow_examined row h) hstart body.rows.zipIdx
  rwa [List.nil_append, List.zipIdx_map_fst] at hrun

end Checked

/-! ## Rows as they are written -/

section Written

variable {db : Tables String String ν} {entry : Entry ν} {organizationId : ν}
  {values : Row String ν} {defaults : String → ν} {model : Model}

theorem inScope_of_ne {name : String} (h : name ≠ "organization_id") :
    inScope organizationId values name = values name := if_neg h

theorem written_of_inScope {name : String}
    (h : (inScope organizationId values name).isSome = true) :
    model.written organizationId defaults values name = inScope organizationId values name := by
  obtain ⟨value, hvalue⟩ := Option.isSome_iff_exists.1 h
  rw [Model.written, hvalue, Option.some_or]

theorem defaulted_of_mem {c : Column} (hc : c ∈ model.columns.rows) :
    model.defaulted defaults c.name = if c.hasDefault = true then some (defaults c.name) else none := by
  rw [Model.defaulted, Table.find?_of_mem hc, Option.any_some]

theorem written_isSome {c : Column} (hc : c ∈ model.columns.rows) (hne : c.name ≠ "organization_id") :
    (model.written organizationId defaults values c.name).isSome = true ↔
      (values c.name).isSome = true ∨ c.hasDefault = true := by
  rw [Model.written, Option.isSome_or, inScope_of_ne hne, defaulted_of_mem hc, Bool.or_eq_true]
  refine or_congr_right ?_
  cases c.hasDefault <;> simp

theorem written_organization :
    model.written organizationId defaults values "organization_id" = some organizationId := by
  rw [Model.written, inScope, if_pos rfl, Option.some_or]

theorem written_reference {c : Column} (hc : c ∈ model.columns.rows)
    (hne : c.name ≠ "organization_id") (hfk : c.foreignKeys ≠ []) :
    model.written organizationId defaults values c.name = values c.name := by
  have hdefault : ¬ c.hasDefault = true := fun hd => hfk (model.no_default c hc hd)
  rw [Model.written, inScope_of_ne hne, defaulted_of_mem hc, if_neg hdefault, Option.or_none]

theorem written_id (hclear : Clear db entry organizationId values) {id : ν}
    (h : entry.model.written organizationId defaults values "id" = some id) : id = defaults "id" := by
  have hne : "id" ≠ "organization_id" := by decide
  rw [Model.written, inScope_of_ne hne, hclear.dumped "id" entry.schema.id_notMem, Option.none_or,
    Model.defaulted] at h
  split at h
  · exact (Option.some.inj h).symm
  · cases h

theorem required_of_written {c : Column} (hclear : Clear db entry organizationId values)
    (hc : c ∈ entry.model.columns.rows) (hout : c.name ∉ entry.schema.fields)
    (hne : c.name ≠ "organization_id")
    (h : c.nullable = false →
      (entry.model.written organizationId defaults values c.name).isSome = true) :
    c.nullable = true ∨ c.hasDefault = true := by
  cases hnullable : c.nullable
  · have hwritten := (written_isSome hc hne).1 (h hnullable)
    rw [hclear.dumped c.name hout] at hwritten
    exact .inr (hwritten.resolve_left Bool.false_ne_true)
  · exact .inl rfl

theorem written_of_required {c : Column} (hclear : Clear db entry organizationId values)
    (hc : c ∈ entry.model.columns.rows)
    (h : c.name ∉ entry.schema.fields → c.name ≠ "organization_id" →
      c.nullable = true ∨ c.hasDefault = true) (hnullable : c.nullable = false) :
    (entry.model.written organizationId defaults values c.name).isSome = true := by
  by_cases hne : c.name = "organization_id"
  · rw [hne, written_organization]
    rfl
  rw [written_isSome hc hne]
  cases hvalue : values c.name with
  | some value => exact .inl rfl
  | none =>
      have hfilled : c.nullable = true ∨ c.hasDefault = true := by
        by_cases hfield : c.name ∈ entry.schema.fields
        · exact hclear.given c hc hfield hvalue
        · exact h hfield hne
      rw [hnullable] at hfilled
      exact .inr (hfilled.resolve_left Bool.false_ne_true)

/-- A row of the organization that the preview has compared has other values. -/
theorem not_same_of_stored {names : List String} {s : Row String ν}
    (hclear : Clear db entry organizationId values) (hs : s ∈ db entry.model.tablename)
    (hcompares : entry.model.Compares organizationId values names)
    (horg : s "organization_id" = some organizationId) :
    ¬ Same names (entry.model.written organizationId defaults values) s := by
  intro hsame
  refine hclear.stored names hcompares s hs horg fun name hname => ?_
  rw [(hsame name hname).2, written_of_inScope (hcompares.2 name hname)]

theorem not_same_of_apart {names : List String} {earlier : Row String ν} {defaults' : String → ν}
    (hapart : Apart model organizationId earlier values)
    (hearlier : model.Compares organizationId earlier names)
    (hlater : model.Compares organizationId values names) :
    ¬ Same names (model.written organizationId defaults values)
      (model.written organizationId defaults' earlier) := by
  intro hsame
  refine hapart names hlater fun name hname => ?_
  have hvalue := (hsame name hname).2
  rwa [written_of_inScope (hlater.2 name hname), written_of_inScope (hearlier.2 name hname)]
    at hvalue

end Written

end Previewed

/-!
## Skills from a sheet

The table of the skills, where an index keeps the names of an organization apart. The preview does
not know of it.
-/

/-- What columns hold. -/
inductive Value
  | uuid (id : Nat)
  | text (text : String)
  | bool (value : Bool)
  deriving DecidableEq

/-! ### The table -/

namespace Skill

def columns : List Column := [
  { name := "id", nullable := false, hasDefault := true },
  { name := "created_at", nullable := false, hasDefault := true },
  { name := "updated_at", nullable := false, hasDefault := true },
  { name := "organization_id", nullable := true,
    foreignKeys := [⟨"organizations", "id", false, true⟩] },
  { name := "name", nullable := false },
  { name := "category", nullable := true },
  { name := "description", nullable := true },
  { name := "is_active", nullable := false, hasDefault := true }]

theorem columns_nodup : (columns.map Column.name).Nodup := by decide

theorem no_default : ∀ c ∈ columns, c.hasDefault = true → c.foreignKeys = [] := by
  simp [columns]

def model : Model where
  tablename := "skills"
  columns := ⟨columns, columns_nodup⟩
  uniqueConstraints := []
  uniqueIndexes := [["organization_id", "name"]]
  no_default := no_default

end Skill

/-! ### The schema -/

namespace SkillCreate

def fields : List String := ["name", "category", "description", "organization_id"]

def given (data : List (String × String)) (field : String) : Option String :=
  (data.find? (·.1 = field)).map Prod.snd

/-- A text that is too long. -/
def lengthFaults (most : Nat) (field text : String) : List Fault :=
  if most < text.length then
    [⟨[field], "String should have at most " ++ toString most ++ " characters"⟩]
  else []

variable (uuid : String → Except String Nat)

def uuidFaults (field text : String) : List Fault :=
  match uuid text with
  | .ok _ => []
  | .error msg => [⟨[field], msg⟩]

def faults (data : List (String × String)) : List Fault :=
  (match given data "name" with
    | none => [⟨["name"], "Field required"⟩]
    | some name =>
      if name = "" then [⟨["name"], "String should have at least 1 character"⟩]
      else lengthFaults 150 "name" name) ++
  ((given data "category").elim [] (lengthFaults 100 "category") ++
  (given data "organization_id").elim [] (uuidFaults uuid "organization_id"))

def dump (data : List (String × String)) : Row String Value := fun name =>
  if name = "organization_id" then
    (given data name).bind fun text => (uuid text).toOption.map .uuid
  else if name ∈ fields then (given data name).map .text
  else none

def validate (data : List (String × String)) : Except (List Fault) (Row String Value) :=
  if (faults uuid data).isEmpty = true then .ok (dump uuid data) else .error (faults uuid data)

theorem organization_mem : "organization_id" ∈ fields := by decide

theorem dumped (data : List (String × String)) (values : Row String Value)
    (h : validate uuid data = .ok values) : ∀ name ∉ fields, values name = none := by
  unfold validate at h
  split at h
  · intro name hout
    have hne : name ≠ "organization_id" := fun heq => hout (heq.symm ▸ organization_mem)
    rw [← Except.ok.inj h, dump, if_neg hne, if_neg hout]
  · cases h

theorem id_notMem : "id" ∉ fields := by decide

def schema : Schema Value where
  name := "SkillCreate"
  fields := fields
  validate := validate uuid
  dumped := dumped uuid
  id_notMem := id_notMem

end SkillCreate

namespace Skill

theorem subset : ∀ name ∈ SkillCreate.fields, ∃ c ∈ columns, c.name = name := by decide

theorem hasOrganization : ∃ c ∈ columns, c.name = "organization_id" := by decide

def entry (uuid : String → Except String Nat) : Entry Value where
  schema := SkillCreate.schema uuid
  model := model
  subset := subset
  hasOrganization := hasOrganization

end Skill

end Cestos.Workbooks.Mapping
