import Cestos.Workbooks.Previews

/-!
# Whether previewed rows can be inserted

The rules of a table one by one, and what is left of them after a preview without issues.
-/

namespace Cestos.Workbooks.Mapping

open Cestos.Core Cestos.Core.Constraints

section Rules

variable {ν : Type} {db : Tables String String ν} {entry : Entry ν} {organizationId : ν}
  {rows : List (Row String ν)} {defaults : Nat → String → ν}

theorem mem_required {model : Model} {name : String} : name ∈ model.rules.required ↔
    ∃ c ∈ model.columns.rows, c.nullable = false ∧ c.name = name := by
  simp [Model.rules, and_assoc]

theorem mem_references {model : Model} {ref : Reference String String} :
    ref ∈ model.rules.references ↔ ∃ c ∈ model.columns.rows, ∃ fk ∈ c.foreignKeys,
      (⟨c.name, fk.table, fk.column⟩ : Reference String String) = ref := by
  simp only [Model.rules, List.mem_flatMap, List.mem_map]

theorem forall_newRows {model : Model} {P : Row String ν → Prop} :
    (∀ row ∈ model.newRows organizationId defaults rows, P row) ↔
      ∀ values ∈ rows.zipIdx, P (model.written organizationId (defaults values.2) values.1) := by
  simp only [Model.newRows, List.forall_mem_map]

variable (hclear : ∀ v ∈ rows, Clear db entry organizationId v)

include hclear

/-- Required columns have values if those outside of the schema can do without. -/
theorem required_iff (hrows : rows ≠ []) :
    (∀ row ∈ entry.model.newRows organizationId defaults rows,
      ∀ name ∈ entry.model.rules.required, (row name).isSome = true) ↔
    ∀ c ∈ entry.model.columns.rows, c.name ∉ entry.schema.fields →
      c.name ≠ "organization_id" → c.nullable = true ∨ c.hasDefault = true := by
  rw [forall_newRows]
  constructor
  · intro h c hc hout hne
    obtain ⟨values, rest, rfl⟩ := List.exists_cons_of_ne_nil hrows
    have hfirst : (values, 0) ∈ (values :: rest).zipIdx := List.mem_cons_self
    exact required_of_written (hclear values List.mem_cons_self) hc hout hne
      fun hnullable => h _ hfirst c.name (mem_required.2 ⟨c, hc, hnullable, rfl⟩)
  · intro h values hvalues name hname
    obtain ⟨c, hc, hnullable, rfl⟩ := mem_required.1 hname
    exact written_of_required (hclear values.1 (List.fst_mem_of_mem_zipIdx hvalues)) hc (h c hc)
      hnullable

theorem newRows_resolved (hknown : Known db entry.model organizationId) :
    ∀ row ∈ entry.model.newRows organizationId defaults rows,
      ∀ ref ∈ entry.model.rules.references, ref.Resolved db row := by
  refine forall_newRows.2 fun values hvalues ref href value hvalue => ?_
  have hv := hclear values.1 (List.fst_mem_of_mem_zipIdx hvalues)
  obtain ⟨c, hc, fk, hfk, rfl⟩ := mem_references.1 href
  by_cases hne : c.name = "organization_id"
  · obtain ⟨r, hr, htarget⟩ := hknown _ href hne
    rw [Option.mem_def, hne, written_organization] at hvalue
    exact ⟨r, hr, htarget.trans hvalue⟩
  · rw [written_reference hc hne (List.ne_nil_of_mem hfk)] at hvalue
    exact hv.related c hc value hvalue fk hfk

/-- Stored rows have other values than the new ones, those left aside that were compared. -/
theorem stored_iff (hfresh : Fresh db entry.model.tablename defaults) :
    (∀ row ∈ entry.model.newRows organizationId defaults rows,
      ∀ names ∈ entry.model.rules.keys, ∀ s ∈ db entry.model.tablename, ¬ Same names row s) ↔
    ∀ values ∈ rows.zipIdx, ∀ names ∈ entry.model.uniques, ∀ s ∈ db entry.model.tablename,
      ¬ (entry.model.Compares organizationId values.1 names ∧
        s "organization_id" = some organizationId) →
      ¬ Same names (entry.model.written organizationId (defaults values.2) values.1) s := by
  rw [forall_newRows]
  refine forall₂_congr fun values hvalues => ?_
  have hv := hclear values.1 (List.fst_mem_of_mem_zipIdx hvalues)
  constructor
  · intro h names hnames s hs _
    exact h names (List.mem_cons_of_mem _ hnames) s hs
  · intro h names hnames s hs
    rcases List.mem_cons.1 hnames with rfl | hnames
    · intro hsame
      obtain ⟨hid, heq⟩ := hsame "id" List.mem_cons_self
      obtain ⟨id, hid⟩ := Option.isSome_iff_exists.1 hid
      rw [hid, written_id hv hid] at heq
      exact hfresh.unused values.2 s hs heq
    · by_cases hseen : entry.model.Compares organizationId values.1 names ∧
          s "organization_id" = some organizationId
      · exact not_same_of_stored hv hs hseen.1 hseen.2
      · exact h names hnames s hs hseen

theorem sheet_iff (hfresh : Fresh db entry.model.tablename defaults)
    (hapart : rows.Pairwise (Apart entry.model organizationId)) :
    (entry.model.newRows organizationId defaults rows).Pairwise
      (fun r s => ∀ names ∈ entry.model.rules.keys, ¬ Same names s r) ↔
    rows.zipIdx.Pairwise fun earlier later => ∀ names ∈ entry.model.uniques,
      ¬ (entry.model.Compares organizationId earlier.1 names ∧
        entry.model.Compares organizationId later.1 names) →
      ¬ Same names (entry.model.written organizationId (defaults later.2) later.1)
        (entry.model.written organizationId (defaults earlier.2) earlier.1) := by
  rw [Model.newRows, List.pairwise_map]
  constructor
  · exact fun h => h.imp fun hpair names hnames _ => hpair names (List.mem_cons_of_mem _ hnames)
  · intro h
    have hvalues : rows.zipIdx.Pairwise fun p q => Apart entry.model organizationId p.1 q.1 :=
      List.pairwise_map.1 ((List.zipIdx_map_fst 0 rows).symm ▸ hapart)
    have hplaces : rows.zipIdx.Pairwise fun p q => p.2 ≠ q.2 :=
      List.pairwise_map.1 (List.zipIdx_map_snd 0 rows ▸ List.nodup_range')
    refine ((hvalues.and hplaces).and h).imp_of_mem ?_
    rintro earlier later hearlier hlater ⟨⟨hother, hne⟩, hrest⟩ names hnames
    rcases List.mem_cons.1 hnames with rfl | hnames
    · intro hsame
      obtain ⟨hid, heq⟩ := hsame "id" List.mem_cons_self
      obtain ⟨id, hid⟩ := Option.isSome_iff_exists.1 hid
      rw [hid] at heq
      refine hne (hfresh.distinct _ _ ?_)
      rw [← written_id (hclear _ (List.fst_mem_of_mem_zipIdx hearlier)) heq,
        ← written_id (hclear _ (List.fst_mem_of_mem_zipIdx hlater)) hid]
    · by_cases hseen : entry.model.Compares organizationId earlier.1 names ∧
          entry.model.Compares organizationId later.1 names
      · exact not_same_of_apart hother hseen.1 hseen.2
      · exact hrest names hnames hseen

end Rules

section Previewed

variable {ν : Type} {strip : String → String} {models : String → Option Model}
  {routes : List (Route ν)} {db : Tables String String ν} {actor : Account ν}
  {body : MappingRequest} {entry : Entry ν} {report : Report ν} {defaults : Nat → String → ν}

/-- A report without issues is one of rows without issues, and there are some. -/
theorem issues_of_report {progress : Progress ν} (h : progress.report.issues = []) :
    progress.issues = [] ∧ progress.prepared ≠ [] := by
  rw [Progress.report] at h
  split at h
  · cases h
  · rename_i hsome
    exact ⟨h, fun hnone => hsome ⟨List.isEmpty_iff.2 hnone, List.isEmpty_iff.2 h⟩⟩

variable [DecidableEq ν]

theorem report_of_preview (hentry : destination models actor routes body.table = some entry)
    (h : preview strip models routes db actor body = .ok report) :
    (previewRows db actor.organizationId strip entry body).report = report := by
  simp only [preview, ensure_bind_eq_ok, orError_bind_eq_ok, pure_eq_ok, hentry,
    Option.some.injEq] at h
  obtain ⟨-, _, rfl, -, -, -, -, hreport⟩ := h
  exact hreport

end Previewed

namespace Sample

def actor : Account Value := ⟨.uuid 1, fun _ => true, fun _ => true⟩

def uuid : String → Except String Nat := fun _ => .error "Input should be a valid UUID"

def models : String → Option Model := fun name => if name = "Skill" then some Skill.model else none

def route : Route Value where
  path := "/api/v1/skills"
  isApiRoute := true
  methods := ["POST"]
  bodyParams := [some (SkillCreate.schema uuid)]
  requiresQuery := false
  dependencies := [.mk (.requirePermission "employees.skills.manage") [.mk .other []]]

def organization : Row String Value := fun column =>
  if column = "id" then some (.uuid 1) else none

def welding : Row String Value := fun column =>
  if column = "id" then some (.uuid 7)
  else if column = "organization_id" then some (.uuid 1)
  else if column = "name" then some (.text "Welding")
  else none

def db : Tables String String Value := fun table =>
  if table = "organizations" then [organization]
  else if table = "skills" then [welding]
  else []

/-- A sheet with the names of skills. -/
def skills (names : List String) : MappingRequest :=
  ⟨"/api/v1/skills", [("name", 0)], names.map fun name => [name]⟩

def defaults : Nat → String → Value := fun n column =>
  if column = "id" then .uuid (100 + n)
  else if column = "is_active" then .bool true
  else .text "2026-09-30T08:00:00+00:00"

theorem defaults_id (n : Nat) : defaults n "id" = .uuid (100 + n) := if_pos rfl

theorem defaults_fresh : Fresh db "skills" defaults where
  unused n s hs := by
    obtain rfl := List.mem_singleton.1 hs
    rw [defaults_id]
    intro heq
    have hid : 7 = 100 + n := Value.uuid.inj (Option.some.inj heq)
    omega
  distinct m n h := by
    rw [defaults_id, defaults_id] at h
    exact Nat.add_left_cancel (Value.uuid.inj h)

theorem organization_known : Known db Skill.model (.uuid 1) := by
  intro ref href _
  obtain ⟨c, hc, fk, hfk, rfl⟩ := mem_references.1 href
  have htarget : ∀ c ∈ Skill.columns, ∀ fk ∈ c.foreignKeys,
      fk.table = "organizations" ∧ fk.column = "id" := by decide
  obtain ⟨htable, hcolumn⟩ := htarget c hc fk hfk
  refine ⟨organization, ?_, ?_⟩
  · rw [htable]
    exact List.mem_singleton_self _
  · rw [hcolumn]
    rfl

theorem skills_offered (names : List String) :
    destination models actor [route] (skills names).table = some (Skill.entry uuid) := rfl

end Sample

end Cestos.Workbooks.Mapping
