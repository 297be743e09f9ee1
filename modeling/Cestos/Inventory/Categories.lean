import Cestos.Core.Hierarchy
import Cestos.Inventory.Database

/-!
# Item categories

A category may be placed below another one if the walk up from there does not come back to it. All
requests of an organization hold its advisory lock from their beginning to their end, so a walk
reads what no one else changes.
-/

namespace Cestos.Inventory

open Cestos.Core

inductive CategoryFlag
  | isConsumable | isSparePart | isLubricant | isPpe | isTool | isFuelRelated | isActive
  deriving DecidableEq, Repr

def CategoryFlag.all : List CategoryFlag :=
  [.isConsumable, .isSparePart, .isLubricant, .isPpe, .isTool, .isFuelRelated, .isActive]

def CategoryFlag.column : CategoryFlag → String
  | .isConsumable => "is_consumable"
  | .isSparePart => "is_spare_part"
  | .isLubricant => "is_lubricant"
  | .isPpe => "is_ppe"
  | .isTool => "is_tool"
  | .isFuelRelated => "is_fuel_related"
  | .isActive => "is_active"

structure InventoryCategoryCreate where
  name : String
  code : Option String
  description : Option String
  parentCategoryId : Option Id
  flags : CategoryFlag → Bool

structure InventoryCategory extends InventoryCategoryCreate where
  id : Id

/-- The fields that are given; a value of `none` is an explicit null. -/
structure InventoryCategoryUpdate where
  name : Option (Option String) := none
  code : Option (Option String) := none
  description : Option (Option String) := none
  parentCategoryId : Option (Option Id) := none
  flags : CategoryFlag → Option (Option Bool) := fun _ => none

/-- The categories of an organization. -/
abbrev Categories := Table InventoryCategory.id

inductive CategoryRequest
  /-- `master_save` without an identifier. -/
  | create (body : InventoryCategoryCreate)
  | update (identifier : Id) (data : InventoryCategoryUpdate)
  | archive (identifier : Id) (restore : Bool)

namespace Categories

variable (db : Categories)

/-- `validate_refs` for the parent. -/
def validateParent : Option Id → Outcome Unit
  | none => .ok ()
  | some id => do
    let row ← found (db.find? id)
    ensure (row.flags .isActive) (.validation "parent_category_id is archived")

/-- The loop over the categories above. It has no bound of its own; `none` stands for a walk that
is not over yet. -/
def hierarchyWalk : ℕ → List Id → Option Id → Option (Outcome Unit)
  | 0, _, _ => none
  | _ + 1, _, none => some (.ok ())
  | fuel + 1, seen, some parent =>
    if parent ∈ seen then some (.error (.validation "Category hierarchy cannot contain a cycle"))
    else match db.find? parent with
      | none => some (.error (.notFound "Related inventory record not found"))
      | some row => hierarchyWalk fuel (parent :: seen) row.parentCategoryId

/-- A column that has to have a value. -/
def required {α : Type} (column : String) : Option (Option α) → Outcome Unit
  | some none => .error (.validation (column ++ " cannot be empty"))
  | _ => .ok ()

def checkColumns (data : InventoryCategoryUpdate) : Outcome Unit := do
  required "name" data.name
  CategoryFlag.all.forM fun flag => required flag.column (data.flags flag)

/-- The name is unique in the organization. -/
def checkName (row : InventoryCategory) : Outcome Unit :=
  ensure (∀ other ∈ db.rows, other.id ≠ row.id → other.name ≠ row.name)
    (.integrity "uq_inventory_categories_organization_id_name")

/-- The columns that are set; those that have to have a value have one. -/
def apply (data : InventoryCategoryUpdate) (row : InventoryCategory) : InventoryCategory :=
  { row with
    name := (data.name.getD (some row.name)).getD row.name
    code := data.code.getD row.code
    description := data.description.getD row.description
    parentCategoryId := data.parentCategoryId.getD row.parentCategoryId
    flags := fun flag => ((data.flags flag).getD (some (row.flags flag))).getD (row.flags flag) }

/-- What a request is about to write, and from where it walks up without coming to what. -/
structure Plan where
  row : InventoryCategory
  seen : List Id
  first : Option Id

def plan (uuid : Id) : CategoryRequest → Outcome Plan
  | .create body => do
    db.validateParent body.parentCategoryId
    .ok ⟨{ body with id := uuid }, [], body.parentCategoryId⟩
  | .update identifier data => do
    db.validateParent data.parentCategoryId.join
    let row ← found (db.find? identifier)
    checkColumns data
    .ok ⟨apply data row, [identifier], data.parentCategoryId.join⟩
  | .archive identifier restore => do
    let row ← found (db.find? identifier)
    .ok ⟨{ row with flags := Function.update row.flags .isActive restore }, [], none⟩

def write (r : CategoryRequest) (row : InventoryCategory) : Outcome Categories :=
  match r with
  | .create _ => do
    db.checkName row
    orError (db.insert? row) (.integrity "pk_inventory_categories")
  | .update _ _ | .archive _ _ => do
    db.checkName row
    .ok (db.set row)

/-- `master_save` and `archive`, once the lock is held. -/
def masterSave (fuel : ℕ) (uuid : Id) (r : CategoryRequest) : Option (Outcome Categories) :=
  match db.plan uuid r with
  | .error e => some (.error e)
  | .ok plan => (db.hierarchyWalk fuel plan.seen plan.first).map fun walked => do
    walked
    db.write r plan.row

/-- What is committed: a request that raises is rolled back. -/
def serve (fuel : ℕ) (uuid : Id) (r : CategoryRequest) : Categories :=
  match db.masterSave fuel uuid r with
  | some (.ok db') => db'
  | _ => db

end Categories

/-- The category above. -/
abbrev Categories.parent (db : Categories) : Id → Option Id :=
  Table.parent (·.parentCategoryId) db

/-- The states that are reached by creating, updating and archiving categories. -/
inductive Categories.Reachable : Categories → Prop
  | init : Reachable .empty
  | request {db db' : Categories} (fuel : ℕ) (uuid : Id) (r : CategoryRequest) : Reachable db →
      db.masterSave fuel uuid r = some (.ok db') → Reachable db'

namespace Categories

variable {db db' : Categories} {fuel : ℕ} {uuid identifier : Id} {r : CategoryRequest}

/-! ## The walk -/

theorem seen_le {seen : List Id} (hnodup : seen.Nodup)
    (hexist : ∀ id ∈ seen, id ∈ db.rows.map (·.id)) : seen.length ≤ db.size := by
  have hsub := (hnodup.subperm hexist).length_le
  rwa [List.length_map] at hsub

/-- A walk passes different categories, so it comes to an end. -/
theorem hierarchyWalk_ends {seen : List Id} (hnodup : seen.Nodup)
    (hexist : ∀ id ∈ seen, id ∈ db.rows.map (·.id)) (next : Option Id) :
    ∃ out, ∀ fuel, db.size < fuel + seen.length → db.hierarchyWalk fuel seen next = some out := by
  induction hleft : db.size + 1 - seen.length generalizing seen next with
  | zero =>
      have hle := seen_le hnodup hexist
      omega
  | succ left ih =>
      have hle := seen_le hnodup hexist
      -- there is always enough for one more turn of the loop
      suffices hturn : ∃ out, ∀ fuel, db.size < fuel + 1 + seen.length →
          db.hierarchyWalk (fuel + 1) seen next = some out by
        obtain ⟨out, hout⟩ := hturn
        refine ⟨out, fun fuel hfuel => ?_⟩
        cases fuel with
        | zero => omega
        | succ fuel => exact hout fuel hfuel
      cases next with
      | none => exact ⟨_, fun _ _ => rfl⟩
      | some parent =>
          by_cases hseen : parent ∈ seen
          · exact ⟨_, fun fuel _ => by rw [hierarchyWalk, if_pos hseen]⟩
          · cases hrow : db.find? parent with
            | none => exact ⟨_, fun fuel _ => by rw [hierarchyWalk, if_neg hseen, hrow]⟩
            | some row =>
                have hmem : parent ∈ db.rows.map (·.id) := by
                  rw [← Table.key_of_find? hrow]
                  exact List.mem_map_of_mem (Table.mem_of_find? hrow)
                obtain ⟨out, hout⟩ := ih (List.nodup_cons.2 ⟨hseen, hnodup⟩)
                  (List.forall_mem_cons.2 ⟨hmem, hexist⟩) row.parentCategoryId
                  (by rw [List.length_cons]; omega)
                refine ⟨out, fun fuel hfuel => ?_⟩
                rw [hierarchyWalk, if_neg hseen, hrow]
                exact hout fuel (by rw [List.length_cons]; omega)

/-- A category that the walk must not come to is not above where it began. -/
theorem not_above_of_walk {seen : List Id} {first node : Id} (hnode : node ∈ seen)
    (h : db.hierarchyWalk fuel seen (some first) = some (.ok ())) :
    ¬ Relation.ReflTransGen (Below db.parent) first node := by
  induction fuel generalizing seen first with
  | zero => cases h
  | succ fuel ih =>
      rw [hierarchyWalk] at h
      split at h
      · cases h
      · next hnew =>
        cases hrow : db.find? first with
        | none =>
            rw [hrow] at h
            cases h
        | some row =>
            rw [hrow] at h
            dsimp only at h
            intro hchain
            rcases Relation.ReflTransGen.cases_head hchain with rfl | ⟨up, hup, hrest⟩
            · exact hnew hnode
            · have hparent : row.parentCategoryId = some up := by
                simpa [Below, Categories.parent, Table.parent, hrow] using hup
              rw [hparent] at h
              exact ih (List.mem_cons_of_mem _ hnode) h hrest

theorem walk_error {seen : List Id} {next : Option Id} {e : ServiceError}
    (hclosed : db.Hierarchy (·.parentCategoryId))
    (hnext : ∀ id ∈ next, ∃ row, db.find? id = some row)
    (h : db.hierarchyWalk fuel seen next = some (.error e)) :
    e = .validation "Category hierarchy cannot contain a cycle" := by
  induction fuel generalizing seen next with
  | zero => cases h
  | succ fuel ih =>
      cases next with
      | none => cases h
      | some parent =>
          rw [hierarchyWalk] at h
          split at h
          · exact (Except.error.inj (Option.some.inj h)).symm
          · obtain ⟨row, hrow⟩ := hnext parent rfl
            rw [hrow] at h
            exact ih (hclosed.closed row (Table.mem_of_find? hrow)) h

/-! ## Requests -/

theorem validateParent_ok {parent : Option Id} {u : Unit} (h : db.validateParent parent = .ok u) :
    ∀ id ∈ parent, ∃ row, db.find? id = some row := by
  intro id hid
  obtain rfl : parent = some id := hid
  simp only [validateParent, bind_eq_ok, found_eq_ok] at h
  obtain ⟨row, hrow, -⟩ := h
  exact ⟨row, hrow⟩

theorem plan_create {body : InventoryCategoryCreate} {p : Plan}
    (h : db.plan uuid (.create body) = .ok p) :
    p = ⟨{ body with id := uuid }, [], body.parentCategoryId⟩ ∧
      ∀ id ∈ body.parentCategoryId, ∃ row, db.find? id = some row := by
  simp only [plan, bind_eq_ok, Except.ok.injEq] at h
  obtain ⟨_, hparent, rfl⟩ := h
  exact ⟨rfl, validateParent_ok hparent⟩

theorem plan_update {data : InventoryCategoryUpdate} {p : Plan}
    (h : db.plan uuid (.update identifier data) = .ok p) :
    ∃ row, db.find? identifier = some row ∧
      p = ⟨apply data row, [identifier], data.parentCategoryId.join⟩ ∧
      ∀ id ∈ data.parentCategoryId.join, ∃ row, db.find? id = some row := by
  simp only [plan, bind_eq_ok, found_eq_ok, Except.ok.injEq] at h
  obtain ⟨_, hparent, row, hrow, _, -, rfl⟩ := h
  exact ⟨row, hrow, rfl, validateParent_ok hparent⟩

theorem plan_archive {restore : Bool} {p : Plan}
    (h : db.plan uuid (.archive identifier restore) = .ok p) :
    ∃ row, db.find? identifier = some row ∧
      p = ⟨{ row with flags := Function.update row.flags .isActive restore }, [], none⟩ := by
  simp only [plan, bind_eq_ok, found_eq_ok, Except.ok.injEq] at h
  obtain ⟨row, hrow, rfl⟩ := h
  exact ⟨row, hrow, rfl⟩

theorem plan_seen {p : Plan} (h : db.plan uuid r = .ok p) :
    p.seen.Nodup ∧ ∀ id ∈ p.seen, id ∈ db.rows.map (·.id) := by
  cases r with
  | create body =>
      obtain ⟨rfl, -⟩ := plan_create h
      exact ⟨List.nodup_nil, by simp⟩
  | update identifier data =>
      obtain ⟨row, hrow, rfl, -⟩ := plan_update h
      refine ⟨List.nodup_singleton _, fun id hid => ?_⟩
      obtain rfl := List.mem_singleton.1 hid
      rw [← Table.key_of_find? hrow]
      exact List.mem_map_of_mem (Table.mem_of_find? hrow)
  | archive identifier restore =>
      obtain ⟨row, -, rfl⟩ := plan_archive h
      exact ⟨List.nodup_nil, by simp⟩

theorem masterSave_ok (h : db.masterSave fuel uuid r = some (.ok db')) :
    ∃ p, db.plan uuid r = .ok p ∧ db.hierarchyWalk fuel p.seen p.first = some (.ok ()) ∧
      db.write r p.row = .ok db' := by
  unfold masterSave at h
  split at h
  · cases h
  · next p hplan =>
    obtain ⟨walked, hwalk, hrest⟩ := Option.map_eq_some_iff.1 h
    obtain ⟨⟨⟩, rfl, hwrite⟩ := bind_eq_ok.1 hrest
    exact ⟨p, hplan, hwalk, hwrite⟩

theorem masterSave_ends (db : Categories) (uuid : Id) (r : CategoryRequest) :
    ∃ out, ∀ fuel, db.size < fuel → db.masterSave fuel uuid r = some out := by
  cases hplan : db.plan uuid r with
  | error e => exact ⟨.error e, fun fuel _ => by rw [masterSave, hplan]⟩
  | ok p =>
      obtain ⟨hnodup, hexist⟩ := plan_seen hplan
      obtain ⟨walked, hwalk⟩ := hierarchyWalk_ends hnodup hexist p.first
      refine ⟨walked >>= fun _ => db.write r p.row, fun fuel hfuel => ?_⟩
      rw [masterSave, hplan]
      dsimp only
      rw [hwalk fuel (by omega), Option.map_some]

/-- A category keeps its place, or it goes where the walk started. -/
theorem acyclic_of_walk {node : Id} {given : Option (Option Id)}
    (hdb : Acyclic (Below db.parent))
    (hwalk : db.hierarchyWalk fuel [node] given.join = some (.ok ())) :
    Acyclic (Below (Function.update db.parent node (given.getD (db.parent node)))) := by
  match given with
  | none =>
    rw [Option.getD_none, Function.update_eq_self]
    exact hdb
  | some none => exact hdb.detach
  | some (some first) => exact hdb.move (not_above_of_walk List.mem_cons_self hwalk)

theorem masterSave_hierarchy (hdb : db.Hierarchy (·.parentCategoryId))
    (h : db.masterSave fuel uuid r = some (.ok db')) : db'.Hierarchy (·.parentCategoryId) := by
  obtain ⟨p, hplan, hwalk, hwrite⟩ := masterSave_ok h
  cases r with
  | create body =>
      obtain ⟨rfl, hexist⟩ := plan_create hplan
      simp only [write, bind_eq_ok, orError_eq_ok] at hwrite
      obtain ⟨_, -, hinsert⟩ := hwrite
      exact hdb.insert hinsert hexist
  | update identifier data =>
      obtain ⟨row, hrow, rfl, hexist⟩ := plan_update hplan
      simp only [write, bind_eq_ok, Except.ok.injEq] at hwrite
      obtain ⟨_, -, rfl⟩ := hwrite
      obtain rfl := Table.key_of_find? hrow
      have hparent : db.parent row.id = row.parentCategoryId := by
        rw [Categories.parent, Table.parent, hrow]
        rfl
      refine hdb.of_set hrow ?_ fun id hid => ?_
      · have hacyclic := acyclic_of_walk hdb.acyclic hwalk
        rwa [hparent] at hacyclic
      · have hplace : data.parentCategoryId.getD row.parentCategoryId = some id := hid
        match hgiven : data.parentCategoryId with
        | none =>
          rw [hgiven] at hplace
          exact hdb.closed row (Table.mem_of_find? hrow) id hplace
        | some given =>
          rw [hgiven] at hplace
          exact hexist id (by rw [hgiven]; exact hplace)
  | archive identifier restore =>
      obtain ⟨row, hrow, rfl⟩ := plan_archive hplan
      simp only [write, bind_eq_ok, Except.ok.injEq] at hwrite
      obtain ⟨_, -, rfl⟩ := hwrite
      obtain rfl := Table.key_of_find? hrow
      exact hdb.rewrite hrow rfl

theorem Reachable.hierarchy (h : Reachable db) : db.Hierarchy (·.parentCategoryId) := by
  induction h with
  | init => exact Table.hierarchy_of_empty rfl
  | request fuel uuid r _ hserved ih => exact masterSave_hierarchy ih hserved

theorem Reachable.serve (h : Reachable db) (fuel : ℕ) (uuid : Id) (r : CategoryRequest) :
    Reachable (db.serve fuel uuid r) := by
  unfold Categories.serve
  split
  · next hserved => exact .request fuel uuid r h hserved
  · exact h

/-! ## Circles -/

theorem circle_rejected (hdb : db.Hierarchy (·.parentCategoryId)) {data : InventoryCategoryUpdate}
    (hcircle : ¬ Acyclic (Below (Function.update db.parent identifier
      (data.parentCategoryId.getD (db.parent identifier))))) (uuid : Id) :
    ∃ e, (∀ fuel, db.size < fuel →
        db.masterSave fuel uuid (.update identifier data) = some (.error e)) ∧
      ∀ p, db.plan uuid (.update identifier data) = .ok p →
        e = .validation "Category hierarchy cannot contain a cycle" := by
  cases hplan : db.plan uuid (.update identifier data) with
  | error e => exact ⟨e, fun fuel _ => by rw [masterSave, hplan], by simp⟩
  | ok p =>
      obtain ⟨hnodup, hexist⟩ := plan_seen hplan
      obtain ⟨walked, hwalk⟩ := hierarchyWalk_ends hnodup hexist p.first
      obtain ⟨row, hrow, rfl, hfirst⟩ := plan_update hplan
      have hlong := hwalk (db.size + 1) (by omega)
      cases walked with
      | ok u => exact absurd (acyclic_of_walk hdb.acyclic hlong) hcircle
      | error e =>
          refine ⟨e, fun fuel hfuel => ?_, fun _ _ => walk_error hdb hfirst hlong⟩
          rw [masterSave, hplan]
          dsimp only
          rw [hwalk fuel (by omega)]
          rfl

theorem serve_of_error {e : ServiceError} (h : db.masterSave fuel uuid r = some (.error e)) :
    db.serve fuel uuid r = db := by
  rw [serve, h]

end Categories

/-- The categories of an organization never form a circle, every walk over them comes to an end,
and an update that would close a circle is rejected. -/
theorem categories_acyclic {db : Categories} (h : db.Reachable) :
    Acyclic (Below db.parent) ∧
      (∀ uuid r, ∃ out, ∀ fuel, db.size < fuel → db.masterSave fuel uuid r = some out) ∧
      ∀ uuid identifier data, ¬ Acyclic (Below (Function.update db.parent identifier
          (data.parentCategoryId.getD (db.parent identifier)))) →
        ∃ e, (∀ p, db.plan uuid (.update identifier data) = .ok p →
            e = .validation "Category hierarchy cannot contain a cycle") ∧
          ∀ fuel, db.size < fuel →
            db.masterSave fuel uuid (.update identifier data) = some (.error e) ∧
              db.serve fuel uuid (.update identifier data) = db := by
  refine ⟨h.hierarchy.acyclic, Categories.masterSave_ends db, fun uuid identifier data hcircle => ?_⟩
  obtain ⟨e, hrejected, hcycle⟩ := Categories.circle_rejected h.hierarchy hcircle uuid
  exact ⟨e, hcycle, fun fuel hfuel =>
    ⟨hrejected fuel hfuel, Categories.serve_of_error (hrejected fuel hfuel)⟩⟩

namespace Sample

def category (name : String) (parent : Option Id) : InventoryCategoryCreate :=
  ⟨name, none, none, parent, fun flag => flag = .isActive⟩

/-- A category and one below it. -/
def categories : Categories :=
  (Categories.serve Table.empty 1 1 (.create (category "Consumables" none))).serve 2 2
    (.create (category "Drill bits" (some 1)))

end Sample

/-- The category above is not moved below. -/
theorem categories_acyclic_circle : ∃ e, Sample.categories.masterSave 3 3
    (.update 1 { parentCategoryId := some (some 2) }) = some (.error e) := by
  have hreachable : Sample.categories.Reachable := (Categories.Reachable.init.serve 1 1 _).serve 2 2 _
  have hcircle : ¬ Acyclic (Below (Function.update Sample.categories.parent 1 (some 2))) :=
    fun hacyclic => hacyclic 1 (.tail (.single (b := 2) rfl) rfl)
  obtain ⟨e, -, hrejected⟩ := (categories_acyclic hreachable).2.2 3 1
    { parentCategoryId := some (some 2) } hcircle
  exact ⟨e, (hrejected 3 (by decide)).1⟩

end Cestos.Inventory
