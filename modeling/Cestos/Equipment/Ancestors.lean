import Cestos.Equipment.Parents

/-!
# No row is above itself

The hierarchies of categories and of components have no circles, as long as no row that a request
has passed on its way up is moved before the request commits. Otherwise two requests can pass
each other on their ways up, and close a circle.
-/

namespace Cestos.Equipment

open Cestos.Core

variable {others : List HierarchyTransaction} {db db' : Hierarchies} {t : HierarchyTransaction}

/-- Neither a category nor a component is above itself. -/
def Hierarchies.NoCircles (db : Hierarchies) : Prop :=
  Acyclic (Below (db.categories.parent (·.parentCategoryId))) ∧
    Acyclic (Below (db.components.parent (·.parentComponentId)))

structure Hierarchies.Sound (db : Hierarchies) : Prop where
  categories : db.categories.Hierarchy (·.parentCategoryId)
  components : db.components.Hierarchy (·.parentComponentId)

/-- When a request commits, the rows that it has passed are where it read them. -/
def Unmoved (_others : List HierarchyTransaction) (db : Hierarchies) (t : HierarchyTransaction) :
    Prop :=
  match t.task with
  | .walkingCategory _ w => w.next = none →
    ∀ entry ∈ w.loaded, db.categories.parent (·.parentCategoryId) entry.1 = entry.2
  | .walkingComponent _ _ w => w.next = none →
    ∀ entry ∈ w.loaded, db.components.parent (·.parentComponentId) entry.1 = entry.2
  | _ => True

instance (others : List HierarchyTransaction) (db : Hierarchies) :
    DecidablePred (Unmoved others db)
  | ⟨_, .walkingCategory _ _⟩ => inferInstanceAs (Decidable (_ → ∀ entry ∈ _, _))
  | ⟨_, .walkingComponent _ _ _⟩ => inferInstanceAs (Decidable (_ → ∀ entry ∈ _, _))
  | ⟨_, .createCategory _⟩ | ⟨_, .insertingCategory _⟩ | ⟨_, .updateCategory _⟩
  | ⟨_, .validatingCategory _⟩ | ⟨_, .addComponent _⟩ | ⟨_, .validatingNew _⟩
  | ⟨_, .insertingComponent _⟩ | ⟨_, .changeComponent _⟩ | ⟨_, .validatingComponent _ _⟩
  | ⟨_, .replaceComponent _⟩ | ⟨_, .validatingReplacement _ _⟩ | ⟨_, .replacing _⟩ =>
    inferInstanceAs (Decidable True)

def Hierarchies.HasCategory (db : Hierarchies) (id : Id) : Prop :=
  ∃ row, db.categories.find? id = some row

def Hierarchies.HasComponent (db : Hierarchies) (id : Id) : Prop :=
  ∃ row, db.components.find? id = some row

/-- Rows are not removed. -/
structure Lasting (db db' : Hierarchies) : Prop where
  category : ∀ id, db.HasCategory id → db'.HasCategory id
  component : ∀ id, db.HasComponent id → db'.HasComponent id

/-- What is known of a walk: it has passed rows that exist, and knows those up from the new
place. -/
structure OnTheWay (exist : Id → Prop) (node : Id) (parent : Option Id) (w : Walk Id) : Prop where
  place : ∀ first ∈ parent, exist first ∧ w.Sound node first
  within : w.Within exist

/-- What a request knows. -/
def HierarchyTransaction.Knows (db : Hierarchies) (t : HierarchyTransaction) : Prop :=
  match t.task with
  | .insertingCategory r => ∀ id ∈ r.parentCategoryId, db.HasCategory id
  | .validatingCategory r => db.HasCategory r.categoryId
  | .walkingCategory r w => OnTheWay db.HasCategory r.categoryId r.data.parentCategoryId.join w
  | .insertingComponent r => ∀ id ∈ r.body.parentComponentId, db.HasComponent id
  | .validatingComponent r row => row.id = r.componentId ∧ db.HasComponent r.componentId
  | .walkingComponent r _ w =>
    OnTheWay db.HasComponent r.componentId r.data.parentComponentId.join w
  | .replacing r => ∀ id ∈ r.data.parentComponentId, db.HasComponent id
  | _ => True

theorem OnTheWay.mono {exist exist' : Id → Prop} {node : Id} {parent : Option Id} {w : Walk Id}
    (h : OnTheWay exist node parent w) (hle : ∀ id, exist id → exist' id) :
    OnTheWay exist' node parent w :=
  ⟨fun first hfirst => (h.place first hfirst).imp_left (hle first), h.within.mono hle⟩

theorem HierarchyTransaction.Knows.lasting (h : t.Knows db) (hlasting : Lasting db db') :
    t.Knows db' := by
  obtain ⟨held, task⟩ := t
  cases task with
  | createCategory r | updateCategory r | addComponent r | validatingNew r | changeComponent r
  | replaceComponent r | validatingReplacement r row => trivial
  | insertingCategory r => exact fun id hid => hlasting.category id (h id hid)
  | validatingCategory r => exact hlasting.category _ h
  | walkingCategory r w => exact OnTheWay.mono h hlasting.category
  | insertingComponent r => exact fun id hid => hlasting.component id (h id hid)
  | validatingComponent r row => exact ⟨h.1, hlasting.component _ h.2⟩
  | walkingComponent r row w => exact OnTheWay.mono h hlasting.component
  | replacing r => exact fun id hid => hlasting.component id (h id hid)

/-! ## The way up -/

theorem aboveCategory_exists {actor : Actor} {id : Id} {next : Option Id}
    (h : db.aboveCategory actor id = some next) : db.HasCategory id := by
  obtain ⟨row, hrow, -⟩ := Option.map_eq_some_iff.1 h
  exact ⟨row, (Option.filter_eq_some_iff.1 hrow).1⟩

theorem aboveComponent_exists {actor : Actor} {assetId id : Id} {next : Option Id}
    (h : db.aboveComponent actor assetId id = some next) : db.HasComponent id := by
  obtain ⟨row, hrow, -⟩ := Option.map_eq_some_iff.1 h
  exact ⟨row, (Option.filter_eq_some_iff.1 hrow).1⟩

section Way

variable {exist : Id → Prop} {above : Id → Option (Option Id)} {node : Id} {parent : Option Id}

theorem loadParent_exists {loaded : List (Id × Option Id)}
    (hexist : ∀ id next, above id = some next → exist id)
    (h : loadParent parent above = .ok loaded) : ∀ id ∈ parent, exist id := by
  cases parent with
  | none => simp
  | some id =>
      obtain ⟨next, hnext, -⟩ := orError_bind_eq_ok.1 h
      exact fun other hother => Option.some.inj hother ▸ hexist id next hnext

theorem OnTheWay.start {loaded : List (Id × Option Id)} (hnode : exist node)
    (hexist : ∀ id next, above id = some next → exist id)
    (h : loadParent parent above = .ok loaded) :
    OnTheWay exist node parent (.start node parent loaded) := by
  refine ⟨fun first hfirst => ⟨loadParent_exists hexist h first hfirst, ?_⟩, .start hnode _ _⟩
  obtain rfl := Option.mem_def.1 hfirst
  exact .start loaded

theorem OnTheWay.pass {w w' : Walk Id} {id : Id} {cycle : String}
    (h : OnTheWay exist node parent w) (hnext : w.next = some id)
    (hexist : ∀ id next, above id = some next → exist id)
    (hpass : pass w id above cycle = .ok w') : OnTheWay exist node parent w' := by
  obtain ⟨hnew, hrest⟩ := ensure_bind_eq_ok.1 hpass
  obtain ⟨current, hcurrent, hdone⟩ := orError_bind_eq_ok.1 hrest
  obtain rfl := Except.ok.inj hdone
  exact ⟨fun first hfirst => (h.place first hfirst).imp_right (·.pass hnext hnew current),
    h.within.pass (hexist id current hcurrent) hnew current⟩

end Way

/-! ## What the requests commit -/

theorem CategoryUpdate.apply_spec {data : CategoryUpdate} {row new : AssetCategory}
    (h : data.apply row = some new) :
    new.id = row.id ∧ new.parentCategoryId = data.parentCategoryId.getD row.parentCategoryId := by
  obtain ⟨_, -, h⟩ := Option.bind_eq_some_iff.1 h
  obtain ⟨_, -, h⟩ := Option.bind_eq_some_iff.1 h
  obtain ⟨_, -, h⟩ := Option.bind_eq_some_iff.1 h
  obtain rfl := Option.some.inj h
  exact ⟨rfl, rfl⟩

theorem ComponentUpdate.apply_spec {data : ComponentUpdate} {row new : AssetComponent}
    (h : data.apply row = some new) :
    new.id = row.id ∧ new.parentComponentId = data.parentComponentId.getD row.parentComponentId := by
  obtain ⟨_, -, h⟩ := Option.bind_eq_some_iff.1 h
  obtain ⟨_, -, h⟩ := Option.bind_eq_some_iff.1 h
  obtain rfl := Option.some.inj h
  exact ⟨rfl, rfl⟩

theorem Lasting.refl (db : Hierarchies) : Lasting db db := ⟨fun _ => id, fun _ => id⟩

theorem insertCategory_lasting {row : AssetCategory} (h : db.insertCategory row = some db') :
    Lasting db db' := by
  obtain ⟨categories, hinsert, rfl⟩ := Option.map_eq_some_iff.1 h
  refine ⟨?_, fun _ => id⟩
  rintro id ⟨other, hother⟩
  exact ⟨other, Table.find?_insert?_of_find? hinsert hother⟩

theorem insertComponent_lasting {row : AssetComponent} (h : db.insertComponent row = some db') :
    Lasting db db' := by
  obtain ⟨components, hinsert, rfl⟩ := Option.map_eq_some_iff.1 h
  refine ⟨fun _ => id, ?_⟩
  rintro id ⟨other, hother⟩
  exact ⟨other, Table.find?_insert?_of_find? hinsert hother⟩

theorem commitCategory_lasting {r : UpdateCategory} (h : db.commitCategory r = some db') :
    Lasting db db' := by
  obtain ⟨row, -, h⟩ := Option.bind_eq_some_iff.1 h
  obtain ⟨new, -, h⟩ := Option.bind_eq_some_iff.1 h
  obtain rfl := Option.some.inj h
  exact ⟨fun id => Table.exists_find?_set new, fun _ => id⟩

theorem commitComponent_lasting {r : ChangeComponent} (h : db.commitComponent r = some db') :
    Lasting db db' := by
  obtain ⟨row, -, h⟩ := Option.bind_eq_some_iff.1 h
  obtain ⟨new, -, h⟩ := Option.bind_eq_some_iff.1 h
  obtain rfl := Option.some.inj h
  exact ⟨fun _ => id, fun id => Table.exists_find?_set new⟩

theorem commitReplacement_lasting {r : ReplaceComponent} (h : db.commitReplacement r = some db') :
    Lasting db db' := by
  obtain ⟨row, -, hinsert⟩ := Option.bind_eq_some_iff.1 h
  have hlasting := insertComponent_lasting hinsert
  exact ⟨hlasting.category, fun id hid => hlasting.component id (Table.exists_find?_set _ hid)⟩

theorem commitCategory_sound {r : UpdateCategory} {w : Walk Id} (hsound : db.Sound)
    (hway : OnTheWay db.HasCategory r.categoryId r.data.parentCategoryId.join w)
    (hdone : w.next = none)
    (hunmoved : ∀ entry ∈ w.loaded, db.categories.parent (·.parentCategoryId) entry.1 = entry.2)
    (h : db.commitCategory r = some db') : db'.Sound := by
  obtain ⟨row, hrow, h⟩ := Option.bind_eq_some_iff.1 h
  obtain ⟨new, hnew, h⟩ := Option.bind_eq_some_iff.1 h
  obtain rfl := Option.some.inj h
  obtain ⟨hid, hplace⟩ := CategoryUpdate.apply_spec hnew
  have hkey : new.id = r.categoryId := hid.trans (Table.key_of_find? hrow)
  refine ⟨hsound.categories.reparent (hkey ▸ hrow) hplace (fun first hfirst => ?_) hdone hunmoved,
    hsound.components⟩
  rw [hkey]
  exact hway.place first hfirst

theorem commitComponent_sound {r : ChangeComponent} {w : Walk Id} (hsound : db.Sound)
    (hway : OnTheWay db.HasComponent r.componentId r.data.parentComponentId.join w)
    (hdone : w.next = none)
    (hunmoved : ∀ entry ∈ w.loaded, db.components.parent (·.parentComponentId) entry.1 = entry.2)
    (h : db.commitComponent r = some db') : db'.Sound := by
  obtain ⟨row, hrow, h⟩ := Option.bind_eq_some_iff.1 h
  obtain ⟨new, hnew, h⟩ := Option.bind_eq_some_iff.1 h
  obtain rfl := Option.some.inj h
  obtain ⟨hid, hplace⟩ := ComponentUpdate.apply_spec hnew
  have hkey : new.id = r.componentId := hid.trans (Table.key_of_find? hrow)
  refine ⟨hsound.categories, hsound.components.reparent (hkey ▸ hrow) hplace
    (fun first hfirst => ?_) hdone hunmoved⟩
  rw [hkey]
  exact hway.place first hfirst

theorem insertComponent_sound {row : AssetComponent} (hsound : db.Sound)
    (hparent : ∀ id ∈ row.parentComponentId, db.HasComponent id)
    (h : db.insertComponent row = some db') : db'.Sound := by
  obtain ⟨components, hinsert, rfl⟩ := Option.map_eq_some_iff.1 h
  exact ⟨hsound.categories, hsound.components.insert hinsert hparent⟩

theorem commitReplacement_sound {r : ReplaceComponent} (hsound : db.Sound)
    (hparent : ∀ id ∈ r.data.parentComponentId, db.HasComponent id)
    (h : db.commitReplacement r = some db') : db'.Sound := by
  obtain ⟨row, hrow, hinsert⟩ := Option.bind_eq_some_iff.1 h
  have hfind : db.components.find? (row.replaced r.today).id = some row := by
    show db.components.find? row.id = some row
    rwa [Table.key_of_find? hrow]
  have hset : Hierarchies.Sound { db with components := db.components.set (row.replaced r.today) } :=
    ⟨hsound.categories, hsound.components.rewrite hfind rfl⟩
  exact insertComponent_sound hset (fun id hid => Table.exists_find?_set _ (hparent id hid)) hinsert

/-! ## Statements -/

/-- What a statement leads to: rows stay, and what the request knows is the case. -/
def Proceeds (db : Hierarchies) (result : Hierarchies × Option HierarchyTransaction) : Prop :=
  Lasting db result.1 ∧ ∀ t ∈ result.2, t.Knows result.1

theorem proceed_proceeds (t : HierarchyTransaction) (next : Except AppError HierarchyTask)
    (h : ∀ held task, next = .ok task → HierarchyTransaction.Knows db ⟨held, task⟩) :
    Proceeds db (t.proceed db next) := by
  cases next with
  | error e => exact ⟨.refl db, by simp [HierarchyTransaction.proceed]⟩
  | ok task => exact ⟨.refl db, fun u hu => Option.some.inj hu ▸ h _ task rfl⟩

theorem commit_proceeds (result : Option Hierarchies)
    (h : ∀ db', result = some db' → Lasting db db') : Proceeds db (result.getD db, none) := by
  cases result with
  | none => exact ⟨.refl db, by simp⟩
  | some committed => exact ⟨h committed rfl, by simp⟩

theorem step_proceeds (hknows : t.Knows db) : Proceeds db (t.step others db) := by
  obtain ⟨held, task⟩ := t
  cases task with
  | createCategory r =>
      refine proceed_proceeds _ _ fun held' task h => ?_
      obtain ⟨loaded, hload, hnext⟩ := bind_eq_ok.1 h
      obtain rfl := Except.ok.inj hnext
      exact loadParent_exists (fun _ _ => aboveCategory_exists) hload
  | insertingCategory r => exact commit_proceeds _ fun db' => insertCategory_lasting
  | updateCategory r =>
      refine proceed_proceeds _ _ fun held' task h => ?_
      obtain ⟨row, hrow, hnext⟩ := orError_bind_eq_ok.1 h
      obtain rfl := Except.ok.inj hnext
      exact ⟨row, (Option.filter_eq_some_iff.1 hrow).1⟩
  | validatingCategory r =>
      refine proceed_proceeds _ _ fun held' task h => ?_
      obtain ⟨loaded, hload, hnext⟩ := bind_eq_ok.1 h
      obtain rfl := Except.ok.inj hnext
      exact .start hknows (fun _ _ => aboveCategory_exists) hload
  | walkingCategory r w =>
      cases hat : w.next with
      | some id =>
          simp only [HierarchyTransaction.step, hat]
          refine proceed_proceeds _ _ fun held' task h => ?_
          obtain ⟨w', hpass, hnext⟩ := bind_eq_ok.1 h
          obtain rfl := Except.ok.inj hnext
          exact OnTheWay.pass hknows hat (fun _ _ => aboveCategory_exists) hpass
      | none =>
          simp only [HierarchyTransaction.step, hat]
          exact commit_proceeds _ fun db' => commitCategory_lasting
  | addComponent r =>
      refine proceed_proceeds _ _ fun held' task h => ?_
      obtain ⟨asset, -, hnext⟩ := orError_bind_eq_ok.1 h
      obtain rfl := Except.ok.inj hnext
      trivial
  | validatingNew r =>
      refine proceed_proceeds _ _ fun held' task h => ?_
      obtain ⟨loaded, hload, hrest⟩ := bind_eq_ok.1 h
      obtain ⟨_, -, hnext⟩ := bind_eq_ok.1 hrest
      obtain rfl := Except.ok.inj hnext
      exact loadParent_exists (fun _ _ => aboveComponent_exists) hload
  | insertingComponent r => exact commit_proceeds _ fun db' => insertComponent_lasting
  | changeComponent r =>
      refine proceed_proceeds _ _ fun held' task h => ?_
      obtain ⟨row, hrow, hnext⟩ := orError_bind_eq_ok.1 h
      obtain rfl := Except.ok.inj hnext
      have hfind := (Option.filter_eq_some_iff.1 hrow).1
      exact ⟨Table.key_of_find? hfind, row, hfind⟩
  | validatingComponent r row =>
      refine proceed_proceeds _ _ fun held' task h => ?_
      obtain ⟨loaded, hload, hrest⟩ := bind_eq_ok.1 h
      obtain ⟨_, -, hrest⟩ := bind_eq_ok.1 hrest
      obtain ⟨_, -, hnext⟩ := bind_eq_ok.1 hrest
      obtain rfl := Except.ok.inj hnext
      obtain ⟨hid, hexists⟩ := hknows
      show OnTheWay db.HasComponent r.componentId _ _
      rw [hid]
      exact .start hexists (fun _ _ => aboveComponent_exists) hload
  | walkingComponent r row w =>
      cases hat : w.next with
      | some id =>
          simp only [HierarchyTransaction.step, hat]
          refine proceed_proceeds _ _ fun held' task h => ?_
          obtain ⟨w', hpass, hnext⟩ := bind_eq_ok.1 h
          obtain rfl := Except.ok.inj hnext
          exact OnTheWay.pass hknows hat (fun _ _ => aboveComponent_exists) hpass
      | none =>
          simp only [HierarchyTransaction.step, hat]
          split
          · exact commit_proceeds _ fun db' => commitComponent_lasting
          · exact commit_proceeds none (by simp)
  | replaceComponent r =>
      refine proceed_proceeds _ _ fun held' task h => ?_
      obtain ⟨row, -, hnext⟩ := orError_bind_eq_ok.1 h
      obtain rfl := Except.ok.inj hnext
      trivial
  | validatingReplacement r row =>
      refine proceed_proceeds _ _ fun held' task h => ?_
      obtain ⟨loaded, hload, hrest⟩ := bind_eq_ok.1 h
      obtain ⟨_, -, hrest⟩ := bind_eq_ok.1 hrest
      obtain ⟨_, -, hnext⟩ := bind_eq_ok.1 hrest
      obtain rfl := Except.ok.inj hnext
      exact loadParent_exists (fun _ _ => aboveComponent_exists) hload
  | replacing r => exact commit_proceeds _ fun db' => commitReplacement_lasting

theorem proceed_fst (next : Except AppError HierarchyTask) : (t.proceed db next).1 = db := by
  cases next <;> rfl

theorem getD_sound (hsound : db.Sound) (result : Option Hierarchies)
    (h : ∀ db', result = some db' → db'.Sound) : (result.getD db).Sound := by
  cases result with
  | none => exact hsound
  | some committed => exact h committed rfl

theorem step_sound (hsound : db.Sound) (hknows : t.Knows db) (hunmoved : Unmoved others db t) :
    (t.step others db).1.Sound := by
  obtain ⟨held, task⟩ := t
  cases task with
  | insertingCategory r =>
      refine getD_sound hsound _ fun db' h => ?_
      obtain ⟨categories, hinsert, rfl⟩ := Option.map_eq_some_iff.1 h
      exact ⟨hsound.categories.insert hinsert hknows, hsound.components⟩
  | insertingComponent r =>
      refine getD_sound hsound _ fun db' h => ?_
      obtain ⟨components, hinsert, rfl⟩ := Option.map_eq_some_iff.1 h
      exact ⟨hsound.categories, hsound.components.insert hinsert hknows⟩
  | walkingCategory r w =>
      cases hat : w.next with
      | some id => simpa only [HierarchyTransaction.step, hat, proceed_fst] using hsound
      | none =>
          simp only [HierarchyTransaction.step, hat]
          exact getD_sound hsound _ fun db' =>
            commitCategory_sound hsound hknows hat (hunmoved hat)
  | walkingComponent r row w =>
      cases hat : w.next with
      | some id => simpa only [HierarchyTransaction.step, hat, proceed_fst] using hsound
      | none =>
          simp only [HierarchyTransaction.step, hat]
          split
          · exact getD_sound hsound _ fun db' =>
              commitComponent_sound hsound hknows hat (hunmoved hat)
          · exact hsound
  | replacing r =>
      exact getD_sound hsound _ fun db' => commitReplacement_sound hsound hknows
  | createCategory r | updateCategory r | validatingCategory r | addComponent r | validatingNew r
  | changeComponent r | validatingComponent r row | replaceComponent r
  | validatingReplacement r row =>
      simpa only [HierarchyTransaction.step, proceed_fst] using hsound

/-! ## Interleavings -/

theorem HierarchyTransaction.IsRequest.knows (h : t.IsRequest) : t.Knows db := by
  obtain ⟨held, task⟩ := t
  obtain ⟨-, hrequest⟩ := h
  cases task <;> trivial

theorem HierarchyRequests.knows {s : Sessions Hierarchies HierarchyTransaction}
    (h : HierarchyRequests (fun _ _ _ => True) s) : ∀ t ∈ s.running, t.Knows s.db := by
  have hs : s.Holds (fun _ => True) HierarchyTransaction.Knows fun _ _ => True := by
    refine Sessions.Interleaved.holds h (fun _ _ => id) (fun _ _ => trivial)
      (fun db t hrequest _ => ⟨hrequest.knows, fun _ => trivial⟩)
      fun others db t db' next _ hknows hothers _ _ hstep => ?_
    have hproceeds : Proceeds db (t.step others db) := step_proceeds hknows
    rw [(locking_eq_some hstep).2] at hproceeds
    exact ⟨trivial, hproceeds.2, fun u hu => (hothers u hu).1.lasting hproceeds.1,
      fun _ _ _ _ => trivial⟩
  exact hs.session

/-- However the requests interleave, a walk passes no row twice: it comes to its end. -/
theorem walk_bounded {s : Sessions Hierarchies HierarchyTransaction}
    (h : HierarchyRequests (fun _ _ _ => True) s) {held : List RowLock} {w : Walk Id} :
    (∀ r, ⟨held, .walkingCategory r w⟩ ∈ s.running → w.seen.length ≤ s.db.categories.size) ∧
      ∀ r row, ⟨held, .walkingComponent r row w⟩ ∈ s.running →
        w.seen.length ≤ s.db.components.size := by
  refine ⟨fun r ht => ?_, fun r row ht => ?_⟩
  · have hway : OnTheWay s.db.HasCategory r.categoryId r.data.parentCategoryId.join w :=
      h.knows _ ht
    have hwithin : w.Within (· ∈ s.db.categories.rows.map (·.id)) := by
      refine hway.within.mono fun id hid => ?_
      obtain ⟨other, hother⟩ := hid
      exact List.mem_map.2 ⟨other, Table.mem_of_find? hother, Table.key_of_find? hother⟩
    exact hwithin.length_le.trans (List.length_map _).le
  · have hway : OnTheWay s.db.HasComponent r.componentId r.data.parentComponentId.join w :=
      h.knows _ ht
    have hwithin : w.Within (· ∈ s.db.components.rows.map (·.id)) := by
      refine hway.within.mono fun id hid => ?_
      obtain ⟨other, hother⟩ := hid
      exact List.mem_map.2 ⟨other, Table.mem_of_find? hother, Table.key_of_find? hother⟩
    exact hwithin.length_le.trans (List.length_map _).le

/-- In every interleaving in which no row is moved that a request has passed on its way up and is
about to rely on, no category and no component is above itself. -/
theorem hierarchies_acyclic {s : Sessions Hierarchies HierarchyTransaction}
    (h : HierarchyRequests Unmoved s) : s.db.NoCircles := by
  have hs : s.Holds Hierarchies.Sound HierarchyTransaction.Knows fun _ _ => True := by
    refine Sessions.Interleaved.holds h (fun _ _ => id)
      (fun db hempty => ⟨Table.hierarchy_of_empty hempty.1, Table.hierarchy_of_empty hempty.2⟩)
      (fun db t hrequest _ => ⟨hrequest.knows, fun _ => trivial⟩)
      fun others db t db' next hsound hknows hothers _ hunmoved hstep => ?_
    have hproceeds : Proceeds db (t.step others db) := step_proceeds hknows
    have hsound' : (t.step others db).1.Sound := step_sound hsound hknows hunmoved
    rw [(locking_eq_some hstep).2] at hproceeds hsound'
    exact ⟨hsound', hproceeds.2, fun u hu => (hothers u hu).1.lasting hproceeds.1,
      fun _ _ _ _ => trivial⟩
  exact ⟨hs.database.categories.acyclic, hs.database.components.acyclic⟩

/-! ## A category that is moved, and two that are moved below each other -/

namespace Sample

def fitter : Actor := ⟨7, 1⟩

def yard : Hierarchies where
  assets := ⟨[⟨30, 1⟩], by decide⟩
  categories := .empty
  components := .empty

def createCategory (categoryId : Id) (parentId : Option Id) : HierarchyTransaction :=
  ⟨[], .createCategory ⟨fitter, parentId, false, false, false, categoryId⟩⟩

def moveCategory (categoryId parentId : Id) : HierarchyTransaction :=
  ⟨[], .updateCategory ⟨fitter, categoryId, ⟨some (some parentId), none, none, none⟩⟩⟩

def addComponent (componentId : Id) (parentId : Option Id) : HierarchyTransaction :=
  ⟨[], .addComponent ⟨fitter, 30, ⟨parentId, none, none, none, .installed, true⟩, componentId⟩⟩

def moveComponent (componentId parentId : Id) : HierarchyTransaction :=
  ⟨[], .changeComponent ⟨fitter, componentId, { parentComponentId := some (some parentId) }⟩⟩

end Sample

/-- A category is moved below another one; to move that one below the first is refused then. -/
theorem hierarchies_acyclic_move : ∃ s : Sessions Hierarchies HierarchyTransaction,
    s.db.categories.rows.map (·.parentCategoryId) = [some 11, none] ∧ s.db.NoCircles := by
  obtain ⟨s, hs, hrows⟩ := Sessions.Interleaved.of_play HierarchyTransaction.IsRequest
    hierarchyServing Unmoved (fun db => db.categories.rows = [] ∧ db.components.rows = [])
    Sample.yard
    [.begins (Sample.createCategory 10 none), .acts 0, .acts 0,
      .begins (Sample.createCategory 11 none), .acts 0, .acts 0,
      .begins (Sample.moveCategory 10 11), .acts 0, .acts 0, .acts 0, .acts 0,
      .begins (Sample.moveCategory 11 10), .acts 0, .acts 0, .acts 0, .acts 0]
    (p := fun s => s.db.categories.rows.map (·.parentCategoryId) = [some 11, none])
    ⟨rfl, rfl⟩ (by decide +kernel)
  simp only [decide_eq_true_eq] at hrows
  exact ⟨s, hrows, hierarchies_acyclic hs⟩

/-- Two rows each of which is above the row that the other is directly below. -/
theorem not_acyclic_of_crossing {parent : Id → Option Id} {a a' b b' : Id}
    (ha : parent a = some b') (hb' : parent b' = some b) (hb : parent b = some a')
    (ha' : parent a' = some a) : ¬ Acyclic (Below parent) :=
  fun h => h a (.tail (.tail (.tail (.single ha) hb') hb) ha')

/-- Two clients move each of two rows below a row that is below the other one, and each walks up
before the other commits: for categories, and for components. -/
theorem hierarchies_acyclic_broken :
    (∃ s, HierarchyRequests (fun _ _ _ => True) s ∧
      ¬ Acyclic (Below (s.db.categories.parent (·.parentCategoryId)))) ∧
      ∃ s, HierarchyRequests (fun _ _ _ => True) s ∧
        ¬ Acyclic (Below (s.db.components.parent (·.parentComponentId))) := by
  constructor
  · obtain ⟨s, hs, hrows⟩ := Sessions.Interleaved.of_play HierarchyTransaction.IsRequest
      hierarchyServing (fun _ _ _ => True)
      (fun db => db.categories.rows = [] ∧ db.components.rows = []) Sample.yard
      [.begins (Sample.createCategory 10 none), .acts 0, .acts 0,
        .begins (Sample.createCategory 11 none), .acts 0, .acts 0,
        .begins (Sample.createCategory 12 (some 10)), .acts 0, .acts 0,
        .begins (Sample.createCategory 13 (some 11)), .acts 0, .acts 0,
        .begins (Sample.moveCategory 10 13), .begins (Sample.moveCategory 11 12), .acts 0, .acts 1,
        .acts 0, .acts 1, .acts 0, .acts 1, .acts 0, .acts 1, .acts 0, .acts 0]
      (p := fun s =>
        [10, 13, 11, 12].map (s.db.categories.parent (·.parentCategoryId)) =
          [some 13, some 11, some 12, some 10]) ⟨rfl, rfl⟩ (by decide +kernel)
    simp only [decide_eq_true_eq, List.map_cons, List.map_nil, List.cons.injEq, and_true] at hrows
    exact ⟨s, hs, not_acyclic_of_crossing hrows.1 hrows.2.1 hrows.2.2.1 hrows.2.2.2⟩
  · obtain ⟨s, hs, hrows⟩ := Sessions.Interleaved.of_play HierarchyTransaction.IsRequest
      hierarchyServing (fun _ _ _ => True)
      (fun db => db.categories.rows = [] ∧ db.components.rows = []) Sample.yard
      [.begins (Sample.addComponent 10 none), .acts 0, .acts 0, .acts 0,
        .begins (Sample.addComponent 11 none), .acts 0, .acts 0, .acts 0,
        .begins (Sample.addComponent 12 (some 10)), .acts 0, .acts 0, .acts 0,
        .begins (Sample.addComponent 13 (some 11)), .acts 0, .acts 0, .acts 0,
        .begins (Sample.moveComponent 10 13), .begins (Sample.moveComponent 11 12), .acts 0,
        .acts 1, .acts 0, .acts 1, .acts 0, .acts 1, .acts 0, .acts 1, .acts 0, .acts 0]
      (p := fun s =>
        [10, 13, 11, 12].map (s.db.components.parent (·.parentComponentId)) =
          [some 13, some 11, some 12, some 10]) ⟨rfl, rfl⟩ (by decide +kernel)
    simp only [decide_eq_true_eq, List.map_cons, List.map_nil, List.cons.injEq, and_true] at hrows
    exact ⟨s, hs, not_acyclic_of_crossing hrows.1 hrows.2.1 hrows.2.2.1 hrows.2.2.2⟩

end Cestos.Equipment
