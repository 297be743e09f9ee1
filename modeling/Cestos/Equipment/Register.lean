import Mathlib.Data.List.Sort
import Cestos.Core.Sessions
import Cestos.Core.Table

/-!
# The equipment register

`create_register` looks for the entry of the day and locks what it finds. An entry that is found is
written over, and else a new one is written. The table has no unique index, and what is not there
cannot be locked.
-/

namespace Cestos.Equipment.Register

open Cestos.Core

abbrev Id := Nat

/-- A day of the database. -/
abbrev Day := Int

/-- How texts are compared: `str_strip_whitespace` of the schema, `strip` and `lower` of Python, and
`trim` and `lower` of the database. -/
structure Spelling where
  clean : String → String
  strip : String → String
  lower : String → String
  trim : String → String
  lowerSql : String → String

/-- The columns that a body fills. -/
structure EquipmentRegisterCreate where
  projectId : Option Id := none
  assetId : Option Id := none
  equipment : String
  unitNumber : Option String := none
  equipmentType : Option String := none
  status : String := "Operational / Monitoring"
  openDefects : Option String := none
  actionRequired : Option String := none
  priority : String := "MEDIUM"
  remarks : Option String := none

structure EquipmentRegister extends EquipmentRegisterCreate where
  id : Id
  organizationId : Id
  /-- The date of `created_at`. -/
  createdOn : Day
  createdAt : Nat
  createdById : Option Id
  updatedById : Option Id
  archived : Bool

structure Actor where
  id : Id
  organizationId : Id

/-- Projects and assets; archived ones are left out. -/
structure Linked where
  id : Id
  organizationId : Id

structure Database where
  projects : Table Linked.id
  assets : Table Linked.id
  entries : Table EquipmentRegister.id

/-- A request, with the identifier of the row it may write. -/
structure Submission where
  actor : Actor
  body : EquipmentRegisterCreate
  rowId : Id
  now : Nat

section Body

variable (spelling : Spelling)

/-- A text of the body, of a length from `least` to `most`. -/
def text (least most : Nat) (value : String) : Option String :=
  let cleaned := spelling.clean value
  if least ≤ cleaned.length ∧ cleaned.length ≤ most then some cleaned else none

def optionalText (most : Nat) : Option String → Option (Option String)
  | none => some none
  | some value => (text spelling 0 most value).map some

/-- The body as the schema takes it. -/
def validated (body : EquipmentRegisterCreate) : Option EquipmentRegisterCreate := do
  let equipment ← text spelling 1 300 body.equipment
  let unitNumber ← optionalText spelling 100 body.unitNumber
  let equipmentType ← optionalText spelling 200 body.equipmentType
  let status ← text spelling 1 100 body.status
  let openDefects ← optionalText spelling 20000 body.openDefects
  let actionRequired ← optionalText spelling 20000 body.actionRequired
  let priority ← text spelling 1 30 body.priority
  let remarks ← optionalText spelling 20000 body.remarks
  some { body with
    equipment, unitNumber, equipmentType, status, openDefects, actionRequired, priority, remarks }

/-- Project, equipment and unit number of an organization, without case and surrounding blanks. -/
abbrev Key := Id × Option Id × String × String

def key (organizationId : Id) (data : EquipmentRegisterCreate) : Key :=
  (organizationId, data.projectId, spelling.lower (spelling.strip data.equipment),
    spelling.lower (spelling.strip (data.unitNumber.getD "")))

/-- What the database compares with the key. -/
def sqlKey (entry : EquipmentRegister) : Key :=
  (entry.organizationId, entry.projectId, spelling.lowerSql (spelling.trim entry.equipment),
    spelling.lowerSql (spelling.trim (entry.unitNumber.getD "")))

end Body

/-- An active entry of a day. -/
def EquipmentRegister.ActiveOn (entry : EquipmentRegister) (day : Day) : Prop :=
  entry.archived = false ∧ entry.createdOn = day

instance (entry : EquipmentRegister) (day : Day) : Decidable (entry.ActiveOn day) :=
  inferInstanceAs (Decidable (_ ∧ _))

/-- A request between its statements. Entries that were found are locked before they are written. -/
inductive Task
  | submit (r : Submission)
  | looking (r : Submission) (data : EquipmentRegisterCreate)
  | locking (r : Submission) (data : EquipmentRegisterCreate) (found : List Id)
  | updating (r : Submission) (data : EquipmentRegisterCreate) (target : Id) (locked : List Id)
  | inserting (r : Submission) (data : EquipmentRegisterCreate)

def Task.locked : Task → List Id
  | .updating _ _ _ locked => locked
  | _ => []

def Task.isRequest : Task → Bool
  | .submit _ => true
  | _ => false

section Statements

variable (spelling : Spelling) (today : Day)

/-- `validate_links`. -/
def Database.links (db : Database) (actor : Actor) (data : EquipmentRegisterCreate) : Bool :=
  let owned (linked : Option Linked) : Bool := linked.any (·.organizationId = actor.organizationId)
  data.projectId.all (fun id => owned (db.projects.find? id)) ∧
    data.assetId.all fun id => owned (db.assets.find? id)

/-- The entries of the day with a key, the latest first. -/
def Database.matching (db : Database) (wanted : Key) : List EquipmentRegister :=
  (db.entries.rows.filter fun entry =>
    entry.ActiveOn today ∧ sqlKey spelling entry = wanted).insertionSort
      fun a b => b.createdAt ≤ a.createdAt

/-- An entry is written over. -/
def Database.update (db : Database) (r : Submission) (data : EquipmentRegisterCreate) (target : Id) :
    Database :=
  match db.entries.find? target with
  | none => db
  | some entry =>
    { db with entries := db.entries.set { entry with
        toEquipmentRegisterCreate := data
        updatedById := some r.actor.id } }

/-- A new entry; one with an identifier that is in use is refused. -/
def Database.insert (db : Database) (r : Submission) (data : EquipmentRegisterCreate) : Database :=
  match db.entries.insert? {
      toEquipmentRegisterCreate := data
      id := r.rowId
      organizationId := r.actor.organizationId
      createdOn := today
      createdAt := r.now
      createdById := some r.actor.id
      updatedById := some r.actor.id
      archived := false } with
  | none => db
  | some entries => { db with entries }

/-- The statements of a request. A lookup waits for the entries that it saw, and takes those that
still match when it has them; entries that others have written meanwhile it does not see. -/
def submitting : Statement Database Task := fun others db task =>
  match task with
  | .submit r => some (db, (validated spelling r.body).bind fun data =>
      if db.links r.actor data then some (.looking r data) else none)
  | .looking r data =>
    let found := (db.matching spelling today (key spelling r.actor.organizationId data)).map (·.id)
    some (db, some (if found = [] then .inserting r data else .locking r data found))
  | .locking r data found =>
    if ∃ other ∈ others, ∃ id ∈ other.locked, id ∈ found then none else
      let held := (db.matching spelling today (key spelling r.actor.organizationId data)).filter
        (·.id ∈ found)
      match held with
      | [] => some (db, some (.inserting r data))
      | entry :: _ => some (db, some (.updating r data entry.id (held.map (·.id))))
  | .updating r data target _ => some (db.update r data target, none)
  | .inserting r data => some (db.insert today r data, none)

/-- What interleaved requests of a day lead to; at first there are no entries of the day. -/
def DayOfRequests (admits : List Task → Database → Task → Prop) : Sessions Database Task → Prop :=
  Sessions.Interleaved (fun task => task.isRequest = true) (submitting spelling today) admits
    fun db => ∀ entry ∈ db.entries.rows, entry.createdOn ≠ today

end Statements

/-!
## One entry a day

There is one active entry of a day for each key, if no request looks for a key while another one is
about to write the first entry of that key, and if the database reads the texts as Python does.
-/

section Keys

variable (spelling : Spelling) (today : Day)

/-- The key of an active entry of the day. -/
def entryKey (entry : EquipmentRegister) : Option Key :=
  if entry.ActiveOn today then
    some (key spelling entry.organizationId entry.toEquipmentRegisterCreate)
  else none

/-- No two active entries of the day have the same key. -/
def OnePerKey (db : Database) : Prop := db.entries.UniqueOn (entryKey spelling today)

instance (db : Database) : Decidable (OnePerKey spelling today db) :=
  inferInstanceAs (Decidable (Table.UniqueOn _ _))

/-- The database makes the same of the texts as Python. -/
def Plain (data : EquipmentRegisterCreate) : Prop :=
  ∀ text ∈ [data.equipment, data.unitNumber.getD ""],
    spelling.lowerSql (spelling.trim text) = spelling.lower (spelling.strip text)

instance (data : EquipmentRegisterCreate) : Decidable (Plain spelling data) :=
  inferInstanceAs (Decidable (∀ text ∈ _, _))

/-- The key that a request is about to write the first entry of. -/
def Task.seeks : Task → Option Key
  | .inserting r data => some (key spelling r.actor.organizationId data)
  | _ => none

/-- The texts of a request are plain, and nothing is looked for that another request is about to
write. -/
def Orderly (others : List Task) (_db : Database) : Task → Prop
  | .submit r => ∀ data ∈ validated spelling r.body, Plain spelling data
  | .looking r data => ∀ other ∈ others,
      other.seeks spelling ≠ some (key spelling r.actor.organizationId data)
  | _ => True

instance (others : List Task) (db : Database) : DecidablePred (Orderly spelling others db)
  | .submit r => inferInstanceAs (Decidable (∀ data ∈ validated spelling r.body, _))
  | .looking _ _ => inferInstanceAs (Decidable (∀ other ∈ others, _))
  | .locking _ _ _ | .updating _ _ _ _ | .inserting _ _ => inferInstanceAs (Decidable True)

/-- An active entry of the day has a key. -/
def Present (db : Database) (id : Id) (k : Key) : Prop :=
  ∃ entry ∈ db.entries.find? id, entryKey spelling today entry = some k

/-- One entry for each key, and all of them plain. -/
structure Sound (db : Database) : Prop where
  one : OnePerKey spelling today db
  plain : ∀ entry ∈ db.entries.rows, entry.ActiveOn today →
    Plain spelling entry.toEquipmentRegisterCreate

/-- What a request knows between its statements. -/
def Known (db : Database) : Task → Prop
  | .submit _ => True
  | .looking _ data => Plain spelling data
  | .locking r data found => Plain spelling data ∧
      ∃ id ∈ found, Present spelling today db id (key spelling r.actor.organizationId data)
  | .updating r data target _ => Plain spelling data ∧
      Present spelling today db target (key spelling r.actor.organizationId data)
  | .inserting r data => Plain spelling data ∧
      ∀ id, ¬ Present spelling today db id (key spelling r.actor.organizationId data)

/-- Two requests are not about to write the first entry of one key. -/
def Apart (t u : Task) : Prop := ∀ k ∈ t.seeks spelling, u.seeks spelling ≠ some k

variable {spelling today} {db db' : Database}

theorem entryKey_eq_some {entry : EquipmentRegister} {k : Key} :
    entryKey spelling today entry = some k ↔ entry.ActiveOn today ∧
      key spelling entry.organizationId entry.toEquipmentRegisterCreate = k := by
  simp [entryKey]

theorem present_of_mem {entry : EquipmentRegister} {k : Key} (h : entry ∈ db.entries.rows)
    (hkey : entryKey spelling today entry = some k) : Present spelling today db entry.id k :=
  ⟨entry, Table.find?_of_mem h, hkey⟩

theorem sqlKey_of_plain {entry : EquipmentRegister}
    (h : Plain spelling entry.toEquipmentRegisterCreate) :
    sqlKey spelling entry =
      key spelling entry.organizationId entry.toEquipmentRegisterCreate := by
  unfold sqlKey key
  rw [h entry.equipment (by simp), h (entry.unitNumber.getD "") (by simp)]

theorem mem_matching (h : Sound spelling today db) {entry : EquipmentRegister} {k : Key} :
    entry ∈ db.matching spelling today k ↔
      entry ∈ db.entries.rows ∧ entryKey spelling today entry = some k := by
  rw [Database.matching, List.mem_insertionSort, List.mem_filter, decide_eq_true_eq,
    entryKey_eq_some]
  refine and_congr_right fun hmem => and_congr_right fun hactive => ?_
  rw [sqlKey_of_plain (h.plain entry hmem hactive)]

theorem Apart.symm {t u : Task} (h : Apart spelling t u) : Apart spelling u t :=
  fun k hk heq => h k heq hk

theorem apart_of_seeks {t u : Task} (h : t.seeks spelling = none) : Apart spelling t u := by
  intro k hk
  rw [h] at hk
  cases hk

/-! ### Writing -/

theorem Known.of_present {task : Task} (h : Known spelling today db task)
    (hpresent : ∀ id k, Present spelling today db id k → Present spelling today db' id k)
    (hnew : ∀ k ∈ task.seeks spelling, ∀ id, Present spelling today db' id k →
      Present spelling today db id k) : Known spelling today db' task := by
  cases task with
  | submit r => trivial
  | looking r data => exact h
  | locking r data found =>
      obtain ⟨hplain, id, hid, hfound⟩ := h
      exact ⟨hplain, id, hid, hpresent id _ hfound⟩
  | updating r data target locked => exact ⟨h.1, hpresent target _ h.2⟩
  | inserting r data => exact ⟨h.1, fun id hid => h.2 id (hnew _ rfl id hid)⟩

variable {r : Submission} {data : EquipmentRegisterCreate}

theorem update_eq {target : Id}
    (h : Present spelling today db target (key spelling r.actor.organizationId data)) :
    ∃ entry ∈ db.entries.find? target, ∃ written : EquipmentRegister,
      db.update r data target = { db with entries := db.entries.set written } ∧
        written.id = target ∧ written.toEquipmentRegisterCreate = data ∧
        entryKey spelling today written = entryKey spelling today entry := by
  obtain ⟨entry, hentry, hkey⟩ := h
  obtain ⟨hactive, hsame⟩ := entryKey_eq_some.1 hkey
  have hid : entry.id = target := Table.key_of_find? hentry
  refine ⟨entry, hentry, { entry with
    toEquipmentRegisterCreate := data
    updatedById := some r.actor.id }, ?_, hid, rfl, ?_⟩
  · have hfind : db.entries.find? target = some entry := hentry
    rw [Database.update, hfind]
  · rw [hkey]
    refine entryKey_eq_some.2 ⟨hactive, ?_⟩
    rw [show entry.organizationId = r.actor.organizationId from congrArg Prod.fst hsame]

theorem present_update {target : Id}
    (h : Present spelling today db target (key spelling r.actor.organizationId data)) (id : Id)
    (k : Key) : Present spelling today (db.update r data target) id k ↔
      Present spelling today db id k := by
  obtain ⟨entry, hentry, written, hupdate, rfl, -, hkey⟩ := update_eq h
  rw [hupdate]
  unfold Present
  rw [Table.find?_set]
  split
  next hid =>
    subst hid
    rw [show db.entries.find? written.id = some entry from hentry]
    simp [hkey]
  next => exact Iff.rfl

theorem Sound.update {target : Id} (h : Sound spelling today db)
    (hpresent : Present spelling today db target (key spelling r.actor.organizationId data))
    (hplain : Plain spelling data) : Sound spelling today (db.update r data target) := by
  obtain ⟨entry, hentry, written, hupdate, rfl, rfl, hkey⟩ := update_eq hpresent
  rw [hupdate]
  refine ⟨h.one.of_kept fun new hnew k hk => ?_, fun new hnew hactive => ?_⟩
  · rcases (Table.mem_set_of_find? hentry).1 hnew with ⟨hold, -⟩ | rfl
    · exact ⟨new, hold, rfl, hk⟩
    · exact ⟨entry, Table.mem_of_find? hentry, Table.key_of_find? hentry, hkey.symm.trans hk⟩
  · rcases (Table.mem_set_of_find? hentry).1 hnew with ⟨hold, -⟩ | rfl
    · exact h.plain new hold hactive
    · exact hplain

theorem insert_spec (h : Sound spelling today db) (hplain : Plain spelling data)
    (habsent : ∀ id, ¬ Present spelling today db id (key spelling r.actor.organizationId data)) :
    Sound spelling today (db.insert today r data) ∧
      (∀ id k, Present spelling today db id k →
        Present spelling today (db.insert today r data) id k) ∧
      ∀ id k, Present spelling today (db.insert today r data) id k →
        Present spelling today db id k ∨ k = key spelling r.actor.organizationId data := by
  unfold Database.insert
  split
  · exact ⟨h, fun _ _ => id, fun _ _ => .inl⟩
  next entries hinsert =>
    have hnew : ∀ entry ∈ entries.rows, entry ∈ db.entries.rows ∨
        entry.toEquipmentRegisterCreate = data ∧ entry.organizationId = r.actor.organizationId := by
      intro entry hentry
      rcases (Table.mem_insert? hinsert).1 hentry with hold | rfl
      · exact .inl hold
      · exact .inr ⟨rfl, rfl⟩
    refine ⟨⟨h.one.insert (fun entry hentry _ k hk hother => ?_) hinsert,
      fun entry hentry hactive => ?_⟩, fun id k hpresent => ?_, fun id k hpresent => ?_⟩
    · obtain ⟨-, rfl⟩ := entryKey_eq_some.1 hk
      exact habsent entry.id (present_of_mem hentry hother)
    · rcases hnew entry hentry with hold | ⟨hdata, -⟩
      · exact h.plain entry hold hactive
      · exact hdata ▸ hplain
    · obtain ⟨entry, hentry, hkey⟩ := hpresent
      exact ⟨entry, Table.find?_insert?_of_find? hinsert hentry, hkey⟩
    · obtain ⟨entry, hentry, hkey⟩ := hpresent
      obtain ⟨hmem, rfl⟩ := Table.find?_eq_some.1 hentry
      rcases hnew entry hmem with hold | ⟨hdata, horganization⟩
      · exact .inl (present_of_mem hold hkey)
      · refine .inr ?_
        rw [← (entryKey_eq_some.1 hkey).2, hdata, horganization]

/-! ### Interleavings -/

/-- The statement keeps one entry for each key, also next to other requests. -/
theorem submitting_spec {others : List Task} {task : Task} {next : Option Task}
    (hsound : Sound spelling today db) (hknown : Known spelling today db task)
    (hothers : ∀ other ∈ others, Known spelling today db other ∧ Apart spelling task other)
    (horderly : Orderly spelling others db task)
    (hrun : submitting spelling today others db task = some (db', next)) :
    Sessions.Keeps (Sound spelling today) (Known spelling today) (Apart spelling) others db'
      next := by
  have hsame : ∀ other ∈ others, Known spelling today db other := fun other hother =>
    (hothers other hother).1
  cases task with
  | submit r =>
      obtain ⟨rfl, hnext⟩ := Prod.mk.inj (Option.some.inj hrun)
      have hlooking : ∀ t ∈ next, ∃ data ∈ validated spelling r.body, t = .looking r data := by
        rintro t rfl
        obtain ⟨data, hdata, hlinks⟩ := Option.bind_eq_some_iff.1 hnext
        obtain ⟨-, hlooking⟩ := Option.ite_none_right_eq_some.1 hlinks
        exact ⟨data, hdata, (Option.some.inj hlooking).symm⟩
      refine ⟨hsound, fun t ht => ?_, hsame, fun t ht other _ => ?_⟩
      · obtain ⟨data, hdata, rfl⟩ := hlooking t ht
        exact horderly data hdata
      · obtain ⟨data, -, rfl⟩ := hlooking t ht
        exact apart_of_seeks rfl
  | looking r data =>
      obtain ⟨rfl, rfl⟩ := Prod.mk.inj (Option.some.inj hrun)
      refine ⟨hsound, fun t ht => ?_, hsame, fun t ht other hother => ?_⟩
      · obtain rfl := Option.some.inj ht
        split
        next hnone =>
          refine ⟨hknown, fun id hpresent => ?_⟩
          obtain ⟨entry, hentry, hkey⟩ := hpresent
          have hmem := (mem_matching hsound).2 ⟨Table.mem_of_find? hentry, hkey⟩
          rw [List.map_eq_nil_iff.1 hnone] at hmem
          cases hmem
        next hsome =>
          obtain ⟨id, hid⟩ := List.exists_mem_of_ne_nil _ hsome
          refine ⟨hknown, id, hid, ?_⟩
          obtain ⟨entry, hentry, rfl⟩ := List.mem_map.1 hid
          obtain ⟨hmem, hkey⟩ := (mem_matching hsound).1 hentry
          exact present_of_mem hmem hkey
      · obtain rfl := Option.some.inj ht
        split
        · intro k hk hseeks
          obtain rfl := Option.some.inj hk
          exact horderly other hother hseeks
        · exact apart_of_seeks rfl
  | locking r data found =>
      obtain ⟨hplain, id, hid, hpresent⟩ := hknown
      simp only [submitting] at hrun
      split at hrun
      · cases hrun
      split at hrun
      next hnone =>
        obtain ⟨entry, hentry, hkey⟩ := hpresent
        have hmem : entry ∈ (db.matching spelling today
            (key spelling r.actor.organizationId data)).filter (·.id ∈ found) := by
          refine List.mem_filter.2
            ⟨(mem_matching hsound).2 ⟨Table.mem_of_find? hentry, hkey⟩, decide_eq_true ?_⟩
          rw [Table.key_of_find? hentry]
          exact hid
        rw [hnone] at hmem
        cases hmem
      next entry rest hheld =>
        obtain ⟨rfl, rfl⟩ := Prod.mk.inj (Option.some.inj hrun)
        refine ⟨hsound, fun t ht => ?_, hsame, fun t ht other _ => ?_⟩
        · obtain rfl := Option.some.inj ht
          have hmem : entry ∈ db.matching spelling today
              (key spelling r.actor.organizationId data) :=
            List.mem_of_mem_filter (hheld ▸ List.mem_cons_self)
          obtain ⟨hrow, hkey⟩ := (mem_matching hsound).1 hmem
          exact ⟨hplain, present_of_mem hrow hkey⟩
        · obtain rfl := Option.some.inj ht
          exact apart_of_seeks rfl
  | updating r data target locked =>
      obtain ⟨rfl, rfl⟩ := Prod.mk.inj (Option.some.inj hrun)
      have hpresent := present_update hknown.2
      exact .over (hsound.update hknown.2 hknown.1) fun other hother =>
        (hsame other hother).of_present (fun id k => (hpresent id k).2)
          fun k _ id => (hpresent id k).1
  | inserting r data =>
      obtain ⟨rfl, rfl⟩ := Prod.mk.inj (Option.some.inj hrun)
      obtain ⟨hkept, hmore, hnew⟩ := insert_spec hsound hknown.1 hknown.2
      refine .over hkept fun other hother => (hsame other hother).of_present hmore fun k hk id hid => ?_
      refine (hnew id k hid).resolve_right fun heq => ?_
      exact (hothers other hother).2 _ rfl (heq ▸ hk)

/-- In every interleaving of orderly requests there is one active entry of the day for each project,
equipment and unit. -/
theorem one_entry_a_day {s : Sessions Database Task}
    (h : DayOfRequests spelling today (Orderly spelling) s) : OnePerKey spelling today s.db := by
  have hall : s.Holds (Sound spelling today) (Known spelling today) (Apart spelling) := by
    refine h.holds (fun _ _ => Apart.symm) (fun db hempty => ?_) (fun db task hrequest _ => ?_)
      fun others db task db' next hsound hknown hothers _ hadmits hrun =>
        submitting_spec hsound hknown hothers hadmits hrun
    · refine ⟨fun a ha _ _ k hk _ => ?_, fun a ha hactive => absurd hactive.2 (hempty a ha)⟩
      exact absurd (entryKey_eq_some.1 hk).1.2 (hempty a ha)
    · cases task with
      | submit r => exact ⟨trivial, fun _ => apart_of_seeks rfl⟩
      | _ => cases hrequest
  exact hall.database.one

end Keys

namespace Sample

def plainTexts : Spelling := ⟨id, id, id, id, id⟩

def pump (rowId : Id) : Task := .submit ⟨⟨1, 1⟩, { equipment := "Pump" }, rowId, rowId⟩

def blank : Database := ⟨.empty, .empty, .empty⟩

/-- Both requests look before one of them writes. -/
def bothFirst : List (Sessions.Move Task) :=
  [.begins (pump 1), .begins (pump 2), .acts 0, .acts 1, .acts 0, .acts 1, .acts 0, .acts 0]

/-- Two requests find what another one has written, and the second of them waits. -/
def inTurn : List (Sessions.Move Task) :=
  [.begins (pump 1), .acts 0, .acts 0, .acts 0, .begins (pump 2), .begins (pump 3),
    .acts 0, .acts 1, .acts 0, .acts 1, .acts 0, .acts 0, .acts 0, .acts 0]

end Sample

theorem one_entry_a_day_in_turn : ∃ s : Sessions Database Task,
    DayOfRequests Sample.plainTexts 0 (Orderly Sample.plainTexts) s ∧ s.running.length = 0 ∧
      s.db.entries.rows.map (·.id) = [1] ∧ OnePerKey Sample.plainTexts 0 s.db := by
  obtain ⟨s, hs, hend⟩ := Sessions.Interleaved.of_play (fun task : Task => task.isRequest = true)
    (submitting Sample.plainTexts 0) (Orderly Sample.plainTexts)
    (fun db => ∀ entry ∈ db.entries.rows, entry.createdOn ≠ 0) Sample.blank Sample.inTurn
    (p := fun s => s.running.length = 0 ∧ s.db.entries.rows.map (·.id) = [1])
    (by decide) (by decide +kernel)
  obtain ⟨hover, hrows⟩ := of_decide_eq_true hend
  exact ⟨s, hs, hover, hrows, one_entry_a_day hs⟩

/-- Neither of two first requests finds an entry to lock, and both write one. -/
theorem two_entries_a_day : ¬ ∀ (spelling : Spelling) (today : Day) (s : Sessions Database Task),
    DayOfRequests spelling today (fun _ _ _ => True) s → OnePerKey spelling today s.db := by
  intro h
  obtain ⟨s, hs, htwo⟩ := Sessions.Interleaved.of_play (fun task : Task => task.isRequest = true)
    (submitting Sample.plainTexts 0) (fun _ _ _ => True)
    (fun db => ∀ entry ∈ db.entries.rows, entry.createdOn ≠ 0) Sample.blank Sample.bothFirst
    (p := fun s => ¬ OnePerKey Sample.plainTexts 0 s.db) (by decide) (by decide +kernel)
  exact of_decide_eq_true htwo (h _ _ s hs)

end Cestos.Equipment.Register
