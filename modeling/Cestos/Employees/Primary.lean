import Cestos.Employees.Assignments

/-!
# Primary assignments

At most one assignment of an employee is active and primary, and none ends before it starts, as
long as each request commits what it has checked: others have not changed in between what it
read, and a transfer does not start before the assignment that it completes.
-/

namespace Cestos.Employees

open Cestos.Core

variable {db db' : Database} {read row : EmployeeAssignment}

/-- Nobody has two active primary assignments. -/
def Database.PrimaryUnique (db : Database) : Prop :=
  ∀ a ∈ db.assignments.rows, ∀ b ∈ db.assignments.rows, a.employeeId = b.employeeId →
    a.Leads → b.Leads → a.id = b.id

/-- No assignment ends before it starts. -/
def Database.DatesOrdered (db : Database) : Prop := ∀ a ∈ db.assignments.rows, a.Ordered

instance (db : Database) : Decidable db.PrimaryUnique :=
  inferInstanceAs (Decidable (∀ a ∈ _, ∀ b ∈ _, _ → _ → _ → _))

instance (db : Database) : Decidable db.DatesOrdered :=
  inferInstanceAs (Decidable (∀ a ∈ _, _))

structure Database.Placed (db : Database) : Prop where
  primary : db.PrimaryUnique
  ordered : db.DatesOrdered

/-- The employee has no active primary assignment but that one. -/
def Database.Unopposed (db : Database) (employeeId : Id) (selfId : Option Id) : Prop :=
  ∀ a ∈ db.assignments.rows, a.employeeId = employeeId → a.Leads → some a.id = selfId

instance (db : Database) (employeeId : Id) (selfId : Option Id) :
    Decidable (db.Unopposed employeeId selfId) :=
  inferInstanceAs (Decidable (∀ a ∈ _, _ → _ → _))

/-- The assignment has the dates, the status and the primary flag that were read. -/
def EmployeeAssignment.Same (read row : EmployeeAssignment) : Prop :=
  row.startDate = read.startDate ∧ row.endDate = read.endDate ∧ row.status = read.status ∧
    row.isPrimary = read.isPrimary

instance (read row : EmployeeAssignment) : Decidable (read.Same row) :=
  inferInstanceAs (Decidable (_ ∧ _ ∧ _ ∧ _))

/-- What a request commits is what it has checked. -/
def Steady (_others : List AssignmentTask) (db : Database) : AssignmentTask → Prop
  | .inserting r => r.body.Leads → db.Unopposed r.employeeId none
  | .writing _ read merged => ∃ row ∈ db.assignments.find? read.id, read.Same row ∧
    (merged.Leads → db.Unopposed row.employeeId (some read.id))
  | .opening r current => db.Unopposed r.employeeId (current.map (·.id)) ∧
    ∀ read ∈ current, ∃ row ∈ db.assignments.find? read.id, read.Same row ∧
      row.startDate ≤ r.body.startDate
  | _ => True

instance (others : List AssignmentTask) (db : Database) : DecidablePred (Steady others db)
  | .inserting _ => inferInstanceAs (Decidable (_ → _))
  | .writing _ _ _ => inferInstanceAs (Decidable (∃ row ∈ _, _ ∧ _))
  | .opening _ _ => inferInstanceAs (Decidable (_ ∧ ∀ read ∈ _, ∃ row ∈ _, _ ∧ _))
  | .create _ | .checking _ _ | .update _ | .merging _ _ | .transfer _ | .finding _ _
  | .completing _ _ _ => inferInstanceAs (Decidable True)

/-! ## What the requests check -/

/-- What has been checked does not depend on the database. -/
def AssignmentTask.Checked : AssignmentTask → Prop
  | .inserting r => r.body.Ordered
  | .writing r read merged => r.body.merged read = .ok merged ∧ merged.Ordered
  | _ => True

theorem checkAssignmentRefs_ordered {actor : Actor} {today : Date} {selfService : Bool}
    {body : EmployeeAssignmentCreate} {employeeId : Id} {selfId : Option Id}
    (h : db.checkAssignmentRefs actor today selfService body employeeId selfId = .ok ()) :
    body.Ordered := by
  obtain ⟨_, -, h⟩ := bind_eq_ok.1 h
  obtain ⟨_, -, h⟩ := bind_eq_ok.1 h
  obtain ⟨_, -, h⟩ := bind_eq_ok.1 h
  obtain ⟨_, -, h⟩ := bind_eq_ok.1 h
  obtain ⟨_, -, h⟩ := bind_eq_ok.1 h
  exact (ensure_bind_eq_ok.1 h).1

/-! ## What the requests write -/

theorem overwrite_same {α : Type} [DecidableEq α] (value : Option α) (current : α) :
    overwrite value current current = value.getD current := by
  cases value with
  | none => rfl
  | some new =>
      show (if new = current then current else new) = new
      split
      · next hsame => exact hsame.symm
      · rfl

/-- On a row that is as it was read, an update writes what has been checked. -/
theorem write_merged (actor : Actor) (now : Instant) {data : EmployeeAssignmentUpdate}
    {merged : EmployeeAssignmentCreate} (hsame : read.Same row)
    (hmerged : data.merged read = .ok merged) :
    (merged.Leads ↔ (data.write actor now read row).Leads) ∧
      (merged.Ordered ↔ (data.write actor now read row).Ordered) := by
  obtain ⟨hstart, hend, hstatus, hprimary⟩ := hsame
  obtain ⟨projectId, -, hrest⟩ := bind_eq_ok.1 hmerged
  obtain ⟨assignmentType, -, hrest⟩ := bind_eq_ok.1 hrest
  obtain ⟨startDate, hstartDate, hrest⟩ := bind_eq_ok.1 hrest
  obtain ⟨isPrimary, hisPrimary, hrest⟩ := bind_eq_ok.1 hrest
  obtain ⟨status, hstatusRead, hrest⟩ := bind_eq_ok.1 hrest
  obtain rfl := Except.ok.inj hrest
  have hwritten : (data.write actor now read row).startDate = startDate := by
    show overwrite _ _ row.startDate = _
    rw [hstart, overwrite_same, required_eq_ok hstartDate]
  have hwritten' : (data.write actor now read row).endDate = data.endDate.getD read.endDate := by
    show overwrite _ _ row.endDate = _
    rw [hend, overwrite_same]
  have hactive : (data.write actor now read row).status = status := by
    show overwrite _ _ row.status = _
    rw [hstatus, overwrite_same, required_eq_ok hstatusRead]
  have hlead : (data.write actor now read row).isPrimary = isPrimary := by
    show overwrite _ _ row.isPrimary = _
    rw [hprimary, overwrite_same, required_eq_ok hisPrimary]
  simp [EmployeeAssignmentCreate.Leads, EmployeeAssignmentCreate.Ordered, hwritten, hwritten',
    hactive, hlead]

theorem Database.Placed.insert (h : db.Placed) (hordered : row.Ordered)
    (hfree : row.Leads → db.Unopposed row.employeeId none)
    (hinsert : db.insertAssignment row = some db') : db'.Placed := by
  obtain ⟨assignments, hrows, rfl⟩ := Option.map_eq_some_iff.1 hinsert
  refine ⟨fun a ha b hb howner hleada hleadb => ?_, fun a ha => ?_⟩
  · rcases (Table.mem_insert? hrows).1 ha with holda | rfl
    · rcases (Table.mem_insert? hrows).1 hb with holdb | rfl
      · exact h.primary a holda b holdb howner hleada hleadb
      · exact nomatch hfree hleadb a holda howner hleada
    · rcases (Table.mem_insert? hrows).1 hb with holdb | rfl
      · exact nomatch hfree hleada b holdb howner.symm hleadb
      · rfl
  · rcases (Table.mem_insert? hrows).1 ha with hold | rfl
    · exact h.ordered a hold
    · exact hordered

/-- An assignment is rewritten, and nothing else opposes it. -/
theorem Database.Placed.set (h : db.Placed) (hordered : row.Ordered)
    (hfree : row.Leads → db.Unopposed row.employeeId (some row.id)) :
    Database.Placed { db with assignments := db.assignments.set row } := by
  refine ⟨fun a ha b hb howner hleada hleadb => ?_, fun a ha => ?_⟩
  · rcases Table.mem_set.1 ha with ⟨holda, -⟩ | ⟨rfl, -⟩
    · rcases Table.mem_set.1 hb with ⟨holdb, -⟩ | ⟨rfl, -⟩
      · exact h.primary a holda b holdb howner hleada hleadb
      · exact Option.some.inj (hfree hleadb a holda howner hleada)
    · rcases Table.mem_set.1 hb with ⟨holdb, -⟩ | ⟨rfl, -⟩
      · exact (Option.some.inj (hfree hleada b holdb howner.symm hleadb)).symm
      · rfl
  · rcases Table.mem_set.1 ha with ⟨hold, -⟩ | ⟨rfl, -⟩
    · exact h.ordered a hold
    · exact hordered

/-- What is completed is not active, and ends on the day that is given. -/
theorem write_completion (last : Date) (actor : Actor) (now : Instant) (hsame : read.Same row) :
    ¬ ((completion last).write actor now read row).Leads ∧
      (row.startDate ≤ last → ((completion last).write actor now read row).Ordered) := by
  obtain ⟨-, hend, hstatus, -⟩ := hsame
  have hcompleted : ((completion last).write actor now read row).status = .completed := by
    show overwrite (some .completed) read.status row.status = _
    rw [hstatus, overwrite_same]
    rfl
  have hended : ((completion last).write actor now read row).endDate = some last := by
    show overwrite (some (some last)) read.endDate row.endDate = _
    rw [hend, overwrite_same]
    rfl
  constructor
  · rintro ⟨hactive, -⟩
    rw [hcompleted] at hactive
    cases hactive
  · intro hle day hday
    rw [hended] at hday
    exact Option.some.inj hday ▸ hle

/-- The current assignment of a transfer is completed, and then the employee has none. -/
theorem Database.Placed.complete {r : TransferEmployee} {current : Option EmployeeAssignment}
    (h : db.Placed) (hunopposed : db.Unopposed r.employeeId (current.map (·.id)))
    (hcurrent : ∀ read ∈ current, ∃ row ∈ db.assignments.find? read.id, read.Same row ∧
      row.startDate ≤ r.body.startDate) :
    (db.complete r current).Placed ∧ (db.complete r current).Unopposed r.employeeId none := by
  cases current with
  | none => exact ⟨h, hunopposed⟩
  | some read =>
      obtain ⟨row, hfind, hsame, hle⟩ := hcurrent read rfl
      obtain ⟨hdone, hordered⟩ := write_completion r.body.startDate r.actor r.now hsame
      have hwrite : db.complete r (some read) = Database.mk db.employees db.projects db.locations
          db.positions db.rotationPatterns (db.assignments.set
            ((completion r.body.startDate).write r.actor r.now read row)) db.leaves := by
        show db.writeAssignment _ _ _ read = _
        rw [Database.writeAssignment, Option.mem_def.1 hfind]
      rw [hwrite]
      refine ⟨h.set (hordered hle) fun hleads => absurd hleads hdone, ?_⟩
      intro a ha howner hleads
      rcases Table.mem_set.1 ha with ⟨hold, hne⟩ | ⟨rfl, -⟩
      · have hself : a.id = read.id := Option.some.inj (hunopposed a hold howner hleads)
        exact absurd (hself.trans (Table.key_of_find? hfind).symm) hne
      · exact absurd hleads hdone

/-! ## Interleavings -/

/-- A request that goes on writes nothing, and knows what it has checked. -/
theorem proceed_keeps {next : Except AppError AssignmentTask} {after : Option AssignmentTask}
    (hplaced : db.Placed) (h : proceed db next = (db', after))
    (hchecked : ∀ task, next = .ok task → task.Checked) :
    db'.Placed ∧ ∀ task ∈ after, task.Checked := by
  cases next with
  | error e =>
      obtain ⟨rfl, rfl⟩ := Prod.mk.inj h
      exact ⟨hplaced, by simp⟩
  | ok task =>
      obtain ⟨rfl, rfl⟩ := Prod.mk.inj h
      exact ⟨hplaced, fun u hu => Option.some.inj hu ▸ hchecked task rfl⟩

theorem step_keeps {others : List AssignmentTask} {task : AssignmentTask}
    {after : Option AssignmentTask} (hplaced : db.Placed) (hchecked : task.Checked)
    (hsteady : Steady others db task) (h : task.step db = (db', after)) :
    db'.Placed ∧ ∀ next ∈ after, next.Checked := by
  cases task with
  | create r =>
      refine proceed_keeps hplaced h fun next hnext => ?_
      obtain ⟨employee, -, hrest⟩ := bind_eq_ok.1 hnext
      obtain rfl := Except.ok.inj hrest
      trivial
  | checking r selfService =>
      refine proceed_keeps hplaced h fun next hnext => ?_
      obtain ⟨_, hrefs, hrest⟩ := bind_eq_ok.1 hnext
      obtain rfl := Except.ok.inj hrest
      exact checkAssignmentRefs_ordered hrefs
  | inserting r =>
      obtain ⟨rfl, rfl⟩ := Prod.mk.inj h
      refine ⟨?_, by simp⟩
      cases hinsert : db.insertAssignment
          (r.body.assignment r.assignmentId r.actor r.employeeId r.now) with
      | none => exact hplaced
      | some inserted =>
          have hordered : (r.body.assignment r.assignmentId r.actor r.employeeId r.now).Ordered :=
            hchecked
          exact hplaced.insert hordered hsteady hinsert
  | update r =>
      refine proceed_keeps hplaced h fun next hnext => ?_
      obtain ⟨read, -, hrest⟩ := bind_eq_ok.1 hnext
      obtain rfl := Except.ok.inj hrest
      trivial
  | merging r read =>
      refine proceed_keeps hplaced h fun next hnext => ?_
      obtain ⟨merged, hmerged, hrest⟩ := bind_eq_ok.1 hnext
      obtain ⟨_, hrefs, hrest⟩ := bind_eq_ok.1 hrest
      obtain rfl := Except.ok.inj hrest
      exact ⟨hmerged, checkAssignmentRefs_ordered hrefs⟩
  | writing r read merged =>
      obtain ⟨rfl, rfl⟩ := Prod.mk.inj h
      obtain ⟨row, hfind, hsame, hfree⟩ := hsteady
      obtain ⟨hmerged, hordered⟩ := hchecked
      obtain ⟨hleads, hdates⟩ := write_merged r.actor r.now hsame hmerged
      refine ⟨?_, by simp⟩
      rw [Database.writeAssignment, Option.mem_def.1 hfind]
      refine hplaced.set (hdates.1 hordered) fun hlead => ?_
      have hid : row.id = read.id := Table.key_of_find? hfind
      show db.Unopposed row.employeeId (some row.id)
      rw [hid]
      exact hfree (hleads.2 hlead)
  | transfer r =>
      refine proceed_keeps hplaced h fun next hnext => ?_
      obtain ⟨employee, -, hrest⟩ := bind_eq_ok.1 hnext
      obtain rfl := Except.ok.inj hrest
      trivial
  | finding r selfService =>
      obtain ⟨rfl, rfl⟩ := Prod.mk.inj h
      exact ⟨hplaced, fun next hnext => Option.some.inj hnext ▸ trivial⟩
  | completing r selfService current =>
      refine proceed_keeps hplaced h fun next hnext => ?_
      obtain ⟨_, -, hrest⟩ := bind_eq_ok.1 hnext
      obtain rfl := Except.ok.inj hrest
      trivial
  | opening r current =>
      obtain ⟨rfl, rfl⟩ := Prod.mk.inj h
      obtain ⟨hplaced', hfree⟩ := hplaced.complete hsteady.1 hsteady.2
      refine ⟨?_, by simp⟩
      cases hinsert : (db.complete r current).insertAssignment
          (r.body.created.assignment r.assignmentId r.actor r.employeeId r.now) with
      | none => exact hplaced
      | some inserted =>
          have hordered : (r.body.created.assignment r.assignmentId r.actor r.employeeId
              r.now).Ordered := by
            intro last hlast
            cases hlast
          exact hplaced'.insert hordered (fun _ => hfree) hinsert

/-- In every interleaving in which each request commits what it has checked, nobody has two
active primary assignments, and no assignment ends before it starts. -/
theorem primary_and_dates {s : Sessions Database AssignmentTask} (h : AssignmentRequests Steady s) :
    s.db.PrimaryUnique ∧ s.db.DatesOrdered := by
  have hs : s.Holds Database.Placed (fun _ task => task.Checked) (fun _ _ => True) := by
    refine h.holds (fun _ _ => id) (fun db hempty => ?_) (fun db task hrequest _ => ?_)
      fun others db task db' after hplaced hchecked hothers _ hsteady hstep => ?_
    · constructor
      all_goals simp [Database.PrimaryUnique, Database.DatesOrdered, hempty]
    · refine ⟨?_, fun _ => trivial⟩
      cases task <;> trivial
    · obtain ⟨hplaced', hnext⟩ := step_keeps hplaced hchecked hsteady (Option.some.inj hstep)
      exact ⟨hplaced', hnext, fun u hu => (hothers u hu).1, fun _ _ _ _ => trivial⟩
  exact ⟨hs.database.primary, hs.database.ordered⟩

/-! ## A transfer, one that is dated back, and two at once -/

namespace Sample

/-- Two projects and an employee who is at work. -/
def working : Database where
  employees := ⟨[⟨3, 1, none, none, true, none⟩], by decide⟩
  projects := ⟨[⟨20, 1⟩, ⟨21, 1⟩], by decide⟩
  locations := .empty
  positions := .empty
  rotationPatterns := .empty
  assignments := .empty
  leaves := .empty

def officer : Actor := ⟨7, 1, false⟩

def create (assignmentId : Id) (startDate : Date) : AssignmentTask :=
  .create ⟨officer, 99, 3, ⟨20, none, none, none, none, .project, startDate, none, true, .active, none, none,
    none, none, none⟩, assignmentId, 99⟩

def transfer (assignmentId : Id) (startDate : Date) : AssignmentTask :=
  .transfer ⟨officer, 99, 3, ⟨21, none, none, none, none, .project, startDate, none, none⟩,
    assignmentId, 99⟩

end Sample

/-- An employee is transferred, and what follows is completed a month later. -/
theorem primary_and_dates_transfer : ∃ s : Sessions Database AssignmentTask,
    s.db.assignments.rows.map (fun a => (a.startDate, a.endDate, a.status)) =
      [(100, some 150, .completed), (150, some 180, .completed)] ∧
      s.db.PrimaryUnique ∧ s.db.DatesOrdered := by
  obtain ⟨s, hs, hrows⟩ := Sessions.Interleaved.of_play (fun task => task.isRequest = true)
    assigning Steady (fun db => db.assignments.rows = []) Sample.working
    [.begins (Sample.create 10 100), .acts 0, .acts 0, .acts 0, .begins (Sample.transfer 11 150),
      .acts 0, .acts 0, .acts 0, .acts 0,
      .begins (.update (completeAssignment Sample.officer 180 11 180)), .acts 0, .acts 0, .acts 0]
    (p := fun s => s.db.assignments.rows.map (fun a => (a.startDate, a.endDate, a.status)) =
      [(100, some 150, .completed), (150, some 180, .completed)]) rfl (by decide +kernel)
  simp only [decide_eq_true_eq] at hrows
  exact ⟨s, hrows, primary_and_dates hs⟩

/-- Two clients create a primary assignment at once and both find none; and a single client
transfers the employee as of a day before the current assignment starts. -/
theorem primary_and_dates_broken :
    (∃ s, AssignmentRequests (fun _ _ _ => True) s ∧ ¬ s.db.PrimaryUnique) ∧
      ∃ s, AssignmentRequests (fun _ _ _ => True) s ∧ ¬ s.db.DatesOrdered := by
  constructor
  · obtain ⟨s, hs, hrows⟩ := Sessions.Interleaved.of_play (fun task => task.isRequest = true)
      assigning (fun _ _ _ => True) (fun db => db.assignments.rows = []) Sample.working
      [.begins (Sample.create 10 100), .begins (Sample.create 11 100), .acts 0, .acts 0, .acts 1,
        .acts 1, .acts 0, .acts 0]
      (p := fun s => ¬ s.db.PrimaryUnique) rfl (by decide +kernel)
    exact ⟨s, hs, of_decide_eq_true hrows⟩
  · obtain ⟨s, hs, hrows⟩ := Sessions.Interleaved.of_play (fun task => task.isRequest = true)
      assigning (fun _ _ _ => True) (fun db => db.assignments.rows = []) Sample.working
      [.begins (Sample.create 10 100), .acts 0, .acts 0, .acts 0,
        .begins (Sample.transfer 11 90), .acts 0, .acts 0, .acts 0, .acts 0]
      (p := fun s => ¬ s.db.DatesOrdered) rfl (by decide +kernel)
    exact ⟨s, hs, of_decide_eq_true hrows⟩

end Cestos.Employees
