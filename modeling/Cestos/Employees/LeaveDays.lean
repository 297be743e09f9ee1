import Cestos.Employees.Leave
import Mathlib.Order.CompletePartialOrder

/-!
# Days of leave

However requests for leave and decisions interleave, no day is in two requests of one employee
that are pending or approved, and what has been decided stays decided.
-/

namespace Cestos.Employees

open Cestos.Core

variable {others : List LeaveTransaction} {db db' : Database} {t : LeaveTransaction}

/-- No two pending or approved requests of one employee cover a common day. -/
def Database.LeaveDisjoint (db : Database) : Prop :=
  ∀ a ∈ db.leaves.rows, ∀ b ∈ db.leaves.rows, a.employeeId = b.employeeId → a.id ≠ b.id →
    a.Blocks → b.Blocks → Disjoint (a.dates : Set Date) b.dates

/-- Decisions in `db` are the same in `db'`. -/
def DecisionsKept (db db' : Database) : Prop :=
  ∀ leave ∈ db.leaves.rows, leave.status ≠ .pending →
    ∃ leave' ∈ db'.leaves.rows, leave'.id = leave.id ∧ leave'.status = leave.status

/-- The employee is of the organization. -/
def Database.Employs (db : Database) (organizationId employeeId : Id) : Prop :=
  ∃ employee, db.employees.find? employeeId = some employee ∧
    employee.organizationId = organizationId

structure Database.Sound (db : Database) : Prop where
  employs : ∀ leave ∈ db.leaves.rows, db.Employs leave.organizationId leave.employeeId
  disjoint : db.LeaveDisjoint

/-- What others leave as it is while a row is locked: the leave of the employee takes no more
days, and a leave request is not written. -/
def LeaveLock.Kept : LeaveLock → Database → Database → Prop
  | .employee employeeId, db, db' => ∀ leave ∈ db'.leaves.rows, leave.employeeId = employeeId →
    leave.Blocks → ∃ old ∈ db.leaves.rows, old.employeeId = employeeId ∧ old.Blocks ∧
      old.dates = leave.dates
  | .leave leaveId, db, db' => ∀ leave, db.leaves.find? leaveId = some leave →
    db'.leaves.find? leaveId = some leave

/-- What every commit does. -/
structure Moved (db db' : Database) : Prop where
  employees : db'.employees = db.employees
  assignments : db'.assignments = db.assignments
  decisions : DecisionsKept db db'

/-- What a request has checked under its locks. -/
def LeaveTransaction.Knows (db : Database) (t : LeaveTransaction) : Prop :=
  match t.task with
  | .locking r => (db.employee? r).isSome
  | .checking r => .employee r.employeeId ∈ t.held ∧ (db.employee? r).isSome
  | .inserting r => .employee r.employeeId ∈ t.held ∧ (db.employee? r).isSome ∧
    ∀ leave ∈ db.leaves.rows, leave.employeeId = r.employeeId → leave.Blocks →
      Disjoint (leave.dates : Set Date) r.body.dates
  | .deciding r => .leave r.leaveId ∈ t.held ∧ ∃ leave,
    db.leaves.find? r.leaveId = some leave ∧ (r.body.status ≠ none → leave.status = .pending)
  | .create _ | .update _ => True

theorem LeaveLock.kept_refl (row : LeaveLock) (db : Database) : row.Kept db db := by
  cases row with
  | employee employeeId =>
      exact fun leave hleave howner hblocks => ⟨leave, hleave, howner, hblocks, rfl⟩
  | leave leaveId => exact fun _ hfind => hfind

theorem Moved.refl (db : Database) : Moved db db :=
  ⟨rfl, rfl, fun leave hleave _ => ⟨leave, hleave, rfl, rfl⟩⟩

theorem Moved.trans {db'' : Database} (h : Moved db db') (h' : Moved db' db'') :
    Moved db db'' := by
  refine ⟨h'.employees.trans h.employees, h'.assignments.trans h.assignments,
    fun leave hleave hdecided => ?_⟩
  obtain ⟨leave', hleave', hid, hstatus⟩ := h.decisions leave hleave hdecided
  rw [← hstatus] at hdecided
  obtain ⟨leave'', hleave'', hid', hstatus'⟩ := h'.decisions leave' hleave' hdecided
  exact ⟨leave'', hleave'', hid'.trans hid, hstatus'.trans hstatus⟩

theorem Database.Employs.of_moved {organizationId employeeId : Id}
    (h : db.Employs organizationId employeeId) (hmoved : Moved db db') :
    db'.Employs organizationId employeeId := by
  rwa [Database.Employs, hmoved.employees]

theorem Database.Employs.organization_eq {a b employeeId : Id} (ha : db.Employs a employeeId)
    (hb : db.Employs b employeeId) : a = b := by
  obtain ⟨employee, hfind, rfl⟩ := ha
  obtain ⟨employee', hfind', rfl⟩ := hb
  rw [Option.some.inj (hfind.symm.trans hfind')]

theorem employee?_of_moved {r : CreateLeave} (h : (db.employee? r).isSome) (hmoved : Moved db db') :
    (db'.employee? r).isSome := by
  obtain ⟨employee, hemployee⟩ := Option.isSome_iff_exists.1 h
  obtain ⟨hfind, hshown⟩ := Option.filter_eq_some_iff.1 hemployee
  obtain ⟨horg, hsees⟩ := of_decide_eq_true hshown
  refine Option.isSome_iff_exists.2 ⟨employee, Option.filter_eq_some_iff.2 ⟨?_, ?_⟩⟩
  · rw [hmoved.employees, hfind]
  · exact decide_eq_true ⟨horg, Database.sees_congr hmoved.employees hmoved.assignments hsees⟩

/-- What a request knows is not changed by those who do not hold its rows. -/
theorem LeaveTransaction.Knows.stable (h : t.Knows db) (hmoved : Moved db db')
    (hkept : ∀ row ∈ t.held, row.Kept db db') : t.Knows db' := by
  obtain ⟨held, task⟩ := t
  cases task with
  | create r | update r => trivial
  | locking r => exact employee?_of_moved h hmoved
  | checking r => exact ⟨h.1, employee?_of_moved h.2 hmoved⟩
  | inserting r =>
      obtain ⟨hheld, hshown, hfree⟩ := h
      refine ⟨hheld, employee?_of_moved hshown hmoved, fun leave hleave howner hblocks => ?_⟩
      obtain ⟨old, hold, howner', hblocks', hdates⟩ := hkept _ hheld leave hleave howner hblocks
      rw [← hdates]
      exact hfree old hold howner' hblocks'
  | deciding r =>
      obtain ⟨hheld, leave, hfind, hpending⟩ := h
      exact ⟨hheld, leave, hkept _ hheld leave hfind, hpending⟩

/-! ## What the requests check -/

/-- Who is found is of the organization, and the actor sees them. -/
theorem employee?_spec {r : CreateLeave} (h : (db.employee? r).isSome) :
    db.Employs r.actor.organizationId r.employeeId ∧
      db.Sees r.actor r.today r.selfService r.employeeId := by
  obtain ⟨employee, hemployee⟩ := Option.isSome_iff_exists.1 h
  obtain ⟨hfind, hshown⟩ := Option.filter_eq_some_iff.1 hemployee
  obtain ⟨horg, hsees⟩ := of_decide_eq_true hshown
  exact ⟨⟨employee, hfind, horg⟩, Table.key_of_find? hfind ▸ hsees⟩

theorem checkOverlap_eq_ok {body : LeaveRequestCreate} {existing : List LeaveRequest} :
    checkOverlap body existing = .ok () ↔ ∀ leave ∈ existing, ¬ leave.Overlaps body := by
  induction existing with
  | nil => simp [checkOverlap]
  | cons leave rest ih => simp [checkOverlap, ih]

theorem disjoint_of_not_overlaps {leave : LeaveRequest} {body : LeaveRequestCreate}
    (h : ¬ leave.Overlaps body) : Disjoint (leave.dates : Set Date) body.dates := by
  refine Set.disjoint_left.2 fun day hleave hbody => h ?_
  obtain ⟨hfrom, hto⟩ := NonemptyInterval.mem_def.1 hleave
  obtain ⟨hfrom', hto'⟩ := NonemptyInterval.mem_def.1 hbody
  exact ⟨le_trans hfrom hto', le_trans hfrom' hto⟩

theorem mem_existing {r : CreateLeave} {leave : LeaveRequest} :
    leave ∈ db.existing r ↔ leave ∈ db.leaves.rows ∧
      leave.organizationId = r.actor.organizationId ∧ leave.employeeId = r.employeeId ∧
      leave.Blocks ∧ db.Sees r.actor r.today r.selfService leave.employeeId := by
  simp [Database.existing]

theorem checkDecision_pending {leave : LeaveRequest} {status : Option String}
    (h : checkDecision leave status = .ok ()) : status ≠ none → leave.status = .pending := by
  cases status with
  | none => exact fun hne => absurd rfl hne
  | some text =>
      obtain ⟨_, _, hpending⟩ := bind_eq_ok.1 h
      exact fun _ => ensure_eq_ok.1 hpending

/-! ## What the requests write -/

section Writes

variable {r : UpdateLeave} {leave : LeaveRequest}

theorem UpdateLeave.apply_status (h : r.body.status = none) :
    (r.apply leave).status = leave.status := by
  show r.status leave = leave.status
  rw [UpdateLeave.status, h]

/-- What blocks days after an update has blocked them before. -/
theorem UpdateLeave.blocks_of_apply (hpending : r.body.status ≠ none → leave.status = .pending)
    (h : (r.apply leave).Blocks) : leave.Blocks := by
  by_cases hstatus : r.body.status = none
  · rwa [LeaveRequest.Blocks, apply_status hstatus] at h
  · simp [LeaveRequest.Blocks, hpending hstatus]

/-- Each request after an update was there before, for the same days. -/
theorem mem_set_apply (hfind : db.leaves.find? r.leaveId = some leave)
    (hpending : r.body.status ≠ none → leave.status = .pending) {new : LeaveRequest}
    (hnew : new ∈ (db.leaves.set (r.apply leave)).rows) :
    ∃ old ∈ db.leaves.rows, old.id = new.id ∧ old.organizationId = new.organizationId ∧
      old.employeeId = new.employeeId ∧ old.dates = new.dates ∧ (new.Blocks → old.Blocks) := by
  rcases Table.mem_set.1 hnew with ⟨hold, -⟩ | ⟨rfl, -⟩
  · exact ⟨new, hold, rfl, rfl, rfl, rfl, id⟩
  · exact ⟨leave, Table.mem_of_find? hfind, rfl, rfl, rfl, rfl, UpdateLeave.blocks_of_apply hpending⟩

end Writes

/-- The leave that is requested takes days that nothing blocks. -/
theorem commitLeave_guards {held : List LeaveLock} {r : CreateLeave}
    (hsound : db.Sound) (hknows : LeaveTransaction.Knows db ⟨held, .inserting r⟩)
    (h : db.commitLeave r = some db') :
    db'.Sound ∧ Moved db db' ∧ ∀ row, row ∉ held → row.Kept db db' := by
  obtain ⟨hheld, hshown, hfree⟩ := hknows
  have hemploys := (employee?_spec hshown).1
  obtain ⟨leaves, hinsert, rfl⟩ := Option.map_eq_some_iff.1 h
  have hmoved : Moved db { db with leaves := leaves } :=
    ⟨rfl, rfl, fun leave hleave _ => ⟨leave, (Table.mem_insert? hinsert).2 (.inl hleave), rfl, rfl⟩⟩
  refine ⟨⟨fun leave hleave => ?_, fun a ha b hb howner hne hblocksa hblocksb => ?_⟩, hmoved,
    fun row hrow => ?_⟩
  · rcases (Table.mem_insert? hinsert).1 hleave with hold | rfl
    · exact (hsound.employs leave hold).of_moved hmoved
    · exact hemploys.of_moved hmoved
  · rcases (Table.mem_insert? hinsert).1 ha with holda | rfl
    · rcases (Table.mem_insert? hinsert).1 hb with holdb | rfl
      · exact hsound.disjoint a holda b holdb howner hne hblocksa hblocksb
      · exact hfree a holda howner hblocksa
    · rcases (Table.mem_insert? hinsert).1 hb with holdb | rfl
      · exact (hfree b holdb howner.symm hblocksb).symm
      · exact absurd rfl hne
  · cases row with
    | employee employeeId =>
        intro leave hleave howner hblocks
        rcases (Table.mem_insert? hinsert).1 hleave with hold | rfl
        · exact ⟨leave, hold, howner, hblocks, rfl⟩
        · have hmine : r.employeeId = employeeId := howner
          exact absurd (hmine ▸ hheld) hrow
    | leave leaveId => exact fun leave hfind => Table.find?_insert?_of_find? hinsert hfind

theorem commitUpdate_guards {held : List LeaveLock} {r : UpdateLeave}
    (hsound : db.Sound) (hknows : LeaveTransaction.Knows db ⟨held, .deciding r⟩)
    (h : db.commitUpdate r = some db') :
    db'.Sound ∧ Moved db db' ∧ ∀ row, row ∉ held → row.Kept db db' := by
  obtain ⟨hheld, leave, hfind, hpending⟩ := hknows
  simp only [Database.commitUpdate, hfind, Option.map_some, Option.some.injEq] at h
  subst h
  have hmoved : Moved db { db with leaves := db.leaves.set (r.apply leave) } := by
    refine ⟨rfl, rfl, fun other hother hdecided => ?_⟩
    by_cases hkey : other.id = (r.apply leave).id
    · obtain rfl := db.leaves.key_injective hother (Table.mem_of_find? hfind) hkey
      have hwritten : r.apply other ∈ (db.leaves.set (r.apply other)).rows :=
        Table.mem_set.2 (.inr ⟨rfl, List.mem_map.2 ⟨other, hother, rfl⟩⟩)
      refine ⟨r.apply other, hwritten, rfl, ?_⟩
      exact UpdateLeave.apply_status (by_contra fun hsome => hdecided (hpending hsome))
    · exact ⟨other, Table.mem_set.2 (.inl ⟨hother, hkey⟩), rfl, rfl⟩
  refine ⟨⟨fun new hnew => ?_, fun a ha b hb howner hne hblocksa hblocksb => ?_⟩, hmoved,
    fun row hrow => ?_⟩
  · obtain ⟨old, hold, -, horg, howner, -, -⟩ := mem_set_apply hfind hpending hnew
    exact horg ▸ howner ▸ (hsound.employs old hold).of_moved hmoved
  · obtain ⟨a', ha', hida, -, howna, hdatesa, hkeepsa⟩ := mem_set_apply hfind hpending ha
    obtain ⟨b', hb', hidb, -, hownb, hdatesb, hkeepsb⟩ := mem_set_apply hfind hpending hb
    rw [← hdatesa, ← hdatesb]
    refine hsound.disjoint a' ha' b' hb' ?_ ?_ (hkeepsa hblocksa) (hkeepsb hblocksb)
    · rw [howna, hownb, howner]
    · rwa [hida, hidb]
  · cases row with
    | employee employeeId =>
        intro new hnew howner hblocks
        obtain ⟨old, hold, -, -, hown, hdates, hkeeps⟩ := mem_set_apply hfind hpending hnew
        exact ⟨old, hold, hown.trans howner, hkeeps hblocks, hdates⟩
    | leave leaveId =>
        intro other hother
        refine (Table.find?_set_ne fun hkey => hrow ?_).trans hother
        have hmine : leave.id = leaveId := hkey
        rwa [← hmine, Table.key_of_find? hfind]

/-! ## Interleavings -/

theorem proceed_guards (hsound : db.Sound) (next : Except AppError LeaveTask)
    (hfree : ∀ row ∈ t.wants db, ¬ locked LeaveTransaction.held others row)
    (hnext : ∀ task, next = .ok task →
      LeaveTransaction.Knows db ⟨t.wants db ++ t.held, task⟩) :
    Guards LeaveTransaction.held LeaveLock.Kept Moved Database.Sound LeaveTransaction.Knows
      others db t (t.proceed db next).1 (t.proceed db next).2 := by
  cases next with
  | error e => exact .stops hsound (.refl db) (LeaveLock.kept_refl · db)
  | ok task =>
      refine .goes hsound (.refl db) (LeaveLock.kept_refl · db) (hnext task rfl) fun row hrow => ?_
      exact (List.mem_append.1 hrow).symm.imp_right (hfree row)

theorem commit_guards (hsound : db.Sound)
    (hexclusive : ∀ u ∈ others, Exclusive LeaveTransaction.held t u) (result : Option Database)
    (h : ∀ db', result = some db' →
      db'.Sound ∧ Moved db db' ∧ ∀ row, row ∉ t.held → row.Kept db db') :
    Guards LeaveTransaction.held LeaveLock.Kept Moved Database.Sound LeaveTransaction.Knows
      others db t (result.getD db) none := by
  cases result with
  | none => exact .stops hsound (.refl db) (LeaveLock.kept_refl · db)
  | some committed =>
      obtain ⟨hsound', hmoved, hkept⟩ := h committed rfl
      exact .commits hsound' hmoved hexclusive hkept

theorem step_guards (hsound : db.Sound) (hknows : t.Knows db)
    (hexclusive : ∀ u ∈ others, Exclusive LeaveTransaction.held t u)
    (hfree : ∀ row ∈ t.wants db, ¬ locked LeaveTransaction.held others row) :
    Guards LeaveTransaction.held LeaveLock.Kept Moved Database.Sound LeaveTransaction.Knows
      others db t (t.step others db).1 (t.step others db).2 := by
  obtain ⟨held, task⟩ := t
  cases task with
  | create r =>
      refine proceed_guards hsound _ hfree fun task h => ?_
      obtain ⟨employee, hemployee, hnext⟩ := bind_eq_ok.1 h
      obtain rfl := Except.ok.inj hnext
      exact Option.isSome_iff_exists.2 ⟨employee, orError_eq_ok.1 hemployee⟩
  | locking r =>
      refine proceed_guards hsound _ hfree fun task h => ?_
      obtain rfl := Except.ok.inj h
      obtain ⟨employee, hemployee⟩ := Option.isSome_iff_exists.1 hknows
      have hkey := Table.key_of_find? (Option.filter_eq_some_iff.1 hemployee).1
      refine ⟨List.mem_append_left _ ?_, hknows⟩
      simp [LeaveTransaction.wants, hemployee, hkey]
  | checking r =>
      refine proceed_guards hsound _ hfree fun task h => ?_
      obtain ⟨_, hcheck, hnext⟩ := bind_eq_ok.1 h
      obtain rfl := Except.ok.inj hnext
      obtain ⟨hheld, hshown⟩ := hknows
      obtain ⟨hemploys, hsees⟩ := employee?_spec hshown
      refine ⟨hheld, hshown, fun leave hleave howner hblocks => disjoint_of_not_overlaps ?_⟩
      have horg := (howner ▸ hsound.employs leave hleave).organization_eq hemploys
      exact checkOverlap_eq_ok.1 hcheck leave
        (mem_existing.2 ⟨hleave, horg, howner, hblocks, howner ▸ hsees⟩)
  | inserting r =>
      exact commit_guards hsound hexclusive _ fun db' h => commitLeave_guards hsound hknows h
  | update r =>
      refine proceed_guards hsound _ hfree fun task h => ?_
      obtain ⟨leave, hleave, hrest⟩ := bind_eq_ok.1 h
      obtain ⟨_, hcheck, hnext⟩ := bind_eq_ok.1 hrest
      obtain rfl := Except.ok.inj hnext
      have hfind := (Option.filter_eq_some_iff.1 (orError_eq_ok.1 hleave)).1
      refine ⟨List.mem_append_left _ ?_, leave, hfind, checkDecision_pending hcheck⟩
      simp [LeaveTransaction.wants, orError_eq_ok.1 hleave, Table.key_of_find? hfind]
  | deciding r =>
      exact commit_guards hsound hexclusive _ fun db' h => commitUpdate_guards hsound hknows h

/-- The locks of the requests protect what they have checked. -/
theorem leaveServing_guarded : Guarded LeaveTransaction.held LeaveLock.Kept Moved
    Database.Sound LeaveTransaction.Knows LeaveTransaction.IsRequest leaveServing
    fun _ _ _ => True := by
  refine ⟨fun db t hrequest _ => ?_, fun db db' t => LeaveTransaction.Knows.stable, ?_⟩
  · obtain ⟨held, task⟩ := t
    obtain ⟨hheld, hrequest⟩ := hrequest
    refine ⟨?_, hheld⟩
    cases task <;> trivial
  · intro others db t db' next hsound hknows hexclusive _ hstatement
    obtain ⟨hfree, hstep⟩ := locking_eq_some hstatement
    have hguards := step_guards hsound hknows hexclusive hfree
    rwa [hstep] at hguards

/-- In every interleaving, no two pending or approved requests of one employee cover a common
day, and a decision stays. -/
theorem leave_days_disjoint {s s' : Sessions Database LeaveTransaction} (h : LeaveRequests s)
    (hsteps : Relation.ReflTransGen LeaveStep s s') :
    s'.db.LeaveDisjoint ∧ DecisionsKept s.db s'.db := by
  have hfirst : ∀ db : Database, db.leaves.rows = [] → db.Sound := by
    intro db hempty
    constructor
    all_goals simp [Database.LeaveDisjoint, hempty]
  have hs := leaveServing_guarded.holds Moved.refl Moved.trans hfirst h
  obtain ⟨hs', hmoved⟩ := leaveServing_guarded.steps Moved.refl Moved.trans hs hsteps
  exact ⟨hs'.database.disjoint, hmoved.decisions⟩

/-! ## Two requests for the same week -/

namespace Sample

def staffed : Database where
  employees := ⟨[⟨3, 1, none, some 4, true, none⟩, ⟨4, 1, some 7, none, true, none⟩], by decide⟩
  projects := .empty
  locations := .empty
  positions := .empty
  rotationPatterns := .empty
  assignments := .empty
  leaves := .empty

def supervisor : Actor := ⟨7, 1, true⟩

def ask (leaveId : Id) (dates : NonemptyInterval Date) : LeaveTransaction :=
  ⟨[], .create ⟨supervisor, 40, false, 3, ⟨none, dates, none, none⟩, leaveId, 40⟩⟩

def decision (leaveId : Id) (status : String) : LeaveTransaction :=
  ⟨[], .update ⟨supervisor, 40, leaveId, ⟨none, some status⟩, 50, 50⟩⟩

end Sample

/-- Of two requests for the same week one waits and is refused; after a rejection the days are
free again, and the rejection is not reversed. -/
theorem leave_days_disjoint_week : ∃ s s' : Sessions Database LeaveTransaction,
    s.db.leaves.rows.map (·.status) = [.rejected] ∧
      s'.db.leaves.rows.map (·.status) = [.rejected, .approved] ∧
      s'.db.LeaveDisjoint ∧ DecisionsKept s.db s'.db := by
  obtain ⟨s, s', hs, hsteps, hrows⟩ := Sessions.Interleaved.of_play_play LeaveTransaction.IsRequest
    leaveServing (fun _ _ _ => True) (fun db => db.leaves.rows = []) Sample.staffed
    [.begins (Sample.ask 10 ⟨(100, 106), by decide⟩), .acts 0, .acts 0,
      .begins (Sample.ask 11 ⟨(104, 110), by decide⟩), .acts 1, .acts 0, .acts 0, .acts 0, .acts 0,
      .begins (Sample.decision 10 "REJECTED"), .acts 0, .acts 0]
    [.begins (Sample.ask 12 ⟨(104, 110), by decide⟩), .acts 0, .acts 0, .acts 0, .acts 0,
      .begins (Sample.decision 10 "APPROVED"), .acts 0,
      .begins (Sample.decision 12 "APPROVED"), .acts 0, .acts 0]
    (p := fun s s' => s.db.leaves.rows.map (·.status) = [.rejected] ∧
      s'.db.leaves.rows.map (·.status) = [.rejected, .approved]) rfl (by decide +kernel)
  simp only [decide_eq_true_eq] at hrows
  exact ⟨s, s', hrows.1, hrows.2, leave_days_disjoint hs hsteps⟩

end Cestos.Employees
