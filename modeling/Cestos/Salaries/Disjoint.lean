import Cestos.Salaries.Requests

/-!
# Salary periods are disjoint

However the requests to add and to end salaries interleave, no day is in two periods of one
employee, and a period that has ended is not changed again.
-/

namespace Cestos.Salaries

open Cestos.Core

variable {others : List Transaction} {db db' : Database} {t u : Transaction}

/-- No two periods of one employee share a day. -/
def Database.PeriodsDisjoint (db : Database) : Prop :=
  ∀ a ∈ db.salaries.rows, ∀ b ∈ db.salaries.rows, a.employeeId = b.employeeId → a.id ≠ b.id →
    Disjoint a.period.days b.period.days

/-- What has ended in `db` is the same in `db'`. -/
def ClosedKept (db db' : Database) : Prop :=
  ∀ salary ∈ db.salaries.rows, salary.period.stop ≠ none → salary ∈ db'.salaries.rows

/-- The employee is of the organization. -/
def Database.Employs (db : Database) (organizationId employeeId : Id) : Prop :=
  ∃ employee, db.employees.find? employeeId = some employee ∧
    employee.organizationId = organizationId

structure Database.Sound (db : Database) : Prop where
  employs : ∀ salary ∈ db.salaries.rows, db.Employs salary.organizationId salary.employeeId
  disjoint : db.PeriodsDisjoint

/-- The salary is of the employee. -/
def Database.IsSalaryOf (db : Database) (employeeId salaryId : Id) : Prop :=
  ∃ salary, db.salaries.find? salaryId = some salary ∧ salary.employeeId = employeeId

/-- What a request has checked under its lock is still the case. -/
def Transaction.Current (db : Database) (t : Transaction) : Prop :=
  match t.task with
  | .checking r => r.employeeId ∈ t.held ∧ db.Employs r.actor.organizationId r.employeeId
  | .inserting r => r.employeeId ∈ t.held ∧ db.Employs r.actor.organizationId r.employeeId ∧
    ∀ salary ∈ db.salaries.rows, salary.employeeId = r.employeeId →
      ¬ salary.period.Meets r.body.period
  | .salaryRead r row => db.IsSalaryOf row.employeeId r.salaryId
  | .refreshing r employeeId => employeeId ∈ t.held ∧ db.IsSalaryOf employeeId r.salaryId
  | .closing r employeeId => employeeId ∈ t.held ∧ ∃ salary,
    db.salaries.find? r.salaryId = some salary ∧ salary.employeeId = employeeId ∧
      salary.period.stop = none
  | .addSalary _ | .endSalary _ => True

/-! ## What a statement does -/

/-- A statement that does not commit, and how the request goes on. -/
inductive Goes (db : Database) : Task → Task → Prop
  | locked {r : AddSalary} : db.Employs r.actor.organizationId r.employeeId →
      Goes db (.addSalary r) (.checking r)
  | checked {r : AddSalary} : ¬ db.Overlapped r → Goes db (.checking r) (.inserting r)
  | read {r : EndSalary} {row : Salary} : db.salaries.find? r.salaryId = some row →
      Goes db (.endSalary r) (.salaryRead r row)
  | lockedAgain {r : EndSalary} {row : Salary} :
      Goes db (.salaryRead r row) (.refreshing r row.employeeId)
  | refreshed {r : EndSalary} {employeeId : Id} {row : Salary} :
      db.salaries.find? r.salaryId = some row → row.period.stop = none →
      Goes db (.refreshing r employeeId) (.closing r employeeId)

/-- What a request commits. -/
inductive Commits (db : Database) : Task → Database → Prop
  | added {r : AddSalary} {salaries : Table Salary.id} :
      db.salaries.insert? r.salary = some salaries →
      Commits db (.inserting r) { db with salaries := salaries }
  | ended {r : EndSalary} {employeeId : Id} {row : Salary} (h : row.period.start ≤ r.endDate) :
      db.salaries.find? r.salaryId = some row →
      Commits db (.closing r employeeId)
        { db with salaries := db.salaries.set (row.close r.endDate h) }

/-- A statement goes on, ends without effect, or commits and ends the request. -/
inductive Stepped (db : Database) (t : Transaction) : Database × Option Transaction → Prop
  | goes {task : Task} : Goes db t.task task →
      Stepped db t (db, some ⟨t.task.wants ++ t.held, task⟩)
  | stops : Stepped db t (db, none)
  | commits {db' : Database} : Commits db t.task db' → Stepped db t (db', none)

theorem Stepped.proceed {next : Except AppError Task}
    (h : ∀ task, next = .ok task → Goes db t.task task) : Stepped db t (t.proceed db next) := by
  cases next with
  | ok task => exact .goes (h task rfl)
  | error e => exact .stops

theorem Stepped.commit {result : Option Database}
    (h : ∀ db', result = some db' → Commits db t.task db') : Stepped db t (commit db result) := by
  cases result with
  | none => exact .stops
  | some committed => exact .commits (h committed rfl)

theorem employeeInOrg_spec {actor : Actor} {employeeId : Id} {employee : Employee}
    (h : db.employeeInOrg actor employeeId = .ok employee) :
    db.Employs actor.organizationId employeeId := by
  obtain ⟨hfind, horg⟩ := Option.filter_eq_some_iff.1 (orError_eq_ok.1 h)
  exact ⟨employee, hfind, by simpa using horg⟩

theorem step_spec (t : Transaction) : Stepped db t (t.step others db) := by
  obtain ⟨held, task⟩ := t
  cases task with
  | addSalary r =>
      refine .proceed fun task h => ?_
      obtain ⟨employee, hemployee, hnext⟩ := bind_eq_ok.1 h
      obtain rfl := Except.ok.inj hnext
      exact .locked (employeeInOrg_spec hemployee)
  | checking r =>
      refine .proceed fun task h => ?_
      obtain ⟨_, hcheck, hnext⟩ := bind_eq_ok.1 h
      obtain rfl := Except.ok.inj hnext
      exact .checked (ensure_eq_ok.1 hcheck)
  | inserting r =>
      refine .commit fun db' h => ?_
      obtain ⟨salaries, hinsert, rfl⟩ := Option.map_eq_some_iff.1 h
      exact .added hinsert
  | endSalary r =>
      refine .proceed fun task h => ?_
      obtain ⟨row, hrow, hnext⟩ := bind_eq_ok.1 h
      obtain rfl := Except.ok.inj hnext
      exact .read (Option.filter_eq_some_iff.1 (orError_eq_ok.1 hrow)).1
  | salaryRead r row =>
      refine .proceed fun task h => ?_
      obtain ⟨employee, -, hnext⟩ := bind_eq_ok.1 h
      obtain rfl := Except.ok.inj hnext
      exact .lockedAgain
  | refreshing r employeeId =>
      refine .proceed fun task h => ?_
      obtain ⟨row, hrow, hrest⟩ := bind_eq_ok.1 h
      obtain ⟨_, hcheck, hnext⟩ := bind_eq_ok.1 hrest
      obtain ⟨_, hopen, -⟩ := bind_eq_ok.1 hcheck
      obtain rfl := Except.ok.inj hnext
      exact .refreshed (orError_eq_ok.1 hrow) (ensure_eq_ok.1 hopen)
  | closing r employeeId =>
      refine .commit fun db' h => ?_
      obtain ⟨row, hrow, hwrite⟩ := Option.bind_eq_some_iff.1 h
      split at hwrite
      · next hle =>
        obtain rfl := Option.some.inj hwrite
        exact .ended hle hrow
      · cases hwrite

/-! ## What a commit leaves to the others -/

/-- The salaries of the employees that the others hold stay. -/
structure Spares (others : List Transaction) (db db' : Database) : Prop where
  employees : db'.employees = db.employees
  salaries : ∀ salary, locked Transaction.held others salary.employeeId →
    (salary ∈ db'.salaries.rows ↔ salary ∈ db.salaries.rows)
  owners : ∀ employeeId salaryId, db.IsSalaryOf employeeId salaryId →
    db'.IsSalaryOf employeeId salaryId

theorem Transaction.Current.spare (h : u.Current db) (hu : u ∈ others)
    (hspares : Spares others db db') : u.Current db' := by
  have hlocked : ∀ employeeId ∈ u.held, locked Transaction.held others employeeId :=
    fun _ hheld => ⟨u, hu, hheld⟩
  have hemploys : ∀ organizationId employeeId, db.Employs organizationId employeeId →
      db'.Employs organizationId employeeId := by
    intro organizationId employeeId hemploys
    rwa [Database.Employs, hspares.employees]
  obtain ⟨held, task⟩ := u
  cases task with
  | addSalary r | endSalary r => trivial
  | checking r => exact ⟨h.1, hemploys _ _ h.2⟩
  | inserting r =>
      obtain ⟨hheld, hemployed, hapart⟩ := h
      refine ⟨hheld, hemploys _ _ hemployed, fun salary hsalary howner => ?_⟩
      have hlocked' := hlocked _ hheld
      rw [← howner] at hlocked'
      exact hapart salary ((hspares.salaries salary hlocked').1 hsalary) howner
  | salaryRead r row => exact hspares.owners _ _ h
  | refreshing r employeeId => exact ⟨h.1, hspares.owners _ _ h.2⟩
  | closing r employeeId =>
      obtain ⟨hheld, salary, hfind, rfl, hopen⟩ := h
      refine ⟨hheld, salary, Table.find?_eq_some.2 ?_, rfl, hopen⟩
      exact ⟨(hspares.salaries salary (hlocked _ hheld)).2 (Table.mem_of_find? hfind),
        Table.key_of_find? hfind⟩

theorem Commits.spares (h : Commits db t.task db') (hcurrent : t.Current db)
    (hexclusive : ∀ u ∈ others, Exclusive Transaction.held t u) : Spares others db db' := by
  obtain ⟨held, task⟩ := t
  have hheld : ∀ employeeId ∈ held, ¬ locked Transaction.held others employeeId :=
    fun _ => not_locked_of_exclusive hexclusive
  cases h with
  | @added r salaries hinsert =>
      refine ⟨rfl, fun salary hlocked => ?_, fun employeeId salaryId howned => ?_⟩
      · show salary ∈ salaries.rows ↔ _
        rw [Table.mem_insert? hinsert, or_iff_left]
        rintro rfl
        exact hheld _ hcurrent.1 hlocked
      · obtain ⟨salary, hfind, howner⟩ := howned
        exact ⟨salary, Table.find?_insert?_of_find? hinsert hfind, howner⟩
  | @ended r employeeId row hle hrow =>
      obtain ⟨hmine, row', hrow', howner, -⟩ := hcurrent
      obtain rfl := Option.some.inj (hrow'.symm.trans hrow)
      have hfind : db.salaries.find? (row'.close r.endDate hle).id = some row' :=
        Table.find?_of_mem (Table.mem_of_find? hrow)
      refine ⟨rfl, fun salary hlocked => ?_, fun employeeId' salaryId howned => ?_⟩
      · have hother : salary.employeeId ≠ row'.employeeId := by
          intro hsame
          exact hheld _ (howner ▸ hmine) (hsame ▸ hlocked)
        refine (Table.mem_set_of_find? hfind).trans ⟨?_, fun hmem => .inl ⟨hmem, fun hkey => ?_⟩⟩
        · rintro (⟨hmem, -⟩ | rfl)
          · exact hmem
          · exact absurd rfl hother
        · exact hother (congrArg Salary.employeeId
            (db.salaries.key_injective hmem (Table.mem_of_find? hfind) hkey))
      · obtain ⟨salary, hfound, rfl⟩ := howned
        by_cases hsame : (row'.close r.endDate hle).id = salaryId
        · subst hsame
          obtain rfl := Option.some.inj (hfind.symm.trans hfound)
          exact ⟨_, Table.find?_set_self hfind, rfl⟩
        · exact ⟨salary, (Table.find?_set_ne hsame).trans hfound, rfl⟩

/-! ## What stays the case -/

theorem Database.Employs.organization_eq {a b employeeId : Id} (ha : db.Employs a employeeId)
    (hb : db.Employs b employeeId) : a = b := by
  obtain ⟨employee, hfind, rfl⟩ := ha
  obtain ⟨employee', hfind', rfl⟩ := hb
  rw [Option.some.inj (hfind.symm.trans hfind')]

theorem Goes.current {held : List Id} {task task' : Task} (h : Goes db task task')
    (hsound : db.Sound) (hcurrent : Transaction.Current db ⟨held, task⟩) :
    Transaction.Current db ⟨task.wants ++ held, task'⟩ := by
  cases h with
  | locked hemploys => exact ⟨List.mem_cons_self, hemploys⟩
  | checked hfree =>
      obtain ⟨hheld, hemploys⟩ := hcurrent
      refine ⟨hheld, hemploys, fun salary hsalary howner hmeets => hfree ?_⟩
      have horg := (howner ▸ hsound.employs salary hsalary).organization_eq hemploys
      exact ⟨salary, hsalary, horg, howner, hmeets⟩
  | read hfind => exact ⟨_, hfind, rfl⟩
  | lockedAgain => exact ⟨List.mem_cons_self, hcurrent⟩
  | refreshed hfind hopen =>
      obtain ⟨hheld, salary, hfind', howner⟩ := hcurrent
      obtain rfl := Option.some.inj (hfind'.symm.trans hfind)
      exact ⟨hheld, salary, hfind, howner, hopen⟩

theorem Commits.sound (h : Commits db t.task db') (hcurrent : t.Current db) (hsound : db.Sound) :
    db'.Sound := by
  obtain ⟨held, task⟩ := t
  cases h with
  | @added r salaries hinsert =>
      obtain ⟨-, hemploys, hapart⟩ := hcurrent
      have hnew : ∀ salary ∈ db.salaries.rows, salary.employeeId = r.employeeId →
          Disjoint salary.period.days r.body.period.days := fun salary hsalary howner =>
        Period.disjoint_days.2 (hapart salary hsalary howner)
      refine ⟨fun salary hsalary => ?_, fun a ha b hb howner hne => ?_⟩
      · rcases (Table.mem_insert? hinsert).1 hsalary with hold | rfl
        · exact hsound.employs salary hold
        · exact hemploys
      · rcases (Table.mem_insert? hinsert).1 ha with hold | rfl
        · rcases (Table.mem_insert? hinsert).1 hb with hold' | rfl
          · exact hsound.disjoint a hold b hold' howner hne
          · exact hnew a hold howner
        · rcases (Table.mem_insert? hinsert).1 hb with hold' | rfl
          · exact (hnew b hold' howner.symm).symm
          · exact absurd rfl hne
  | @ended r employeeId row hle hrow =>
      obtain ⟨-, row', hrow', -, hopen⟩ := hcurrent
      obtain rfl := Option.some.inj (hrow'.symm.trans hrow)
      -- each row was in the table with a period that is at least as long
      have hrows : ∀ salary ∈ (db.salaries.set (row'.close r.endDate hle)).rows,
          ∃ old ∈ db.salaries.rows, old.id = salary.id ∧
            old.organizationId = salary.organizationId ∧ old.employeeId = salary.employeeId ∧
            salary.period.days ⊆ old.period.days := by
        intro salary hsalary
        rcases Table.mem_set.1 hsalary with ⟨hold, -⟩ | ⟨rfl, -⟩
        · exact ⟨salary, hold, rfl, rfl, rfl, fun _ => id⟩
        · exact ⟨row', Table.mem_of_find? hrow, rfl, rfl, rfl, Period.days_close hle hopen⟩
      refine ⟨fun salary hsalary => ?_, fun a ha b hb howner hne => ?_⟩
      · obtain ⟨old, hold, -, horg, howner, -⟩ := hrows salary hsalary
        exact horg ▸ howner ▸ hsound.employs old hold
      · obtain ⟨a', ha', hida, -, howna, hsuba⟩ := hrows a ha
        obtain ⟨b', hb', hidb, -, hownb, hsubb⟩ := hrows b hb
        have hapart : Disjoint a'.period.days b'.period.days := by
          refine hsound.disjoint a' ha' b' hb' ?_ ?_
          · rw [howna, hownb, howner]
          · rw [hida, hidb]
            exact hne
        exact hapart.mono hsuba hsubb

theorem Commits.closedKept (h : Commits db t.task db') (hcurrent : t.Current db) :
    ClosedKept db db' := by
  obtain ⟨held, task⟩ := t
  intro salary hsalary hclosed
  cases h with
  | added hinsert => exact (Table.mem_insert? hinsert).2 (.inl hsalary)
  | ended hle hrow =>
      obtain ⟨-, row', hrow', -, hopen⟩ := hcurrent
      obtain rfl := Option.some.inj (hrow'.symm.trans hrow)
      refine Table.mem_set.2 (.inl ⟨hsalary, fun hkey => hclosed ?_⟩)
      rw [db.salaries.key_injective hsalary (Table.mem_of_find? hrow) hkey]
      exact hopen

theorem ClosedKept.trans {db'' : Database} (h : ClosedKept db db') (h' : ClosedKept db' db'') :
    ClosedKept db db'' :=
  fun salary hsalary hclosed => h' salary (h salary hsalary hclosed) hclosed

/-! ## Interleavings -/

theorem Transaction.IsRequest.current (h : t.IsRequest) :
    t.Current db ∧ ∀ u, Exclusive Transaction.held t u := by
  obtain ⟨held, task⟩ := t
  obtain ⟨rfl, hrequest⟩ := h
  refine ⟨?_, fun u row hrow => nomatch hrow⟩
  cases task <;> trivial

/-- A statement keeps the periods disjoint and those that have ended, and leaves to the others what
they have checked. -/
theorem serving_keeps {first : Database} {next : Option Transaction}
    (hdb : db.Sound ∧ ClosedKept first db) (hcurrent : t.Current db)
    (hothers : ∀ u ∈ others, u.Current db ∧ Exclusive Transaction.held t u)
    (h : serving others db t = some (db', next)) :
    Sessions.Keeps (fun db => db.Sound ∧ ClosedKept first db) Transaction.Current
      (Exclusive Transaction.held) others db' next := by
  obtain ⟨hfree, hstep⟩ := locking_eq_some h
  have hspec : Stepped db t (db', next) := hstep ▸ step_spec t
  cases hspec with
  | goes hgoes =>
      exact .locks hdb (hgoes.current hdb.1 hcurrent) hothers hfree fun row => List.mem_append.1
  | stops => exact .over hdb fun u hu => (hothers u hu).1
  | commits hcommit =>
      have hspares := hcommit.spares hcurrent fun u hu => (hothers u hu).2
      exact .over ⟨hcommit.sound hcurrent hdb.1, hdb.2.trans (hcommit.closedKept hcurrent)⟩
        fun u hu => (hothers u hu).1.spare hu hspares

theorem ClosedKept.steps {s s' : Sessions Database Transaction}
    (h : s.Holds Database.Sound Transaction.Current (Exclusive Transaction.held))
    (hsteps : Relation.ReflTransGen
      (Sessions.Step Transaction.IsRequest serving fun _ _ _ => True) s s') :
    s'.Holds (fun db => db.Sound ∧ ClosedKept s.db db) Transaction.Current
      (Exclusive Transaction.held) := by
  have hfirst : s.Holds (fun db => db.Sound ∧ ClosedKept s.db db) Transaction.Current
      (Exclusive Transaction.held) :=
    ⟨⟨h.database, fun _ hsalary _ => hsalary⟩, h.session, h.pair⟩
  exact hfirst.steps hsteps (fun _ _ => Exclusive.symm) (fun _ _ hrequest _ => hrequest.current)
    fun _ _ _ _ _ hdb hcurrent hothers _ _ hserving => serving_keeps hdb hcurrent hothers hserving

/-- In every interleaving, the periods of one employee are disjoint, and one that has ended stays
as it is. -/
theorem periods_disjoint {s s' : Sessions Database Transaction} (h : Requests s)
    (hsteps : Relation.ReflTransGen
      (Sessions.Step Transaction.IsRequest serving fun _ _ _ => True) s s') :
    s'.db.PeriodsDisjoint ∧ ClosedKept s.db s'.db := by
  obtain ⟨db, hempty, hstart⟩ := h
  have hsound : db.Sound := by
    constructor
    all_goals simp [Database.PeriodsDisjoint, hempty]
  have hs := ClosedKept.steps ⟨hsound, by simp, .nil⟩ hstart
  have hs' := ClosedKept.steps ⟨hs.database.1, hs.session, hs.pair⟩ hsteps
  exact ⟨hs'.database.1.disjoint, hs'.database.2⟩

/-! ## A raise and an earlier salary -/

namespace Sample

def actor : Actor := ⟨7, 1⟩

def unpaid : Database where
  employees := ⟨[⟨3, 1⟩], by decide⟩
  salaries := .empty

def add (salaryId : Id) (period : Period Date) : Transaction :=
  ⟨[], .addSalary ⟨actor, 3, ⟨⟨⟨750, by decide +kernel⟩, by decide +kernel⟩, ⟨"USD", by decide⟩,
    .monthly, period, ⟨none, nofun⟩⟩, salaryId⟩⟩

def finish (salaryId : Id) (endDate : Date) : Transaction :=
  ⟨[], .endSalary ⟨actor, salaryId, endDate⟩⟩

end Sample

/-- An open salary ends, a raise follows it, and an earlier one is added between two requests that
are refused. -/
theorem periods_disjoint_raise : ∃ s s' : Sessions Database Transaction,
    s.db.salaries.rows.map (·.period.stop) = [some 150] ∧
      s'.db.salaries.rows.map (·.period.stop) = [some 150, none, some 90] ∧
      s'.db.PeriodsDisjoint ∧ ClosedKept s.db s'.db := by
  obtain ⟨s, s', hs, hsteps, hrows⟩ := Sessions.Interleaved.of_play_play Transaction.IsRequest
    serving (fun _ _ _ => True) (fun db => db.salaries.rows = []) Sample.unpaid
    [.begins (Sample.add 10 ⟨100, none, nofun⟩), .acts 0, .acts 0, .acts 0,
      .begins (Sample.finish 10 150), .acts 0, .begins (Sample.finish 10 160), .acts 1, .acts 0,
      .acts 0, .acts 0]
    [.acts 0, .acts 0, .begins (Sample.add 11 ⟨151, none, nofun⟩), .acts 0, .acts 0, .acts 0,
      .begins (Sample.add 12 ⟨80, some 100, by decide⟩), .acts 0, .acts 0,
      .begins (Sample.add 13 ⟨80, some 90, by decide⟩), .acts 0, .acts 0, .acts 0]
    (p := fun s s' => s.db.salaries.rows.map (·.period.stop) = [some 150] ∧
      s'.db.salaries.rows.map (·.period.stop) = [some 150, none, some 90]) rfl (by decide +kernel)
  simp only [decide_eq_true_eq] at hrows
  exact ⟨s, s', hrows.1, hrows.2, periods_disjoint hs hsteps⟩

end Cestos.Salaries
