import Cestos.Employees.PrimaryContacts
import Cestos.Employees.Resumes

/-!
# Current resumes

The versions of an employee's resumes differ, however the requests interleave. At most one resume is
current, and it is active, as long as each request that marks a resume has seen all that are current
when it commits, and what becomes archived or current is still what the request has read.
-/

namespace Cestos.Employees

open Cestos.Core

/-- Neither inactive nor archived. -/
def EmployeeResume.Active (resume : EmployeeResume) : Prop :=
  resume.isActive = true ∧ resume.archivedAt = none

instance : DecidablePred EmployeeResume.Active := fun _ => inferInstanceAs (Decidable (_ ∧ _))

/-- Whose current resume it is. -/
def EmployeeResume.currentOf (resume : EmployeeResume) : Option Id :=
  if resume.isCurrent then some resume.employeeId else none

theorem currentOf_eq_some {resume : EmployeeResume} {employeeId : Id} :
    resume.currentOf = some employeeId ↔
      resume.isCurrent = true ∧ resume.employeeId = employeeId := by
  simp [EmployeeResume.currentOf]

namespace ResumeBook

/-- No two resumes of an employee have the same version. -/
def VersionsDistinct (book : ResumeBook) : Prop :=
  ∀ a ∈ book.resumes.rows, ∀ b ∈ book.resumes.rows, a.employeeId = b.employeeId →
    a.version = b.version → a.id = b.id

/-- Nobody has two current resumes, and every current resume is active. -/
structure CurrentSound (book : ResumeBook) : Prop where
  unique : book.resumes.UniqueOn EmployeeResume.currentOf
  active : ∀ resume ∈ book.resumes.rows, resume.isCurrent = true → resume.Active

instance (book : ResumeBook) : Decidable book.CurrentSound :=
  decidable_of_iff (book.resumes.UniqueOn EmployeeResume.currentOf ∧
      ∀ resume ∈ book.resumes.rows, resume.isCurrent = true → resume.Active)
    ⟨fun h => ⟨h.1, h.2⟩, fun h => ⟨h.unique, h.active⟩⟩

/-- The other current resumes of the employee are among those. -/
def Current (book : ResumeBook) (employeeId resumeId : Id) (seen : List Id) : Prop :=
  ∀ other ∈ book.resumes.rows, other.employeeId = employeeId → other.isCurrent = true →
    other.id ≠ resumeId → other.id ∈ seen

instance (book : ResumeBook) (employeeId resumeId : Id) (seen : List Id) :
    Decidable (book.Current employeeId resumeId seen) :=
  inferInstanceAs (Decidable (∀ other ∈ _, _ → _ → _ → _))

end ResumeBook

/-- What a request commits is what it has read: the current resumes besides the one it marks; that
this one is active, unless it was current already; and, for one that is archived, that it is not
current. -/
def Fresh (_others : List ResumeTask) (book : ResumeBook) : ResumeTask → Prop
  | .adding r resume cleared => book.Current r.employeeId resume.id cleared
  | .setting _ read cleared => read.isCurrent = false → ∀ row ∈ book.resumes.find? read.id,
      row.Active ∧ book.Current row.employeeId read.id cleared
  | .archiving _ read => ∀ row ∈ book.resumes.find? read.id,
      row.isCurrent = true → read.isCurrent = true
  | _ => True

instance (others : List ResumeTask) (book : ResumeBook) : DecidablePred (Fresh others book)
  | .adding _ _ _ => inferInstanceAs (Decidable (book.Current _ _ _))
  | .setting _ read _ => inferInstanceAs
    (Decidable (_ → ∀ row ∈ book.resumes.find? read.id, EmployeeResume.Active row ∧ book.Current _ _ _))
  | .archiving _ read => inferInstanceAs (Decidable (∀ row ∈ book.resumes.find? read.id, _ → _))
  | .add _ | .versioning _ _ | .listing _ _ | .setCurrent _ | .marking _ _ | .archive _ =>
    inferInstanceAs (Decidable True)

/-! ## Versions -/

variable {book book' : ResumeBook} {resume : EmployeeResume} {cleared : List Id} {now : Instant}

/-- What no request changes of a resume. -/
def EmployeeResume.Follows (old new : EmployeeResume) : Prop :=
  new.id = old.id ∧ new.organizationId = old.organizationId ∧ new.employeeId = old.employeeId ∧
    new.version = old.version

/-- The resumes are in the organizations of their employees, and keep to the index. -/
structure ResumeBook.Indexed (book : ResumeBook) : Prop where
  home : ∀ resume ∈ book.resumes.rows, ∃ employee ∈ book.people.employees.find? resume.employeeId,
    employee.organizationId = resume.organizationId
  index : ∀ a ∈ book.resumes.rows, ∀ b ∈ book.resumes.rows, a.Collides b → a.id = b.id

namespace ResumeBook.Indexed

theorem versions (h : book.Indexed) : book.VersionsDistinct := by
  intro a ha b hb hemployee hversion
  obtain ⟨employee, hfind, hhome⟩ := h.home a ha
  obtain ⟨employee', hfind', hhome'⟩ := h.home b hb
  rw [← hemployee, hfind] at hfind'
  obtain rfl := Option.some.inj hfind'
  exact h.index a ha b hb ⟨hhome.symm.trans hhome', hemployee, hversion⟩

theorem of_follows (h : book.Indexed) (hpeople : book'.people = book.people)
    (hrows : ∀ new ∈ book'.resumes.rows, ∃ old ∈ book.resumes.rows, old.Follows new) :
    book'.Indexed := by
  refine ⟨fun new hnew => ?_, fun a ha b hb hcollides => ?_⟩
  · obtain ⟨old, hold, -, horganization, hemployee, -⟩ := hrows new hnew
    rw [hpeople, horganization, hemployee]
    exact h.home old hold
  · obtain ⟨old, hold, hid, horganization, hemployee, hversion⟩ := hrows a ha
    obtain ⟨old', hold', hid', horganization', hemployee', hversion'⟩ := hrows b hb
    rw [EmployeeResume.Collides, horganization, hemployee, hversion, horganization', hemployee',
      hversion'] at hcollides
    rw [hid, hid']
    exact h.index old hold old' hold' hcollides

theorem clear (h : book.Indexed) : (book.clear cleared now).Indexed := by
  refine h.of_follows rfl fun new hnew => ?_
  obtain ⟨old, hold, rfl⟩ := List.mem_map.1 hnew
  refine ⟨old, hold, ?_⟩
  unfold EmployeeResume.cleared
  split <;> exact ⟨rfl, rfl, rfl, rfl⟩

theorem write (h : book.Indexed) {resumeId : Id} {f : EmployeeResume → EmployeeResume}
    (hf : ∀ row : EmployeeResume, row.Follows (f row)) : (book.writeResume resumeId f).Indexed := by
  unfold ResumeBook.writeResume
  cases hfind : book.resumes.find? resumeId with
  | none => exact h
  | some row =>
      refine h.of_follows rfl fun new hnew => ?_
      rcases Table.mem_set.1 hnew with ⟨hold, -⟩ | ⟨rfl, -⟩
      · exact ⟨new, hold, rfl, rfl, rfl, rfl⟩
      · exact ⟨row, Table.mem_of_find? hfind, hf row⟩

theorem insert (h : book.Indexed) (hinsert : book.insertResume resume = some book')
    (hhome : ∃ employee ∈ book.people.employees.find? resume.employeeId,
      employee.organizationId = resume.organizationId) : book'.Indexed := by
  obtain ⟨hfree, hinsert⟩ := Option.ite_none_left_eq_some.1 hinsert
  obtain ⟨resumes, hrows, rfl⟩ := Option.map_eq_some_iff.1 hinsert
  have hapart : ∀ other ∈ book.resumes.rows, ¬ resume.Collides other :=
    fun other hother hcollides => hfree ⟨other, hother, hcollides⟩
  refine ⟨fun new hnew => ?_, fun a ha b hb hcollides => ?_⟩
  · rcases (Table.mem_insert? hrows).1 hnew with hold | rfl
    · exact h.home new hold
    · exact hhome
  · rcases (Table.mem_insert? hrows).1 ha with holda | rfl
    · rcases (Table.mem_insert? hrows).1 hb with holdb | rfl
      · exact h.index a holda b holdb hcollides
      · obtain ⟨horganization, hemployee, hversion⟩ := hcollides
        exact absurd ⟨horganization.symm, hemployee.symm, hversion.symm⟩ (hapart a holda)
    · rcases (Table.mem_insert? hrows).1 hb with holdb | rfl
      · exact absurd hcollides (hapart b holdb)
      · rfl

end ResumeBook.Indexed

/-! ## Current resumes -/

/-- What is current after the others were cleared was current before, and is none of them. -/
theorem current_of_clear (hmem : resume ∈ (book.clear cleared now).resumes.rows)
    (hcurrent : resume.isCurrent = true) : resume ∈ book.resumes.rows ∧ resume.id ∉ cleared := by
  obtain ⟨old, hold, rfl⟩ := List.mem_map.1 hmem
  by_cases hin : old.id ∈ cleared
  · simp [EmployeeResume.cleared, hin] at hcurrent
  · rw [EmployeeResume.cleared, if_neg hin]
    exact ⟨hold, hin⟩

namespace ResumeBook.CurrentSound

/-- What is current was so before, and has not been archived. -/
theorem of_kept (h : book.CurrentSound)
    (hrows : ∀ new ∈ book'.resumes.rows, new.isCurrent = true → ∃ old ∈ book.resumes.rows,
      old.id = new.id ∧ old.employeeId = new.employeeId ∧ old.isCurrent = true ∧
        (old.Active → new.Active)) : book'.CurrentSound := by
  refine ⟨h.unique.of_kept fun new hnew employeeId hof => ?_, fun new hnew hcurrent => ?_⟩
  · obtain ⟨hcurrent, rfl⟩ := currentOf_eq_some.1 hof
    obtain ⟨old, hold, hid, hemployee, hbefore, -⟩ := hrows new hnew hcurrent
    exact ⟨old, hold, hid, currentOf_eq_some.2 ⟨hbefore, hemployee⟩⟩
  · obtain ⟨old, hold, -, -, hbefore, hactive⟩ := hrows new hnew hcurrent
    exact hactive (h.active old hold hbefore)

/-- What is current was so before, or is the one resume of the employee that was marked. -/
theorem of_marked (h : book.CurrentSound) (resumeId employeeId : Id)
    (hrows : ∀ new ∈ book'.resumes.rows, new.isCurrent = true →
      new.id = resumeId ∧ new.employeeId = employeeId ∧ new.Active ∨
        new ∈ book.resumes.rows ∧ new.employeeId ≠ employeeId) : book'.CurrentSound := by
  refine ⟨h.unique.of_taken resumeId employeeId fun new hnew owner hof => ?_,
    fun new hnew hcurrent => ?_⟩
  · obtain ⟨hcurrent, rfl⟩ := currentOf_eq_some.1 hof
    rcases hrows new hnew hcurrent with ⟨hid, hemployee, -⟩ | ⟨hold, hne⟩
    · exact .inl ⟨hemployee, hid⟩
    · exact .inr ⟨hne, new, hold, rfl, hof⟩
  · rcases hrows new hnew hcurrent with ⟨-, -, hactive⟩ | ⟨hold, -⟩
    · exact hactive
    · exact h.active new hold hcurrent

theorem clear (h : book.CurrentSound) : (book.clear cleared now).CurrentSound :=
  h.of_kept fun new hnew hcurrent =>
    ⟨new, (current_of_clear hnew hcurrent).1, rfl, rfl, hcurrent, id⟩

/-- A resume is added, and all that were current are cleared. -/
theorem add (h : book.CurrentSound) (hinsert : book.insertResume resume = some book')
    (hactive : resume.Active) (hseen : book.Current resume.employeeId resume.id cleared) :
    (book'.clear cleared now).CurrentSound := by
  obtain ⟨-, hinsert⟩ := Option.ite_none_left_eq_some.1 hinsert
  obtain ⟨resumes, hrows, rfl⟩ := Option.map_eq_some_iff.1 hinsert
  refine h.of_marked resume.id resume.employeeId fun new hnew hcurrent => ?_
  obtain ⟨hmem, hnot⟩ := current_of_clear hnew hcurrent
  rcases (Table.mem_insert? hrows).1 hmem with hold | rfl
  · refine .inr ⟨hold, fun hemployee => hnot ?_⟩
    exact hseen new hold hemployee hcurrent (Table.insert?_fresh hrows hold)
  · exact .inl ⟨rfl, rfl, hactive⟩

/-- A resume is made current, and all others that were are cleared. -/
theorem set {read : EmployeeResume} (h : book.CurrentSound)
    (hseen : read.isCurrent = false → ∀ row ∈ book.resumes.find? read.id,
      row.Active ∧ book.Current row.employeeId read.id cleared) :
    ((book.writeResume read.id (read.current now)).clear cleared now).CurrentSound := by
  unfold ResumeBook.writeResume
  cases hfind : book.resumes.find? read.id with
  | none => exact h.clear
  | some row =>
      have hid : row.id = read.id := Table.key_of_find? hfind
      cases hread : read.isCurrent with
      | false =>
          obtain ⟨hactive, hothers⟩ := hseen hread row hfind
          refine h.of_marked row.id row.employeeId fun new hnew hcurrent => ?_
          obtain ⟨hmem, hnot⟩ := current_of_clear hnew hcurrent
          rcases Table.mem_set.1 hmem with ⟨hold, hne⟩ | ⟨rfl, -⟩
          · refine .inr ⟨hold, fun hemployee => hnot ?_⟩
            exact hothers new hold hemployee hcurrent fun heq => hne (heq.trans hid.symm)
          · exact .inl ⟨rfl, rfl, hactive⟩
      | true =>
          refine CurrentSound.clear (h.of_kept fun new hnew hcurrent => ?_)
          rcases Table.mem_set.1 hnew with ⟨hold, -⟩ | ⟨rfl, -⟩
          · exact ⟨new, hold, rfl, rfl, hcurrent, id⟩
          · refine ⟨row, Table.mem_of_find? hfind, rfl, rfl, ?_, id⟩
            simpa [EmployeeResume.current, hread, overwrite] using hcurrent

/-- A resume is archived that is current only if it was so when it was read. -/
theorem archive {read : EmployeeResume} (h : book.CurrentSound)
    (hseen : ∀ row ∈ book.resumes.find? read.id, row.isCurrent = true → read.isCurrent = true) :
    (book.writeResume read.id (read.archived now)).CurrentSound := by
  unfold ResumeBook.writeResume
  cases hfind : book.resumes.find? read.id with
  | none => exact h
  | some row =>
      refine h.of_kept fun new hnew hcurrent => ?_
      rcases Table.mem_set.1 hnew with ⟨hold, -⟩ | ⟨rfl, -⟩
      · exact ⟨new, hold, rfl, rfl, hcurrent, id⟩
      · have hbefore := hseen row hfind
        cases hread : read.isCurrent with
        | true => simp [EmployeeResume.archived, hread, overwrite] at hcurrent
        | false =>
            have hrow : row.isCurrent = true := by
              simpa [EmployeeResume.archived, hread, overwrite] using hcurrent
            exact absurd (hread.symm.trans (hbefore hrow)) Bool.false_ne_true

end ResumeBook.CurrentSound

/-! ## Interleavings -/

/-- What a request knows between its statements. -/
def ResumeTask.Known (people : Database) : ResumeTask → Prop
  | .versioning r _ => ∃ employee ∈ people.employees.find? r.employeeId,
      employee.organizationId = r.caller.actor.organizationId
  | .listing r resume | .adding r resume _ => resume.employeeId = r.employeeId ∧ resume.Active ∧
      ∃ employee ∈ people.employees.find? resume.employeeId,
        employee.organizationId = resume.organizationId
  | _ => True

theorem ResumeTask.known_of_isRequest {people : Database} {task : ResumeTask}
    (h : task.isRequest = true) : task.Known people := by
  cases task with
  | versioning r stored | listing r resume | adding r resume cleared => cases h
  | _ => trivial

theorem proceed_known (people : Database) {next : Except AppError ResumeTask}
    {after : Option ResumeTask} (h : book.proceed next = (book', after))
    (hnext : ∀ task, next = .ok task → task.Known people) :
    book' = book ∧ ∀ task ∈ after, task.Known people := by
  obtain ⟨rfl, rfl⟩ := Prod.mk.inj h
  refine ⟨rfl, fun task htask => hnext task ?_⟩
  cases next with
  | error e => cases htask
  | ok value => exact congrArg Except.ok (Option.some.inj htask)

/-- A statement keeps the versions apart and, if its request has read what it commits, the current
resumes as they should be. -/
theorem ResumeTask.step_spec (others : List ResumeTask) {task : ResumeTask}
    {after : Option ResumeTask} (hindexed : book.Indexed) (hknown : task.Known book.people)
    (h : task.step book = (book', after)) :
    book'.people = book.people ∧ book'.Indexed ∧ (∀ next ∈ after, next.Known book.people) ∧
      (Fresh others book task → book.CurrentSound → book'.CurrentSound) := by
  cases task with
  | add r =>
      obtain ⟨rfl, hafter⟩ := proceed_known book.people h fun task htask => by
        obtain ⟨employee, hemployee, htask⟩ := bind_eq_ok.1 htask
        obtain ⟨stored, -, htask⟩ := bind_eq_ok.1 htask
        obtain rfl := Except.ok.inj htask
        obtain ⟨hfind, hvisible⟩ := Option.filter_eq_some_iff.1 (orError_eq_ok.1 hemployee)
        exact ⟨employee, hfind, (of_decide_eq_true hvisible).1⟩
      exact ⟨rfl, hindexed, hafter, fun _ => id⟩
  | versioning r stored =>
      obtain ⟨rfl, rfl⟩ := Prod.mk.inj h
      refine ⟨rfl, hindexed, fun next hnext => ?_, fun _ => id⟩
      obtain rfl := Option.some.inj hnext
      exact ⟨rfl, ⟨rfl, rfl⟩, hknown⟩
  | listing r resume =>
      obtain ⟨rfl, rfl⟩ := Prod.mk.inj h
      refine ⟨rfl, hindexed, fun next hnext => ?_, fun _ => id⟩
      obtain rfl := Option.some.inj hnext
      exact hknown
  | adding r resume cleared =>
      obtain ⟨rfl, rfl⟩ := Prod.mk.inj h
      obtain ⟨hemployee, hactive, hhome⟩ := hknown
      cases hinsert : book.insertResume resume with
      | none => exact ⟨rfl, hindexed, by simp, fun _ => id⟩
      | some inserted =>
          have hpeople : inserted.people = book.people := by
            obtain ⟨-, hinsert⟩ := Option.ite_none_left_eq_some.1 hinsert
            obtain ⟨resumes, -, rfl⟩ := Option.map_eq_some_iff.1 hinsert
            rfl
          refine ⟨hpeople, (hindexed.insert hinsert hhome).clear, by simp, fun hfresh hsound => ?_⟩
          exact hsound.add hinsert hactive (hemployee ▸ hfresh)
  | setCurrent r | archive r =>
      obtain ⟨rfl, hafter⟩ := proceed_known book.people h fun task htask => by
        obtain ⟨read, -, htask⟩ := bind_eq_ok.1 htask
        obtain ⟨-, htask⟩ := ensure_bind_eq_ok.1 htask
        obtain rfl := Except.ok.inj htask
        trivial
      exact ⟨rfl, hindexed, hafter, fun _ => id⟩
  | marking r read =>
      obtain ⟨rfl, rfl⟩ := Prod.mk.inj h
      exact ⟨rfl, hindexed, fun next hnext => Option.some.inj hnext ▸ trivial, fun _ => id⟩
  | setting r read cleared =>
      obtain ⟨rfl, rfl⟩ := Prod.mk.inj h
      have hwritten : (book.writeResume read.id (read.current r.caller.now)).Indexed :=
        hindexed.write fun row => ⟨rfl, rfl, rfl, rfl⟩
      refine ⟨?_, hwritten.clear, by simp, fun hfresh hsound => hsound.set hfresh⟩
      show (book.writeResume _ _).people = _
      unfold ResumeBook.writeResume
      split <;> rfl
  | archiving r read =>
      obtain ⟨rfl, rfl⟩ := Prod.mk.inj h
      refine ⟨?_, hindexed.write fun row => ⟨rfl, rfl, rfl, rfl⟩, by simp,
        fun hfresh hsound => hsound.archive hfresh⟩
      unfold ResumeBook.writeResume
      split <;> rfl

/-- In every interleaving the versions of an employee's resumes differ; and if each request commits
what it has read, nobody has two current resumes and every current resume is active. -/
theorem current_resumes {s : Sessions ResumeBook ResumeTask}
    (h : ResumeRequests (fun _ _ _ => True) s) :
    s.db.VersionsDistinct ∧ (ResumeRequests Fresh s → s.db.CurrentSound) := by
  have hindexed : s.Holds ResumeBook.Indexed (fun book task => task.Known book.people)
      (fun _ _ => True) := by
    refine h.holds (fun _ _ => id) (fun book hempty => ?_) (fun book task hrequest _ => ?_)
      fun others book task book' after hindexed hknown hothers _ _ hstep => ?_
    · constructor <;> simp [hempty]
    · exact ⟨task.known_of_isRequest hrequest, fun _ => trivial⟩
    · obtain ⟨hpeople, hindexed', hnext, -⟩ :=
        ResumeTask.step_spec others hindexed hknown (Option.some.inj hstep)
      exact ⟨hindexed', hpeople ▸ hnext, fun u hu => hpeople ▸ (hothers u hu).1,
        fun _ _ _ _ => trivial⟩
  refine ⟨hindexed.database.versions, fun hfresh => ?_⟩
  have hsound : s.Holds (fun book => book.Indexed ∧ book.CurrentSound)
      (fun book task => task.Known book.people) (fun _ _ => True) := by
    refine hfresh.holds (fun _ _ => id) (fun book hempty => ?_) (fun book task hrequest _ => ?_)
      fun others book task book' after hbook hknown hothers _ hadmits hstep => ?_
    · refine ⟨⟨?_, ?_⟩, ⟨?_, ?_⟩⟩ <;> simp [hempty, Table.UniqueOn]
    · exact ⟨task.known_of_isRequest hrequest, fun _ => trivial⟩
    · obtain ⟨hpeople, hindexed', hnext, hkeeps⟩ :=
        ResumeTask.step_spec others hbook.1 hknown (Option.some.inj hstep)
      exact ⟨⟨hindexed', hkeeps hadmits hbook.2⟩, hpeople ▸ hnext,
        fun u hu => hpeople ▸ (hothers u hu).1, fun _ _ _ _ => trivial⟩
  exact hsound.database.2

/-! ## Two resumes, one after the other and side by side -/

namespace Sample

/-- An employee without resumes. -/
def applicant : ResumeBook where
  people := alone.people
  resumes := .empty

def adds (resumeId : Id) : ResumeTask :=
  .add ⟨clerk, 3, { title := "Resume", fileUrl := "upload" }, none, resumeId, toString⟩

def marks (resumeId : Id) : ResumeTask := .setCurrent ⟨clerk, resumeId⟩

def archives (resumeId : Id) : ResumeTask := .archive ⟨clerk, resumeId⟩

/-- Two resumes are added, one after the other. -/
def twoResumes : List (Sessions.Move ResumeTask) :=
  [.begins (adds 10), .acts 0, .acts 0, .acts 0, .acts 0,
    .begins (adds 11), .acts 0, .acts 0, .acts 0, .acts 0]

end Sample

/-- The first resume is made current again, and then archived. -/
theorem current_resumes_archived : ∃ s : Sessions ResumeBook ResumeTask,
    s.db.resumes.rows.map (fun r => (r.version, r.isCurrent, r.isActive)) =
      [(1, false, false), (2, false, true)] ∧ s.db.VersionsDistinct ∧ s.db.CurrentSound := by
  obtain ⟨s, hs, hrows⟩ := Sessions.Interleaved.of_play (fun task => task.isRequest = true)
    resuming Fresh (fun book => book.resumes.rows = []) Sample.applicant
    (Sample.twoResumes ++ [.begins (Sample.marks 10), .acts 0, .acts 0, .acts 0,
      .begins (Sample.archives 10), .acts 0, .acts 0])
    (p := fun s => s.db.resumes.rows.map (fun r => (r.version, r.isCurrent, r.isActive)) =
      [(1, false, false), (2, false, true)]) rfl (by decide +kernel)
  obtain ⟨hversions, hcurrent⟩ := current_resumes (hs.mono fun _ _ _ _ => trivial)
  exact ⟨s, of_decide_eq_true hrows, hversions, hcurrent hs⟩

/-- A resume is made current while another one is added, and both are current; and a resume is made
current while it is archived. -/
theorem current_resumes_broken :
    (∃ s, ResumeRequests (fun _ _ _ => True) s ∧
      ¬ s.db.resumes.UniqueOn EmployeeResume.currentOf) ∧
    ∃ s, ResumeRequests (fun _ _ _ => True) s ∧
      ∃ resume ∈ s.db.resumes.rows, resume.isCurrent = true ∧ ¬ resume.Active := by
  constructor
  · obtain ⟨s, hs, hrows⟩ := Sessions.Interleaved.of_play (fun task => task.isRequest = true)
      resuming (fun _ _ _ => True) (fun book => book.resumes.rows = []) Sample.applicant
      (Sample.twoResumes ++ [.begins (Sample.adds 12), .acts 0, .acts 0, .acts 0,
        .begins (Sample.marks 10), .acts 1, .acts 1, .acts 0, .acts 0])
      (p := fun s => ¬ s.db.resumes.UniqueOn EmployeeResume.currentOf) rfl (by decide +kernel)
    exact ⟨s, hs, of_decide_eq_true hrows⟩
  · obtain ⟨s, hs, hrows⟩ := Sessions.Interleaved.of_play (fun task => task.isRequest = true)
      resuming (fun _ _ _ => True) (fun book => book.resumes.rows = []) Sample.applicant
      (Sample.twoResumes ++ [.begins (Sample.marks 10), .acts 0, .acts 0,
        .begins (Sample.archives 10), .acts 1, .acts 1, .acts 0])
      (p := fun s => ∃ resume ∈ s.db.resumes.rows, resume.isCurrent = true ∧ ¬ resume.Active)
      rfl (by decide +kernel)
    exact ⟨s, hs, of_decide_eq_true hrows⟩

end Cestos.Employees
