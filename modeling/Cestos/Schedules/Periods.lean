import Cestos.Notifications.Once
import Cestos.Schedules.Runs

/-!
# Periods of a schedule

However passes of the scheduler and manual runs interleave, the periods of a schedule are at least
one step of its frequency apart, one that runs once has a single period, and within a period each
recipient is told of each entity at most once.
-/

namespace Cestos.Schedules

open Cestos.Core
open Cestos.Notifications (Id User EmitEvent Emission Stage Work emitEvent told)

variable {env : Env} {db db' : Database} {base : Notifications.Database} {others : List Runner}
  {t : Runner} {e : Evaluation} {schedule : NotificationSchedule} {now period : Moment}

/-- The next run after the earlier period is not after the later. -/
def Spaced (frequency : String) (later earlier : Moment) : Prop :=
  ∃ next, nextRun earlier frequency = some next ∧ next ≤ later

/-- The row follows the periods that its runs have opened. -/
structure Database.Follows (db : Database) (schedule : NotificationSchedule) : Prop where
  last : schedule.lastRunAt = (db.periods schedule.id).head?
  next : schedule.nextRunAt = schedule.lastRunAt.bind (nextRun · schedule.frequency)
  spaced : (db.periods schedule.id).Pairwise (Spaced schedule.frequency)

/-- The call is made for the schedule in the period. -/
def CallOf (env : Env) (scheduleId : Id) (period : Moment) (call : EmitEvent) : Prop :=
  call.scheduleId = some scheduleId ∧
    ∃ entityId, call.eventKey = scheduleKey env scheduleId period entityId

structure Database.Sound (env : Env) (base : Notifications.Database) (db : Database) : Prop where
  follows : ∀ schedule ∈ db.schedules.rows, db.Follows schedule
  grown : Notifications.Database.Grown env.toEnv base db.told
  called : ∀ emission ∈ db.told.emissions, ∃ scheduleId, ∃ period ∈ db.periods scheduleId,
    CallOf env scheduleId period emission.call

/-- The evaluation makes the call, or has made it. -/
def Evaluation.Calls (e : Evaluation) (call : EmitEvent) : Prop :=
  call ∈ e.work.emissions.map (·.call) ∨ e.stage = some (.select call) ∨ call ∈ e.rest

/-- The evaluation opens the period, or repairs it. -/
def Evaluation.In (e : Evaluation) (schedule : NotificationSchedule) (period : Moment) : Prop :=
  e.opens = some period ∧ schedule.currentPeriod period = none ∨
    e.opens = none ∧ schedule.lastRunAt = some period

/-- What an evaluation knows under the lock of its schedule. -/
structure Evaluation.Knows (env : Env) (db : Database) (e : Evaluation) : Prop where
  work : e.work.Sound env.toEnv db.told
  stage : ∀ stage ∈ e.stage, e.work.Knows stage
  period : ∃ schedule period, db.schedules.find? e.scheduleId = some schedule ∧
    schedule.frequency ∈ frequencies.map Prod.fst ∧ e.In schedule period ∧
    ∀ call, e.Calls call → CallOf env e.scheduleId period call

def Runner.Knows (env : Env) (db : Database) : Runner → Prop
  | .evaluating e _ => e.Knows env db
  | _ => True

/-- What others leave as it is while a row is locked: a schedule, and that an identifier is not
taken. -/
def Lock.Kept : Lock → Database → Database → Prop
  | .schedule id, db, db' => db'.schedules.find? id = db.schedules.find? id
  | .told (.notification id), db, db' =>
    id ∉ db.told.notifications.rows.map (·.id) → id ∉ db'.told.notifications.rows.map (·.id)
  | .told (.email id), db, db' =>
    id ∉ db.told.emails.rows.map (·.id) → id ∉ db'.told.emails.rows.map (·.id)

theorem Lock.kept_refl (row : Lock) (db : Database) : row.Kept db db := by
  cases row with
  | schedule id => exact rfl
  | told row => cases row <;> exact id

/-! ## The next run -/

theorem le_nextRun {frequency : String} {next : Moment} (h : nextRun now frequency = some next) :
    now ≤ next := by
  unfold nextRun at h
  split at h
  · cases h
  · split at h
    · obtain rfl := Option.some.inj h
      exact now.le_nextMonth
    · obtain ⟨days, -, rfl⟩ := Option.map_eq_some_iff.1 h
      exact Moment.le_addDays days now

theorem exists_nextRun {frequency : String} (h : frequency ∈ frequencies.map Prod.fst)
    (honce : frequency ≠ "ONCE") (now : Moment) : ∃ next, nextRun now frequency = some next := by
  simp only [frequencies, List.map_cons, List.map_nil, List.mem_cons, List.not_mem_nil,
    or_false] at h
  rcases h with rfl | rfl | rfl | rfl | rfl | rfl
  · exact absurd rfl honce
  all_goals exact ⟨_, rfl⟩

theorem not_spaced_once {later earlier : Moment} : ¬ Spaced "ONCE" later earlier := by
  rintro ⟨next, hnext, -⟩
  cases hnext

/-! ## What an evaluation knows -/

theorem validateSchedule_frequency (h : validateSchedule env schedule = .ok ()) :
    schedule.frequency ∈ frequencies.map Prod.fst := by
  unfold validateSchedule at h
  rw [ensure_bind_eq_ok, ensure_bind_eq_ok] at h
  exact h.2.1

/-- An evaluation begins in the period that it has found or opens, with calls for that period. -/
theorem evaluate_spec {readings : Readings} (h : evaluate env schedule now readings = .ok (some e)) :
    e.scheduleId = schedule.id ∧ schedule.frequency ∈ frequencies.map Prod.fst ∧
      e.work = ⟨[], [], [], []⟩ ∧ e.stage = none ∧
      ∃ period, e.In schedule period ∧ ∀ call ∈ e.rest, CallOf env schedule.id period call := by
  unfold evaluate at h
  split at h
  · cases h
  · obtain ⟨_, hvalid, hrest⟩ := bind_eq_ok.1 h
    rw [ensure_bind_eq_ok] at hrest
    obtain rfl := Option.some.inj (Except.ok.inj hrest.2)
    refine ⟨rfl, validateSchedule_frequency hvalid, rfl, rfl,
      (schedule.currentPeriod now).getD now, ?_, fun call hcall => ?_⟩
    · cases hperiod : schedule.currentPeriod now with
      | none => exact .inl ⟨by simp, hperiod⟩
      | some period => exact .inr ⟨by simp, (Option.filter_eq_some_iff.1 hperiod).1⟩
    · obtain ⟨alert, -, rfl⟩ := List.mem_map.1 hcall
      exact ⟨rfl, alert.entityId, rfl⟩

theorem evaluate_knows {readings : Readings} {scheduleId : Id}
    (hfind : db.schedules.find? scheduleId = some schedule)
    (h : evaluate env schedule now readings = .ok (some e)) :
    e.Knows env db ∧ e.scheduleId = scheduleId ∧ e.work.held = [] := by
  obtain ⟨hid, hfrequency, hwork, hstage, period, hin, hcalls⟩ := evaluate_spec h
  have hkey := Table.key_of_find? hfind
  rw [← hkey] at hfind
  refine ⟨⟨?_, by simp [hstage], schedule, period, hid ▸ hfind, hfrequency, hin, fun call hcall => ?_⟩,
    hid.trans hkey, by rw [hwork]⟩
  · rw [hwork]
    exact Work.sound_idle db.told
  · rcases hcall with hmade | hselect | hrest
    · simp [hwork] at hmade
    · simp [hstage] at hselect
    · exact hid ▸ hcalls call hrest

/-- The work of an evaluation is not disturbed by those who do not hold its identifiers. -/
theorem sound_of_kept {work : Work} (h : work.Sound env.toEnv db.told)
    (hkept : ∀ row ∈ work.held, Lock.Kept (.told row) db db') :
    work.Sound env.toEnv db'.told := by
  refine ⟨h.notifications, h.emails, h.mailed, ?_, ?_, h.held, h.held_emails⟩
  · obtain ⟨hown, -, happart⟩ := List.nodup_append.1 h.nodup
    refine List.nodup_append.2 ⟨hown, db'.told.notifications.nodup, fun id hid id' hid' heq => ?_⟩
    subst heq
    obtain ⟨n, hn, rfl⟩ := List.mem_map.1 hid
    exact hkept _ (h.held n hn) (fun hold => happart _ hid _ hold rfl) hid'
  · obtain ⟨hown, -, happart⟩ := List.nodup_append.1 h.nodup_emails
    refine List.nodup_append.2 ⟨hown, db'.told.emails.nodup, fun id hid id' hid' heq => ?_⟩
    subst heq
    obtain ⟨d, hd, rfl⟩ := List.mem_map.1 hid
    exact hkept _ (h.held_emails d hd) (fun hold => happart _ hid _ hold rfl) hid'

theorem Runner.Knows.stable (h : t.Knows env db) (hkept : ∀ row ∈ t.held, row.Kept db db') :
    t.Knows env db' := by
  cases t with
  | manual r | pass p | next p ids => trivial
  | evaluating e after =>
      obtain ⟨hwork, hstage, schedule, period, hfind, hrest⟩ := h
      refine ⟨sound_of_kept hwork fun row hrow => ?_, hstage, schedule, period, ?_, hrest⟩
      · exact hkept _ (List.mem_cons_of_mem _ (List.mem_map_of_mem hrow))
      · exact (hkept _ List.mem_cons_self).trans hfind

/-! ## Statements -/

theorem calls_modifyHead (emissions : List Emission) {f : Emission → Emission}
    (hf : ∀ emission, (f emission).call = emission.call) :
    (emissions.modifyHead f).map (·.call) = emissions.map (·.call) := by
  cases emissions with
  | nil => rfl
  | cons emission rest => exact congrArg (· :: rest.map (·.call)) (hf emission)

theorem calls_notify (work : Work) (n : Notifications.Notification) (user : User) :
    (work.notify n user).emissions.map (·.call) = work.emissions.map (·.call) :=
  calls_modifyHead _ fun _ => rfl

theorem calls_mail (work : Work) (d : Notifications.EmailDelivery) (user : User) :
    (work.mail d user).emissions.map (·.call) = work.emissions.map (·.call) :=
  calls_modifyHead _ fun _ => rfl

section Emitting

variable {notified : Notifications.Database} {work work' : Work} {stage stage' : Stage}

theorem emitEvent_calls (h : emitEvent env.toEnv notified work stage = .goes work' stage') :
    (∀ call ∈ work'.emissions.map (·.call),
      call ∈ work.emissions.map (·.call) ∨ stage = .select call) ∧
      ∀ call, stage' ≠ .select call := by
  cases stage with
  | select e =>
      simp only [emitEvent] at h
      split at h
      · cases h
      · cases h
        refine ⟨fun call hcall => ?_, by simp⟩
        rcases List.mem_cons.1 hcall with rfl | hold
        · exact .inr rfl
        · exact .inl hold
  | notify e eligible =>
      cases eligible with
      | nil => cases h
      | cons user eligible =>
          simp only [emitEvent] at h
          split at h
          · cases h
          · split at h
            · cases h
              exact ⟨fun call hcall => .inl hcall, by simp⟩
            · split at h
              all_goals
                cases h
                refine ⟨fun call hcall => .inl ?_, by simp⟩
                rwa [calls_notify] at hcall
  | mail e user eligible =>
      simp only [emitEvent] at h
      split at h
      · cases h
      · split at h
        · cases h
          exact ⟨fun call hcall => .inl hcall, by simp⟩
        · cases h
          refine ⟨fun call hcall => .inl ?_, by simp⟩
          rwa [calls_mail] at hcall

theorem emitEvent_done_calls (h : emitEvent env.toEnv notified work stage = .done work') :
    ∀ call ∈ work'.emissions.map (·.call),
      call ∈ work.emissions.map (·.call) ∨ stage = .select call := by
  intro call hcall
  cases stage with
  | select e =>
      simp only [emitEvent] at h
      split at h
      · cases h
        rcases List.mem_cons.1 hcall with rfl | hold
        · exact .inr rfl
        · exact .inl hold
      · cases h
  | notify e eligible =>
      cases eligible with
      | nil =>
          cases h
          exact .inl hcall
      | cons user eligible =>
          simp only [emitEvent] at h
          split at h
          · cases h
          · split at h
            · cases h
            · split at h <;> cases h
  | mail e user eligible =>
      simp only [emitEvent] at h
      split at h
      · cases h
      · split at h <;> cases h

end Emitting

theorem Evaluation.Knows.goes (h : e.Knows env db) {work : Work} {stage : Option Stage}
    {rest : List EmitEvent} (hwork : work.Sound env.toEnv db.told)
    (hstage : ∀ st ∈ stage, work.Knows st)
    (hcalls : ∀ call, Calls { e with work, stage, rest } call → e.Calls call) :
    Evaluation.Knows env db { e with work, stage, rest } := by
  obtain ⟨-, -, schedule, period, hfind, hfrequency, hin, hown⟩ := h
  exact ⟨hwork, hstage, schedule, period, hfind, hfrequency, hin,
    fun call hcall => hown call (hcalls call hcall)⟩

/-! ## Commits -/

theorem Database.periods_cons (db : Database) (scheduleId other : Id) (now : Moment)
    {schedules : Table NotificationSchedule.id} {told : Notifications.Database} :
    Database.periods ⟨schedules, (scheduleId, now) :: db.runs, told⟩ other =
      if scheduleId = other then now :: db.periods other else db.periods other := by
  by_cases h : scheduleId = other
  · simp [Database.periods, h]
  · simp [Database.periods, h]

theorem Database.Follows.spaced_of_opens (h : db.Follows schedule)
    (hfrequency : schedule.frequency ∈ frequencies.map Prod.fst)
    (hopens : schedule.currentPeriod now = none) :
    ∀ earlier ∈ db.periods schedule.id, Spaced schedule.frequency now earlier := by
  intro earlier hearlier
  obtain ⟨hlast, hnext, hspaced⟩ := h
  cases hperiods : db.periods schedule.id with
  | nil => simp [hperiods] at hearlier
  | cons last older =>
      rw [hperiods] at hearlier hlast hspaced
      have hlast' : schedule.lastRunAt = some last := hlast
      have hpast := Option.filter_eq_none_iff.1 hopens last hlast'
      simp only [Bool.or_eq_true, decide_eq_true_eq, Option.any_eq_true] at hpast
      obtain ⟨honce, hdue⟩ := not_or.1 hpast
      obtain ⟨next, hstep⟩ := exists_nextRun hfrequency honce last
      have hnow : next ≤ now := by
        apply not_lt.1
        intro hlt
        exact hdue ⟨next, by rw [hnext, hlast', Option.bind_some, hstep], hlt⟩
      rcases List.mem_cons.1 hearlier with rfl | hold
      · exact ⟨next, hstep, hnow⟩
      · obtain ⟨next', hstep', hle⟩ := List.rel_of_pairwise_cons hspaced hold
        exact ⟨next', hstep', hle.trans ((le_nextRun hstep).trans hnow)⟩

theorem commit_opens (hopens : e.opens = some now)
    (hfind : db.schedules.find? e.scheduleId = some schedule) :
    db.commit e = ⟨db.schedules.set (schedule.openPeriod now), (e.scheduleId, now) :: db.runs,
      db.told.commit e.work⟩ := by
  simp only [Database.commit, hopens, hfind]

theorem commit_repairs (hopens : e.opens = none) :
    db.commit e = { db with told := db.told.commit e.work } := by
  simp only [Database.commit, hopens]

theorem commit_told : (db.commit e).told = db.told.commit e.work := by
  unfold Database.commit
  split <;> rfl

/-- The periods after a commit are those before, and the one of the evaluation. -/
theorem mem_periods_commit (hdb : db.Sound env base)
    (hfind : db.schedules.find? e.scheduleId = some schedule) (hin : e.In schedule period) :
    period ∈ (db.commit e).periods e.scheduleId ∧
      ∀ scheduleId, db.periods scheduleId ⊆ (db.commit e).periods scheduleId := by
  rcases hin with ⟨hopens, -⟩ | ⟨hopens, hlast⟩
  · rw [commit_opens hopens hfind]
    refine ⟨?_, fun scheduleId earlier hearlier => ?_⟩
    · rw [Database.periods_cons, if_pos rfl]
      exact List.mem_cons_self
    · rw [Database.periods_cons]
      split
      · exact List.mem_cons_of_mem _ hearlier
      · exact hearlier
  · rw [commit_repairs hopens]
    refine ⟨?_, fun scheduleId => List.Subset.refl _⟩
    have hfollows := hdb.follows schedule (Table.mem_of_find? hfind)
    rw [hfollows.last, Table.key_of_find? hfind] at hlast
    exact List.mem_of_head? hlast

theorem commit_follows (hdb : db.Sound env base)
    (hfind : db.schedules.find? e.scheduleId = some schedule)
    (hfrequency : schedule.frequency ∈ frequencies.map Prod.fst) (hin : e.In schedule period) :
    ∀ row ∈ (db.commit e).schedules.rows, (db.commit e).Follows row := by
  rcases hin with ⟨hopens, hnew⟩ | ⟨hopens, -⟩
  · rw [commit_opens hopens hfind]
    intro row hrow
    have hkey := Table.key_of_find? hfind
    have hfollows := hdb.follows schedule (Table.mem_of_find? hfind)
    rcases Table.mem_set.1 hrow with ⟨hold, hne⟩ | ⟨rfl, -⟩
    · have hother : e.scheduleId ≠ row.id := fun heq => hne (heq.symm.trans hkey.symm)
      obtain ⟨hlast, hnext, hspaced⟩ := hdb.follows row hold
      have hperiods : Database.periods ⟨db.schedules.set (schedule.openPeriod period),
          (e.scheduleId, period) :: db.runs, db.told.commit e.work⟩ row.id =
          db.periods row.id := by
        rw [Database.periods_cons, if_neg hother]
      exact ⟨hlast.trans (congrArg List.head? hperiods.symm), hnext, hperiods ▸ hspaced⟩
    · have hperiods : Database.periods ⟨db.schedules.set (schedule.openPeriod period),
          (e.scheduleId, period) :: db.runs, db.told.commit e.work⟩ schedule.id =
          period :: db.periods schedule.id := by
        rw [Database.periods_cons, if_pos hkey.symm]
      refine ⟨?_, rfl, ?_⟩
      · exact (congrArg List.head? hperiods).symm
      · show (Database.periods _ schedule.id).Pairwise (Spaced schedule.frequency)
        rw [hperiods]
        exact List.pairwise_cons.2
          ⟨hfollows.spaced_of_opens hfrequency hnew, hfollows.spaced⟩
  · rw [commit_repairs hopens]
    intro row hrow
    obtain ⟨hlast, hnext, hspaced⟩ := hdb.follows row hrow
    exact ⟨hlast, hnext, hspaced⟩

theorem commit_sound (hdb : db.Sound env base) (h : e.Knows env db) :
    (db.commit e).Sound env base := by
  obtain ⟨hwork, -, schedule, period, hfind, hfrequency, hin, hcalls⟩ := h
  obtain ⟨hmem, hsub⟩ := mem_periods_commit hdb hfind hin
  refine ⟨commit_follows hdb hfind hfrequency hin, ?_, fun emission hemission => ?_⟩
  · rw [commit_told]
    exact hdb.grown.commit hwork
  · rw [commit_told] at hemission
    rcases List.mem_append.1 hemission with hown | hold
    · exact ⟨e.scheduleId, period, hmem, hcalls _ (.inl (List.mem_map_of_mem hown))⟩
    · obtain ⟨scheduleId, earlier, hearlier, hcall⟩ := hdb.called emission hold
      exact ⟨scheduleId, earlier, hsub scheduleId hearlier, hcall⟩

/-- What an evaluation commits leaves to others what they hold. -/
theorem commit_kept (h : e.Knows env db) {row : Lock}
    (hrow : row ∉ Runner.held (.evaluating e none)) : row.Kept db (db.commit e) := by
  obtain ⟨hschedule, htold⟩ := not_or.1 (mt List.mem_cons.2 hrow)
  cases row with
  | schedule id =>
      obtain ⟨-, -, schedule, period, hfind, -, hin, -⟩ := h
      show (db.commit e).schedules.find? id = _
      rcases hin with ⟨hopens, -⟩ | ⟨hopens, -⟩
      · rw [commit_opens hopens hfind]
        apply Table.find?_set_ne
        intro heq
        have hkey : schedule.id = id := heq
        exact hschedule (by rw [← hkey, Table.key_of_find? hfind])
      · rw [commit_repairs hopens]
  | told row =>
      have hfree : row ∉ e.work.held := fun hheld => htold (List.mem_map_of_mem hheld)
      cases row with
      | notification id =>
          intro hold hnew
          rw [commit_told, h.work.notifications_commit, List.map_append, List.map_reverse,
            List.mem_append, List.mem_reverse] at hnew
          rcases hnew with hnew | hnew
          · exact hold hnew
          · obtain ⟨n, hn, rfl⟩ := List.mem_map.1 hnew
            exact hfree (h.work.held n hn)
      | email id =>
          intro hold hnew
          rw [commit_told, h.work.emails_commit, List.map_append, List.map_reverse,
            List.mem_append, List.mem_reverse] at hnew
          rcases hnew with hnew | hnew
          · exact hold hnew
          · obtain ⟨d, hd, rfl⟩ := List.mem_map.1 hnew
            exact hfree (h.work.held_emails d hd)

/-! ## Interleavings -/

theorem resume_knows {after : Option (Pass × List Id)} {t' : Runner}
    (h : t' ∈ Runner.resume after) : t'.Knows env db ∧ t'.held = [] := by
  obtain ⟨rest, -, rfl⟩ := Option.map_eq_some_iff.1 h
  exact ⟨trivial, rfl⟩

theorem begin_guards (hdb : db.Sound env base) {after : Option (Pass × List Id)}
    (hexclusive : ∀ u ∈ others, Exclusive Runner.held t u)
    (next : Except AppError (Option Evaluation))
    (hnext : ∀ e, next = .ok (some e) → e.Knows env db ∧ e.work.held = [] ∧
      ¬ locked Runner.held others (.schedule e.scheduleId)) :
    Guards Runner.held Lock.Kept (fun _ _ => True) (Database.Sound env base) (Runner.Knows env)
      others db t db (Runner.begin after next) := by
  have hover : Guards Runner.held Lock.Kept (fun _ _ => True) (Database.Sound env base)
      (Runner.Knows env) others db t db (Runner.resume after) :=
    .releases hdb trivial hexclusive (fun row _ => row.kept_refl db) fun _ => resume_knows
  match next with
  | .error _ | .ok none => exact hover
  | .ok (some e) =>
      obtain ⟨hknows, hheld, hfree⟩ := hnext e rfl
      refine .goes hdb trivial (Lock.kept_refl · db) hknows fun row hrow => ?_
      rw [Runner.held, hheld] at hrow
      exact .inr (List.mem_singleton.1 hrow ▸ hfree)

/-- The statements of `emit_event` and the commit of an evaluation. -/
theorem evaluating_guards (hdb : db.Sound env base) {after : Option (Pass × List Id)}
    (hknows : e.Knows env db)
    (hexclusive : ∀ u ∈ others, Exclusive Runner.held (.evaluating e after) u)
    (hfree : ∀ row ∈ Runner.wants env db (.evaluating e after),
      ¬ locked Runner.held others row) :
    Guards Runner.held Lock.Kept (fun _ _ => True) (Database.Sound env base) (Runner.Knows env)
      others db (.evaluating e after) (Runner.step env others db (.evaluating e after)).1
      (Runner.step env others db (.evaluating e after)).2 := by
  cases hstage : e.stage with
  | none =>
      cases hrest : e.rest with
      | nil =>
          simp only [Runner.step, hstage, hrest]
          exact .releases (commit_sound hdb hknows) trivial hexclusive
            (fun row hrow => commit_kept hknows hrow) fun _ => resume_knows
      | cons call rest =>
          simp only [Runner.step, hstage, hrest]
          have hnext : Evaluation.Knows env db { e with stage := some (.select call), rest } := by
            refine hknows.goes hknows.work ?_ fun made hmade => ?_
            · intro stage hselect
              obtain rfl := Option.some.inj hselect
              trivial
            · rcases hmade with hmade | hselect | hleft
              · exact .inl hmade
              · cases hselect
                exact .inr (.inr (hrest ▸ List.mem_cons_self))
              · exact .inr (.inr (hrest ▸ List.mem_cons_of_mem _ hleft))
          exact .goes hdb trivial (Lock.kept_refl · db) hnext fun row hrow => .inl hrow
  | some stage =>
      have hwork := hknows.stage stage hstage
      cases hemit : emitEvent env.toEnv db.told e.work stage with
      | goes work stage' =>
          simp only [Runner.step, hstage, hemit]
          obtain ⟨hsound, hknows', hheld⟩ :=
            Notifications.emitEvent_goes hknows.work hwork hemit
          obtain ⟨hcalls, hstarted⟩ := emitEvent_calls hemit
          have hnext : Evaluation.Knows env db { e with work, stage := some stage' } := by
            refine hknows.goes hsound ?_ fun made hmade => ?_
            · intro st hst
              exact Option.some.inj hst ▸ hknows'
            · rcases hmade with hmade | hselect | hleft
              · rcases hcalls made hmade with hold | hselect
                · exact .inl hold
                · exact .inr (.inl (hselect ▸ hstage))
              · exact absurd (Option.some.inj hselect) (hstarted made)
              · exact .inr (.inr hleft)
          refine .goes hdb trivial (Lock.kept_refl · db) hnext fun row hrow => ?_
          rcases List.mem_cons.1 hrow with rfl | htold
          · exact .inl List.mem_cons_self
          · obtain ⟨own, hown, rfl⟩ := List.mem_map.1 htold
            rcases hheld with hsame | ⟨new, hnew, hmore⟩
            · exact .inl (List.mem_cons_of_mem _ (List.mem_map_of_mem (hsame ▸ hown)))
            · rw [hmore] at hown
              rcases List.mem_cons.1 hown with rfl | hold
              · apply Or.inr
                apply hfree
                simpa [Runner.wants, hstage] using hnew
              · exact .inl (List.mem_cons_of_mem _ (List.mem_map_of_mem hold))
      | done work =>
          simp only [Runner.step, hstage, hemit]
          obtain ⟨hsound, hheld⟩ := Notifications.emitEvent_done hknows.work hemit
          have hnext : Evaluation.Knows env db { e with work, stage := none } := by
            refine hknows.goes hsound (by simp) fun made hmade => ?_
            rcases hmade with hmade | hselect | hleft
            · rcases emitEvent_done_calls hemit made hmade with hold | hselect
              · exact .inl hold
              · exact .inr (.inl (hselect ▸ hstage))
            · cases hselect
            · exact .inr (.inr hleft)
          refine .goes hdb trivial (Lock.kept_refl · db) hnext fun row hrow => .inl ?_
          rwa [Runner.held, hheld] at hrow
      | fails =>
          simp only [Runner.step, hstage, hemit]
          exact .releases hdb trivial hexclusive (fun row _ => row.kept_refl db)
            fun _ => resume_knows

theorem step_guards (hdb : db.Sound env base) (hknows : t.Knows env db)
    (hexclusive : ∀ u ∈ others, Exclusive Runner.held t u)
    (hfree : ∀ row ∈ Runner.wants env db t, ¬ locked Runner.held others row) :
    Guards Runner.held Lock.Kept (fun _ _ => True) (Database.Sound env base) (Runner.Knows env)
      others db t (Runner.step env others db t).1 (Runner.step env others db t).2 := by
  cases t with
  | manual r =>
      refine begin_guards hdb hexclusive _ fun e h => ?_
      obtain ⟨schedule, hschedule, hrest⟩ := bind_eq_ok.1 h
      rw [ensure_bind_eq_ok] at hrest
      have hfound := orError_eq_ok.1 hschedule
      have hfind := (Option.filter_eq_some_iff.1 hfound).1
      obtain ⟨hknows, hid, hheld⟩ := evaluate_knows hfind hrest.2
      refine ⟨hknows, hheld, hfree _ ?_⟩
      simp [Runner.wants, hfound, hid, Table.key_of_find? hfind]
  | pass p => exact .goes hdb trivial (Lock.kept_refl · db) trivial (by simp [Runner.held])
  | next p scheduleIds =>
      cases scheduleIds with
      | nil => exact .stops hdb trivial (Lock.kept_refl · db)
      | cons scheduleId scheduleIds =>
          by_cases hlocked : locked Runner.held others (.schedule scheduleId)
          · simp only [Runner.step, if_pos hlocked]
            exact .goes hdb trivial (Lock.kept_refl · db) trivial (by simp [Runner.held])
          · simp only [Runner.step, if_neg hlocked]
            refine begin_guards hdb hexclusive _ fun e h => ?_
            unfold Database.runDue at h
            split at h
            · cases h
            · next schedule hdue =>
              have hfind := (Option.filter_eq_some_iff.1 hdue).1
              obtain ⟨hknows, hid, hheld⟩ := evaluate_knows hfind h
              exact ⟨hknows, hheld, hid ▸ hlocked⟩
  | evaluating e after => exact evaluating_guards hdb hknows hexclusive hfree

/-- The lock of its schedule protects what an evaluation has found. -/
theorem running_guarded (env : Env) (base : Notifications.Database) :
    Guarded Runner.held Lock.Kept (fun _ _ => True) (Database.Sound env base) (Runner.Knows env)
      Runner.IsRequest (running env) fun _ _ _ => True := by
  refine ⟨fun db t hrequest _ => ?_, fun db db' t h _ => h.stable, ?_⟩
  · cases t with
    | manual r | pass p => exact ⟨trivial, rfl⟩
    | next p ids | evaluating e after => cases hrequest
  · intro others db t db' next hdb hknows hexclusive _ hstatement
    obtain ⟨hfree, hstep⟩ := locking_eq_some hstatement
    have hguards := step_guards hdb hknows hexclusive hfree
    rwa [hstep] at hguards

theorem Database.Fresh.sound (h : db.Fresh) : db.Sound env db.told := by
  obtain ⟨hrows, hruns, hcalls⟩ := h
  refine ⟨fun schedule hschedule => ?_, ⟨by simp [hcalls], by simp [hcalls], by simp [hcalls]⟩,
    by simp [hcalls]⟩
  obtain ⟨hlast, hnext⟩ := hrows schedule hschedule
  have hperiods : db.periods schedule.id = [] := by simp [Database.periods, hruns]
  exact ⟨by rw [hlast, hperiods]; rfl, by rw [hnext, hlast]; rfl, hperiods ▸ List.Pairwise.nil⟩

/-- In every interleaving of passes and manual runs, the periods of a schedule, the last of which
it has recorded, are spaced, and a schedule that runs once has one at most. Its recipients are told
in these periods only, of an entity at most once in a period. -/
theorem schedule_periods {s : Sessions Database Runner} (h : ScheduleRuns env s) :
    (∀ schedule ∈ s.db.schedules.rows,
      (s.db.periods schedule.id).Pairwise (Spaced schedule.frequency) ∧
        schedule.lastRunAt = (s.db.periods schedule.id).head? ∧
        (schedule.frequency = "ONCE" → (s.db.periods schedule.id).length ≤ 1)) ∧
      (∀ emission ∈ s.db.told.emissions, ∃ scheduleId, ∃ period ∈ s.db.periods scheduleId,
        CallOf env scheduleId period emission.call) ∧
      ∀ organizationId scheduleId period entityId recipientId,
        told Emission.notified organizationId (scheduleKey env scheduleId period entityId)
            recipientId s.db.told.emissions ≤ 1 ∧
          told Emission.mailed organizationId (scheduleKey env scheduleId period entityId)
            recipientId s.db.told.emissions ≤ 1 := by
  obtain ⟨db, hfresh, hsteps⟩ := h
  have hfirst : Sessions.Holds (Database.Sound env db.told) (Runner.Knows env)
      (Exclusive Runner.held) ⟨db, []⟩ := ⟨hfresh.sound, by simp, .nil⟩
  obtain ⟨hlast, -⟩ := (running_guarded env db.told).steps (fun _ => trivial)
    (fun _ _ => trivial) hfirst hsteps
  obtain ⟨hfollows, hgrown, hcalled⟩ := hlast.database
  refine ⟨fun schedule hschedule => ?_, hcalled, fun organizationId scheduleId period entityId
    recipientId => ⟨hgrown.notified_le _ _ _, hgrown.mailed_le _ _ _⟩⟩
  obtain ⟨hrecorded, -, hspaced⟩ := hfollows schedule hschedule
  refine ⟨hspaced, hrecorded, fun honce => ?_⟩
  rw [honce] at hspaced
  match hperiods : s.db.periods schedule.id with
  | [] | [_] => simp
  | _ :: _ :: _ =>
      rw [hperiods] at hspaced
      exact absurd (List.rel_of_pairwise_cons hspaced List.mem_cons_self) not_spaced_once

/-! ## A manual run, a repair and the next month -/

namespace Sample

def configured : Env := { Notifications.Sample.derived with decimal := fun _ => .invalid }

def noon (date : CalendarDate) : Moment := ⟨date, 43200000000, by decide⟩

def january : Moment :=
  noon (.of 2024 1 31 (by decide))

def monthly : Database where
  schedules := .single ⟨5, 7, "Low stock", "INVENTORY", "INVENTORY_LOW_STOCK", none, 14, "MONTHLY",
    "IMPORTANT", "ON_PLATFORM", true, none, none⟩
  runs := []
  told := Notifications.Sample.tables

def found (entityIds : List String) : Readings :=
  ⟨[1, 2], entityIds.map fun entityId =>
    ⟨entityId, "Stock is low", Notifications.Sample.users, fun _ => 60⟩⟩

def manual (now : Moment) (entityIds : List String) : Runner :=
  .manual ⟨7, ["INVENTORY"], 5, now, found entityIds⟩

def pass (now : Moment) : Runner := .pass ⟨now, [7], fun _ => found ["item:3"]⟩

end Sample

/-- A pass leaves the schedule to the manual run that has locked it. A second manual run repairs
the period with an item that was not yet told of, and a month later a pass opens the next period,
on the last day of February. -/
theorem schedule_periods_months : ∃ s : Sessions Database Runner,
    s.db.periods 5 = [Sample.january.nextMonth, Sample.january] ∧
      s.db.told.notifications.rows.map (·.recipientId) = [1, 2, 1, 2, 1, 2] ∧
      (∀ schedule ∈ s.db.schedules.rows,
        (s.db.periods schedule.id).Pairwise (Spaced schedule.frequency)) ∧
      told Emission.notified 7 (scheduleKey Sample.configured 5 Sample.january "item:3") 1
        s.db.told.emissions ≤ 1 := by
  obtain ⟨s, hs, hend⟩ := Sessions.Interleaved.of_play Runner.IsRequest (running Sample.configured)
    (fun _ _ _ => True) Database.Fresh Sample.monthly
    ([.begins (Sample.pass Sample.january), .acts 0,
      .begins (Sample.manual Sample.january ["item:3"]), .acts 1, .acts 0, .acts 0] ++
      List.replicate 6 (.acts 0) ++
      .begins (Sample.manual (Sample.january.addDays 9) ["item:3", "item:4"]) ::
      List.replicate 12 (.acts 0) ++
      .begins (Sample.pass Sample.january.nextMonth) :: List.replicate 9 (.acts 0))
    (p := fun s => s.db.periods 5 = [Sample.january.nextMonth, Sample.january] ∧
      s.db.told.notifications.rows.map (·.recipientId) = [1, 2, 1, 2, 1, 2])
    ⟨by decide, rfl, rfl⟩ (by decide +kernel)
  simp only [decide_eq_true_eq] at hend
  obtain ⟨hspaced, -, htold⟩ := schedule_periods hs
  exact ⟨s, hend.1, hend.2, fun schedule hschedule => (hspaced schedule hschedule).1,
    (htold 7 5 Sample.january "item:3" 1).1⟩

end Cestos.Schedules
