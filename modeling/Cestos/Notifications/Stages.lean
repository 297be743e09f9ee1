import Cestos.Notifications.Alerts
import Mathlib.Data.Nat.Pairing

/-!
# Alerts go on with the stages

In every sequence of runs on days that do not go back, whatever else is told between them, a
recipient hears of each stage of a contract at most once, and of the stages in their order.
-/

namespace Cestos.Notifications

open Cestos.Core

variable {env : AlertEnv} {db db' : Database} {w w' : Work}

/-! ## A call that nothing interrupts -/

/-- The statements of a call, one after the other. -/
inductive Emits (env : Env) (db : Database) : Work → Stage → Work → Prop
  | done {w w' : Work} {stage : Stage} : emitEvent env db w stage = .done w' →
      Emits env db w stage w'
  | goes {w v w' : Work} {stage next : Stage} : emitEvent env db w stage = .goes v next →
      Emits env db v next w' → Emits env db w stage w'

def Stage.call : Stage → EmitEvent
  | .select e | .notify e _ | .mail e _ _ => e

/-- The users that are still to be notified. -/
def Stage.left : Stage → List User
  | .select e => e.users.filter fun user => e.eligible user
  | .notify _ eligible | .mail _ _ eligible => eligible

/-- The calls of a transaction when this one is over, the last first. -/
def Stage.calls (w : Work) : Stage → List EmitEvent
  | .select e => e :: w.emissions.map Emission.call
  | .notify _ _ | .mail _ _ _ => w.emissions.map Emission.call

theorem map_call_modifyHead {f : Emission → Emission} (hf : ∀ e, (f e).call = e.call)
    (emissions : List Emission) :
    (emissions.modifyHead f).map Emission.call = emissions.map Emission.call := by
  cases emissions with
  | nil => rfl
  | cons e rest => exact congrArg (· :: rest.map Emission.call) (hf e)

/-- What is over when a call is: all that were left have a notification. -/
structure Emitted (env : Env) (db : Database) (w : Work) (stage : Stage) (w' : Work) : Prop where
  sound : w'.Sound env db
  told : ∀ user ∈ stage.left,
    (stage.call.notification env user).id ∈ w'.takenNotifications db
  grows : w.takenNotifications db ⊆ w'.takenNotifications db
  calls : w'.emissions.map Emission.call = stage.calls w

theorem emitEvent_rest {env : Env} {stage next : Stage}
    (h : emitEvent env db w stage = .goes w' next) :
    next.call = stage.call ∧ w.takenNotifications db ⊆ w'.takenNotifications db ∧
      (∀ user ∈ stage.left, (stage.call.notification env user).id ∈ w'.takenNotifications db ∨
        user ∈ next.left) ∧ next.calls w' = stage.calls w := by
  cases stage with
  | select e =>
      simp only [emitEvent] at h
      split at h
      · cases h
      · cases h
        exact ⟨rfl, List.Subset.refl _, fun user huser => .inr huser, rfl⟩
  | notify e eligible =>
      cases eligible with
      | nil => cases h
      | cons user eligible =>
          simp only [emitEvent] at h
          have hnotify : ((w.notify (e.notification env user) user).emissions).map Emission.call =
              w.emissions.map Emission.call :=
            map_call_modifyHead (f := Emission.notify user) (fun _ => rfl) _
          split at h
          · cases h
          · split at h
            · next htaken =>
              cases h
              exact ⟨rfl, List.Subset.refl _, List.forall_mem_cons.2
                ⟨.inl htaken, fun other hother => .inr hother⟩, rfl⟩
            · split at h
              all_goals
                cases h
                refine ⟨rfl, List.subset_cons_self _ _, List.forall_mem_cons.2
                  ⟨.inl List.mem_cons_self, fun other hother => .inr hother⟩, hnotify⟩
  | mail e user eligible =>
      simp only [emitEvent] at h
      have hmail : ((w.mail (e.email env user) user).emissions).map Emission.call =
          w.emissions.map Emission.call :=
        map_call_modifyHead (f := Emission.mail user) (fun _ => rfl) _
      split at h
      · cases h
      · split at h
        · cases h
          exact ⟨rfl, List.Subset.refl _, fun other hother => .inr hother, rfl⟩
        · cases h
          exact ⟨rfl, List.Subset.refl _, fun other hother => .inr hother, hmail⟩

theorem Emits.emitted {env : Env} {stage : Stage} (h : Emits env db w stage w')
    (hw : w.Sound env db) (hknows : w.Knows stage) : Emitted env db w stage w' := by
  induction h with
  | @done w w' stage hdone =>
      have hsound := (emitEvent_done hw hdone).1
      cases stage with
      | select e =>
          simp only [emitEvent] at hdone
          split at hdone
          · next hnobody =>
            cases hdone
            refine ⟨hsound, fun user huser => ?_, List.Subset.refl _, rfl⟩
            have heligible := (List.mem_filter.1 huser).2
            simp [EmitEvent.eligible, hnobody] at heligible
          · cases hdone
      | notify e eligible =>
          cases eligible with
          | nil =>
              cases hdone
              exact ⟨hsound, by simp [Stage.left], List.Subset.refl _, rfl⟩
          | cons user eligible =>
              simp only [emitEvent] at hdone
              split at hdone
              · cases hdone
              · split at hdone
                · cases hdone
                · split at hdone <;> cases hdone
      | mail e user eligible =>
          simp only [emitEvent] at hdone
          split at hdone
          · cases hdone
          · split at hdone <;> cases hdone
  | @goes w v w' stage next hgoes _ ih =>
      obtain ⟨hsound, hknows', -⟩ := emitEvent_goes hw hknows hgoes
      obtain ⟨hcall, hgrows, hleft, hcalls⟩ := emitEvent_rest hgoes
      have hrest := ih hsound hknows'
      refine ⟨hrest.sound, fun user huser => ?_, List.Subset.trans hgrows hrest.grows,
        hrest.calls.trans hcalls⟩
      rcases hleft user huser with hin | hnext
      · exact hrest.grows hin
      · exact hcall ▸ hrest.told user hnext

/-- The recipients one after the other are the statements of the call. -/
theorem emits_of_tell {env : Env} {e : EmitEvent} {eligible : List User}
    (h : eligible.foldlM (Work.tell env db e) w = some w') :
    Emits env db w (.notify e eligible) w' := by
  induction eligible generalizing w with
  | nil =>
      obtain rfl := Option.some.inj h
      exact .done rfl
  | cons user eligible ih =>
      rw [List.foldlM_cons] at h
      obtain ⟨v, hfirst, hrest⟩ := Option.bind_eq_some_iff.1 h
      have hrest := ih hrest
      simp only [Work.tell, emitEvent] at hfirst
      by_cases hfits : ¬ (e.notification env user).fits
      · rw [if_pos hfits] at hfirst
        cases hfirst
      rw [if_neg hfits] at hfirst
      by_cases htaken : (e.notification env user).id ∈ w.takenNotifications db
      · rw [if_pos htaken] at hfirst
        obtain rfl := Option.some.inj hfirst
        exact .goes (by simp only [emitEvent, if_neg hfits, if_pos htaken]) hrest
      rw [if_neg htaken] at hfirst
      by_cases hmails : e.mails env user
      · rw [if_pos hmails] at hfirst
        have hnotify : emitEvent env db w (.notify e (user :: eligible)) =
            .goes (w.notify (e.notification env user) user) (.mail e user eligible) := by
          simp only [emitEvent, if_neg hfits, if_neg htaken, if_pos hmails]
        refine .goes hnotify ?_
        simp only [Work.afterNotify, emitEvent] at hfirst
        by_cases hfits' : ¬ (e.email env user).fits
        · rw [if_pos hfits'] at hfirst
          cases hfirst
        rw [if_neg hfits'] at hfirst
        by_cases htaken' : (e.email env user).id ∈
            (w.notify (e.notification env user) user).takenEmails db
        · rw [if_pos htaken'] at hfirst
          obtain rfl := Option.some.inj hfirst
          exact .goes (by simp only [emitEvent, if_neg hfits', if_pos htaken']) hrest
        · rw [if_neg htaken'] at hfirst
          obtain rfl := Option.some.inj hfirst
          exact .goes (by simp only [emitEvent, if_neg hfits', if_neg htaken']) hrest
      · rw [if_neg hmails] at hfirst
        obtain rfl := Option.some.inj hfirst
        exact .goes (by simp only [emitEvent, if_neg hfits, if_neg htaken, if_neg hmails]) hrest

theorem emits_of_emit {env : Env} {e : EmitEvent} (h : Work.emit env db w e = some w') :
    Emits env db w (.select e) w' := by
  simp only [Work.emit] at h
  split at h
  · next hnobody =>
    obtain rfl := Option.some.inj h
    exact .done (by simp [emitEvent, hnobody])
  · next hsome => exact .goes (by simp [emitEvent, hsome]) (emits_of_tell h)

/-! ## A transaction that nothing interrupts -/

/-- What the calls of a transaction have inserted. -/
structure AllEmitted (env : Env) (db : Database) (calls : List EmitEvent) (w w' : Work) : Prop where
  sound : w'.Sound env db
  told : ∀ e ∈ calls, ∀ user ∈ e.users, e.eligible user →
    (e.notification env user).id ∈ w'.takenNotifications db
  grows : w.takenNotifications db ⊆ w'.takenNotifications db
  calls : w'.emissions.map Emission.call = calls.reverse ++ w.emissions.map Emission.call

theorem foldlM_emitted {env : Env} {calls : List EmitEvent}
    (h : calls.foldlM (Work.emit env db) w = some w') (hw : w.Sound env db) :
    AllEmitted env db calls w w' := by
  induction calls generalizing w with
  | nil =>
      obtain rfl := Option.some.inj h
      exact ⟨hw, by simp, List.Subset.refl _, rfl⟩
  | cons e calls ih =>
      rw [List.foldlM_cons] at h
      obtain ⟨v, hfirst, hrest⟩ := Option.bind_eq_some_iff.1 h
      have he := (emits_of_emit hfirst).emitted hw trivial
      have hall := ih hrest he.sound
      refine ⟨hall.sound, List.forall_mem_cons.2 ⟨fun user huser heligible => ?_, hall.told⟩,
        List.Subset.trans he.grows hall.grows, ?_⟩
      · exact hall.grows (he.told user (List.mem_filter.2 ⟨huser, decide_eq_true heligible⟩))
      · rw [hall.calls, he.calls]
        simp [Stage.calls]

theorem emitAll_emitted {env : Env} {calls : List EmitEvent}
    (h : Work.emitAll env db calls = some w) :
    AllEmitted env db calls ⟨[], [], [], []⟩ w :=
  foldlM_emitted h (Work.sound_idle db)

/-! ## What a recipient has heard -/

/-- The events that a recipient was told of, the first first. -/
def events (whom : Emission → List User) (organizationId recipientId : Id)
    (emissions : List Emission) : List String :=
  (emissions.reverse.filter fun e => e.call.organizationId = organizationId).flatMap fun e =>
    ((whom e).filter fun user => user.id = recipientId).map fun _ => e.call.eventKey

section Events

variable {whom : Emission → List User} {organizationId recipientId : Id}
  {emissions emissions' : List Emission} {key : String}

theorem events_append : events whom organizationId recipientId (emissions ++ emissions') =
    events whom organizationId recipientId emissions' ++
      events whom organizationId recipientId emissions := by
  simp [events]

theorem mem_events : key ∈ events whom organizationId recipientId emissions ↔
    ∃ e ∈ emissions, e.call.organizationId = organizationId ∧ e.call.eventKey = key ∧
      ∃ user ∈ whom e, user.id = recipientId := by
  simp only [events, List.mem_flatMap, List.mem_filter, List.mem_reverse, List.mem_map,
    decide_eq_true_eq]
  constructor
  · rintro ⟨e, ⟨he, horganization⟩, user, ⟨huser, hid⟩, hkey⟩
    exact ⟨e, he, horganization, hkey, user, huser, hid⟩
  · rintro ⟨e, he, horganization, hkey, user, huser, hid⟩
    exact ⟨e, ⟨he, horganization⟩, user, ⟨huser, hid⟩, hkey⟩

theorem count_events : (events whom organizationId recipientId emissions).count key =
    told whom organizationId key recipientId emissions := by
  induction emissions with
  | nil => rfl
  | cons e emissions ih =>
      rw [← List.singleton_append, events_append, List.count_append, ih, Nat.add_comm, told, told,
        List.singleton_append]
      by_cases horganization : e.call.organizationId = organizationId
      · by_cases hkey : e.call.eventKey = key
        · simp [events, horganization, hkey, List.map_const', List.countP_eq_length_filter]
        · simp [events, horganization, hkey, List.map_const', List.count_replicate]
      · simp [events, horganization]

end Events

/-! ## Keys -/

theorem text_parts {a a' b b' : String} (ha : ':' ∉ a.toList) (ha' : ':' ∉ a'.toList)
    (h : a ++ ":" ++ b = a' ++ ":" ++ b') : a = a' ∧ b = b' := by
  have hlist := congrArg String.toList h
  simp only [String.toList_append, List.append_assoc] at hlist
  obtain ⟨hfirst, hrest⟩ := parted_first ha ha' hlist
  exact ⟨String.toList_inj.1 hfirst, String.toList_inj.1 hrest⟩

theorem text_ends {a a' b b' : String} (hb : ':' ∉ b.toList) (hb' : ':' ∉ b'.toList)
    (h : a ++ ":" ++ b = a' ++ ":" ++ b') : a = a' ∧ b = b' := by
  have hlist := congrArg String.toList h
  simp only [String.toList_append, List.append_assoc] at hlist
  obtain ⟨hfirst, hrest⟩ := parted_last hb hb' hlist
  exact ⟨String.toList_inj.1 hfirst, String.toList_inj.1 hrest⟩

theorem toString_plain (n : Nat) : ':' ∉ (toString n).toList := by
  intro h
  rw [Nat.toString_eq_repr, Nat.toList_repr] at h
  exact absurd (Nat.isDigit_of_mem_toDigits (by decide) (by decide) h) (by decide)

theorem toString_injective {n m : Nat} (h : toString n = toString m) : n = m := by
  have hdigits := congrArg String.toList h
  rw [Nat.toString_eq_repr, Nat.toString_eq_repr, Nat.toList_repr, Nat.toList_repr] at hdigits
  have hnumber := congrArg (Nat.ofDigitChars 10 · 0) hdigits
  simpa only [Nat.ofDigitChars_ten_toDigits] using hnumber

theorem ExpiryStage.text_injective : Function.Injective ExpiryStage.text := by
  intro stage stage' h
  cases stage <;> cases stage' <;> first | rfl | exact absurd h (by decide)

theorem WorkStage.text_injective : Function.Injective WorkStage.text := by
  have hdue : ∀ week : Nat, "due" ≠ "overdue-week-" ++ toString week := by
    intro week h
    have hprefix : "overdue-week-".toList <+: "due".toList := by
      rw [h, String.toList_append]
      exact List.prefix_append _ _
    exact absurd hprefix (by decide)
  intro stage stage' h
  cases stage with
  | due =>
      cases stage' with
      | due => rfl
      | overdueWeek week => exact absurd h (hdue week)
  | overdueWeek week =>
      cases stage' with
      | due => exact absurd h.symm (hdue week)
      | overdueWeek week' =>
          simp only [WorkStage.text, String.append_right_inj] at h
          rw [toString_injective h]

theorem ExpiryStage.rank_injective : Function.Injective ExpiryStage.rank := by
  intro stage stage' h
  cases stage <;> cases stage' <;> first | rfl | exact absurd h (by decide)

theorem WorkStage.rank_injective : Function.Injective WorkStage.rank := by
  intro stage stage' h
  cases stage with
  | due =>
      cases stage' with
      | due => rfl
      | overdueWeek week => exact absurd h (Nat.succ_ne_zero week).symm
  | overdueWeek week =>
      cases stage' with
      | due => exact absurd h (Nat.succ_ne_zero week)
      | overdueWeek week' => exact congrArg WorkStage.overdueWeek (Nat.succ.inj h)

theorem expiryStage_rank {expiry day day' : Int} {stage stage' : ExpiryStage} (hle : day ≤ day')
    (h : expiryStage expiry day = some stage) (h' : expiryStage expiry day' = some stage') :
    stage.rank ≤ stage'.rank := by
  unfold expiryStage at h h'
  simp only at h h'
  split_ifs at h h'
  all_goals
    obtain rfl := Option.some.inj h
    obtain rfl := Option.some.inj h'
  all_goals first | decide | omega

theorem expiryStage_isSome {expiry today : Int} (h : expiry - today ≤ 30) :
    ∃ stage, expiryStage expiry today = some stage := by
  unfold expiryStage
  simp only
  split_ifs
  all_goals exact ⟨_, rfl⟩

theorem workStage_rank {scheduled day day' : Int} (hle : day ≤ day') :
    (workStage scheduled day).rank ≤ (workStage scheduled day').rank := by
  unfold workStage
  split_ifs with hday hday'
  · exact Nat.succ_le_succ (Int.toNat_le_toNat (Int.ediv_le_ediv (by decide) (by omega)))
  · omega
  all_goals exact Nat.zero_le _

theorem contractKey_inj (hlaw : env.Lawful) {employeeId employeeId' : Id} {expiry expiry' : Day}
    {stage stage' : ExpiryStage}
    (h : contractKey env employeeId expiry stage = contractKey env employeeId' expiry' stage') :
    employeeId = employeeId' ∧ expiry = expiry' ∧ stage = stage' := by
  rw [contractKey, contractKey, String.append_right_inj] at h
  obtain ⟨hid, h⟩ := text_parts (hlaw.text_plain _) (hlaw.text_plain _) h
  obtain ⟨hdate, htext⟩ := text_parts (hlaw.date_plain _) (hlaw.date_plain _) h
  exact ⟨hlaw.text hid, hlaw.date hdate, ExpiryStage.text_injective htext⟩

theorem workKey_inj (hlaw : env.Lawful) {table table' : WorkTable} {id id' : Id}
    {scheduled scheduled' : Day} {stage stage' : WorkStage}
    (h : workKey env table id scheduled stage = workKey env table' id' scheduled' stage') :
    table = table' ∧ id = id' ∧ scheduled = scheduled' ∧ stage = stage' := by
  have hplain : ∀ table : WorkTable, ':' ∉ table.tablename.toList := by
    intro table
    cases table <;> decide
  have hnames : Function.Injective WorkTable.tablename := by
    intro table table' h
    cases table <;> cases table' <;> first | rfl | exact absurd h (by decide)
  rw [workKey, workKey, String.append_right_inj] at h
  obtain ⟨htable, h⟩ := text_parts (hplain _) (hplain _) h
  obtain ⟨hid, h⟩ := text_parts (hlaw.text_plain _) (hlaw.text_plain _) h
  obtain ⟨hdate, htext⟩ := text_parts (hlaw.date_plain _) (hlaw.date_plain _) h
  exact ⟨hnames htable, hlaw.text hid, hlaw.date hdate, WorkStage.text_injective htext⟩

theorem prefix_contractKey (employeeId : Id) (expiry : Day) (stage : ExpiryStage) :
    "contract:".toList <+: (contractKey env employeeId expiry stage).toList := by
  rw [contractKey, String.toList_append]
  exact List.prefix_append _ _

theorem prefix_workKey (table : WorkTable) (id : Id) (scheduled : Day) (stage : WorkStage) :
    "work-due:".toList <+: (workKey env table id scheduled stage).toList := by
  rw [workKey, String.toList_append]
  exact List.prefix_append _ _

theorem contractKey_ne_workKey (employeeId : Id) (expiry : Day) (stage : ExpiryStage)
    (table : WorkTable) (id : Id) (scheduled : Day) (stage' : WorkStage) :
    contractKey env employeeId expiry stage ≠ workKey env table id scheduled stage' := by
  intro h
  have hcontract : "contract:".toList <+: (workKey env table id scheduled stage').toList :=
    h ▸ prefix_contractKey employeeId expiry stage
  have hprefix := List.prefix_of_prefix_length_le hcontract
    (prefix_workKey table id scheduled stage') (by decide)
  exact absurd hprefix (by decide)

theorem contractKey_injective (env : AlertEnv) (employeeId : Id) (expiry : Day) :
    Function.Injective (contractKey env employeeId expiry) := by
  intro stage stage' h
  simp only [contractKey, String.append_right_inj] at h
  exact ExpiryStage.text_injective h

theorem workKey_injective (env : AlertEnv) (table : WorkTable) (id : Id) (scheduled : Day) :
    Function.Injective (workKey env table id scheduled) := by
  intro stage stage' h
  simp only [workKey, String.append_right_inj] at h
  exact WorkStage.text_injective h

/-- The stages of a contract of an employee. -/
def contractSeries (env : AlertEnv) (employeeId : Id) (expiry : Day) :
    Series String Day ExpiryStage where
  key := contractKey env employeeId expiry
  rank := ExpiryStage.rank
  stageAt := expiryStage expiry
  key_injective := contractKey_injective env employeeId expiry
  rank_injective := ExpiryStage.rank_injective
  mono := expiryStage_rank

/-- The stages of maintenance work that is scheduled for a date, from the day before on. -/
def workSeries (env : AlertEnv) (table : WorkTable) (id : Id) (scheduled : Day) :
    Series String Day WorkStage where
  key := workKey env table id scheduled
  rank := WorkStage.rank
  stageAt today := if scheduled ≤ today + 1 then some (workStage scheduled today) else none
  key_injective := workKey_injective env table id scheduled
  rank_injective := WorkStage.rank_injective
  mono hle h h' := by
    obtain ⟨-, h⟩ := Option.ite_none_right_eq_some.1 h
    obtain ⟨-, h'⟩ := Option.ite_none_right_eq_some.1 h'
    rw [← Option.some.inj h, ← Option.some.inj h']
    exact workStage_rank hle

/-! ## What a run tells -/

section Runs

variable {tables : Tables} {today : Day} {e : EmitEvent}

theorem mem_fieldAlerts (h : e ∈ tables.fieldAlerts env today) :
    (∃ other : OtherEvent, e = other.val) ∨
      (∃ employeeId expiry stage, expiryStage expiry today = some stage ∧
        e.eventKey = contractKey env employeeId expiry stage) ∨
      ∃ table id scheduled, scheduled ≤ today + 1 ∧
        e.eventKey = workKey env table id scheduled (workStage scheduled today) := by
  obtain ⟨organization, -, h⟩ := List.mem_flatMap.1 h
  have hwork : ∀ table, e ∈ tables.workAlerts env organization.id today table →
      ∃ table id scheduled, scheduled ≤ today + 1 ∧
        e.eventKey = workKey env table id scheduled (workStage scheduled today) := by
    intro table h
    obtain ⟨work, -, h⟩ := List.mem_filterMap.1 h
    obtain ⟨scheduled, hscheduled, rfl⟩ := Option.map_eq_some_iff.1 h
    exact ⟨work.table, work.id, scheduled,
      of_decide_eq_true (Option.filter_eq_some_iff.1 hscheduled).2, rfl⟩
  rcases List.mem_append.1 h with hother | h
  · obtain ⟨other, -, rfl⟩ := List.mem_map.1 hother
    exact .inl ⟨other, rfl⟩
  rcases List.mem_append.1 h with hcontract | h
  · obtain ⟨expiry, -, h⟩ := List.mem_filterMap.1 hcontract
    obtain ⟨stage, hstage, h⟩ := Option.bind_eq_some_iff.1 h
    obtain ⟨person, -, rfl⟩ := Option.map_eq_some_iff.1 h
    exact .inr (.inl ⟨person.id, expiry.2, stage, hstage, rfl⟩)
  · exact .inr (.inr ((List.mem_append.1 h).elim (hwork _) (hwork _)))

theorem contract_current (hlaw : env.Lawful) (h : e ∈ tables.fieldAlerts env today)
    {employeeId : Id} {expiry : Day} {stage : ExpiryStage}
    (hkey : e.eventKey = contractKey env employeeId expiry stage) :
    expiryStage expiry today = some stage := by
  rcases mem_fieldAlerts h with ⟨other, rfl⟩ | ⟨employeeId', expiry', stage', hstage, hkey'⟩ |
    ⟨table, id, scheduled, -, hkey'⟩
  · exact absurd (hkey ▸ prefix_contractKey _ _ _) other.2.1
  · obtain ⟨-, rfl, rfl⟩ := contractKey_inj hlaw (hkey.symm.trans hkey')
    exact hstage
  · exact absurd (hkey.symm.trans hkey') (contractKey_ne_workKey _ _ _ _ _ _ _)

theorem work_current (hlaw : env.Lawful) (h : e ∈ tables.fieldAlerts env today)
    {table : WorkTable} {id : Id} {scheduled : Day} {stage : WorkStage}
    (hkey : e.eventKey = workKey env table id scheduled stage) :
    scheduled ≤ today + 1 ∧ stage = workStage scheduled today := by
  rcases mem_fieldAlerts h with ⟨other, rfl⟩ | ⟨employeeId, expiry, stage', -, hkey'⟩ |
    ⟨table', id', scheduled', hdue, hkey'⟩
  · exact absurd (hkey ▸ prefix_workKey _ _ _ _) other.2.2
  · exact absurd (hkey'.symm.trans hkey) (contractKey_ne_workKey _ _ _ _ _ _ _)
  · obtain ⟨-, -, rfl, rfl⟩ := workKey_inj hlaw (hkey.symm.trans hkey')
    exact ⟨hdue, rfl⟩

theorem exists_person {organizationId : Id} {expiry : Id × Day}
    (h : expiry ∈ tables.expiries organizationId) :
    ∃ person, (tables.people organizationId).find? (fun person => person.id = expiry.1) =
      some person := by
  have hid : expiry.1 ∈ (tables.people organizationId).map (·.id) := by
    rcases List.mem_append.1 (List.mem_dedup.1 h) with hfirst | hsecond
    · obtain ⟨person, hperson, hdate⟩ := List.mem_filterMap.1 hfirst
      obtain ⟨date, -, rfl⟩ := Option.map_eq_some_iff.1 hdate
      exact List.mem_map_of_mem hperson
    · obtain ⟨document, hdocument, hdate⟩ := List.mem_filterMap.1 hsecond
      obtain ⟨date, -, rfl⟩ := Option.map_eq_some_iff.1 hdate
      have hkept := of_decide_eq_true (List.mem_filter.1 hdocument).2
      exact hkept.2.2.2.2
  obtain ⟨person, hperson, hsame⟩ := List.mem_map.1 hid
  exact Option.isSome_iff_exists.1
    (List.find?_isSome.2 ⟨person, hperson, decide_eq_true hsame⟩)

end Runs

/-! ## Sequences of runs -/

/-- What a request leaves behind: nothing, or what its calls have inserted. -/
theorem serve_cases (db : Database) (request : Request) :
    db.serve env request = db ∨ ∃ w, Work.emitAll env.toEnv db (request.calls env) = some w ∧
      db.serve env request = db.commit w := by
  unfold Database.serve
  cases Work.emitAll env.toEnv db (request.calls env) with
  | none => exact .inl rfl
  | some w => exact .inr ⟨w, rfl, rfl⟩

theorem serve_grown {db₀ : Database} (h : Database.Grown env.toEnv db₀ db) (request : Request) :
    Database.Grown env.toEnv db₀ (db.serve env request) := by
  rcases serve_cases db request with hsame | ⟨w, hw, hserve⟩
  · exact hsame.symm ▸ h
  · exact hserve.symm ▸ h.commit (emitAll_emitted hw).sound

theorem serve_events (db : Database) (request : Request) (whom : Emission → List User)
    (organizationId recipientId : Id) : ∃ keys,
      events whom organizationId recipientId (db.serve env request).emissions =
        events whom organizationId recipientId db.emissions ++ keys ∧
      ∀ key ∈ keys, ∃ e ∈ request.calls env, e.eventKey = key := by
  rcases serve_cases db request with hsame | ⟨w, hw, hserve⟩
  · exact ⟨[], by rw [hsame, List.append_nil], by simp⟩
  · refine ⟨events whom organizationId recipientId w.emissions, ?_, fun key hkey => ?_⟩
    · rw [hserve]
      exact events_append
    · obtain ⟨e, he, -, rfl, -⟩ := mem_events.1 hkey
      have hcalls := (emitAll_emitted hw).calls
      rw [List.map_nil, List.append_nil] at hcalls
      have hcall : e.call ∈ (request.calls env).reverse := hcalls ▸ List.mem_map_of_mem he
      exact ⟨e.call, List.mem_reverse.1 hcall, rfl⟩

/-- Of the series, runs tell only the stage of the day, and others nothing. -/
structure FollowsDays {σ : Type} (env : AlertEnv) (series : Series String Day σ) : Prop where
  run : ∀ {tables : Tables} {today : Day} {stage : σ}, ∀ e ∈ tables.fieldAlerts env today,
    e.eventKey = series.key stage → series.stageAt today = some stage
  others : ∀ (e : OtherEvent) (stage : σ), e.val.eventKey ≠ series.key stage

theorem contractSeries_follows (hlaw : env.Lawful) (employeeId : Id) (expiry : Day) :
    FollowsDays env (contractSeries env employeeId expiry) where
  run _ he hkey := contract_current hlaw he hkey
  others e _ hkey := e.2.1 (hkey ▸ prefix_contractKey _ _ _)

theorem workSeries_follows (hlaw : env.Lawful) (table : WorkTable) (id : Id) (scheduled : Day) :
    FollowsDays env (workSeries env table id scheduled) where
  run _ he hkey := by
    obtain ⟨hdue, rfl⟩ := work_current hlaw he hkey
    exact if_pos hdue
  others e _ hkey := e.2.2 (hkey ▸ prefix_workKey _ _ _ _)

/-- No notifications, and nobody was told of anything. -/
def Database.initial : Database := ⟨Table.empty, Table.empty, []⟩

variable {requests : List Request}

theorem served_grown (requests : List Request) : Database.Grown env.toEnv Database.initial
    (requests.foldl (Database.serve env) Database.initial) := by
  induction requests using List.reverseRecOn with
  | nil => exact ⟨rfl, rfl, by simp [Database.initial]⟩
  | append_singleton requests request ih =>
      rw [List.foldl_append]
      exact serve_grown ih request

theorem served_told {σ : Type} {series : Series String Day σ} (hfollows : FollowsDays env series)
    (hdays : (requests.filterMap Request.day).Pairwise (· ≤ ·)) (whom : Emission → List User)
    (organizationId recipientId : Id) :
    series.Told (requests.filterMap Request.day) (events whom organizationId recipientId
      (requests.foldl (Database.serve env) Database.initial).emissions) := by
  induction requests using List.reverseRecOn with
  | nil => exact Series.told_nil
  | append_singleton requests request ih =>
      rw [List.filterMap_append] at hdays ⊢
      obtain ⟨hearlier, -, hlast⟩ := List.pairwise_append.1 hdays
      rw [List.foldl_append, List.foldl_cons, List.foldl_nil]
      obtain ⟨keys, hevents, hkeys⟩ := serve_events
        (requests.foldl (Database.serve env) Database.initial) request whom organizationId recipientId
      rw [hevents]
      cases request with
      | run tables today =>
          refine (ih hearlier).next (fun day hday => hlast day hday today List.mem_cons_self)
            (fun stage hstage => ?_) (le_refl today)
          obtain ⟨e, he, hkey⟩ := hkeys _ hstage
          exact hfollows.run e he hkey
      | others calls =>
          rw [List.filterMap_cons_none rfl, List.filterMap_nil, List.append_nil]
          refine (ih hearlier).others fun stage hstage => ?_
          obtain ⟨e, he, hkey⟩ := hkeys _ hstage
          obtain ⟨other, -, rfl⟩ := List.mem_map.1 he
          exact hfollows.others other stage hkey

theorem served_inOrder {σ : Type} {series : Series String Day σ}
    (hfollows : FollowsDays env series) (hdays : (requests.filterMap Request.day).Pairwise (· ≤ ·))
    (organizationId recipientId : Id) :
    series.InOrder (events Emission.notified organizationId recipientId
      (requests.foldl (Database.serve env) Database.initial).emissions) ∧
    series.InOrder (events Emission.mailed organizationId recipientId
      (requests.foldl (Database.serve env) Database.initial).emissions) := by
  have hgrown : Database.Grown env.toEnv Database.initial _ := served_grown requests
  refine ⟨(served_told hfollows hdays _ _ _).inOrder fun stage => ?_,
    (served_told hfollows hdays _ _ _).inOrder fun stage => ?_⟩
  · rw [count_events]
    exact hgrown.notified_le _ _ _
  · rw [count_events]
    exact hgrown.mailed_le _ _ _

/-- After a run that was committed each user that it tells of an event has been told. -/
theorem told_of_run (hlaw : env.Lawful)
    (hgrown : Database.Grown env.toEnv Database.initial db)
    {calls : List EmitEvent} (hw : Work.emitAll env.toEnv db calls = some w)
    {e : EmitEvent} (he : e ∈ calls) {user : User} (huser : user ∈ e.users)
    (heligible : e.eligible user) :
    e.eventKey ∈ events Emission.notified e.organizationId user.id (db.commit w).emissions := by
  have hall := emitAll_emitted hw
  have hafter := hgrown.commit hall.sound
  have htaken := hall.told e he user huser heligible
  have hrow : (e.notification env.toEnv user).id ∈
      (db.commit w).notifications.rows.map Notification.id := by
    rw [hall.sound.notifications_commit, List.map_append, List.map_reverse, List.mem_append,
      List.mem_reverse]
    exact (List.mem_append.1 htaken).symm
  rw [hafter.notifications] at hrow
  obtain ⟨n, hn, hid⟩ := List.mem_map.1 hrow
  obtain ⟨emission, hemission, hn⟩ := List.mem_flatMap.1 (List.mem_reverse.1 hn)
  obtain ⟨other, hother, rfl⟩ := List.mem_map.1 hn
  obtain ⟨horganization, hname⟩ := hlaw.uuid5 _ _ _ _ hid
  obtain ⟨hkey, hrecipient⟩ := text_ends (hlaw.text_plain _) (hlaw.text_plain _) hname
  exact mem_events.2 ⟨emission, hemission, horganization, hkey, other, hother,
    hlaw.text hrecipient⟩

/-- A recipient is notified and mailed of each stage at most once, and after those before it. -/
def Orderly {σ : Type} (series : Series String Day σ) (emissions : List Emission) : Prop :=
  ∀ organizationId recipientId,
    series.InOrder (events Emission.notified organizationId recipientId emissions) ∧
      series.InOrder (events Emission.mailed organizationId recipientId emissions)

/-- However the runs lie, as long as their days do not go back, the stages of a contract and those
of work that is scheduled for a date are told in order; and after a run that was committed everybody
concerned has been told the stage of each contract that expires within thirty days. -/
theorem alerts_by_stage {env : AlertEnv} (hlaw : env.Lawful) {requests : List Request}
    (hdays : (requests.filterMap Request.day).Pairwise (· ≤ ·)) :
    ((∀ employeeId expiry, Orderly (contractSeries env employeeId expiry)
        (requests.foldl (Database.serve env) Database.initial).emissions) ∧
      ∀ table id scheduled, Orderly (workSeries env table id scheduled)
        (requests.foldl (Database.serve env) Database.initial).emissions) ∧
    ∀ tables today after total,
      generateFieldAlerts env (requests.foldl (Database.serve env) Database.initial) tables today =
        some (after, total) →
      ∀ organization ∈ tables.organizations, organization.isActive = true →
        ∀ expiry ∈ tables.expiries organization.id, expiry.2 - today ≤ 30 →
          ∃ person ∈ tables.people organization.id, person.id = expiry.1 ∧
            ∃ stage, expiryStage expiry.2 today = some stage ∧
              ∀ account ∈ tables.accounts,
                (tables.contractAlert env organization.id today person expiry.2 stage).eligible
                  account.toUser →
                contractKey env person.id expiry.2 stage ∈
                  events Emission.notified organization.id account.id after.emissions := by
  refine ⟨⟨fun employeeId expiry => served_inOrder (contractSeries_follows hlaw _ _) hdays,
    fun table id scheduled => served_inOrder (workSeries_follows hlaw _ _ _) hdays⟩, ?_⟩
  intro tables today after total hrun organization horganization hactive expiry hexpiry hsoon
  obtain ⟨w, hw, hafter⟩ := Option.map_eq_some_iff.1 hrun
  obtain ⟨rfl, -⟩ := Prod.mk.inj hafter
  obtain ⟨stage, hstage⟩ := expiryStage_isSome hsoon
  obtain ⟨person, hfind⟩ := exists_person hexpiry
  have hmem := List.mem_of_find?_eq_some hfind
  have hid : person.id = expiry.1 := by simpa using List.find?_some hfind
  refine ⟨person, hmem, hid, stage, hstage, fun account haccount heligible => ?_⟩
  have hcall : tables.contractAlert env organization.id today person expiry.2 stage ∈
      tables.fieldAlerts env today := by
    refine List.mem_flatMap.2 ⟨organization, List.mem_filter.2 ⟨horganization, hactive⟩, ?_⟩
    refine List.mem_append_right _ (List.mem_append_left _ (List.mem_filterMap.2
      ⟨expiry, hexpiry, ?_⟩))
    rw [hstage, Option.bind_some, hfind, Option.map_some]
  exact told_of_run hlaw (served_grown requests) hw hcall
    (List.mem_map_of_mem haccount) heligible

/-! ## Samples -/

namespace Sample

/-- The characters of a name as the digits of a number, none of them a zero. -/
def numeral (chars : List Char) : Nat := chars.foldr (fun c n => n * 1114113 + (c.toNat + 1)) 0

theorem numeral_injective : Function.Injective numeral := by
  intro chars
  induction chars with
  | nil =>
      intro chars' h
      cases chars' with
      | nil => rfl
      | cons c' chars' => exact absurd h (by simp only [numeral, List.foldr]; omega)
  | cons c chars ih =>
      intro chars' h
      cases chars' with
      | nil => exact absurd h (by simp only [numeral, List.foldr]; omega)
      | cons c' chars' =>
          have hchars : ∀ c : Char, c.toNat < 1114112 := fun c =>
            c.valid.elim (fun h => Nat.lt_trans h (by decide)) (·.2)
          have hc := hchars c
          have hc' := hchars c'
          have hnumber : numeral chars * 1114113 + (c.toNat + 1) =
              numeral chars' * 1114113 + (c'.toNat + 1) := h
          have hdigit : c.toNat = c'.toNat := by omega
          have hrest : numeral chars = numeral chars' := by omega
          rw [ih hrest, Char.toNat_inj.1 hdigit]

def dayText : Day → String
  | .ofNat n => toString n
  | .negSucc n => "-" ++ toString n

theorem dayText_injective : Function.Injective dayText := by
  have hsign : ∀ n m : Nat, toString n ≠ "-" ++ toString m := by
    intro n m h
    have hmem : '-' ∈ (toString n).toList := by
      rw [h, String.toList_append]
      exact List.mem_append_left _ (by decide)
    rw [Nat.toString_eq_repr, Nat.toList_repr] at hmem
    exact absurd (Nat.isDigit_of_mem_toDigits (by decide) (by decide) hmem) (by decide)
  intro day day' h
  cases day with
  | ofNat n =>
      cases day' with
      | ofNat m => rw [toString_injective h]
      | negSucc m => exact absurd h (hsign n m)
  | negSucc n =>
      cases day' with
      | ofNat m => exact absurd h.symm (hsign m n)
      | negSucc m =>
          simp only [dayText, String.append_right_inj] at h
          rw [toString_injective h]

theorem dayText_plain (day : Day) : ':' ∉ (dayText day).toList := by
  cases day with
  | ofNat n => exact toString_plain n
  | negSucc n =>
      simp only [dayText, String.toList_append, List.mem_append, not_or]
      exact ⟨by decide, toString_plain n⟩

def dated : AlertEnv where
  uuid5 root name := Nat.pair root (numeral name.toList)
  text := toString
  upper := String.toUpper
  date := dayText

theorem dated_lawful : dated.Lawful where
  uuid5 root name root' name' h := by
    obtain ⟨hroot, hname⟩ := Nat.pair_eq_pair.1 h
    exact ⟨hroot, String.toList_inj.1 (numeral_injective hname)⟩
  text _ _ h := toString_injective h
  text_plain := toString_plain
  date := dayText_injective
  date_plain := dayText_plain

def job (scheduled : Day) : MaintenanceWork :=
  ⟨.assetMaintenanceJob, 5, 7, 3, none, "Grease", "OPEN", some scheduled, some 9, true, none⟩

/-- An employee whose contract expires on day 40, and a job. -/
def rows (scheduled : Day) : Tables where
  organizations := [⟨7, true⟩]
  employees := [⟨9, 7, "Ama", "Doe", true, none, some 40, some 1, none⟩]
  documents := []
  works := [job scheduled]
  accounts := [⟨⟨1, 7, true, none, false, "FULL"⟩, "ama@example.com"⟩]
  supervisors _ _ _ := []
  assetProjects _ _ := []
  peopleAlerts _ _ := []
  now _ := 60

end Sample

/-- A day on which nothing new is due, and a stage that no run sees. -/
theorem alerts_by_stage_skipped :
    events Emission.notified 7 1 ([Request.run (Sample.rows 10) 10, .others [],
        .run (Sample.rows 10) 12, .run (Sample.rows 10) 35].foldl
          (Database.serve Sample.dated) Database.initial).emissions =
      ["contract:9:40:30d", "work-due:asset_maintenance_jobs:5:10:due",
        "work-due:asset_maintenance_jobs:5:10:overdue-week-0", "contract:9:40:7d",
        "work-due:asset_maintenance_jobs:5:10:overdue-week-3"] ∧
    ∀ employeeId expiry, Orderly (contractSeries Sample.dated employeeId expiry)
      ([Request.run (Sample.rows 10) 10, .others [], .run (Sample.rows 10) 12,
        .run (Sample.rows 10) 35].foldl (Database.serve Sample.dated)
          Database.initial).emissions :=
  ⟨by decide +kernel, (alerts_by_stage Sample.dated_lawful (by decide)).1.1⟩

/-- A job that is scheduled for another date, as `edit_work` allows, is due twice. -/
theorem alerts_by_stage_broken : ¬ ∀ (env : AlertEnv), env.Lawful → ∀ (requests : List Request),
    (requests.filterMap Request.day).Pairwise (· ≤ ·) →
    ∀ (organizationId recipientId : Id) (table : WorkTable) (id : Id) (scheduled scheduled' : Day),
      workKey env table id scheduled .due ∈ events Emission.notified organizationId recipientId
        (requests.foldl (Database.serve env) Database.initial).emissions →
      workKey env table id scheduled' .due ∈ events Emission.notified organizationId recipientId
        (requests.foldl (Database.serve env) Database.initial).emissions →
      scheduled = scheduled' := by
  intro h
  have hsame := h Sample.dated Sample.dated_lawful
    [.run (Sample.rows 10) 9, .run (Sample.rows 20) 19] (by decide) 7 1 .assetMaintenanceJob 5 10 20
    (by decide +kernel) (by decide +kernel)
  exact absurd hsame (by decide)

end Cestos.Notifications
