import Cestos.Notifications.Events

/-!
# Alerts are told once

Whatever calls of `emit_event` there are, in whatever transactions, a recipient is notified of an
event at most once and mailed at most once, and only the call that notified it mails it.
-/

namespace Cestos.Notifications

open Cestos.Core

variable {env : Env} {db db₀ : Database} {w v : Work}

/-! ## Rows and calls -/

def Emission.notifications (env : Env) (e : Emission) : List Notification :=
  e.notified.map (e.call.notification env)

def Emission.emails (env : Env) (e : Emission) : List EmailDelivery :=
  e.mailed.map (e.call.email env)

/-- The rows of a transaction are those of its calls, with identifiers that nobody else has. -/
structure Work.Sound (env : Env) (db : Database) (w : Work) : Prop where
  notifications : w.notifications = w.emissions.flatMap (Emission.notifications env)
  emails : w.emails = w.emissions.flatMap (Emission.emails env)
  mailed : ∀ e ∈ w.emissions, e.mailed.Sublist e.notified
  nodup : (w.takenNotifications db).Nodup
  nodup_emails : (w.takenEmails db).Nodup
  held : ∀ n ∈ w.notifications, .notification n.id ∈ w.held
  held_emails : ∀ d ∈ w.emails, .email d.id ∈ w.held

/-- Between its statements a call is the last of the transaction. Before the e-mail the recipient
is the last that it has notified. -/
def Work.Knows (w : Work) : Stage → Prop
  | .select _ => True
  | .notify e _ => ∃ notified mailed rest, w.emissions = ⟨e, notified, mailed⟩ :: rest
  | .mail e user _ => ∃ notified mailed rest,
      w.emissions = ⟨e, user :: notified, mailed⟩ :: rest ∧ mailed.Sublist notified

/-- What was committed since: the rows of the calls. -/
structure Database.Grown (env : Env) (db₀ db : Database) : Prop where
  notifications : db.notifications.rows = db₀.notifications.rows ++
    (db.emissions.flatMap (Emission.notifications env)).reverse
  emails : db.emails.rows = db₀.emails.rows ++
    (db.emissions.flatMap (Emission.emails env)).reverse
  mailed : ∀ e ∈ db.emissions, e.mailed.Sublist e.notified

/-! ## Statements -/

theorem Work.sound_idle (db : Database) : Work.Sound env db ⟨[], [], [], []⟩ where
  notifications := rfl
  emails := rfl
  mailed := by simp
  nodup := db.notifications.nodup
  nodup_emails := db.emails.nodup
  held := by simp
  held_emails := by simp

theorem Work.Sound.select (h : w.Sound env db) (e : EmitEvent) :
    Work.Sound env db { w with emissions := ⟨e, [], []⟩ :: w.emissions } where
  notifications := by
    rw [h.notifications]
    rfl
  emails := by
    rw [h.emails]
    rfl
  mailed := List.forall_mem_cons.2 ⟨List.Sublist.refl [], h.mailed⟩
  nodup := h.nodup
  nodup_emails := h.nodup_emails
  held := h.held
  held_emails := h.held_emails

theorem Work.Sound.notify (h : w.Sound env db) {e : EmitEvent} {notified mailed : List User}
    {rest : List Emission} (hlast : w.emissions = ⟨e, notified, mailed⟩ :: rest) {user : User}
    (hfree : (e.notification env user).id ∉ w.takenNotifications db) :
    (w.notify (e.notification env user) user).Sound env db := by
  have hmailed := h.mailed
  have hrows := h.notifications
  have hemails := h.emails
  rw [hlast] at hmailed hrows hemails
  obtain ⟨hfirst, hrest⟩ := List.forall_mem_cons.1 hmailed
  refine ⟨?_, ?_, ?_, List.nodup_cons.2 ⟨hfree, h.nodup⟩, h.nodup_emails, ?_, ?_⟩
  · show e.notification env user :: w.notifications = _
    rw [Work.notify, hlast, hrows]
    rfl
  · show w.emails = _
    rw [Work.notify, hlast, hemails]
    rfl
  · rw [Work.notify, hlast]
    exact List.forall_mem_cons.2 ⟨hfirst.trans (List.sublist_cons_self _ _), hrest⟩
  · intro n hn
    rcases List.mem_cons.1 hn with rfl | hn
    · exact List.mem_cons_self
    · exact List.mem_cons_of_mem _ (h.held n hn)
  · exact fun d hd => List.mem_cons_of_mem _ (h.held_emails d hd)

theorem Work.Sound.mail (h : w.Sound env db) {e : EmitEvent} {user : User}
    {notified mailed : List User} {rest : List Emission}
    (hlast : w.emissions = ⟨e, user :: notified, mailed⟩ :: rest)
    (hearlier : mailed.Sublist notified) (hfree : (e.email env user).id ∉ w.takenEmails db) :
    (w.mail (e.email env user) user).Sound env db := by
  have hmailed := h.mailed
  have hrows := h.notifications
  have hemails := h.emails
  rw [hlast] at hmailed hrows hemails
  obtain ⟨-, hrest⟩ := List.forall_mem_cons.1 hmailed
  refine ⟨?_, ?_, ?_, h.nodup, List.nodup_cons.2 ⟨hfree, h.nodup_emails⟩, ?_, ?_⟩
  · show w.notifications = _
    rw [Work.mail, hlast, hrows]
    rfl
  · show e.email env user :: w.emails = _
    rw [Work.mail, hlast, hemails]
    rfl
  · rw [Work.mail, hlast]
    exact List.forall_mem_cons.2 ⟨hearlier.cons_cons user, hrest⟩
  · exact fun n hn => List.mem_cons_of_mem _ (h.held n hn)
  · intro d hd
    rcases List.mem_cons.1 hd with rfl | hd
    · exact List.mem_cons_self
    · exact List.mem_cons_of_mem _ (h.held_emails d hd)

/-! ## Commits -/

theorem Work.Sound.notifications_commit (h : w.Sound env db) :
    (db.commit w).notifications.rows = db.notifications.rows ++ w.notifications.reverse := by
  obtain ⟨hnodup, -, happart⟩ := List.nodup_append.1 h.nodup
  exact Table.insertAll_rows hnodup fun n hn hold =>
    happart _ (List.mem_map_of_mem hn) _ hold rfl

theorem Work.Sound.emails_commit (h : w.Sound env db) :
    (db.commit w).emails.rows = db.emails.rows ++ w.emails.reverse := by
  obtain ⟨hnodup, -, happart⟩ := List.nodup_append.1 h.nodup_emails
  exact Table.insertAll_rows hnodup fun d hd hold =>
    happart _ (List.mem_map_of_mem hd) _ hold rfl

theorem Database.Grown.commit (hdb : Database.Grown env db₀ db) (h : w.Sound env db) :
    Database.Grown env db₀ (db.commit w) where
  notifications := by
    rw [h.notifications_commit, hdb.notifications, List.append_assoc, h.notifications,
      ← List.reverse_append, ← List.flatMap_append]
    rfl
  emails := by
    rw [h.emails_commit, hdb.emails, List.append_assoc, h.emails, ← List.reverse_append,
      ← List.flatMap_append]
    rfl
  mailed e he := (List.mem_append.1 he).elim (h.mailed e) (hdb.mailed e)

/-- What is committed beside the work takes none of its identifiers. -/
theorem Work.Sound.spares (hw : w.Sound env db) (hv : v.Sound env db)
    (happart : ∀ row ∈ w.held, row ∉ v.held) : v.Sound env (db.commit w) := by
  refine ⟨hv.notifications, hv.emails, hv.mailed, ?_, ?_, hv.held, hv.held_emails⟩
  · have hkeys := (db.commit w).notifications.nodup
    obtain ⟨hown, -, hold⟩ := List.nodup_append.1 hv.nodup
    refine List.nodup_append.2 ⟨hown, hkeys, fun id hid id' hid' heq => ?_⟩
    subst heq
    rw [hw.notifications_commit, List.map_append, List.map_reverse, List.mem_append,
      List.mem_reverse] at hid'
    rcases hid' with hid' | hid'
    · exact hold id hid id hid' rfl
    · obtain ⟨n, hn, rfl⟩ := List.mem_map.1 hid
      obtain ⟨n', hn', hsame⟩ := List.mem_map.1 hid'
      exact happart _ (hw.held n' hn') (hsame ▸ hv.held n hn)
  · have hkeys := (db.commit w).emails.nodup
    obtain ⟨hown, -, hold⟩ := List.nodup_append.1 hv.nodup_emails
    refine List.nodup_append.2 ⟨hown, hkeys, fun id hid id' hid' heq => ?_⟩
    subst heq
    rw [hw.emails_commit, List.map_append, List.map_reverse, List.mem_append,
      List.mem_reverse] at hid'
    rcases hid' with hid' | hid'
    · exact hold id hid id hid' rfl
    · obtain ⟨d, hd, rfl⟩ := List.mem_map.1 hid
      obtain ⟨d', hd', hsame⟩ := List.mem_map.1 hid'
      exact happart _ (hw.held_emails d' hd') (hsame ▸ hv.held_emails d hd)

theorem emitEvent_goes {stage stage' : Stage} {w' : Work} (hw : w.Sound env db)
    (hknows : w.Knows stage) (h : emitEvent env db w stage = .goes w' stage') :
    w'.Sound env db ∧ w'.Knows stage' ∧
      (w'.held = w.held ∨ ∃ row ∈ w.wants env db stage, w'.held = row :: w.held) := by
  cases stage with
  | select e =>
      simp only [emitEvent] at h
      split at h
      · cases h
      · cases h
        exact ⟨hw.select e, ⟨[], [], w.emissions, rfl⟩, .inl rfl⟩
  | notify e eligible =>
      obtain ⟨notified, mailed, rest, hlast⟩ := hknows
      cases eligible with
      | nil => cases h
      | cons user eligible =>
          simp only [emitEvent] at h
          split at h
          · cases h
          · split at h
            · cases h
              exact ⟨hw, ⟨notified, mailed, rest, hlast⟩, .inl rfl⟩
            · next hfree =>
              have hnew := hw.notify hlast hfree
              have hearlier : mailed.Sublist notified :=
                hw.mailed ⟨e, notified, mailed⟩ (hlast ▸ List.mem_cons_self)
              have hhead : (w.notify (e.notification env user) user).emissions =
                  ⟨e, user :: notified, mailed⟩ :: rest := by
                rw [Work.notify, hlast]
                rfl
              have hrow : (e.notification env user).id ∉ db.notifications.rows.map (·.id) :=
                fun hin => hfree (List.mem_append_right _ hin)
              have hlocked : Row.notification (e.notification env user).id ∈
                  w.wants env db (.notify e (user :: eligible)) := by
                simp only [Work.wants, if_neg hrow]
                exact List.mem_cons_self
              split at h
              · cases h
                exact ⟨hnew, ⟨notified, mailed, rest, hhead, hearlier⟩, .inr ⟨_, hlocked, rfl⟩⟩
              · cases h
                exact ⟨hnew, ⟨user :: notified, mailed, rest, hhead⟩, .inr ⟨_, hlocked, rfl⟩⟩
  | mail e user eligible =>
      obtain ⟨notified, mailed, rest, hlast, hearlier⟩ := hknows
      simp only [emitEvent] at h
      split at h
      · cases h
      · split at h
        · cases h
          exact ⟨hw, ⟨user :: notified, mailed, rest, hlast⟩, .inl rfl⟩
        · next hfree =>
          cases h
          have hhead : (w.mail (e.email env user) user).emissions =
              ⟨e, user :: notified, user :: mailed⟩ :: rest := by
            rw [Work.mail, hlast]
            rfl
          have hrow : (e.email env user).id ∉ db.emails.rows.map (·.id) :=
            fun hin => hfree (List.mem_append_right _ hin)
          have hlocked : Row.email (e.email env user).id ∈
              w.wants env db (.mail e user eligible) := by
            simp only [Work.wants, if_neg hrow]
            exact List.mem_cons_self
          exact ⟨hw.mail hlast hearlier hfree, ⟨user :: notified, user :: mailed, rest, hhead⟩,
            .inr ⟨_, hlocked, rfl⟩⟩

theorem emitEvent_done {stage : Stage} {w' : Work} (hw : w.Sound env db)
    (h : emitEvent env db w stage = .done w') : w'.Sound env db ∧ w'.held = w.held := by
  cases stage with
  | select e =>
      simp only [emitEvent] at h
      split at h
      · cases h
        exact ⟨hw.select e, rfl⟩
      · cases h
  | notify e eligible =>
      cases eligible with
      | nil =>
          cases h
          exact ⟨hw, rfl⟩
      | cons user eligible =>
          simp only [emitEvent] at h
          split at h
          · cases h
          · split at h
            · cases h
            · split at h <;> cases h
  | mail e user eligible =>
      simp only [emitEvent] at h
      split at h
      · cases h
      · split at h <;> cases h

theorem emitting_keeps (env : Env) (db₀ : Database) :
    (emitting env).Keeps (Database.Grown env db₀) (Work.Sound env) fun _ => Work.Knows where
  held_idle := rfl
  idle db _ := Work.sound_idle db
  start _ _ _ _ _ := trivial
  goes db w stage w' stage' _ hw hknows hnext := by
    obtain ⟨hw', hknows', hheld⟩ := emitEvent_goes hw hknows hnext
    refine ⟨hw', hknows', ?_⟩
    show w.held ⊆ w'.held ∧ w'.held ⊆ w.wants env db stage ++ w.held
    rcases hheld with hsame | ⟨row, hrow, hmore⟩
    · rw [hsame]
      exact ⟨List.Subset.refl _, List.subset_append_right _ _⟩
    · rw [hmore]
      exact ⟨List.subset_cons_self _ _, List.cons_subset.2
        ⟨List.mem_append_left _ hrow, List.subset_append_right _ _⟩⟩
  done db w stage w' _ hw _ hnext := by
    obtain ⟨hw', hheld⟩ := emitEvent_done hw hnext
    refine ⟨hw', ?_⟩
    show w.held ⊆ w'.held ∧ w'.held ⊆ w.wants env db stage ++ w.held
    rw [hheld]
    exact ⟨List.Subset.refl _, List.subset_append_right _ _⟩
  commits _ _ hdb hw := hdb.commit hw
  spares _ _ _ _ hw hv happart := ⟨hw.spares hv happart, fun _ hknows => hknows⟩

/-! ## Counting -/

/-- How often an event was told to a recipient, by the notifications or by the e-mails of the
calls. -/
def told (whom : Emission → List User) (organizationId : Id) (eventKey : String) (recipientId : Id)
    (emissions : List Emission) : Nat :=
  ((emissions.filter fun e =>
    e.call.organizationId = organizationId ∧ e.call.eventKey = eventKey).flatMap whom).countP
      fun user => user.id = recipientId

/-- An event that is told several times needs several rows with one identifier. -/
theorem told_le_count {whom : Emission → List User} (id : EmitEvent → User → Id)
    {organizationId : Id} {eventKey : String} {recipientId row : Id}
    (hrow : ∀ (e : EmitEvent) (user : User), e.organizationId = organizationId →
      e.eventKey = eventKey → user.id = recipientId → id e user = row)
    (emissions : List Emission) :
    told whom organizationId eventKey recipientId emissions ≤
      (emissions.flatMap fun e => (whom e).map (id e.call)).count row := by
  induction emissions with
  | nil => exact Nat.le_refl _
  | cons e emissions ih =>
      rw [List.flatMap_cons, List.count_append]
      by_cases he : e.call.organizationId = organizationId ∧ e.call.eventKey = eventKey
      · have hhead : (whom e).countP (fun user => user.id = recipientId) ≤
            ((whom e).map (id e.call)).count row := by
          rw [List.count, List.countP_map]
          refine List.countP_mono_left fun user _ huser => ?_
          simpa using hrow e.call user he.1 he.2 (of_decide_eq_true huser)
        rw [told, List.filter_cons_of_pos (by simpa using he), List.flatMap_cons,
          List.countP_append]
        exact Nat.add_le_add hhead ih
      · rw [told, List.filter_cons_of_neg (by simpa using he)]
        exact ih.trans (Nat.le_add_left _ _)

theorem Database.Grown.notified_le (h : Database.Grown env db₀ db) (organizationId : Id)
    (eventKey : String) (recipientId : Id) :
    told Emission.notified organizationId eventKey recipientId db.emissions ≤ 1 := by
  have hkeys := db.notifications.nodup
  rw [h.notifications, List.map_append, List.map_reverse, List.map_flatMap] at hkeys
  have hnew := List.nodup_reverse.1 (List.nodup_append.1 hkeys).2.1
  simp only [Emission.notifications, List.map_map] at hnew
  refine (told_le_count (fun e user => (e.notification env user).id) ?_ db.emissions).trans
    (List.nodup_iff_count_le_one.1 hnew (notificationId env organizationId eventKey recipientId))
  rintro e user rfl rfl rfl
  rfl

theorem Database.Grown.mailed_le (h : Database.Grown env db₀ db) (organizationId : Id)
    (eventKey : String) (recipientId : Id) :
    told Emission.mailed organizationId eventKey recipientId db.emissions ≤ 1 := by
  have hkeys := db.emails.nodup
  rw [h.emails, List.map_append, List.map_reverse, List.map_flatMap] at hkeys
  have hnew := List.nodup_reverse.1 (List.nodup_append.1 hkeys).2.1
  simp only [Emission.emails, List.map_map] at hnew
  refine (told_le_count (fun e user => (e.email env user).id) ?_ db.emissions).trans
    (List.nodup_iff_count_le_one.1 hnew (emailId env organizationId eventKey recipientId))
  rintro e user rfl rfl rfl
  rfl

/-- The rows that are committed beside those that were there are the rows of the calls. No
recipient is notified or mailed of an event twice, and a call mails only whom it has notified. -/
theorem emit_event_once {s : Sessions Database (Transaction Work EmitEvent Stage)}
    (hnew : db.emissions = [])
    (hsteps : Relation.ReflTransGen
      (Sessions.Step (emitting env).Begins (emitting env).serving fun _ _ _ => True) ⟨db, []⟩ s) :
    Database.Grown env db s.db ∧
      ∀ organizationId eventKey recipientId,
        told Emission.notified organizationId eventKey recipientId s.db.emissions ≤ 1 ∧
          told Emission.mailed organizationId eventKey recipientId s.db.emissions ≤ 1 := by
  have hdb : Database.Grown env db db := ⟨by simp [hnew], by simp [hnew], by simp [hnew]⟩
  have hgrown := ((emitting_keeps env db).steps ⟨hdb, by simp, .nil⟩ hsteps).database
  exact ⟨hgrown, fun organizationId eventKey recipientId =>
    ⟨hgrown.notified_le organizationId eventKey recipientId,
      hgrown.mailed_le organizationId eventKey recipientId⟩⟩

namespace Sample

def derived : Env where
  uuid5 root name := name.toList.foldl (fun id c => id * 1114112 + c.toNat) (root + 1)
  text := toString
  upper := String.toUpper

def tables : Database := ⟨Table.empty, Table.empty, []⟩

def users : List User :=
  [⟨1, 7, true, none, false, "executive"⟩, ⟨2, 7, true, none, true, ""⟩, ⟨3, 7, false, none, false, ""⟩]

def approval (recipients : List Id) (deliveryMethod : String) : EmitEvent :=
  ⟨7, recipients, "order:5:approved", "Order 5 was approved", "FINANCE", "PURCHASE_ORDER_APPROVED",
    "IMPORTANT", deliveryMethod, none, .byPortal [("FIELD", "/field"), ("default", "/orders")],
    users, fun _ => 60⟩

def emits (rest : List (Action EmitEvent)) : Transaction Work EmitEvent Stage :=
  ⟨⟨[], [], [], []⟩, [], none, rest⟩

end Sample

/-- Two transactions tell overlapping recipients of one event. The second waits for the first, and
tells whom the first has not told; a third finds everybody told, and is rolled back. -/
theorem emit_event_once_race : ∃ s : Sessions Database (Transaction Work EmitEvent Stage),
    s.db.notifications.rows.map (·.recipientId) = [1, 2] ∧
      s.db.emails.rows.map (·.recipientId) = [2] ∧ s.db.emissions.length = 2 ∧
      Database.Grown Sample.derived Sample.tables s.db ∧
      ∀ organizationId eventKey recipientId,
        told Emission.notified organizationId eventKey recipientId s.db.emissions ≤ 1 ∧
          told Emission.mailed organizationId eventKey recipientId s.db.emissions ≤ 1 := by
  have hplay : (Sessions.play (emitting Sample.derived).Begins (emitting Sample.derived).serving
      (fun _ _ _ => True) ⟨Sample.tables, []⟩
      [.begins (Sample.emits [.call (Sample.approval [1] "BOTH")]), .acts 0, .acts 0, .acts 0,
        .begins (Sample.emits [.call (Sample.approval [3, 2, 1] "EMAIL")]), .acts 1, .acts 1,
        .acts 0, .acts 0, .acts 0, .acts 0, .acts 0, .acts 0, .acts 0,
        .begins (Sample.emits [.savepoint, .call (Sample.approval [1, 2] "PORTAL"), .rollback]),
        .acts 0, .acts 0, .acts 0, .acts 0, .acts 0, .acts 0, .acts 0]).any (fun s =>
      s.db.notifications.rows.map (·.recipientId) = [1, 2] ∧
        s.db.emails.rows.map (·.recipientId) = [2] ∧ s.db.emissions.length = 2) = true := by
    decide +kernel
  rw [Option.any_eq_true_iff_get] at hplay
  obtain ⟨hsome, hend⟩ := hplay
  have hsteps := Sessions.steps_of_play (Option.some_get hsome).symm
  simp only [decide_eq_true_eq] at hend
  exact ⟨_, hend.1, hend.2.1, hend.2.2, emit_event_once rfl hsteps⟩

end Cestos.Notifications
