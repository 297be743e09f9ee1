import Cestos.Accounts.Locks

/-!
# Resets and deliveries

A delivery locks a mail and then the user that it is for. A reset locks a user, then the mails
of the user that are queued, and last the user who asked for it. As long as nobody locks what
someone who will wait for it has to wait for, no circle of waiting transactions comes up.
-/

namespace Cestos.Accounts

open Cestos.Core Cestos.Mail

variable {env : Env} {others : List Transaction} {db db' : Database} {t u : Transaction}

/-- Whether a delivery or a reset begins. -/
def Task.delivers : Task → Bool
  | .deliver _ | .reset _ => true
  | _ => false

def Transaction.BeginsDelivery (t : Transaction) : Prop := t.held = [] ∧ t.task.delivers = true

instance : DecidablePred Transaction.BeginsDelivery :=
  fun t => inferInstanceAs (Decidable (t.held = [] ∧ t.task.delivers = true))

/-- The databases, with the deliveries and resets under way, that some interleaving leads to when
every statement meets `admits`. -/
abbrev Deliveries (env : Env) (admits : List Transaction → Database → Transaction → Prop) :
    Sessions Database Transaction → Prop :=
  Sessions.Interleaved Transaction.BeginsDelivery (serving env) admits fun _ => True

/-- Transactions wait for each other in a circle. -/
abbrev Deadlocked (env : Env) (s : Sessions Database Transaction) : Prop :=
  Core.Deadlocked Transaction.held (fun db t => t.task.wants env db) s

/-! ## Who locks what -/

/-- A reset that has locked the user and not yet the mails of the user. -/
def Transaction.Cancels (userId : Id) (t : Transaction) : Prop :=
  match t.task with
  | .invalidating _ user stage => user.id = userId ∧ stage ≠ .commit
  | _ => False

/-- A delivery that has locked a setup mail of the user. -/
def Transaction.Delivers (userId : Id) (t : Transaction) : Prop :=
  match t.task with
  | .mailLocked _ mail => mail.kind = "SETUP" ∧ mail.recipientId = userId
  | _ => False

/-- A reset that holds `user` and will lock `actor`, who asked for it. -/
def Transaction.Audits (user actor : Id) (t : Transaction) : Prop :=
  match t.task with
  | .invalidating r row _ => row.id = user ∧ r.actorId = actor ∧ user ≠ actor
  | _ => False

def Audited (running : List Transaction) (user actor : Id) : Prop :=
  ∃ t ∈ running, t.Audits user actor

/-- A setup mail is locked only while no reset that has yet to cancel it holds its user; a user is
locked only while no delivery holds a setup mail of the user, and no resets lead from who asks to
the user. -/
def Transaction.Yields (env : Env) (others : List Transaction) (db : Database)
    (t : Transaction) : Prop :=
  match t.task with
  | .deliver r => env.smtp = true → ∀ mail ∈ db.nextMail others r, mail.kind = "SETUP" →
    ∀ u ∈ others, ¬ u.Cancels mail.recipientId
  | .employeeLocked r _ userId => (∀ u ∈ others, ¬ u.Delivers userId) ∧
    (r.actorId ≠ userId → ¬ Relation.ReflTransGen (Audited others) r.actorId userId)
  | _ => True

/-- The row is of the user, or of an employee. -/
def Database.Belongs (db : Database) (userId : Id) : Row → Prop
  | .employee _ => True
  | .user id => id = userId
  | .token tokenHash => ∃ token, db.tokens.find? tokenHash = some token ∧ token.userId = userId
  | .setup tokenHash => ∃ setup, db.setups.find? tokenHash = some setup ∧ setup.userId = userId
  | .mail id => ∃ mail, db.mails.find? id = some mail ∧ mail.recipientId = userId

/-- What a delivery or a reset holds. -/
def Transaction.Owns (db : Database) (t : Transaction) : Prop :=
  match t.task with
  | .reset _ | .authorized _ _ | .deliver _ => t.held = []
  | .employeeLocked _ _ _ => ∀ row ∈ t.held, ∃ id, row = .employee id
  | .invalidating _ user _ => ∀ row ∈ t.held, db.Belongs user.id row
  | .mailLocked _ mail => t.held = [.mail mail.id]
  | _ => False

/-- No reset has yet to cancel a mail that a delivery holds. -/
def Apart (t u : Transaction) : Prop :=
  ∀ userId, ¬ (t.Cancels userId ∧ u.Delivers userId) ∧ ¬ (u.Cancels userId ∧ t.Delivers userId)

theorem Apart.symm (h : Apart t u) : Apart u t := fun userId => (h userId).symm

/-! ## Steps -/

theorem Database.Belongs.spare {userId : Id} {row : Row} (h : db.Belongs userId row)
    (hlocked : locked Transaction.held others row) (hspares : Spares others db db') :
    db'.Belongs userId row := by
  cases row with
  | employee id => trivial
  | user id => exact h
  | token tokenHash =>
      obtain ⟨token, hfind, huser⟩ := h
      exact ⟨token, hspares.tokens _ _ hlocked hfind, huser⟩
  | setup tokenHash =>
      obtain ⟨setup, hfind, huser⟩ := h
      obtain ⟨setup', hfind', hsame⟩ := hspares.setups _ _ hfind
      exact ⟨setup', hfind', hsame.trans huser⟩
  | mail id =>
      obtain ⟨mail, hfind, huser⟩ := h
      exact ⟨mail, hspares.mails _ _ hlocked hfind, huser⟩

theorem Transaction.Owns.spare (h : u.Owns db) (hu : u ∈ others) (hspares : Spares others db db') :
    u.Owns db' := by
  obtain ⟨held, task⟩ := u
  cases task with
  | invalidating r user stage => exact fun row hrow => (h row hrow).spare ⟨_, hu, hrow⟩ hspares
  | _ => exact h

theorem Goes.owns {held rows : List Row} {task task' : Task}
    (h : Goes env others db task rows task') (howns : Transaction.Owns db ⟨held, task⟩) :
    Transaction.Owns db ⟨rows ++ held, task'⟩ := by
  have hmore : ∀ userId, (∀ row ∈ rows, db.Belongs userId row) →
      (∀ row ∈ held, db.Belongs userId row) → ∀ row ∈ rows ++ held, db.Belongs userId row :=
    fun _ hrows hheld row hrow => (List.mem_append.1 hrow).elim (hrows row) (hheld row)
  cases h with
  | reset => exact howns
  | authorized =>
      obtain rfl : held = [] := howns
      intro row hrow
      exact ⟨_, List.mem_singleton.1 hrow⟩
  | employeeLocked =>
      refine hmore _ (fun row hrow => List.mem_singleton.1 hrow ▸ rfl) fun row hrow => ?_
      obtain ⟨id, rfl⟩ := howns row hrow
      trivial
  | tokens =>
      refine hmore _ (fun row hrow => ?_) howns
      obtain ⟨token, htoken, rfl⟩ := List.mem_map.1 hrow
      obtain ⟨hmem, huser, -⟩ := Database.mem_liveTokens.1 htoken
      exact ⟨token, Table.find?_of_mem hmem, huser⟩
  | setups =>
      refine hmore _ (fun row hrow => ?_) howns
      obtain ⟨setup, hsetup, rfl⟩ := List.mem_map.1 hrow
      obtain ⟨hmem, huser, -⟩ := Database.mem_unusedSetups.1 hsetup
      exact ⟨setup, Table.find?_of_mem hmem, huser⟩
  | mails =>
      refine hmore _ (fun row hrow => ?_) howns
      obtain ⟨mail, hmail, rfl⟩ := List.mem_map.1 hrow
      obtain ⟨hmem, huser, -⟩ := Database.mem_queuedSetups.1 hmail
      exact ⟨mail, Table.find?_of_mem hmem, huser⟩
  | deliver hmail =>
      obtain rfl : held = [] := howns
      rfl
  | _ => exact howns.elim

theorem Goes.apart {held rows : List Row} {task task' : Task}
    (h : Goes env others db task rows task') (hyields : Transaction.Yields env others db ⟨held, task⟩)
    (hu : u ∈ others) (hapart : Apart ⟨held, task⟩ u) : Apart ⟨rows ++ held, task'⟩ u := by
  intro userId
  cases h with
  | employeeLocked =>
      refine ⟨fun ⟨hcancels, hdelivers⟩ => ?_, fun hboth => hboth.2⟩
      exact hyields.1 u hu (hcancels.1 ▸ hdelivers)
  | tokens | setups =>
      refine ⟨fun ⟨hcancels, hdelivers⟩ => ?_, fun hboth => hboth.2⟩
      exact (hapart userId).1 ⟨⟨hcancels.1, nofun⟩, hdelivers⟩
  | mails => exact ⟨fun hboth => hboth.1.2 rfl, fun hboth => hboth.2⟩
  | deliver hmail =>
      refine ⟨fun hboth => hboth.1, fun ⟨hcancels, hsetup, hrecipient⟩ => ?_⟩
      split at hmail
      · next hsmtp => exact hyields hsmtp _ hmail hsetup u hu (hrecipient ▸ hcancels)
      · cases hmail
  | _ => exact ⟨fun hboth => hboth.1, fun hboth => hboth.2⟩

theorem Transaction.BeginsDelivery.isRequest (h : t.BeginsDelivery) : t.IsRequest := by
  obtain ⟨held, task⟩ := t
  obtain ⟨rfl, hdelivers⟩ := h
  cases task <;> first | exact ⟨rfl, trivial⟩ | cases hdelivers

theorem Transaction.BeginsDelivery.owns (h : t.BeginsDelivery) : t.Owns db := by
  obtain ⟨held, task⟩ := t
  obtain ⟨rfl, hdelivers⟩ := h
  cases task <;> first | rfl | cases hdelivers

theorem Transaction.BeginsDelivery.apart (h : t.BeginsDelivery) : Apart t u := by
  obtain ⟨held, task⟩ := t
  obtain ⟨rfl, hdelivers⟩ := h
  intro userId
  cases task <;> first | exact ⟨fun hboth => hboth.1, fun hboth => hboth.2⟩ | cases hdelivers

/-- Sessions know what they hold, hold nothing in common, and no reset has yet to cancel a mail
that a delivery holds. -/
theorem Deliveries.holds {s : Sessions Database Transaction}
    (h : Deliveries env (Transaction.Yields env) s) :
    s.Holds (fun _ => True) (fun db t => t.Current db ∧ t.Owns db)
      (fun t u => Exclusive Transaction.held t u ∧ Apart t u) := by
  refine Sessions.Interleaved.holds h (fun _ _ hrel => ⟨hrel.1.symm, hrel.2.symm⟩)
    (fun _ _ => trivial) ?_ ?_
  · intro db t hbegins _
    refine ⟨⟨hbegins.isRequest.current, hbegins.owns⟩, fun u => ⟨fun row hrow => ?_, hbegins.apart⟩⟩
    exact absurd (hbegins.1 ▸ hrow) List.not_mem_nil
  · intro others db t db' next _ hsession hothers _ hyields hserving
    obtain ⟨hspares, hkeeps⟩ := serving_keeps hserving hsession.1 fun u hu =>
      ⟨(hothers u hu).1.1, (hothers u hu).2.1⟩
    have hspec := (serving_spec hserving).2
    refine ⟨trivial, fun t' ht' => ⟨hkeeps.session t' ht', ?_⟩, fun u hu =>
      ⟨hkeeps.aside u hu, (hothers u hu).1.2.spare hu hspares⟩, fun t' ht' u hu =>
      ⟨hkeeps.pair t' ht' u hu, ?_⟩⟩
    · cases hspec with
      | goes hgoes => exact Option.some.inj ht' ▸ hgoes.owns hsession.2
      | stops => cases ht'
      | commits hcommit => cases ht'
    · cases hspec with
      | goes hgoes => exact Option.some.inj ht' ▸ hgoes.apart hyields hu (hothers u hu).2.2
      | stops => cases ht'
      | commits hcommit => cases ht'

/-! ## Resets that ask for each other -/

theorem Audited.mono {running running' : List Transaction} (hsub : running ⊆ running')
    {user actor : Id} (h : Audited running user actor) : Audited running' user actor := by
  obtain ⟨t, ht, haudits⟩ := h
  exact ⟨t, hsub ht, haudits⟩

/-- Only the lock of a user is a new link, and it closes no circle. -/
theorem Goes.acyclic {held rows : List Row} {task task' : Task}
    (h : Goes env others db task rows task') (hyields : Transaction.Yields env others db ⟨held, task⟩)
    (hacyclic : Acyclic (Audited (⟨held, task⟩ :: others))) :
    Acyclic (Audited (⟨rows ++ held, task'⟩ :: others)) := by
  have hothers : Acyclic (Audited others) :=
    hacyclic.mono fun _ _ => Audited.mono (List.subset_cons_self _ _)
  have hsame : (∀ user actor, Transaction.Audits user actor ⟨rows ++ held, task'⟩ →
      Transaction.Audits user actor ⟨held, task⟩) →
      Acyclic (Audited (⟨rows ++ held, task'⟩ :: others)) := by
    refine fun hle => hacyclic.mono fun user actor => ?_
    rintro ⟨t, ht, haudits⟩
    rcases List.mem_cons.1 ht with rfl | ht
    · exact ⟨_, List.mem_cons_self, hle user actor haudits⟩
    · exact ⟨t, List.mem_cons_of_mem _ ht, haudits⟩
  cases h with
  | @employeeLocked r actor row =>
      by_cases hself : r.actorId = row.id
      · refine hsame fun user actor haudits => ?_
        obtain ⟨rfl, rfl, hne⟩ := haudits
        exact absurd hself.symm hne
      · refine (hothers.insert (hyields.2 hself)).mono fun user actor => ?_
        rintro ⟨t, ht, haudits⟩
        rcases List.mem_cons.1 ht with rfl | ht
        · exact .inr ⟨haudits.1.symm, haudits.2.1.symm⟩
        · exact .inl ⟨t, ht, haudits⟩
  | tokens | setups | mails => exact hsame fun _ _ haudits => haudits
  | _ => exact hsame fun _ _ haudits => haudits.elim

theorem Deliveries.acyclic {s : Sessions Database Transaction}
    (h : Deliveries env (Transaction.Yields env) s) : Acyclic (Audited s.running) := by
  obtain ⟨db, -, hsteps⟩ := h
  induction hsteps with
  | refl =>
      intro user hcircle
      obtain ⟨actor, ⟨t, ht, -⟩, -⟩ := Relation.TransGen.head'_iff.1 hcircle
      cases ht
  | tail _ hstep ih =>
      cases hstep with
      | begins t ht =>
          refine ih.mono fun user actor => ?_
          rintro ⟨u, hu, haudits⟩
          rcases List.mem_append.1 hu with hu | hu
          · exact ⟨u, hu, haudits⟩
          · obtain rfl := List.mem_singleton.1 hu
            obtain ⟨held, task⟩ := u
            cases task <;> first | exact haudits.elim | cases ht.2
      | acts t hyields hserving =>
          have hfront := ih.mono fun _ _ => Audited.mono List.perm_middle.symm.subset
          cases (serving_spec hserving).2 with
          | goes hgoes =>
              have hnext := hgoes.acyclic hyields hfront
              refine hnext.mono fun _ _ => Audited.mono ?_
              rw [List.append_assoc]
              exact List.perm_middle.subset
          | stops | commits =>
              rw [Option.toList_none, List.append_nil]
              exact hfront.mono fun _ _ => Audited.mono (List.subset_cons_self _ _)
      | ends t =>
          refine ih.mono fun _ _ => Audited.mono ?_
          exact fun u hu => List.perm_middle.symm.subset (List.mem_cons_of_mem t hu)

/-! ## Waiting -/

/-- Nobody waits for a transaction of a lower rank. -/
def Transaction.rank (t : Transaction) : Nat :=
  match t.task with
  | .employeeLocked _ _ _ => 1
  | .mailLocked _ _ => 2
  | .invalidating _ _ _ => 3
  | _ => 0

/-- The user that a reset holds. -/
def Transaction.reset (t : Transaction) : Id :=
  match t.task with
  | .invalidating _ user _ => user.id
  | _ => 0

theorem Transaction.Owns.holder (h : u.Owns db) {row : Row} (hrow : row ∈ u.held) :
    (u.rank = 1 ∧ ∃ id, row = .employee id) ∨
      (u.rank = 2 ∧ ∃ r mail, u.task = .mailLocked r mail ∧ row = .mail mail.id) ∨
      u.rank = 3 ∧ ∃ r user stage, u.task = .invalidating r user stage ∧
        db.Belongs user.id row := by
  obtain ⟨held, task⟩ := u
  cases task with
  | employeeLocked r actor userId => exact .inl ⟨rfl, h row hrow⟩
  | mailLocked r mail =>
      obtain rfl : held = _ := h
      exact .inr (.inl ⟨rfl, r, mail, rfl, List.mem_singleton.1 hrow⟩)
  | invalidating r user stage => exact .inr (.inr ⟨rfl, r, user, stage, rfl, h row hrow⟩)
  | reset r | authorized r actor | deliver r =>
      obtain rfl : held = [] := h
      cases hrow
  | _ => exact h.elim

theorem reset_ne_of_exclusive {r r' : ResetRequest} {user user' : User} {stage stage' : Stage}
    (h : Exclusive Transaction.held t u) (ht : t.Current db) (hu : u.Current db)
    (htask : t.task = .invalidating r user stage) (htask' : u.task = .invalidating r' user' stage') :
    user.id ≠ user'.id := by
  intro hsame
  unfold Transaction.Current at ht hu
  rw [htask] at ht
  rw [htask'] at hu
  exact h _ ht.1 (hsame ▸ hu.1)

theorem Transaction.Owns.user_holder (h : u.Owns db) {userId : Id} (hrow : .user userId ∈ u.held) :
    u.rank = 3 ∧ ∃ r user stage, u.task = .invalidating r user stage ∧ user.id = userId := by
  rcases h.holder hrow with ⟨-, id, heq⟩ | ⟨-, r, mail, -, heq⟩ | ⟨hrank, r, user, stage, htask, hid⟩
  · cases heq
  · cases heq
  · exact ⟨hrank, r, user, stage, htask, hid.symm⟩

theorem Database.Belongs.unique {a b : Id} {row : Row} (ha : db.Belongs a row)
    (hb : db.Belongs b row) (hne : ∀ id, row ≠ .employee id) : a = b := by
  cases row with
  | employee id => exact absurd rfl (hne id)
  | user id => exact Eq.trans (Eq.symm ha) hb
  | token tokenHash | setup tokenHash | mail id =>
      obtain ⟨found, hfind, rfl⟩ := ha
      obtain ⟨found', hfind', rfl⟩ := hb
      rw [Option.some.inj (hfind.symm.trans hfind')]

/-- What a reset wants of its user, only a delivery may hold. -/
theorem Transaction.Owns.delivery_holder (hu : u.Current db ∧ u.Owns db) (ht : t.Current db)
    (hexclusive : Exclusive Transaction.held t u) {r : ResetRequest} {user : User} {stage : Stage}
    (htask : t.task = .invalidating r user stage) {row : Row} (hrow : row ∈ u.held)
    (hbelongs : db.Belongs user.id row) (hne : ∀ id, row ≠ .employee id) :
    ∃ r mail, u.task = .mailLocked r mail ∧ row = .mail mail.id := by
  rcases hu.2.holder hrow with ⟨-, id, rfl⟩ | ⟨-, hmail⟩ | ⟨-, r', user', stage', htask', hbelongs'⟩
  · exact absurd rfl (hne id)
  · exact hmail
  · have hother := reset_ne_of_exclusive hexclusive ht hu.1 htask htask'
    exact absurd (hbelongs.unique hbelongs' hne) hother

/-- A transaction waits for one of a higher rank, or a reset for the reset of who asked for it. -/
theorem waitsFor_cases
    (h : WaitsFor Transaction.held (fun db t => t.task.wants env db) db t u)
    (ht : t.Current db ∧ t.Owns db) (hu : u.Current db ∧ u.Owns db)
    (hexclusive : Exclusive Transaction.held t u) (hapart : Apart t u) :
    t.rank < u.rank ∨ t.rank = 3 ∧ u.rank = 3 ∧ t.Audits t.reset u.reset := by
  obtain ⟨row, hwants, hheld⟩ := h
  obtain ⟨hcurrent, howns⟩ := ht
  obtain ⟨held, task⟩ := t
  cases task with
  | authorized r actor =>
      rcases hu.2.holder hheld with ⟨hrank, -⟩ | ⟨hrank, -⟩ | ⟨hrank, -⟩
      all_goals exact .inl (show 0 < u.rank by omega)
  | employeeLocked r actor userId =>
      obtain rfl := List.mem_singleton.1 hwants
      obtain ⟨hrank, -⟩ := hu.2.user_holder hheld
      exact .inl (show 1 < u.rank by omega)
  | mailLocked r mail =>
      obtain rfl := List.mem_singleton.1 hwants
      obtain ⟨hrank, -⟩ := hu.2.user_holder hheld
      exact .inl (show 2 < u.rank by omega)
  | invalidating r user stage =>
      have hholder : db.Belongs user.id row → (∀ id, row ≠ .employee id) →
          ∃ r mail, u.task = .mailLocked r mail ∧ row = .mail mail.id :=
        Transaction.Owns.delivery_holder hu hcurrent hexclusive rfl hheld
      cases stage with
      | tokens =>
          obtain ⟨token, htoken, rfl⟩ := List.mem_map.1 hwants
          obtain ⟨hmem, huser, -⟩ := Database.mem_liveTokens.1 htoken
          obtain ⟨-, mail, -, hrow⟩ := hholder ⟨token, Table.find?_of_mem hmem, huser⟩ nofun
          cases hrow
      | setups =>
          obtain ⟨setup, hsetup, rfl⟩ := List.mem_map.1 hwants
          obtain ⟨hmem, huser, -⟩ := Database.mem_unusedSetups.1 hsetup
          obtain ⟨-, mail, -, hrow⟩ := hholder ⟨setup, Table.find?_of_mem hmem, huser⟩ nofun
          cases hrow
      | mails =>
          obtain ⟨mail, hmail, rfl⟩ := List.mem_map.1 hwants
          obtain ⟨hmem, huser, hsetup, -⟩ := Database.mem_queuedSetups.1 hmail
          have hfind : db.mails.find? mail.id = some mail := Table.find?_of_mem hmem
          obtain ⟨r', mail', htask, hrow⟩ := hholder ⟨mail, hfind, huser⟩ nofun
          -- the mail that the delivery holds is the one that the reset cancels
          obtain ⟨hcurrent', -⟩ := hu
          unfold Transaction.Current at hcurrent'
          rw [htask] at hcurrent'
          rw [Row.mail.inj hrow] at hfind
          obtain rfl := Option.some.inj (hfind.symm.trans hcurrent'.2)
          refine absurd ⟨⟨rfl, nofun⟩, ?_⟩ (hapart user.id).1
          unfold Transaction.Delivers
          rw [htask]
          exact ⟨hsetup, huser⟩
      | commit =>
          obtain rfl := List.mem_singleton.1 hwants
          obtain ⟨hrank, r', user', stage', htask, hid⟩ := hu.2.user_holder hheld
          have hne := reset_ne_of_exclusive hexclusive hcurrent hu.1 rfl htask
          have hreset : u.reset = user'.id := by
            unfold Transaction.reset
            rw [htask]
          exact .inr ⟨rfl, hrank, rfl, hid.symm.trans hreset.symm, hreset ▸ hne⟩
  | reset r | deliver r => cases hwants
  | _ => exact howns.elim

/-! ## No circles -/

namespace Sample

/-- A mail for the employee is queued. -/
def queued (kind : String) : Database :=
  { accounts with mails := ⟨[⟨9, 1, kind, 40, .pending, 0, 40, none⟩], List.nodup_singleton _⟩ }

/-- Neither a reset that holds its user nor the delivery of a setup mail. -/
def quiet (u : Transaction) : Bool :=
  match u.task with
  | .mailLocked _ mail => mail.kind ≠ "SETUP"
  | .invalidating _ _ _ => false
  | _ => true

theorem quiet.spec (h : quiet u = true) :
    (∀ userId, ¬ u.Cancels userId ∧ ¬ u.Delivers userId) ∧
      ∀ user actor, ¬ u.Audits user actor := by
  obtain ⟨held, task⟩ := u
  cases task with
  | mailLocked r mail =>
      have hkind : mail.kind ≠ "SETUP" := of_decide_eq_true h
      exact ⟨fun _ => ⟨id, fun hdelivers => hkind hdelivers.1⟩, fun _ _ => id⟩
  | invalidating r user stage => cases h
  | _ => exact ⟨fun _ => ⟨id, id⟩, fun _ _ => id⟩

/-- The others neither reset a user nor deliver a setup. -/
def calm (others : List Transaction) (_ : Database) (_ : Transaction) : Prop :=
  others.all quiet = true

instance (others : List Transaction) (db : Database) (t : Transaction) :
    Decidable (calm others db t) := inferInstanceAs (Decidable (_ = true))

theorem calm.yields (h : calm others db t) : t.Yields env others db := by
  have hquiet : ∀ u ∈ others, quiet u = true := List.all_eq_true.1 h
  obtain ⟨held, task⟩ := t
  cases task with
  | deliver r => exact fun _ mail _ _ u hu => ((quiet.spec (hquiet u hu)).1 _).1
  | employeeLocked r actor userId =>
      refine ⟨fun u hu => ((quiet.spec (hquiet u hu)).1 _).2, fun hne hpath => ?_⟩
      rcases hpath.cases_head with heq | ⟨mid, ⟨u, hu, haudits⟩, -⟩
      · exact hne heq
      · exact (quiet.spec (hquiet u hu)).2 _ _ haudits
  | _ => trivial

end Sample

end Cestos.Accounts
