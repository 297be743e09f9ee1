import Cestos.Core.Table
import Cestos.Core.Transactions
import Cestos.Mail.Queue

/-!
# Field alerts

Events that are told to a set of recipients: a notification for each and, unless it is
suppressed, an e-mail. Both get identifiers that are derived from the event and the recipient, and
an insert with an identifier that is taken is skipped. The inserts belong to the transaction of the
caller.
-/

namespace Cestos.Notifications

open Cestos.Core

abbrev Id := Nat

/-- Seconds. -/
abbrev Instant := Nat

structure User where
  id : Id
  organizationId : Id
  isActive : Bool
  archivedAt : Option Instant
  isFieldPortalOnly : Bool
  portalType : String
  deriving DecidableEq

structure Notification where
  id : Id
  organizationId : Id
  recipientId : Id
  message : String
  actionUrl : Option String
  domain : String
  priorityTag : String
  deliveryMethod : String
  scheduleId : Option Id
  deriving DecidableEq

structure EmailDelivery where
  id : Id
  organizationId : Id
  recipientId : Id
  kind : String
  message : String
  actionUrl : Option String
  nextAttemptAt : Instant
  deriving DecidableEq

inductive ActionUrl
  | nowhere
  | everywhere (url : String)
  | byPortal (urls : List (String × String))
  deriving DecidableEq

/-- A call of `emit_event`. -/
structure EmitEvent where
  organizationId : Id
  recipients : List Id
  eventKey : String
  message : String
  domain : String
  kind : String
  priority : String
  deliveryMethod : String
  scheduleId : Option Id
  actionUrl : ActionUrl
  /-- The users there are, in the order in which the query returns them. -/
  users : List User
  /-- When the clock is read for the e-mail to a user. -/
  now : Id → Instant

/-- What a call has inserted for whom, the last first. -/
structure Emission where
  call : EmitEvent
  notified : List User
  mailed : List User

/-- The tables, and the calls of the committed transactions. -/
structure Database where
  notifications : Table Notification.id
  emails : Table EmailDelivery.id
  emissions : List Emission

/-- A row by the identifier that an insert waits for. -/
inductive Row
  | notification (id : Id)
  | email (id : Id)
  deriving DecidableEq

/-- What a transaction has locked and inserted, the last first. -/
structure Work where
  held : List Row
  notifications : List Notification
  emails : List EmailDelivery
  emissions : List Emission

/-- `uuid5`, the text of an identifier, and `upper`. -/
structure Env where
  uuid5 : Id → String → Id
  text : Id → String
  upper : String → String

/-! ## What a call inserts -/

/-- Whether the user is one of the recipients, and may be told anything. -/
def EmitEvent.eligible (e : EmitEvent) (user : User) : Prop :=
  user.id ∈ e.recipients ∧ user.organizationId = e.organizationId ∧ user.isActive = true ∧
    user.archivedAt = none

instance (e : EmitEvent) : DecidablePred e.eligible :=
  fun _ => inferInstanceAs (Decidable (_ ∧ _ ∧ _ ∧ _))

def User.portal (env : Env) (user : User) : String :=
  if user.isFieldPortalOnly then "FIELD"
  else env.upper (if user.portalType = "" then "FULL" else user.portalType)

def ActionUrl.recipient (portal : String) : ActionUrl → Option String
  | .nowhere => none
  | .everywhere url => some url
  | .byPortal urls => (urls.lookup portal).or (urls.lookup "default")

/-- The first thousand characters. -/
def shorten (message : String) : String := String.ofList (message.toList.take 1000)

def notificationId (env : Env) (organizationId : Id) (eventKey : String) (recipientId : Id) : Id :=
  env.uuid5 organizationId (eventKey ++ ":" ++ env.text recipientId)

def EmitEvent.notification (env : Env) (e : EmitEvent) (user : User) : Notification where
  id := notificationId env e.organizationId e.eventKey user.id
  organizationId := e.organizationId
  recipientId := user.id
  message := shorten e.message
  actionUrl := e.actionUrl.recipient (user.portal env)
  domain := e.domain
  priorityTag := e.priority
  deliveryMethod := e.deliveryMethod
  scheduleId := e.scheduleId

def emailId (env : Env) (organizationId : Id) (eventKey : String) (recipientId : Id) : Id :=
  env.uuid5 (notificationId env organizationId eventKey recipientId) "email"

def EmitEvent.email (env : Env) (e : EmitEvent) (user : User) : EmailDelivery where
  id := emailId env e.organizationId e.eventKey user.id
  organizationId := e.organizationId
  recipientId := user.id
  kind := e.kind
  message := shorten e.message
  actionUrl := e.actionUrl.recipient (user.portal env)
  nextAttemptAt := e.now user.id

def EmitEvent.suppressExecutiveEmail (env : Env) (e : EmitEvent) (user : User) : Prop :=
  user.portal env = "EXECUTIVE" ∧
    e.kind ∈ ["PURCHASE_ORDER_APPROVED", "EXPENSE_SUBMITTED_TO_FINANCE"]

/-- Whether a user that was notified gets an e-mail as well. -/
def EmitEvent.mails (env : Env) (e : EmitEvent) (user : User) : Prop :=
  e.deliveryMethod ∈ ["BOTH", "EMAIL"] ∧ ¬ e.suppressExecutiveEmail env user

instance (env : Env) (e : EmitEvent) : DecidablePred (e.mails env) :=
  fun _ => inferInstanceAs (Decidable (_ ∧ ¬ (_ ∧ _)))

/-- Whether the columns take the values. -/
def Notification.fits (n : Notification) : Bool :=
  Mail.fitsColumn 1000 n.message && n.actionUrl.all (Mail.fitsColumn 500) &&
    Mail.fitsColumn 50 n.domain && Mail.fitsColumn 20 n.priorityTag &&
    Mail.fitsColumn 20 n.deliveryMethod

def EmailDelivery.fits (d : EmailDelivery) : Bool :=
  Mail.fitsColumn 100 d.kind && Mail.fitsColumn 1000 d.message &&
    d.actionUrl.all (Mail.fitsColumn 500)

/-! ## Statements -/

/-- How far `emit_event` has come, with the users that are still to be told. -/
inductive Stage
  | select (e : EmitEvent)
  | notify (e : EmitEvent) (eligible : List User)
  /-- The notification of the recipient was inserted. -/
  | mail (e : EmitEvent) (recipient : User) (eligible : List User)

/-- An insert waits for another transaction that inserts the identifier. -/
def Work.wants (env : Env) (db : Database) (_w : Work) : Stage → List Row
  | .notify e (user :: _) =>
    let id := (e.notification env user).id
    if id ∈ db.notifications.rows.map Notification.id then [] else [.notification id]
  | .mail e user _ =>
    let id := (e.email env user).id
    if id ∈ db.emails.rows.map EmailDelivery.id then [] else [.email id]
  | _ => []

def Emission.notify (user : User) (e : Emission) : Emission :=
  { e with notified := user :: e.notified }

def Emission.mail (user : User) (e : Emission) : Emission :=
  { e with mailed := user :: e.mailed }

def Work.notify (w : Work) (n : Notification) (user : User) : Work :=
  { w with
    held := .notification n.id :: w.held
    notifications := n :: w.notifications
    emissions := w.emissions.modifyHead (Emission.notify user) }

def Work.mail (w : Work) (d : EmailDelivery) (user : User) : Work :=
  { w with
    held := .email d.id :: w.held
    emails := d :: w.emails
    emissions := w.emissions.modifyHead (Emission.mail user) }

/-- The identifiers that an insert finds taken. -/
def Work.takenNotifications (db : Database) (w : Work) : List Id :=
  w.notifications.map (·.id) ++ db.notifications.rows.map (·.id)

def Work.takenEmails (db : Database) (w : Work) : List Id :=
  w.emails.map (·.id) ++ db.emails.rows.map (·.id)

def emitEvent (env : Env) (db : Database) (w : Work) : Stage → Progress Work Stage
  | .select e =>
    let w := { w with emissions := ⟨e, [], []⟩ :: w.emissions }
    if e.recipients = [] then .done w
    else .goes w (.notify e (e.users.filter fun user => e.eligible user))
  | .notify _ [] => .done w
  | .notify e (user :: eligible) =>
    let n := e.notification env user
    if ¬ n.fits then .fails
    else if n.id ∈ w.takenNotifications db then .goes w (.notify e eligible)
    else if e.mails env user then .goes (w.notify n user) (.mail e user eligible)
    else .goes (w.notify n user) (.notify e eligible)
  | .mail e user eligible =>
    let d := e.email env user
    if ¬ d.fits then .fails
    else if d.id ∈ w.takenEmails db then .goes w (.notify e eligible)
    else .goes (w.mail d user) (.notify e eligible)

def Database.commit (db : Database) (w : Work) : Database where
  notifications := db.notifications.insertAll w.notifications
  emails := db.emails.insertAll w.emails
  emissions := w.emissions ++ db.emissions

def emitting (env : Env) : Calls Database Work EmitEvent Stage Row where
  idle := ⟨[], [], [], []⟩
  held := Work.held
  start := .select
  wants := Work.wants env
  next := emitEvent env
  commit := Database.commit

instance (env : Env) : DecidablePred (emitting env).Begins := fun t =>
  decidable_of_iff ((t.work.held.isEmpty ∧ t.work.notifications.isEmpty ∧ t.work.emails.isEmpty ∧
      t.work.emissions.isEmpty) ∧ t.saved.isEmpty ∧ t.stage.isNone) <| by
    obtain ⟨⟨held, notifications, emails, emissions⟩, saved, stage, rest⟩ := t
    simp [Calls.Begins, emitting]

end Cestos.Notifications
