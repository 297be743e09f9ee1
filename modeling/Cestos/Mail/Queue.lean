import Mathlib.Data.List.MinMax
import Mathlib.Data.Prod.Lex
import Cestos.Core.Table

/-!
# The e-mail queue

Deliveries, one call of `deliver_one`, and a tick of the scheduler, which makes up to twenty
calls and stops at the first that raises. The scheduler is the only process that delivers.
Messages, their texts and the password links in them are left out.
-/

namespace Cestos.Mail

open Cestos.Core

abbrev Id := Nat

/-- Seconds. -/
abbrev Instant := Nat

inductive DeliveryStatus
  | pending | sent | failed | cancelled
  deriving DecidableEq, Repr

structure EmailDelivery where
  id : Id
  recipientId : Id
  kind : String
  createdAt : Instant
  status : DeliveryStatus
  attempts : Nat
  nextAttemptAt : Instant
  lastError : Option String
  deriving DecidableEq, Repr

/-- What an attempt looks up of the recipient and the organization. -/
structure Recipient where
  isActive : Bool
  archived : Bool
  setupRequired : Bool
  organizationActive : Bool
  deriving DecidableEq, Repr

/-- How the message was sent, or the class and the text of the `OSError`, `SMTPException` or
`ValueError` that was raised. -/
inductive SmtpOutcome
  | sent
  | failed (className text : String)
  deriving DecidableEq, Repr

/-- One call of `deliver_one`: its time, the users there are, what sending comes to, and the
order in which the database returns deliveries that were created at one time. -/
structure Call where
  now : Instant
  users : Id → Option Recipient
  outcome : SmtpOutcome
  order : Id → Nat

/-- The deliveries, and how often each was attempted since it was last retried by hand. -/
structure Mailer where
  deliveries : Table EmailDelivery.id
  tries : Id → Nat

/-! ## One attempt -/

def due (now : Instant) (d : EmailDelivery) : Bool :=
  d.status = .pending ∧ d.nextAttemptAt ≤ now

/-- The oldest due delivery. -/
def Mailer.nextDue (m : Mailer) (c : Call) : Option EmailDelivery :=
  (m.deliveries.rows.filter (due c.now)).argmin fun d => toLex (d.createdAt, c.order d.id)

def errorText (className text : String) : String :=
  "SMTP delivery failed (" ++ className ++ "): " ++ text

/-- What a `String(length)` column takes; no text of PostgreSQL contains a null character. -/
def fitsColumn (length : Nat) (text : String) : Bool :=
  text.length ≤ length ∧ Char.ofNat 0 ∉ text.toList

/-- Minutes until the next attempt. -/
def backoff (attempts : Nat) : Nat := min (2 ^ min attempts 10) 360

def fail (now : Instant) (error : String) (d : EmailDelivery) : EmailDelivery :=
  { d with
    attempts := d.attempts + 1
    lastError := some error
    nextAttemptAt := now + 60 * backoff (d.attempts + 1)
    status := if 10 ≤ d.attempts + 1 then .failed else d.status }

/-- Whether a delivery is cancelled before anything is sent. -/
def Call.cancels (c : Call) (d : EmailDelivery) : Bool :=
  match c.users d.recipientId with
  | none => true
  | some user => ¬ user.isActive ∨ user.archived ∨ ¬ user.organizationActive ∨
      (d.kind = "SETUP" ∧ ¬ user.setupRequired)

/-- The delivery as it is committed, unless the database refuses its error text. -/
def Call.attempt (c : Call) (d : EmailDelivery) : Option EmailDelivery :=
  if c.cancels d then some { d with status := .cancelled }
  else match c.outcome with
    | .sent => some { d with status := .sent, lastError := none }
    | .failed className text =>
      if fitsColumn 200 (errorText className text) then
        some (fail c.now (errorText className text) d)
      else none

/-- How a call of `deliver_one` ends. -/
inductive Delivered
  /-- Nothing was due. -/
  | idle
  | committed (m : Mailer)
  /-- The commit raised and was rolled back. -/
  | raised (m : Mailer)

def Mailer.tried (m : Mailer) (id : Id) : Mailer :=
  { m with tries := fun i => if i = id then m.tries i + 1 else m.tries i }

def deliverOne (m : Mailer) (c : Call) : Delivered :=
  match m.nextDue c with
  | none => .idle
  | some d =>
    match c.attempt d with
    | some d' => .committed { m.tried d.id with deliveries := m.deliveries.set d' }
    | none => .raised (m.tried d.id)

/-! ## The scheduler and the other requests -/

/-- The drain loop. -/
def drain (m : Mailer) : List Call → Mailer
  | [] => m
  | c :: rest =>
    match deliverOne m c with
    | .idle => m
    | .committed m' => drain m' rest
    | .raised m' => m'

def requeue (now : Instant) (d : EmailDelivery) : EmailDelivery :=
  { d with status := .pending, attempts := 0, nextAttemptAt := now }

/-- A manual retry. -/
def retryDelivery (m : Mailer) (id : Id) (now : Instant) : Mailer :=
  match m.deliveries.find? id with
  | none => m
  | some d =>
    if d.status = .failed then
      { deliveries := m.deliveries.set (requeue now d)
        tries := fun i => if i = id then 0 else m.tries i }
    else m

/-- A new delivery, unless there is one of its identifier; its transaction began at
`createdAt`. -/
def enqueue (m : Mailer) (id recipientId : Id) (kind : String) (createdAt now : Instant) :
    Mailer :=
  match m.deliveries.insert? ⟨id, recipientId, kind, createdAt, .pending, 0, now, none⟩ with
  | none => m
  | some deliveries => { m with deliveries }

def cancelSetup (userId : Id) (d : EmailDelivery) : EmailDelivery :=
  if d.recipientId = userId ∧ d.kind = "SETUP" ∧ d.status = .pending then
    { d with status := .cancelled }
  else d

@[simp] theorem cancelSetup_id (userId : Id) (d : EmailDelivery) :
    (cancelSetup userId d).id = d.id := by
  unfold cancelSetup
  split <;> rfl

/-- A password reset cancels the setup messages of its user that are still pending. -/
def supersede (m : Mailer) (userId : Id) : Mailer :=
  { m with deliveries := m.deliveries.mapRows (cancelSetup userId) (cancelSetup_id userId) }

inductive Event
  /-- A tick; without a configured server it delivers nothing. -/
  | tick (configured : Bool) (calls : List Call)
  | retry (id : Id) (now : Instant)
  | enqueue (id recipientId : Id) (kind : String) (createdAt now : Instant)
  | supersede (userId : Id)

def step (m : Mailer) : Event → Mailer
  | .tick configured calls => if configured then drain m (calls.take 20) else m
  | .retry id now => retryDelivery m id now
  | .enqueue id recipientId kind createdAt now => enqueue m id recipientId kind createdAt now
  | .supersede userId => supersede m userId

def run (m : Mailer) (events : List Event) : Mailer := events.foldl step m

def Mailer.empty : Mailer := ⟨.empty, fun _ => 0⟩

/-!
## Attempts

An attempt commits a change of its delivery exactly when what it leads to can be recorded:
the text of a failure has to fit its column.
-/

variable {m m' : Mailer} {c : Call} {d d' k : EmailDelivery}

/-! ### Attempts that are recorded -/

/-- A message was sent, or failed with a text that fits its column. -/
def SmtpOutcome.Recordable : SmtpOutcome → Prop
  | .sent => True
  | .failed className text => fitsColumn 200 (errorText className text)

theorem length_le_of_fitsColumn {length : Nat} {text : String}
    (h : fitsColumn length text = true) : text.length ≤ length := by
  simp only [fitsColumn, decide_eq_true_eq] at h
  exact h.1

theorem length_le_errorText (className text : String) :
    text.length ≤ (errorText className text).length :=
  (Nat.le_add_left _ _).trans_eq (String.length_append _ _).symm

instance : DecidablePred SmtpOutcome.Recordable
  | .sent => .isTrue trivial
  | .failed _ _ => inferInstanceAs (Decidable (_ = true))

/-- The attempt of a call, if there is one, cancels its delivery or has an outcome that can
be recorded. -/
def Call.Recorded (m : Mailer) (c : Call) : Prop :=
  ∀ d ∈ m.nextDue c, c.cancels d ∨ c.outcome.Recordable

instance : Decidable (c.Recorded m) := inferInstanceAs (Decidable (∀ _ ∈ _, _))

/-- So has every call that the drain loop makes. -/
def DrainRecorded (m : Mailer) : List Call → Prop
  | [] => True
  | c :: rest => c.Recorded m ∧
    match deliverOne m c with
    | .committed m' => DrainRecorded m' rest
    | .idle | .raised _ => True

instance decidableDrainRecorded (m : Mailer) : (calls : List Call) →
    Decidable (DrainRecorded m calls)
  | [] => .isTrue trivial
  | c :: rest =>
    have : Decidable (match deliverOne m c with
        | .committed m' => DrainRecorded m' rest
        | .idle | .raised _ => True) :=
      match deliverOne m c with
      | .committed m' => decidableDrainRecorded m' rest
      | .idle | .raised _ => .isTrue trivial
    inferInstanceAs (Decidable (_ ∧ _))

def Event.Recorded (m : Mailer) : Event → Prop
  | .tick configured calls => configured = true → DrainRecorded m (calls.take 20)
  | .retry _ _ | .enqueue _ _ _ _ _ | .supersede _ => True

instance (m : Mailer) : (e : Event) → Decidable (e.Recorded m)
  | .tick _ _ => inferInstanceAs (Decidable (_ → _))
  | .retry _ _ | .enqueue _ _ _ _ _ | .supersede _ => .isTrue trivial

def Recorded (m : Mailer) : List Event → Prop
  | [] => True
  | e :: rest => e.Recorded m ∧ Recorded (step m e) rest

instance decidableRecorded (m : Mailer) : (events : List Event) → Decidable (Recorded m events)
  | [] => .isTrue trivial
  | e :: rest =>
    have : Decidable (Recorded (step m e) rest) := decidableRecorded (step m e) rest
    inferInstanceAs (Decidable (_ ∧ _))

/-! ### One attempt -/

/-- What an attempt may make of a delivery. -/
inductive Change (now : Instant) (d d' : EmailDelivery) : Prop
  | sent : d'.status = .sent → Change now d d'
  | cancelled : d'.status = .cancelled → Change now d d'
  | failed : d'.attempts = d.attempts + 1 → d.nextAttemptAt < d'.nextAttemptAt →
      now < d'.nextAttemptAt → Change now d d'

/-- A call commits a change of a delivery. -/
def Commits (m : Mailer) (c : Call) (d : EmailDelivery) : Prop :=
  ∃ m' d', deliverOne m c = .committed m' ∧ m'.deliveries.find? d.id = some d' ∧
    Change c.now d d'

/-- The queue with the delivery that an attempt has changed. -/
def Mailer.commit (m : Mailer) (d' : EmailDelivery) : Mailer :=
  { m.tried d'.id with deliveries := m.deliveries.set d' }

@[simp] theorem commit_deliveries : (m.commit d').deliveries = m.deliveries.set d' := rfl

@[simp] theorem commit_tries (id : Id) :
    (m.commit d').tries id = if id = d'.id then m.tries id + 1 else m.tries id := rfl

theorem mem_of_nextDue (h : m.nextDue c = some d) :
    d ∈ m.deliveries.rows ∧ d.status = .pending ∧ d.nextAttemptAt ≤ c.now := by
  have hmem := List.argmin_mem h
  simpa [due] using hmem

theorem nextDue_of_due (hk : k ∈ m.deliveries.rows) (hpending : k.status = .pending)
    (hdue : k.nextAttemptAt ≤ c.now) :
    ∃ d, m.nextDue c = some d ∧ d.createdAt ≤ k.createdAt := by
  have hmem : k ∈ m.deliveries.rows.filter (due c.now) := by
    simp [due, hk, hpending, hdue]
  cases hd : m.nextDue c with
  | none =>
      rw [Mailer.nextDue, List.argmin_eq_none] at hd
      simp [hd] at hmem
  | some d =>
      refine ⟨d, rfl, ?_⟩
      have hle := List.le_of_mem_argmin hmem hd
      rw [Prod.Lex.toLex_le_toLex] at hle
      rcases hle with hlt | ⟨heq, -⟩
      · exact hlt.le
      · exact heq.le

theorem backoff_pos (attempts : Nat) : 0 < backoff attempts :=
  lt_min (Nat.pow_pos (by omega)) (by omega)

theorem attempt_cases (h : c.attempt d = some d') :
    d' = { d with status := .cancelled } ∨ d' = { d with status := .sent, lastError := none } ∨
      ∃ error, d' = fail c.now error d := by
  unfold Call.attempt at h
  split at h
  · exact .inl (Option.some.inj h).symm
  · split at h
    · exact .inr (.inl (Option.some.inj h).symm)
    · split at h
      · exact .inr (.inr ⟨_, (Option.some.inj h).symm⟩)
      · cases h

theorem attempt_isSome : (c.attempt d).isSome ↔ c.cancels d ∨ c.outcome.Recordable := by
  unfold Call.attempt
  split
  · next hcancels => simp [hcancels]
  · next hcancels =>
    split
    · next houtcome => simp [houtcome, SmtpOutcome.Recordable]
    · next houtcome => simp [houtcome, SmtpOutcome.Recordable, hcancels]

theorem attempt_id (h : c.attempt d = some d') : d'.id = d.id := by
  rcases attempt_cases h with rfl | rfl | ⟨error, rfl⟩ <;> rfl

theorem attempt_change (hdue : d.nextAttemptAt ≤ c.now) (h : c.attempt d = some d') :
    Change c.now d d' := by
  rcases attempt_cases h with rfl | rfl | ⟨error, rfl⟩
  · exact .cancelled rfl
  · exact .sent rfl
  · have hlater : c.now < c.now + 60 * backoff (d.attempts + 1) :=
      Nat.lt_add_of_pos_right (Nat.mul_pos (by omega) (backoff_pos _))
    exact .failed rfl (hdue.trans_lt hlater) hlater

theorem deliverOne_of_attempt (hnext : m.nextDue c = some d) (h : c.attempt d = some d') :
    deliverOne m c = .committed (m.commit d') := by
  simp [deliverOne, hnext, h, Mailer.commit, attempt_id h]

/-- A call that is recorded finds nothing due, or commits what it makes of a delivery. -/
theorem deliverOne_of_recorded (h : c.Recorded m) :
    m.nextDue c = none ∧ deliverOne m c = .idle ∨
      ∃ d d', m.nextDue c = some d ∧ c.attempt d = some d' ∧
        deliverOne m c = .committed (m.commit d') := by
  cases hnext : m.nextDue c with
  | none => exact .inl ⟨rfl, by simp [deliverOne, hnext]⟩
  | some d =>
      obtain ⟨d', hd'⟩ := Option.isSome_iff_exists.1 (attempt_isSome.2 (h d hnext))
      exact .inr ⟨d, d', rfl, hd', deliverOne_of_attempt hnext hd'⟩

/-- An attempt commits a change exactly when what it leads to can be recorded. -/
theorem commits_iff (hnext : m.nextDue c = some d) :
    Commits m c d ↔ c.cancels d ∨ c.outcome.Recordable := by
  rw [← attempt_isSome]
  constructor
  · rintro ⟨m', d', hcommitted, -, -⟩
    unfold deliverOne at hcommitted
    rw [hnext] at hcommitted
    dsimp only at hcommitted
    split at hcommitted
    · next hattempt => simp [hattempt]
    · cases hcommitted
  · intro h
    obtain ⟨d', hd'⟩ := Option.isSome_iff_exists.1 h
    obtain ⟨hmem, -, hdue⟩ := mem_of_nextDue hnext
    refine ⟨m.commit d', d', deliverOne_of_attempt hnext hd', ?_, attempt_change hdue hd'⟩
    rw [← attempt_id hd']
    exact Table.find?_set_self (attempt_id hd' ▸ Table.find?_of_mem hmem)

end Cestos.Mail
