import Cestos.Accounts.Rows
import Cestos.Core.Locking

/-!
# Requests on accounts

Logins, refreshes, account resets and changes of the e-mail address, password completions and
deliveries of queued mails, statement by statement. A statement that locks a row waits for
whoever has locked it; a lock is held until the transaction ends. What a transaction writes
becomes visible when it commits.

Whoever locks the row of a user `FOR UPDATE` also stops the others from inserting rows that
refer to the user and from writing the row.
-/

namespace Cestos.Accounts

open Cestos.Core Cestos.Mail

/-! ## What requests bring -/

structure LoginRequest where
  email : String
  password : String
  /-- The token that is generated. -/
  raw : String
  issuedAt : Instant
  accessIssuedAt : Instant

structure RefreshRequest where
  raw : String
  now : Instant
  /-- The token that is generated. -/
  next : String
  issuedAt : Instant
  accessIssuedAt : Instant

/-- `reset_account`, or `change_email` to a new address. -/
structure ResetRequest where
  actorId : Id
  /-- `ver` of the access token. -/
  tokenVersion : Nat
  employeeId : Id
  newEmail : Option String
  /-- The random password that nobody knows. -/
  secret : String
  mailId : Id
  /-- When its transaction began. -/
  startedAt : Instant
  now : Instant

/-- `PasswordReset`. -/
structure PasswordReset where
  token : String
  password : String
  now : Instant

/-- One call of `deliver_one`. -/
structure Delivery where
  now : Instant
  /-- The setup token that is generated. -/
  raw : String
  /-- What sending the mail comes to. -/
  outcome : SmtpOutcome
  /-- The order in which mails of one time are returned. -/
  order : Id → Nat

/-- What a reset updates before it commits. -/
inductive Stage
  | tokens | setups | mails | commit
  deriving DecidableEq

/-- A request under way, with what it has read. -/
inductive Task
  | login (r : LoginRequest)
  /-- The password is verified; the resets that had been committed by then. -/
  | issuing (r : LoginRequest) (user : User) (verified : Nat)
  | refresh (r : RefreshRequest)
  /-- The token is locked and valid until the deadline. -/
  | tokenLocked (r : RefreshRequest) (token : RefreshToken) (deadline : Instant)
  | rotating (r : RefreshRequest) (token : RefreshToken) (deadline : Instant)
  | reset (r : ResetRequest)
  /-- The access token of the actor is accepted. -/
  | authorized (r : ResetRequest) (actor : User)
  | employeeLocked (r : ResetRequest) (actor : User) (userId : Id)
  /-- The user is locked, and in memory as it was first read. -/
  | invalidating (r : ResetRequest) (user : User) (stage : Stage)
  | completeReset (r : PasswordReset)
  | setupRead (r : PasswordReset) (setup : PasswordSetup)
  /-- The user is locked and may set a password. -/
  | userLocked (r : PasswordReset) (setup : PasswordSetup)
  | deliver (r : Delivery)
  | mailLocked (r : Delivery) (mail : EmailDelivery)

/-- A transaction and the rows that it has locked. -/
structure Transaction where
  held : List Row
  task : Task

/-- The rows that the next statement locks. -/
def Task.wants (env : Env) (db : Database) : Task → List Row
  | .login _ | .tokenLocked _ _ _ | .reset _ | .completeReset _ | .deliver _ => []
  | .issuing _ user _ => [.user user.id]
  | .refresh r => [.token (env.tokenHash r.raw)]
  | .rotating _ token _ => [.user token.userId]
  | .authorized r _ => [.employee r.employeeId]
  | .employeeLocked _ _ userId => [.user userId]
  | .invalidating r user stage =>
    match stage with
    | .tokens => (db.liveTokens user.id).map fun token => .token token.tokenHash
    | .setups => (db.unusedSetups user.id).map fun setup => .setup setup.tokenHash
    | .mails => (db.queuedSetups user.id).map fun mail => .mail mail.id
    | .commit => [.user r.actorId]
  | .setupRead _ setup => [.user setup.userId]
  | .userLocked _ setup => [.setup setup.tokenHash]
  | .mailLocked _ mail => [.user mail.recipientId]

/-! ## Tokens -/

/-- The end of a session that starts at `start`. -/
def Env.sessionEnd (env : Env) (start : Instant) : Instant := start + env.loginSessionHours * 3600

/-- `exp` of an access token. -/
def Env.accessExpiry (env : Env) (now expiresAt : Instant) : Instant :=
  min (now + env.accessTokenExpireMinutes * 60) expiresAt

/-- `issue_tokens`. -/
def issueTokens (env : Env) (db : Database) (userId : Id) (raw : String)
    (now accessNow : Instant) (sessionExpiresAt : Option Instant) (parent : Option String)
    (verified : Nat) : Option Database := do
  let deadline := sessionExpiresAt.getD (env.sessionEnd now)
  let tokens ← db.tokens.insert? ⟨env.tokenHash raw, userId, now, deadline, none⟩
  some { db with
    tokens := tokens
    issued := db.issued ++ [{
      tokenHash := env.tokenHash raw
      userId := userId
      parent := parent
      issuedAt := now
      expiresAt := deadline
      accessExpiresAt := env.accessExpiry accessNow deadline
      verified := verified
      resets := db.resetsOf userId }] }

/-- What was verified when the login of a token's chain read its user. -/
def Database.verifiedOf (db : Database) (tokenHash : String) : Nat :=
  ((db.issued.find? fun i => i.tokenHash = tokenHash).map (·.verified)).getD 0

/-- The commit of a login. -/
def Database.commitLogin (db : Database) (env : Env) (r : LoginRequest) (user : User)
    (verified : Nat) : Option Database := do
  let row ← db.users.find? user.id
  issueTokens env { db with users := db.users.set { row with lastLoginAt := some r.issuedAt } }
    user.id r.raw r.issuedAt r.accessIssuedAt none none verified

/-- The commit of a refresh. -/
def Database.commitRefresh (db : Database) (env : Env) (r : RefreshRequest)
    (token : RefreshToken) (deadline : Instant) : Option Database :=
  issueTokens env { db with tokens := db.tokens.set { token with revokedAt := some r.now } }
    token.userId r.next r.issuedAt r.accessIssuedAt (some deadline) (some token.tokenHash)
    (db.verifiedOf token.tokenHash)

/-! ## Resets -/

/-- Whether the new address of a user belongs to someone else. -/
def Database.emailTaken (db : Database) (email : String) (userId employeeId : Id) : Prop :=
  (∃ user ∈ db.users.rows, user.email = email ∧ user.id ≠ userId) ∨
    ∃ employee ∈ db.employees.rows, employee.id ≠ employeeId ∧
      (employee.workEmail = some email ∨ employee.personalEmail = some email)

instance (db : Database) (email : String) (userId employeeId : Id) :
    Decidable (db.emailTaken email userId employeeId) :=
  inferInstanceAs (Decidable ((∃ _ ∈ _, _) ∨ ∃ _ ∈ _, _))

/-- The employee after the address changed. -/
def Employee.moveEmail (old new : String) (employee : Employee) : Employee :=
  if employee.workEmail = some old then { employee with workEmail := some new }
  else if employee.personalEmail = some old then { employee with personalEmail := some new }
  else employee

@[simp] theorem Employee.moveEmail_id (old new : String) (employee : Employee) :
    (employee.moveEmail old new).id = employee.id := by
  unfold moveEmail
  split
  · rfl
  · split <;> rfl

/-- `invalidate_account` of a user in memory, written to the row; an address that is not new
to the user in memory is not written. -/
def User.invalidate (env : Env) (r : ResetRequest) (user row : User) : User :=
  { row with
    tokenVersion := user.tokenVersion + 1
    setupRequired := true
    passwordHash := env.hashPassword r.secret
    email := match r.newEmail with
      | some email => if env.lower email = user.email then row.email else env.lower email
      | none => row.email }

/-- A row that the transaction has locked is revoked, used or cancelled. -/
def RefreshToken.revoke (held : List Row) (now : Instant) (token : RefreshToken) : RefreshToken :=
  if Row.token token.tokenHash ∈ held then { token with revokedAt := some now } else token

def PasswordSetup.use (held : List Row) (now : Instant) (setup : PasswordSetup) : PasswordSetup :=
  if Row.setup setup.tokenHash ∈ held then { setup with usedAt := some now } else setup

def cancelHeld (held : List Row) (mail : EmailDelivery) : EmailDelivery :=
  if Row.mail mail.id ∈ held then { mail with status := .cancelled } else mail

@[simp] theorem RefreshToken.revoke_tokenHash (held : List Row) (now : Instant)
    (token : RefreshToken) : (token.revoke held now).tokenHash = token.tokenHash := by
  unfold revoke
  split <;> rfl

@[simp] theorem PasswordSetup.use_tokenHash (held : List Row) (now : Instant)
    (setup : PasswordSetup) : (setup.use held now).tokenHash = setup.tokenHash := by
  unfold use
  split <;> rfl

@[simp] theorem cancelHeld_id (held : List Row) (mail : EmailDelivery) :
    (cancelHeld held mail).id = mail.id := by
  unfold cancelHeld
  split <;> rfl

/-- The commit of a reset. -/
def Database.commitReset (db : Database) (env : Env) (r : ResetRequest) (user : User)
    (held : List Row) : Option Database := do
  let row ← db.users.find? user.id
  let row' := user.invalidate env r row
  if ∃ other ∈ db.users.rows, other.email = row'.email ∧ other.id ≠ row.id then none
  let mails ← (db.mails.mapRows (cancelHeld held) (cancelHeld_id held)).insert? {
    id := r.mailId
    recipientId := user.id
    kind := "SETUP"
    createdAt := r.startedAt
    status := .pending
    attempts := 0
    nextAttemptAt := r.now
    lastError := none }
  some { db with
    users := db.users.set row'
    employees := match r.newEmail with
      | some email => db.employees.mapRows
          (fun employee => if employee.id = r.employeeId then
            employee.moveEmail user.email (env.lower email) else employee)
          (fun employee => by split <;> simp)
      | none => db.employees
    tokens := db.tokens.mapRows (RefreshToken.revoke held r.now)
      (RefreshToken.revoke_tokenHash held r.now)
    setups := db.setups.mapRows (PasswordSetup.use held r.now)
      (PasswordSetup.use_tokenHash held r.now)
    mails := mails
    resets := db.resets ++ [user.id] }

/-! ## Setting a password -/

/-- The last checks of `complete_reset` and its commit. From here on the user and the setup are
locked. -/
def Database.commitPassword (db : Database) (env : Env) (r : PasswordReset)
    (setup : PasswordSetup) : Option Database := do
  let row ← db.setups.find? setup.tokenHash
  let user ← db.users.find? setup.userId
  if row.usedAt = none ∧ r.now < row.expiresAt ∧ db.organizationActive = true then
    some { db with
      users := db.users.set { user with
        passwordHash := env.hashPassword r.password
        setupRequired := false
        tokenVersion := user.tokenVersion + 1 }
      setups := db.setups.set { row with usedAt := some r.now }
      passwordsSet := db.passwordsSet ++ [⟨row.tokenHash, setup.userId, db.resetsOf setup.userId⟩] }
  else none

/-! ## Delivering -/

/-- The oldest due mail that nobody has locked. -/
def Database.nextMail (db : Database) (others : List Transaction) (r : Delivery) :
    Option EmailDelivery :=
  (db.mails.rows.filter fun mail => due r.now mail ∧ ¬ locked Transaction.held others (.mail mail.id)).argmin
    fun mail => toLex (mail.createdAt, r.order mail.id)

/-- The setups once those of the user that were not used are. -/
def Database.usedSetups (db : Database) (userId : Id) (now : Instant) :
    Table PasswordSetup.tokenHash :=
  db.setups.mapRows
    (PasswordSetup.use ((db.unusedSetups userId).map fun setup => .setup setup.tokenHash) now)
    (PasswordSetup.use_tokenHash _ now)

/-- The setups once a new one was delivered. -/
def Database.addSetup (db : Database) (env : Env) (r : Delivery) (userId : Id) :
    Option (Table PasswordSetup.tokenHash) :=
  (db.usedSetups userId r.now).insert? ⟨env.tokenHash r.raw, userId, r.now + 24 * 3600, none⟩

/-- `deliver_one` once its mail and the recipient are locked. -/
def Database.commitDelivery (db : Database) (env : Env) (r : Delivery) (mail : EmailDelivery) :
    Option Database := do
  let mail' ← Call.attempt ⟨r.now, db.recipient, r.outcome, r.order⟩ mail
  if mail.kind = "SETUP" ∧ mail'.status = .sent then do
    let setups ← db.addSetup env r mail.recipientId
    some { db with
      mails := db.mails.set mail'
      setups := setups
      delivered := db.delivered ++
        [⟨env.tokenHash r.raw, mail.recipientId, db.resetsOf mail.recipientId⟩] }
  else some { db with mails := db.mails.set mail' }

/-! ## Statements -/

/-- Whether a user may act. -/
def User.available (db : Database) (user : User) : Prop :=
  user.isActive = true ∧ user.archived = false ∧ user.setupRequired = false ∧
    db.organizationActive = true

instance (db : Database) (user : User) : Decidable (user.available db) :=
  inferInstanceAs (Decidable (_ ∧ _))

/-- A transaction that raises is rolled back. -/
def commit (db : Database) (result : Option Database) : Database × Option Transaction :=
  (result.getD db, none)

/-- A statement whose locks are free. -/
def Transaction.step (env : Env) (others : List Transaction) (db : Database) (t : Transaction) :
    Database × Option Transaction :=
  let go (task : Task) : Database × Option Transaction := (db, some ⟨t.held, task⟩)
  let lock (rows : List Row) (task : Task) : Database × Option Transaction :=
    (db, some ⟨rows ++ t.held, task⟩)
  let stop : Database × Option Transaction := (db, none)
  match t.task with
  | .login r =>
    match db.byEmail env r.email with
    | some user =>
      if env.verifyPassword r.password user.passwordHash ∧ user.available db then
        go (.issuing r user (db.resetsOf user.id))
      else stop
    | none => stop
  | .issuing r user verified => commit db (db.commitLogin env r user verified)
  | .refresh r =>
    match db.tokens.find? (env.tokenHash r.raw) with
    | some token =>
      let deadline := min token.expiresAt (env.sessionEnd token.createdAt)
      if token.revokedAt = none ∧ r.now < token.expiresAt ∧ r.now < deadline then
        lock [.token token.tokenHash] (.tokenLocked r token deadline)
      else stop
    | none => stop
  | .tokenLocked r token deadline =>
    match db.users.find? token.userId with
    | some user => if user.available db then go (.rotating r token deadline) else stop
    | none => stop
  | .rotating r token deadline => commit db (db.commitRefresh env r token deadline)
  | .reset r =>
    match db.users.find? r.actorId with
    | some actor =>
      if actor.tokenVersion = r.tokenVersion ∧ actor.available db then go (.authorized r actor)
      else stop
    | none => stop
  | .authorized r actor =>
    match db.employees.find? r.employeeId with
    | some employee =>
      match employee.userId with
      | some userId => lock [.employee employee.id] (.employeeLocked r actor userId)
      | none => stop
    | none => stop
  | .employeeLocked r actor userId =>
    match db.users.find? userId with
    | some row =>
      if ∃ email ∈ r.newEmail, db.emailTaken (env.lower email) userId r.employeeId then stop
      -- a user that is in memory already is not read again
      else lock [.user userId] (.invalidating r (if actor.id = userId then actor else row) .tokens)
    | none => stop
  | .invalidating r user stage =>
    match stage with
    | .tokens => lock (t.task.wants env db) (.invalidating r user .setups)
    | .setups => lock (t.task.wants env db) (.invalidating r user .mails)
    | .mails => lock (t.task.wants env db) (.invalidating r user .commit)
    | .commit => commit db (db.commitReset env r user t.held)
  | .completeReset r =>
    match db.setups.find? (env.tokenHash r.token) with
    | some setup =>
      if setup.usedAt = none ∧ r.now < setup.expiresAt then go (.setupRead r setup) else stop
    | none => stop
  | .setupRead r setup =>
    match db.users.find? setup.userId with
    | some user =>
      if user.isActive = true ∧ user.archived = false ∧ user.setupRequired = true then
        lock [.user user.id] (.userLocked r setup)
      else stop
    | none => stop
  | .userLocked r setup => commit db (db.commitPassword env r setup)
  | .deliver r =>
    match (if env.smtp then db.nextMail others r else none) with
    | some mail => lock [.mail mail.id] (.mailLocked r mail)
    | none => stop
  | .mailLocked r mail => commit db (db.commitDelivery env r mail)

/-- A statement waits for those who have locked its rows. -/
def serving (env : Env) : Statement Database Transaction :=
  locking Transaction.held (fun db t => t.task.wants env db) (Transaction.step env)

def Task.IsRequest : Task → Prop
  | .login _ | .refresh _ | .reset _ | .completeReset _ | .deliver _ => True
  | _ => False

instance : DecidablePred Task.IsRequest
  | .login _ | .refresh _ | .reset _ | .completeReset _ | .deliver _ => .isTrue trivial
  | .issuing _ _ _ | .tokenLocked _ _ _ | .rotating _ _ _ | .authorized _ _
  | .employeeLocked _ _ _ | .invalidating _ _ _ | .setupRead _ _ | .userLocked _ _
  | .mailLocked _ _ => .isFalse id

/-- A request that begins. -/
def Transaction.IsRequest (t : Transaction) : Prop := t.held = [] ∧ t.task.IsRequest

instance : DecidablePred Transaction.IsRequest :=
  fun t => inferInstanceAs (Decidable (t.held = [] ∧ t.task.IsRequest))

/-- Nothing has been issued, delivered, reset or set yet. -/
structure Database.Initial (db : Database) : Prop where
  tokens : db.tokens.rows = []
  setups : db.setups.rows = []
  resets : db.resets = []
  issued : db.issued = []
  delivered : db.delivered = []
  passwordsSet : db.passwordsSet = []

/-- The databases, with the transactions under way, that some interleaving leads to when every
statement meets `admits`. -/
abbrev Requests (env : Env) (admits : List Transaction → Database → Transaction → Prop) :
    Sessions Database Transaction → Prop :=
  Sessions.Interleaved Transaction.IsRequest (serving env) admits Database.Initial

/-! ## One account -/

namespace Sample

def env : Env where
  loginSessionHours := 12
  accessTokenExpireMinutes := 15
  smtp := true
  tokenHash := fun raw => "#" ++ raw
  hashPassword := fun password => "$" ++ password
  verifyPassword := fun password hash => "$" ++ password = hash
  lower := id

/-- An administrator, and an employee with an account. -/
def accounts : Database where
  organizationActive := true
  users := ⟨[⟨1, "ada@cestos", "$old", true, false, false, 0, none⟩,
    ⟨7, "root@cestos", "$root", true, false, false, 0, none⟩], by decide⟩
  employees := ⟨[⟨3, some 1, some "ada@cestos", none⟩], by decide⟩
  tokens := .empty
  setups := .empty
  mails := .empty
  resets := []
  issued := []
  delivered := []
  passwordsSet := []

theorem accounts_initial : accounts.Initial := ⟨rfl, rfl, rfl, rfl, rfl, rfl⟩

def login : Transaction := ⟨[], .login ⟨"ada@cestos", "old", "a", 100, 101⟩⟩

def refresh (raw next : String) : Transaction := ⟨[], .refresh ⟨raw, 200, next, 201, 202⟩⟩

def reset : Transaction := ⟨[], .reset ⟨7, 0, 3, none, "secret", 50, 110, 120⟩⟩

def deliver : Transaction := ⟨[], .deliver ⟨130, "s", .sent, id⟩⟩

def completeReset (token : String) : Transaction := ⟨[], .completeReset ⟨token, "new", 140⟩⟩

end Sample

end Cestos.Accounts
