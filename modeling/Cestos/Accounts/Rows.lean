import Cestos.Core.Sessions
import Cestos.Core.Table
import Cestos.Mail.Queue

/-!
# Accounts

Users with their refresh tokens, the password setups that are mailed to them, and the queue of
these mails, in one organization. What was issued, delivered, reset and set is recorded beside
the tables.
-/

namespace Cestos.Accounts

open Cestos.Core Cestos.Mail

structure User where
  id : Id
  email : String
  passwordHash : String
  isActive : Bool
  archived : Bool
  setupRequired : Bool
  tokenVersion : Nat
  lastLoginAt : Option Instant

structure Employee where
  id : Id
  userId : Option Id
  workEmail : Option String
  personalEmail : Option String

/-- Its hash is unique. -/
structure RefreshToken where
  tokenHash : String
  userId : Id
  createdAt : Instant
  expiresAt : Instant
  revokedAt : Option Instant

/-- Its hash is unique. -/
structure PasswordSetup where
  tokenHash : String
  userId : Id
  expiresAt : Instant
  usedAt : Option Instant

/-! ## Records -/

/-- A refresh token that was issued, with the access token that came with it. -/
structure Issued where
  tokenHash : String
  userId : Id
  /-- The token it was exchanged for; a login has none. -/
  parent : Option String
  issuedAt : Instant
  expiresAt : Instant
  accessExpiresAt : Instant
  /-- The resets of the user that had been committed when the login read the user. -/
  verified : Nat
  /-- The resets of the user that had been committed when it was issued. -/
  resets : Nat

/-- A setup token that was mailed, or that set a password, and the resets of its user that had
been committed by then. -/
structure SetupEvent where
  tokenHash : String
  userId : Id
  resets : Nat

structure Database where
  organizationActive : Bool
  users : Table User.id
  employees : Table Employee.id
  tokens : Table RefreshToken.tokenHash
  setups : Table PasswordSetup.tokenHash
  mails : Table EmailDelivery.id
  /-- The user of every reset that was committed. -/
  resets : List Id
  issued : List Issued
  delivered : List SetupEvent
  passwordsSet : List SetupEvent

/-- The settings, and the functions of texts and passwords. -/
structure Env where
  loginSessionHours : Nat
  accessTokenExpireMinutes : Nat
  /-- Whether a mail server is configured. -/
  smtp : Bool
  tokenHash : String → String
  hashPassword : String → String
  verifyPassword : String → String → Bool
  lower : String → String

/-! ## Locks -/

/-- What a transaction locks. -/
inductive Row
  | employee (id : Id)
  | user (id : Id)
  | token (tokenHash : String)
  | setup (tokenHash : String)
  | mail (id : Id)
  deriving DecidableEq

namespace Database

/-- The resets of a user that have been committed. -/
def resetsOf (db : Database) (userId : Id) : Nat := db.resets.count userId

/-- The refresh tokens of a user that a reset revokes. -/
def liveTokens (db : Database) (userId : Id) : List RefreshToken :=
  db.tokens.rows.filter fun token => token.userId = userId ∧ token.revokedAt = none

/-- The setups of a user that are not used. -/
def unusedSetups (db : Database) (userId : Id) : List PasswordSetup :=
  db.setups.rows.filter fun setup => setup.userId = userId ∧ setup.usedAt = none

/-- The mails of a user that a reset cancels. -/
def queuedSetups (db : Database) (userId : Id) : List EmailDelivery :=
  db.mails.rows.filter fun mail =>
    mail.recipientId = userId ∧ mail.kind = "SETUP" ∧ mail.status = .pending

/-- The user that a login reads. -/
def byEmail (db : Database) (env : Env) (email : String) : Option User :=
  db.users.rows.find? fun user => user.email = env.lower email

/-- What an attempt to deliver looks up of a recipient. -/
def recipient (db : Database) (userId : Id) : Option Recipient :=
  (db.users.find? userId).map fun user =>
    ⟨user.isActive, user.archived, user.setupRequired, db.organizationActive⟩

end Database

end Cestos.Accounts
