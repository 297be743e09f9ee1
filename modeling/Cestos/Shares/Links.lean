import Cestos.Core.Interleaving
import Cestos.Core.Table
import Cestos.Shares.Workbook

/-!
# Share links

A link is made for a workbook, edited by those it names, and revoked by its owner. An update reads
the clock before it waits for the row of the link; from then on the row is its own until it is
committed. A revocation waits for the row as well.
-/

namespace Cestos.Shares

open Cestos.Core Cestos.Core.Json

abbrev Id := Nat

/-- Seconds. -/
abbrev Instant := Nat

structure User where
  id : Id
  organizationId : Id
  email : String
  isActive : Bool
  archivedAt : Option Instant

/-- What stays as it is once a link is made. -/
structure Link where
  id : Id
  organizationId : Id
  ownerId : Id
  workbookId : String
  tokenHash : String
  editorIds : List Id
  expiresAt : Instant

structure WorkbookShare extends Link where
  workbook : PublicWorkbook
  revision : Nat
  history : List (Nat × PublicWorkbook)
  revoked : Bool

structure ShareCreate where
  workbook : Members
  editorEmails : List String
  expiresDays : Nat
  editors_le : editorEmails.length ≤ 30
  days_within : 1 ≤ expiresDays ∧ expiresDays ≤ 90

structure ShareUpdate where
  workbook : Members
  revision : Nat
  revision_pos : 1 ≤ revision

/-- An update that was accepted, with the row that it has found and the one that it has left. -/
structure Update where
  began : Instant
  actor : User
  payload : ShareUpdate
  before : WorkbookShare
  after : WorkbookShare

inductive Event
  | created (row : WorkbookShare)
  | revoked (identifier : Id)
  | updated (u : Update)

/-- The tables, and what has happened to the links, the last first. -/
structure Database where
  users : List User
  shares : Table fun row : WorkbookShare => row.id
  events : List Event

/-- The text functions, SHA-256 and the `lower` of the database. -/
structure LinkEnv extends Env where
  digest : String → String
  lowerColumn : String → String

inductive Response
  | created (id : Id) (token : String) (expiresAt : Instant)
  | revoked
  | updated (revision : Nat)

/-! ## Making links -/

/-- An active account of the organization with the e-mail address. -/
def findEditor (env : LinkEnv) (db : Database) (actor : User) (email : String) :
    Except Refusal Id := do
  let user ← orError (db.users.find? fun user => user.organizationId = actor.organizationId ∧
      env.lowerColumn user.email = email ∧ user.isActive = true ∧ user.archivedAt = none)
    (invalid "An editor email does not match an active account in your organization")
  .ok user.id

/-- The identifier and the token are random. -/
def create (env : LinkEnv) (db : Database) (now : Instant) (actor : User) (payload : ShareCreate)
    (id : Id) (token : String) : Except Refusal (Database × Response) := do
  let book ← cleanWorkbook env.toEnv payload.workbook
  let editors ← (payload.editorEmails.map fun e => env.lower (env.strip e)).dedup.mapM
    (findEditor env db actor)
  let row : WorkbookShare := {
    id
    organizationId := actor.organizationId
    ownerId := actor.id
    workbookId := book.id
    tokenHash := env.digest token
    editorIds := editors
    expiresAt := now + payload.expiresDays * 86400
    workbook := book
    revision := 1
    history := []
    revoked := false }
  ensure (∀ other ∈ db.shares.rows, other.tokenHash ≠ row.tokenHash) .raised
  let shares ← orError (db.shares.insert? row) .raised
  .ok ({ db with shares, events := .created row :: db.events }, .created id token row.expiresAt)

/-! ## Revoking and updating -/

def lookup (env : LinkEnv) (db : Database) (now : Instant) (token : String) :
    Except Refusal WorkbookShare := do
  ensure (30 ≤ token.length ∧ token.length ≤ 100) (.http 404 "Share not found")
  orError (db.shares.rows.find? fun row => row.tokenHash = env.digest token ∧
    row.revoked = false ∧ now < row.expiresAt) (.http 404 "Share expired, revoked or unavailable")

def Link.CanEdit (link : Link) (actor : User) : Prop :=
  link.organizationId = actor.organizationId ∧
    (link.ownerId = actor.id ∨ actor.id ∈ link.editorIds)

instance (link : Link) : DecidablePred link.CanEdit :=
  fun _ => inferInstanceAs (Decidable (_ ∧ (_ ∨ _)))

def revoke (db : Database) (actor : User) (identifier : Id) :
    Except Refusal (Database × Response) := do
  let row ← orError (db.shares.rows.find? fun row => row.id = identifier ∧
    row.ownerId = actor.id ∧ row.organizationId = actor.organizationId)
    (.http 404 "Share not found")
  .ok ({ db with
    shares := db.shares.set { row with revoked := true }
    events := .revoked row.id :: db.events }, .revoked)

/-- The row with the new contents, and with at most five earlier ones. -/
def WorkbookShare.save (row : WorkbookShare) (book : PublicWorkbook) : WorkbookShare :=
  { row with
    history := ((row.revision, row.workbook) :: row.history).take 5
    workbook := book
    revision := row.revision + 1 }

def update (env : LinkEnv) (db : Database) (now : Instant) (actor : User) (token : String)
    (payload : ShareUpdate) : Except Refusal (Database × Response) := do
  let row ← lookup env db now token
  ensure (row.CanEdit actor) (.http 403 "This link is read-only for your account")
  ensure (row.revision = payload.revision) (.http 409 <| "Another editor saved a newer version. " ++
    "Download your backup, reload and reconcile your changes.")
  let book ← cleanWorkbook env.toEnv payload.workbook
  ensure (book.id = row.workbookId) (invalid "Workbook identity cannot change")
  let saved := row.save book
  .ok ({ db with
    shares := db.shares.set saved
    events := .updated ⟨now, actor, payload, row, saved⟩ :: db.events }, .updated saved.revision)

/-! ## Requests -/

/-- A request with the time at which it reads the clock. -/
inductive Request
  | create (began : Instant) (actor : User) (payload : ShareCreate) (id : Id) (token : String)
  | revoke (began : Instant) (actor : User) (identifier : Id)
  | update (began : Instant) (actor : User) (token : String) (payload : ShareUpdate)

def Request.began : Request → Instant
  | .create began .. => began
  | .revoke began .. => began
  | .update began .. => began

def handle (env : LinkEnv) (db : Database) : Request → Except Refusal (Database × Response)
  | .create began actor payload id token => Shares.create env db began actor payload id token
  | .revoke _ actor identifier => Shares.revoke db actor identifier
  | .update began actor token payload => Shares.update env db began actor token payload

/-- A request that is refused leaves everything as it is. -/
def serve (env : LinkEnv) (db : Database) (r : Request) : Database :=
  match handle env db r with
  | .ok (db, _) => db
  | .error _ => db

/-- Requests that wait for the rows of the links, from a database without links. -/
abbrev Interleaved (env : LinkEnv) (users : List User) : Service Database Request → Prop :=
  Service.Interleaved Request.began (serve env) (fun _ _ => True) ⟨users, .empty, []⟩

end Cestos.Shares
