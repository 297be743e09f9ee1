import Cestos.Core.Table
import Cestos.Core.Transactions
import Mathlib.Data.List.Sort

/-!
# The change feed

For every organization and table a revision, which a trigger raises with every row that is
inserted, updated or deleted. The trigger belongs to the transaction that writes the row, so the
revision stays locked until it commits. Migrations install the trigger on the tables that there
are; the portals read the revisions and reload what has changed.
-/

namespace Cestos.Feed

open Cestos.Core

abbrev Id := Nat

/-- An organization and a table. -/
abbrev Key := Id × String

/-- A row of `platform_data_changes`. -/
structure DataChange where
  organizationId : Id
  tableName : String
  revision : Nat
  deriving DecidableEq

def DataChange.key (c : DataChange) : Key := (c.organizationId, c.tableName)

def feedTable : String := "platform_data_changes"

/-! ## Schema -/

/-- A table: whether it has a column `organization_id`, and whether it has the trigger. -/
structure TableInfo where
  name : String
  organizationId : Bool
  tracked : Bool
  deriving DecidableEq

abbrev Schema := List TableInfo

inductive Migration
  | createTable (name : String) (organizationId : Bool)
  | addOrganizationId (name : String)
  | dropTable (name : String)
  /-- `20261016_data_change_feed`. -/
  | dataChangeFeed
  /-- `20261017_repair_change_feed`. -/
  | repairChangeFeed

def Schema.createTable (s : Schema) (name : String) (organizationId : Bool) : Schema :=
  if name ∈ s.map (·.name) then s else s ++ [⟨name, organizationId, false⟩]

/-- The trigger is installed on every table with an `organization_id`, but not on the feed. -/
def TableInfo.track (t : TableInfo) : TableInfo :=
  if t.organizationId ∧ t.name ≠ feedTable then { t with tracked := true } else t

def Schema.trackAll (s : Schema) : Schema := (s.createTable feedTable true).map TableInfo.track

def Schema.migrate (s : Schema) : Migration → Schema
  | .createTable name organizationId => s.createTable name organizationId
  | .addOrganizationId name =>
    s.map fun t => if t.name = name then { t with organizationId := true } else t
  | .dropTable name => s.filter fun t => t.name ≠ name
  | .dataChangeFeed => s.trackAll
  | .repairChangeFeed => s.trackAll

/-- The migrations since the feed that change what tables there are. -/
def latest : List Migration :=
  [.dataChangeFeed, .repairChangeFeed, .createTable "workbook_shares" true]

/-- The final schema, whatever tables there were before the feed. -/
def upgrade (earlier : List Migration) : Schema :=
  (earlier ++ latest).foldl Schema.migrate []

def Schema.HasOrganizationId (s : Schema) (table : String) : Prop :=
  ∃ t ∈ s, t.name = table ∧ t.organizationId = true

def Schema.Tracks (s : Schema) (table : String) : Prop :=
  ∃ t ∈ s, t.name = table ∧ t.tracked = true

instance (s : Schema) : DecidablePred s.HasOrganizationId :=
  fun _ => inferInstanceAs (Decidable (∃ _ ∈ _, _ ∧ _))

instance (s : Schema) : DecidablePred s.Tracks :=
  fun _ => inferInstanceAs (Decidable (∃ _ ∈ _, _ ∧ _))

/-! ## Rows -/

/-- A row that is written, by the organization it had and the one it has now. -/
inductive RowWrite
  | insert (table : String) (new : Option Id)
  | update (table : String) (old new : Option Id)
  | delete (table : String) (old : Option Id)
  deriving DecidableEq

def RowWrite.table : RowWrite → String
  | .insert table _ => table
  | .update table _ _ => table
  | .delete table _ => table

def RowWrite.oldOrg : RowWrite → Option Id
  | .insert _ _ => none
  | .update _ old _ => old
  | .delete _ old => old

def RowWrite.newOrg : RowWrite → Option Id
  | .insert _ new => new
  | .update _ _ new => new
  | .delete _ _ => none

/-- The organizations whose revision the trigger raises, in its order. -/
def RowWrite.organizations (row : RowWrite) : List Id :=
  row.oldOrg.toList ++ if row.newOrg = row.oldOrg then [] else row.newOrg.toList

/-- Whether the row was one of the organization, or is now. -/
def RowWrite.Of (organizationId : Id) (row : RowWrite) : Prop :=
  row.oldOrg = some organizationId ∨ row.newOrg = some organizationId

instance (organizationId : Id) : DecidablePred (RowWrite.Of organizationId) :=
  fun _ => inferInstanceAs (Decidable (_ ∨ _))

/-- The schema, the feed, and the rows that each transaction has committed. -/
structure Database where
  schema : Schema
  feed : Table DataChange.key
  committed : List (List RowWrite)

/-- The revisions that a transaction holds, those it has raised, and the rows that it has written;
the last first. -/
structure Work where
  held : List Key
  changes : List DataChange
  written : List RowWrite
  deriving DecidableEq

/-- `get_data_changes`. -/
def Database.getDataChanges (db : Database) (organizationId : Id) : List (String × Nat) :=
  ((db.feed.rows.filter fun c => c.organizationId = organizationId).mergeSort
    fun c d => c.tableName ≤ d.tableName).map fun c => (c.tableName, c.revision)

/-! ## Statements -/

/-- What a transaction has written to the feed. -/
def Work.change? (w : Work) (key : Key) : Option DataChange :=
  w.changes.find? fun c => c.key = key

def Work.view (db : Database) (w : Work) (key : Key) : Option DataChange :=
  (w.change? key).or (db.feed.find? key)

/-- How far the write of a row has come. -/
inductive Stage
  | write (row : RowWrite)
  /-- The trigger, with the revisions that are still to be raised. -/
  | track (row : RowWrite) (organizations : List Id)

/-- The insert into the feed waits for another transaction that inserts or raises the revision. -/
def Work.wants (_db : Database) (_w : Work) : Stage → List Key
  | .track row (organizationId :: _) => [(organizationId, row.table)]
  | _ => []

/-- The revision that the trigger writes: one, or one more. -/
def Work.raised (db : Database) (w : Work) (key : Key) : DataChange :=
  ⟨key.1, key.2, (w.view db key).elim 1 (·.revision + 1)⟩

/-- The feed has an `organization_id` as well. -/
def Work.raise (db : Database) (w : Work) (key : Key) : Work where
  held := key :: w.held
  changes := w.raised db key :: w.changes
  written := match w.view db key with
    | none => .insert feedTable (some key.1) :: w.written
    | some _ => .update feedTable (some key.1) (some key.1) :: w.written

/-- The row counts as written when the trigger is through. -/
def writeRow (db : Database) (w : Work) : Stage → Progress Work Stage
  | .write row =>
    if db.schema.Tracks row.table then .goes w (.track row row.organizations)
    else .done { w with written := row :: w.written }
  | .track row [] => .done { w with written := row :: w.written }
  | .track row (organizationId :: organizations) =>
    .goes (w.raise db (organizationId, row.table)) (.track row organizations)

def Database.commit (db : Database) (w : Work) : Database where
  schema := db.schema
  feed := db.feed.upsertAll w.changes
  committed := db.committed ++ [w.written.reverse]

def writing : Calls Database Work RowWrite Stage Key where
  idle := ⟨[], [], []⟩
  held := Work.held
  start := .write
  wants := Work.wants
  next := writeRow
  commit := Database.commit

abbrev State : Type := Sessions Database (Transaction Work RowWrite Stage)

/-- Any number of statements of transactions that write rows. -/
abbrev Steps : State → State → Prop :=
  Relation.ReflTransGen (Sessions.Step writing.Begins writing.serving fun _ _ _ => True)

/-- The databases with the final schema, and the transactions under way. -/
abbrev Interleaved (earlier : List Migration) : State → Prop :=
  Sessions.Interleaved writing.Begins writing.serving (fun _ _ _ => True) fun db =>
    db.schema = upgrade earlier

/-- Between two reads that find the same revision of the table, or none both times, no transaction
commits that has written a row of the table and the organization. -/
def Detected (earlier : List Migration) (table : String) : Prop :=
  ∀ organizationId s s', Interleaved earlier s → Steps s s' →
    (s.db.getDataChanges organizationId).lookup table =
      (s'.db.getDataChanges organizationId).lookup table →
    ∃ more, s'.db.committed = s.db.committed ++ more ∧
      ∀ rows ∈ more, ∀ row ∈ rows, row.table = table → ¬ row.Of organizationId

end Cestos.Feed
