import Cestos.Inventory.Movements

/-!
# Requests and runs

A request is one database transaction. The advisory lock makes the requests of an
organization run one after the other, in the order in which they get the lock; what
a request that raises has changed is rolled back. `Calls` names the movements an
operation makes with the state each of them starts from, so that a run can be
restricted to movements that meet a condition.
-/

namespace Cestos.Inventory

open Cestos.Core Cestos.Core.Decimal

/-- `ACTIONS`: the routes there are. -/
def actions : DocumentKind → List Action
  | .receipts => [.post, .cancel]
  | .issues => [.approve, .post, .cancel]
  | .returns => [.post]
  | .transfers => [.approve, .dispatch, .receive, .cancel]
  | .requests => [.submit, .approve, .reject, .cancel]
  | .adjustments => [.approve, .post, .cancel]
  | .stockCounts => [.start, .restart, .submit, .approve, .post]

inductive Operation
  /-- Any change to the master data besides the items. -/
  | masters (references : References)
  | itemSave (identifier : Option Id) (body : ItemBody)
  | archive (id : Id) (restore : Bool)
  | documentSave (kind : DocumentKind) (identifier : Option Id) (body : DocumentBody)
  | requestIssue (id storeId : Id)
  | action (kind : DocumentKind) (id : Id) (act : Action) (body : ActionBody)
  | reserve (body : ReservationBody)
  | release (id : Id) (cancel : Bool)
  | reverse (id : Id)

def exec (ctx : Context 28 12) (env : Env) (db : Database) : Operation → Outcome Database
  | .masters references => .ok { db with references }
  | .itemSave identifier body => itemSave env db body identifier
  | .archive id restore => archive db id restore
  | .documentSave kind identifier body => do
    let (_, db) ← documentSave ctx env db kind body identifier
    .ok db
  | .requestIssue id storeId => do
    let (_, db) ← requestIssue ctx env db id storeId
    .ok db
  | .action kind id act body => do
    ensure (act ∈ actions kind) (.notFound "Not Found")
    action ctx env db kind id act body
  | .reserve body => reserve ctx env db body
  | .release id cancel => release ctx env db id cancel
  | .reverse id => reverse ctx env db id

/-- One request. Consumption logs and imports make several operations in one. -/
structure Request where
  env : Env
  operations : List Operation

def Request.exec (ctx : Context 28 12) (db : Database) (r : Request) : Outcome Database :=
  r.operations.foldlM (fun db op => Inventory.exec ctx r.env db op) db

/-- The committed state: a request that raises is rolled back. -/
def Request.serve (ctx : Context 28 12) (db : Database) (r : Request) : Database :=
  match r.exec ctx db with
  | .ok db' => db'
  | .error _ => db

/-! ## The movements of a run -/

/-- The service functions that move stock, with their arguments. -/
inductive Call
  | postLine (kind : DocumentKind) (doc : Document) (line : Line) (act : Action)
  | reserve (body : ReservationBody)
  | release (id : Id) (cancel : Bool)
  | reverse (id : Id)

def Call.run (ctx : Context 28 12) (env : Env) (db : Database) : Call → Outcome Database
  | .postLine kind doc line act => Inventory.postLine ctx env db kind doc line act
  | .reserve body => Inventory.reserve ctx env db body
  | .release id cancel => Inventory.release ctx env db id cancel
  | .reverse id => Inventory.reverse ctx env db id

/-- The lines of a document as they are posted, each with the state it starts from. -/
def lineCalls (ctx : Context 28 12) (env : Env) (kind : DocumentKind) (doc : Document)
    (act : Action) : List Line → Database → List (Database × Call)
  | [], _ => []
  | line :: rest, db =>
    (db, .postLine kind doc line act) ::
      match Inventory.postLine ctx env db kind doc line act with
      | .ok db' => lineCalls ctx env kind doc act rest db'
      | .error _ => []

/-- The movements of an operation run from `db`, each with the state it starts from. -/
def callsOf (ctx : Context 28 12) (env : Env) (db : Database) :
    Operation → List (Database × Call)
  | .action kind id act _ =>
    match db.document kind id with
    | none => []
    | some doc =>
      if act ∈ actions kind ∧ act ∈ [.post, .dispatch, .receive] ∧
          terminal act ≠ some doc.status then
        lineCalls ctx env kind doc act (db.linesOf doc.id) db
      else []
  | .reserve body => [(db, .reserve body)]
  | .release id cancel => [(db, .release id cancel)]
  | .reverse id => [(db, .reverse id)]
  | _ => []

/-- A condition on a movement and the state it starts from. -/
abbrev CallCondition := Env → Database → Call → Prop

/-- Every movement of the operations, run one after the other from `db`, meets `cond`. -/
def Meets (ctx : Context 28 12) (env : Env) (cond : CallCondition) :
    List Operation → Database → Prop
  | [], _ => True
  | op :: rest, db => (∀ p ∈ callsOf ctx env db op, cond env p.1 p.2) ∧
      match exec ctx env db op with
      | .ok db' => Meets ctx env cond rest db'
      | .error _ => True

/-- The committed states of the runs that start in a state of `init` and all of whose
movements meet `cond`. -/
inductive ReachableWhere (ctx : Context 28 12) (init : Database → Prop) (cond : CallCondition) :
    Database → Prop
  | init {db} : init db → ReachableWhere ctx init cond db
  | request {db db'} (r : Request) : ReachableWhere ctx init cond db →
      Meets ctx r.env cond r.operations db → r.exec ctx db = .ok db' →
      ReachableWhere ctx init cond db'

/-- The committed states of any run from the empty database. -/
abbrev Reachable (ctx : Context 28 12) : Database → Prop :=
  ReachableWhere ctx (· = .empty) (fun _ _ _ => True)

theorem meets_true (ctx : Context 28 12) (env : Env) (ops : List Operation) (db : Database) :
    Meets ctx env (fun _ _ _ => True) ops db := by
  induction ops generalizing db with
  | nil => trivial
  | cons op ops ih =>
      refine ⟨fun _ _ => trivial, ?_⟩
      split
      · exact ih _
      · trivial

theorem Request.serve_of_error {ctx : Context 28 12} {db : Database} {r : Request}
    {e : ServiceError} (h : r.exec ctx db = .error e) : r.serve ctx db = db := by
  simp [serve, h]

/-! ## Sequences of requests -/

def serveAll (ctx : Context 28 12) (db : Database) (requests : List Request) : Database :=
  requests.foldl (fun db r => r.serve ctx db) db

instance decidableMeets (ctx : Context 28 12) (env : Env) (cond : CallCondition)
    [∀ env db c, Decidable (cond env db c)] :
    (ops : List Operation) → (db : Database) → Decidable (Meets ctx env cond ops db)
  | [], _ => .isTrue trivial
  | op :: rest, db => by
    unfold Meets
    have hrest : Decidable (match exec ctx env db op with
        | .ok db' => Meets ctx env cond rest db'
        | .error _ => True) :=
      match exec ctx env db op with
      | .ok db' => decidableMeets ctx env cond rest db'
      | .error _ => .isTrue trivial
    exact inferInstance

/-- Every movement of the requests, served one after the other, meets `cond`. -/
def AllMeet (ctx : Context 28 12) (cond : CallCondition) : List Request → Database → Prop
  | [], _ => True
  | r :: rest, db => Meets ctx r.env cond r.operations db ∧ AllMeet ctx cond rest (r.serve ctx db)

instance decidableAllMeet (ctx : Context 28 12) (cond : CallCondition)
    [∀ env db c, Decidable (cond env db c)] :
    (requests : List Request) → (db : Database) → Decidable (AllMeet ctx cond requests db)
  | [], _ => .isTrue trivial
  | r :: rest, db =>
    have := decidableAllMeet ctx cond rest (r.serve ctx db)
    inferInstanceAs (Decidable (_ ∧ _))

theorem ReachableWhere.serveAll {ctx : Context 28 12} {init : Database → Prop}
    {cond : CallCondition} {requests : List Request} {db : Database}
    (h : ReachableWhere ctx init cond db) (hmeets : AllMeet ctx cond requests db) :
    ReachableWhere ctx init cond (serveAll ctx db requests) := by
  induction requests generalizing db with
  | nil => exact h
  | cons r rest ih =>
      have hserved : ReachableWhere ctx init cond (r.serve ctx db) := by
        unfold Request.serve
        split
        · next hexec => exact .request r h hmeets.1 hexec
        · exact h
      exact ih hserved hmeets.2

theorem allMeet_true (ctx : Context 28 12) (requests : List Request) (db : Database) :
    AllMeet ctx (fun _ _ _ => True) requests db := by
  induction requests generalizing db with
  | nil => trivial
  | cons r rest ih => exact ⟨meets_true ctx r.env r.operations db, ih _⟩

theorem reachable_serveAll (ctx : Context 28 12) (requests : List Request) :
    Reachable ctx (serveAll ctx .empty requests) :=
  ReachableWhere.serveAll (.init rfl) (allMeet_true ctx requests .empty)

/-! ## A small organization

Two stores, the first with two bins, and one item counted in one unit. -/

/-- The default decimal context of Python. -/
def pythonContext : Context 28 12 := .python

namespace Sample

def env (now : Instant) : Env where
  now := now
  clock := now
  today := 0
  actorId := 1
  uuid := fun n => n + 1
  pick := fun _ => 0
  reservationDate := none

def references : References :=
  { References.empty with
    units := fun id => if id = 1 then some ⟨true, 4⟩ else none
    bins := fun id => if id = 1 ∨ id = 2 then some ⟨1, true⟩ else none
    stores := fun id => if id = 1 ∨ id = 2 then some true else none }

def setUp (item : ItemBody) : Request :=
  ⟨env 1, [.masters references, .itemSave none { item with baseUnitId := some 1 }]⟩

/-- Save a document, which gets the identifier `id`, and post it. -/
def postNew (now : Instant) (kind : DocumentKind) (id : Id) (body : DocumentBody) : Request :=
  ⟨env now, [.documentSave kind none body, .action kind id .post {}]⟩

/-- Save a document, approve it and do `act` with it. -/
def approveNew (now : Instant) (kind : DocumentKind) (id : Id) (act : Action)
    (body : DocumentBody) : Request :=
  ⟨env now, [.documentSave kind none body, .action kind id .approve {}, .action kind id act {}]⟩

/-- A document of one line in the first store. -/
def document (line : LineBody) : DocumentBody where
  storeId := some 1
  items := [line]
  items_valid := by simp

def line (q : PositiveAmount) : LineBody where
  itemId := 1
  unitId := 1
  quantity := q

def receiptLine (q : PositiveAmount) (cost : Amount) : LineBody :=
  { line q with unitCost := some cost }

/-- The bucket of the item in the first store, in no bin and no lot. -/
def bucket : Bucket := ⟨1, 1, none, none⟩

def one : PositiveAmount := ⟨1, by decide +kernel⟩

def three : PositiveAmount := ⟨3, by decide +kernel⟩

def five : PositiveAmount := ⟨5, by decide +kernel⟩

/-- Unit costs. -/
def two : Amount := ⟨2, by decide +kernel⟩

def free : Amount := ⟨0, by decide +kernel⟩

/-- Five units received at a cost of two. -/
def receipt : Request :=
  postNew 2 .receipts 1 (document (receiptLine five two))

def received : List Request := [setUp {}, receipt]

end Sample

end Cestos.Inventory
