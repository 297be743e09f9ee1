import Cestos.Core.Handlers
import Cestos.Core.Interleaving
import Cestos.Inventory.System

/-!
# Consumables logged in the field

A supervisor logs what a shift has consumed: one issue is created and posted, under a reference
with the identifier of the submission. A client that has not received the answer submits again.
The commits of the inventory services are suppressed, so that everything is committed together.
-/

namespace Cestos.Inventory

open Cestos.Core Cestos.Core.Decimal

/-! ## Submissions -/

/-- `ConsumptionLine`. -/
structure ConsumptionLine where
  itemId : Id
  quantity : PositiveAmount
  binId : Option Id := none
  lotId : Option Id := none
  serialId : Option Id := none

/-- `ConsumptionCreate`. -/
structure ConsumptionCreate where
  projectId : Id
  logDate : Day
  storeId : Id
  submissionId : Id
  items : List ConsumptionLine
  items_valid : 1 ≤ items.length ∧ items.length ≤ 200

/-- A request to log consumables. -/
structure Submission where
  env : Env
  body : ConsumptionCreate
  /-- `is_supervisor`. -/
  supervisor : Bool
  /-- Whether `require_project` finds the project among those assigned to the actor. -/
  assigned : Bool

def Submission.reference (r : Submission) : String :=
  "field-consumption:" ++ toString r.body.submissionId

inductive FieldError
  | forbidden (detail : String)
  | service (e : ServiceError)
  deriving DecidableEq

/-- The columns of an issue that only submissions look up. -/
structure IssueHead where
  id : Id
  referenceNumber : Option String
  createdById : Id

/-- The columns of an item that only submissions look up. -/
structure Usage where
  isConsumable : Bool
  archived : Bool

structure FieldStock where
  db : Database
  heads : Table IssueHead.id
  usage : Id → Usage

/-- The issues with a reference. -/
def FieldStock.issues (s : FieldStock) (reference : String) : List IssueHead :=
  s.heads.rows.filter fun head => head.referenceNumber = some reference

def service {α : Type} : Outcome α → Except FieldError α
  | .ok a => .ok a
  | .error e => .error (.service e)

/-! ## One transaction -/

abbrev FieldHandler (α : Type) : Type := Handler (Pending FieldStock) FieldError α

/-- `AtomicInventoryService.commit`, which only flushes. -/
def atomicCommit : FieldHandler Unit := pure ()

/-! ## Logging -/

/-- The line of one entry, and whether its item needs an approval. -/
def consumptionLine (s : FieldStock) (entry : ConsumptionLine) :
    Except FieldError (LineBody × Bool) := do
  let item ← service (found (s.db.items.find? entry.itemId))
  ensure ((s.usage item.id).isConsumable = true ∧ item.isActive = true ∧
      (s.usage item.id).archived = false)
    (.service (.validation "Select an active consumable item"))
  .ok ({ itemId := entry.itemId
         unitId := item.baseUnitId
         quantity := entry.quantity
         binId := entry.binId
         lotId := entry.lotId
         serialId := entry.serialId
         currency := item.defaultCurrency }, item.requiresApprovalToIssue)

/-- `InventoryDocumentCreate` for a submission. -/
def Submission.document (r : Submission) (lines : List LineBody) :
    Except FieldError DocumentBody :=
  if h : 1 ≤ lines.length ∧ lines.length ≤ 200 then
    .ok { projectId := some r.body.projectId
          storeId := some r.body.storeId
          transactionDate := some ⟨86400 * r.body.logDate, true⟩
          purpose := .projectConsumption
          items := lines
          items_valid := h }
  else .error (.service (.validation "items"))

/-- `document_save`, which also writes the reference and who has created the issue. -/
def saveLogged (ctx : Context 28 12) (r : Submission) (body : DocumentBody) (s : FieldStock) :
    Except FieldError (Id × FieldStock) := do
  let (id, db) ← service (documentSave ctx r.env s.db .issues body none)
  let heads ← orError (s.heads.insert? ⟨id, some r.reference, r.env.actorId⟩)
    (.service (.integrity "pk_inventory_issues"))
  .ok (id, { s with db := db, heads := heads })

def postLogged (ctx : Context 28 12) (r : Submission) (id : Id) (s : FieldStock) :
    Except FieldError (Unit × FieldStock) := do
  let db ← service (action ctx r.env s.db .issues id .post {})
  .ok ((), { s with db := db })

def issueOf (id : Id) (s : FieldStock) : Except FieldError Document :=
  service (found (s.db.document .issues id))

/-- The answer to a submission whose issue exists. -/
def answer (r : Submission) (head : IssueHead) (s : FieldStock) :
    Except FieldError (Id × DocumentStatus) := do
  let doc ← issueOf head.id s
  ensure (doc.projectId = some r.body.projectId ∧ head.createdById = r.env.actorId)
    (.service (.validation "This submission belongs to another consumables log"))
  .ok (doc.id, doc.status)

/-- The issue is posted unless it needs an approval. -/
def postUnless (ctx : Context 28 12) (r : Submission) (id : Id) (needsApproval : Bool) :
    FieldHandler Unit :=
  if needsApproval then pure () else do
    Pending.flushes (postLogged ctx r id)
    atomicCommit

/-- What is done with the lock held. -/
def logLocked (ctx : Context 28 12) (r : Submission) : FieldHandler (Id × DocumentStatus) := do
  let existing ← .reads fun w => .ok (r.env.first (w.flushed.issues r.reference))
  match existing with
  | some head => .reads fun w => answer r head w.flushed
  | none =>
    let entries ← .reads fun w => r.body.items.mapM (consumptionLine w.flushed)
    let body ← .reads fun _ => r.document (entries.map Prod.fst)
    let id ← Pending.flushes (saveLogged ctx r body)
    atomicCommit
    postUnless ctx r id (entries.any Prod.snd)
    let doc ← .reads fun w => issueOf id w.flushed
    Pending.commit
    pure (doc.id, doc.status)

/-- `log_consumption`. -/
def logConsumption (ctx : Context 28 12) (r : Submission) : FieldHandler (Id × DocumentStatus) := do
  .reads fun _ => ensure (r.supervisor = true)
    (.forbidden "Only supervisors can log field consumables")
  .reads fun _ => ensure (r.assigned = true) (.service (.notFound "Assigned project not found"))
  .cleaning Pending.rollback (logLocked ctx r)

/-- The committed state after a request. -/
def Submission.serve (ctx : Context 28 12) (s : FieldStock) (r : Submission) : FieldStock :=
  (logConsumption ctx r ⟨s, s⟩).2.committed

/-! ## What a submission leaves -/

/-- What a submission does whose reference is new. -/
def consume (ctx : Context 28 12) (s : FieldStock) (r : Submission) :
    Except FieldError FieldStock := do
  let entries ← r.body.items.mapM (consumptionLine s)
  let body ← r.document (entries.map Prod.fst)
  let (id, s) ← saveLogged ctx r body s
  if entries.any Prod.snd then .ok s else (postLogged ctx r id s).map Prod.snd

variable {ctx : Context 28 12} {r : Submission} {s s' : FieldStock}

theorem leaves_postUnless {id : Id} {needsApproval : Bool} {w : Pending FieldStock}
    {ok : Unit → Pending FieldStock → Prop} {raised : Pending FieldStock → Prop}
    (hok : ∀ posted, (if needsApproval then .ok w.flushed else
      (postLogged ctx r id w.flushed).map Prod.snd) = .ok posted → ok () ⟨w.committed, posted⟩)
    (hraised : raised w) : (postUnless ctx r id needsApproval).Leaves w ok raised := by
  unfold postUnless
  split
  · next h => exact hok w.flushed (if_pos h)
  · next h =>
    rw [Handler.leaves_bind]
    refine Pending.leaves_flushes (fun _ posted hposted => hok posted ?_) hraised
    rw [if_neg h, hposted]
    rfl

theorem leaves_logLocked : (logLocked ctx r).Leaves ⟨s, s⟩
    (fun _ w => w.committed = s ∨ s.issues r.reference = [] ∧ consume ctx s r = .ok w.committed)
    (fun w => w.committed = s) := by
  unfold logLocked
  rw [Handler.leaves_bind]
  refine Handler.leaves_of_reads (fun existing hexisting => ?_) fun _ _ => rfl
  obtain rfl := Except.ok.inj hexisting
  split
  · exact Handler.leaves_of_reads (fun _ _ => .inl rfl) fun _ _ => rfl
  · next hnone =>
    have hissues : s.issues r.reference = [] := Env.first_eq_none.1 hnone
    rw [Handler.leaves_bind]
    refine Handler.leaves_of_reads (fun entries hentries => ?_) fun _ _ => rfl
    rw [Handler.leaves_bind]
    refine Handler.leaves_of_reads (fun body hbody => ?_) fun _ _ => rfl
    rw [Handler.leaves_bind]
    refine Pending.leaves_flushes (fun id saved hsaved => ?_) rfl
    rw [Handler.leaves_bind]
    show (postUnless ctx r id _ >>= _).Leaves ⟨s, saved⟩ _ _
    rw [Handler.leaves_bind]
    refine leaves_postUnless (fun posted hposted => ?_) rfl
    rw [Handler.leaves_bind]
    refine Handler.leaves_of_reads (fun doc _ => ?_) fun _ _ => rfl
    refine .inr ⟨hissues, ?_⟩
    simp only [consume, bind_eq_ok]
    exact ⟨entries, hentries, body, hbody, ⟨id, saved⟩, hsaved, hposted⟩

/-- A submission that raises changes nothing; any other is a retry, or has done its work. -/
theorem leaves_logConsumption (ctx : Context 28 12) (r : Submission) (s : FieldStock) :
    (logConsumption ctx r).Leaves ⟨s, s⟩
      (fun _ w => w.committed = s ∨ s.issues r.reference = [] ∧ consume ctx s r = .ok w.committed)
      (fun w => w = ⟨s, s⟩) := by
  unfold logConsumption
  rw [Handler.leaves_bind]
  refine Handler.leaves_of_reads (fun _ _ => ?_) fun _ _ => rfl
  rw [Handler.leaves_bind]
  refine Handler.leaves_of_reads (fun _ _ => ?_) fun _ _ => rfl
  rw [Handler.leaves_cleaning]
  exact leaves_logLocked.mono (fun _ _ h => h) fun w hw => by rw [Pending.rollback, hw]

theorem serve_eq (ctx : Context 28 12) (s : FieldStock) (r : Submission) :
    r.serve ctx s = s ∨ s.issues r.reference = [] ∧ consume ctx s r = .ok (r.serve ctx s) := by
  have hleaves : (logConsumption ctx r).Leaves ⟨s, s⟩
      (fun _ w => w.committed = s ∨ s.issues r.reference = [] ∧ consume ctx s r = .ok w.committed)
      (fun w => w.committed = s ∨
        s.issues r.reference = [] ∧ consume ctx s r = .ok w.committed) :=
    (leaves_logConsumption ctx r s).mono (fun _ _ h => h) fun w hw => .inl (by rw [hw])
  exact Handler.leaves_iff.1 hleaves

theorem postLogged_heads {id : Id} {u : Unit} (h : postLogged ctx r id s = .ok (u, s')) :
    s'.heads = s.heads := by
  simp only [postLogged, bind_eq_ok] at h
  obtain ⟨db, -, heq⟩ := h
  obtain ⟨-, rfl⟩ := Prod.mk.inj (Except.ok.inj heq)
  rfl

theorem consume_heads (h : consume ctx s r = .ok s') :
    ∃ head : IssueHead, head.referenceNumber = some r.reference ∧
      s'.heads.rows = s.heads.rows ++ [head] := by
  simp only [consume, bind_eq_ok] at h
  obtain ⟨entries, -, body, -, ⟨id, saved⟩, hsaved, hposted⟩ := h
  simp only [saveLogged, bind_eq_ok, orError_eq_ok] at hsaved
  obtain ⟨⟨docId, db⟩, -, heads, hins, heq⟩ := hsaved
  obtain ⟨rfl, rfl⟩ := Prod.mk.inj (Except.ok.inj heq)
  refine ⟨⟨docId, some r.reference, r.env.actorId⟩, rfl, ?_⟩
  have hsame : s'.heads = heads := by
    split at hposted
    · obtain rfl := Except.ok.inj hposted
      rfl
    · generalize hpost : postLogged ctx r docId _ = posted at hposted
      cases posted with
      | error e => cases hposted
      | ok result =>
          obtain rfl := Except.ok.inj hposted
          exact postLogged_heads hpost
  rw [hsame]
  exact Table.insert?_rows hins

theorem issues_self (h : consume ctx s r = .ok s') :
    ∃ head, s'.issues r.reference = s.issues r.reference ++ [head] := by
  obtain ⟨head, hreference, hrows⟩ := consume_heads h
  exact ⟨head, by simp [FieldStock.issues, hrows, hreference]⟩

theorem issues_ne (h : consume ctx s r = .ok s') {reference : String}
    (hne : reference ≠ r.reference) : s'.issues reference = s.issues reference := by
  obtain ⟨head, hreference, hrows⟩ := consume_heads h
  simp [FieldStock.issues, hrows, hreference, Ne.symm hne]

/-- A reference is used by the issues that have it. -/
def Used (s : FieldStock) (reference : String) : Prop := s.issues reference ≠ []

theorem once_serve (ctx : Context 28 12) :
    Once Submission.reference Used (consume ctx) (fun s r => r.serve ctx s) where
  serves s r := by simpa [Used] using serve_eq ctx s r
  uses s r s' h := by
    obtain ⟨head, hissues⟩ := issues_self h
    simp [Used, hissues]
  keeps s r s' reference h hused := by
    by_cases heq : reference = r.reference
    · subst heq
      obtain ⟨head, hissues⟩ := issues_self h
      simp [Used, hissues]
    · rwa [Used, issues_ne h heq]

/-! ## Interleavings -/

/-- The submissions of an organization while they begin and wait for its advisory lock. -/
abbrev FieldInterleaved (ctx : Context 28 12) (init : FieldStock) :
    Service FieldStock Submission → Prop :=
  Service.Interleaved (fun r => r.env.now) (fun s r => r.serve ctx s) (fun _ _ => True) init

/-- The issues with a reference are those there were, or there was none and is one. -/
def CreatesOne (init s : FieldStock) : Prop :=
  ∀ reference, s.issues reference = init.issues reference ∨
    init.issues reference = [] ∧ ∃ head, s.issues reference = [head]

theorem CreatesOne.serve {init : FieldStock} (h : CreatesOne init s) (r : Submission) :
    CreatesOne init (r.serve ctx s) := by
  intro reference
  rcases serve_eq ctx s r with hsame | ⟨hnone, hconsume⟩
  · rw [hsame]
    exact h reference
  · by_cases heq : reference = r.reference
    · subst heq
      obtain ⟨head, hissues⟩ := issues_self hconsume
      rw [hnone, List.nil_append] at hissues
      have hinit : init.issues r.reference = [] := by
        rcases h r.reference with hsame | ⟨hinit, -⟩
        · exact hsame ▸ hnone
        · exact hinit
      exact .inr ⟨hinit, head, hissues⟩
    · rw [issues_ne hconsume heq]
      exact h reference

/-- What the submissions of an interleaving have done is what some of them do one after the other,
no two of these with the same identifier; a reference gets one issue at most, and a submission that
raises leaves everything as it is. -/
theorem consumption_once {init : FieldStock} {service : Service FieldStock Submission}
    (h : FieldInterleaved ctx init service) :
    (∃ applied : List Submission, (applied.map (·.body.submissionId)).Nodup ∧
      (∀ r ∈ applied, init.issues r.reference = []) ∧
      applied.foldlM (consume ctx) init = .ok service.state) ∧
    CreatesOne init service.state ∧
    ∀ r e w, logConsumption ctx r ⟨service.state, service.state⟩ = (.error e, w) →
      w = ⟨service.state, service.state⟩ := by
  obtain ⟨applied, happlied⟩ := (once_serve ctx).interleaved h
  refine ⟨⟨applied, ?_, fun r hr => ?_, happlied.effect⟩, ?_, fun r e w hraised => ?_⟩
  · have honce := happlied.once
    rw [show Submission.reference = (fun id : Id => "field-consumption:" ++ toString id) ∘
      (·.body.submissionId) from rfl, ← List.map_map] at honce
    exact honce.of_map _
  · simpa [Used] using happlied.fresh r hr
  · exact h.invariant (fun _ => .inl rfl) fun s r hs _ => hs.serve r
  · have hleaves := leaves_logConsumption ctx r service.state
    unfold Handler.Leaves at hleaves
    rwa [hraised] at hleaves

namespace Sample

/-- Five units of a consumable item, and a project to consume them for. -/
def fieldStock : FieldStock where
  db := serveAll pythonContext .empty [⟨env 1, [.masters { references with
    projects := fun _ => some ⟨.active, true⟩ }, .itemSave none { baseUnitId := some 1 }]⟩, receipt]
  heads := .empty
  usage := fun _ => ⟨true, false⟩

/-- The same submission, at some time and for some quantity. -/
def submission (now : Instant) (quantity : PositiveAmount) : Submission where
  env := env now
  body :=
    { projectId := 1
      logDate := 0
      storeId := 1
      submissionId := 7
      items := [{ itemId := 1, quantity := quantity }]
      items_valid := by simp }
  supervisor := true
  assigned := true

/-- A submission of one unit, and a retry of three units that began before it. -/
def retried : Service FieldStock Submission where
  clock := 4
  state := (submission 3 three).serve pythonContext ((submission 4 one).serve pythonContext fieldStock)
  waiting := []

theorem retried_interleaved : FieldInterleaved pythonContext fieldStock retried := by
  have hbegin : FieldInterleaved pythonContext fieldStock ⟨0, fieldStock, []⟩ := .refl
  have hretry := hbegin.begins (submission 3 three) (Nat.zero_le _)
  have hfirst := hretry.begins (submission 4 one) (Nat.le_succ 3)
  exact (hfirst.serves trivial).serves trivial

end Sample

/-- One unit has left the store, not four. -/
theorem consumption_once_retry :
    Sample.retried.state.db.balances Sample.bucket .quantityOnHand = 4 ∧
      CreatesOne Sample.fieldStock Sample.retried.state :=
  ⟨by decide +kernel, (consumption_once Sample.retried_interleaved).2.1⟩

end Cestos.Inventory
