import Cestos.Core.Sessions
import Cestos.Drilling.Earned

/-!
# The mobilization fee under concurrent approvals

An approval locks the row of its report and nothing else. Whether the contract has its
mobilization fee is looked up among the committed entries, and the fee is committed later.
-/

namespace Cestos.Drilling

open Cestos.Core Cestos.Core.Decimal

/-- The rows an approval writes besides the ledger. -/
structure Approved where
  report : DrillingShiftReport
  holes : List DrillHole
  deriving DecidableEq

/-- A call of `approve_shift_report` under way. -/
inductive Approval
  | called (env : Env) (shiftId userId : Id) (notes : Option String)
  /-- The report is locked; its contract is not read yet. -/
  | locked (work : Approved)
  /-- The entries the report had are deleted. -/
  | cleared (work : Approved) (contract : ProjectContract)
  /-- The new entries are inserted; without a contract there are none. -/
  | posted (work : Approved) (stored : Option (List RevenueSubledgerEntry))
  deriving DecidableEq

/-- The report whose row a session has locked. -/
def Approval.locks : Approval → Option Id
  | .called _ _ _ _ => none
  | .locked work | .cleared work _ | .posted work _ => some work.report.id

/-- The report as it will be approved, with the holes it deepens. -/
def approve (env : Env) (db : Database) (shiftId userId : Id) (notes : Option String) :
    Outcome Approved := do
  let report ← getShiftReport db shiftId "Shift report"
  checkApprovable report
  let holes := deepenHoles env db.holes report.intervals
  .ok ⟨approved env userId notes report,
    report.intervals.filterMap fun iv => holes.find? iv.drillHoleId⟩

/-- The entries of other reports, which an approval sees beside its own. -/
def othersEntries (db : Database) (report : DrillingShiftReport) : List RevenueSubledgerEntry :=
  db.entries.filter (·.shiftReportId ≠ report.id)

/-- The entries that are inserted: the lookup of the fee sees what is committed. -/
def post (ctx : Context 28 12) (refs : References) (db : Database) (contract : ProjectContract)
    (report : DrillingShiftReport) : Outcome (List RevenueSubledgerEntry) :=
  let posted := shiftEntries ctx refs.lower contract report
  (posted ++ mobilizationEntries ctx contract report (othersEntries db report ++ posted)).mapM
    storeEntry

def commitApproval (db : Database) (work : Approved)
    (stored : Option (List RevenueSubledgerEntry)) : Database where
  holes := work.holes.foldl (·.set ·) db.holes
  reports := db.reports.set work.report
  entries := stored.elim db.entries (othersEntries db work.report ++ ·)

/-- The statements of `approve_shift_report`. A request that raises ends without effect. -/
def approving (ctx : Context 28 12) (refs : References) : Statement Database Approval :=
  fun others db session => match session with
  | .called env shiftId userId notes =>
    if ∃ u ∈ others, u.locks = some shiftId then none
    else match (do checkApprover refs userId; approve env db shiftId userId notes :
        Outcome Approved) with
      | .error _ => some (db, none)
      | .ok work => some (db, some (.locked work))
  | .locked work =>
    match activeContract refs work.report.projectId with
    | none => some (db, some (.posted work none))
    | some contract => some (db, some (.cleared work contract))
  | .cleared work contract =>
    match post ctx refs db contract work.report with
    | .error _ => some (db, none)
    | .ok stored => some (db, some (.posted work (some stored)))
  | .posted work stored => some (commitApproval db work stored, none)

def Approval.IsCall : Approval → Prop
  | .called _ _ _ _ => True
  | .locked _ | .cleared _ _ | .posted _ _ => False

instance : DecidablePred Approval.IsCall
  | .called _ _ _ _ => .isTrue trivial
  | .locked _ | .cleared _ _ | .posted _ _ => .isFalse id

/-! ## Fees -/

/-- Whether an entry is the mobilization fee of a contract. -/
def RevenueSubledgerEntry.isFee (contractId : Id) (e : RevenueSubledgerEntry) : Bool :=
  e.contractId = contractId ∧ e.revenueCategory = .mobilization

def fees (ledger : List RevenueSubledgerEntry) (contractId : Id) : Nat :=
  ledger.countP (·.isFee contractId)

/-- No contract has more than one fee. -/
def Database.FeesOnce (db : Database) : Prop := ∀ contractId, fees db.entries contractId ≤ 1

/-- Whether a session has inserted the fee of a contract and not committed it. -/
def Approval.hasFee (contractId : Id) : Approval → Bool
  | .posted _ (some stored) => stored.any (·.isFee contractId)
  | .called _ _ _ _ | .locked _ | .cleared _ _ | .posted _ none => false

/-- When a session looks for the fee of its contract, the fee is committed or no other
session has inserted it. -/
def Approval.ChecksAlone (others : List Approval) (db : Database) : Approval → Prop
  | .cleared work contract =>
    (∃ e ∈ othersEntries db work.report, e.isFee contract.id) ∨
      ∀ u ∈ others, u.hasFee contract.id = false
  | .called _ _ _ _ | .locked _ | .posted _ _ => True

instance (others : List Approval) (db : Database) : DecidablePred (Approval.ChecksAlone others db)
  | .cleared _ _ => inferInstanceAs (Decidable ((∃ _ ∈ _, _) ∨ ∀ _ ∈ _, _))
  | .called _ _ _ _ | .locked _ | .posted _ _ => .isTrue trivial

/-- The databases, with the approvals under way, that some interleaving leads to when every
statement meets `admits`. -/
abbrev Approvals (ctx : Context 28 12) (refs : References)
    (admits : List Approval → Database → Approval → Prop) : Sessions Database Approval → Prop :=
  Sessions.Interleaved Approval.IsCall (approving ctx refs) admits Database.FeesOnce

/-! ## The invariant -/

variable {ctx : Context 28 12} {refs : References} {db : Database}

/-- A session that has inserted a fee has inserted one, and the committed fees of the
contract are among the entries it deletes. -/
def Approval.FeeSound (db : Database) : Approval → Prop
  | .posted work (some stored) => ∀ contractId, fees stored contractId ≤ 1 ∧
      (0 < fees stored contractId → ∀ e ∈ db.entries, e.isFee contractId →
        e.shiftReportId = work.report.id)
  | .called _ _ _ _ | .locked _ | .cleared _ _ | .posted _ none => True

/-- No two sessions have inserted the fee of one contract. -/
def Approval.Apart (t u : Approval) : Prop :=
  ∀ contractId, ¬ (t.hasFee contractId ∧ u.hasFee contractId)

theorem hasFee_posted {work : Approved} {stored : List RevenueSubledgerEntry} {contractId : Id} :
    (Approval.posted work (some stored)).hasFee contractId = true ↔ 0 < fees stored contractId := by
  simp [Approval.hasFee, fees, List.countP_pos_iff]

theorem fees_append (a b : List RevenueSubledgerEntry) (contractId : Id) :
    fees (a ++ b) contractId = fees a contractId + fees b contractId :=
  List.countP_append

theorem fees_eq_zero {ledger : List RevenueSubledgerEntry} {contractId : Id} :
    fees ledger contractId = 0 ↔ ∀ e ∈ ledger, e.isFee contractId = false := by
  simp [fees, List.countP_eq_zero]

/-- What an approval inserts: the fee only if no committed entry of another report is it. -/
theorem post_spec {contract : ProjectContract} {report : DrillingShiftReport}
    {stored : List RevenueSubledgerEntry}
    (h : post ctx refs db contract report = .ok stored) (contractId : Id) :
    fees stored contractId ≤ 1 ∧ (0 < fees stored contractId → contractId = contract.id ∧
      ∀ e ∈ othersEntries db report, e.isFee contract.id = false) := by
  simp only [post, List.mapM_append, bind_eq_ok, pure_eq_ok] at h
  obtain ⟨shift, hshift, fee, hfee, rfl⟩ := h
  have hnone : fees shift contractId = 0 := by
    refine fees_eq_zero.2 (forall_of_mapM hshift fun e he e' he' => ?_)
    have hcategory := (mem_shiftEntries he).2
    rw [← (storeEntry_spec he').2.1] at hcategory
    unfold RevenueSubledgerEntry.isFee
    cases hrevenue : e'.revenueCategory <;> simp_all [shiftCategories]
  rw [fees_append, hnone, zero_add]
  unfold mobilizationEntries at hfee
  split at hfee
  · simp only [List.mapM_nil, pure_eq_ok] at hfee
    simp [← hfee, fees]
  · next card hcard =>
    split at hfee
    · simp only [List.mapM_nil, pure_eq_ok] at hfee
      simp [← hfee, fees]
    · next hmissing =>
      simp only [List.mapM_cons, List.mapM_nil, pure_bind, bind_eq_ok, pure_eq_ok] at hfee
      obtain ⟨e, he, rfl⟩ := hfee
      refine ⟨List.countP_le_length, fun hpos => ⟨?_, fun u hu => ?_⟩⟩
      · obtain ⟨u, hu, hown⟩ := List.countP_pos_iff.1 hpos
        obtain rfl := List.mem_singleton.1 hu
        simp only [RevenueSubledgerEntry.isFee, decide_eq_true_eq] at hown
        rw [← hown.1, (storeEntry_spec he).2.2]
        rfl
      · by_contra hfound
        simp only [RevenueSubledgerEntry.isFee, decide_eq_false_iff_not, not_not] at hfound
        exact hmissing ⟨u, List.mem_append_left _ hu, hfound⟩

theorem feesOnce_commit {work : Approved} {stored : Option (List RevenueSubledgerEntry)}
    (hdb : db.FeesOnce) (hsession : (Approval.posted work stored).FeeSound db) :
    (commitApproval db work stored).FeesOnce := by
  intro contractId
  cases stored with
  | none => exact hdb contractId
  | some stored =>
      obtain ⟨hone, hown⟩ := hsession contractId
      show fees (othersEntries db work.report ++ stored) contractId ≤ 1
      have hkept : fees (othersEntries db work.report) contractId ≤ 1 :=
        List.filter_sublist.countP_le.trans (hdb contractId)
      rw [fees_append]
      rcases Nat.eq_zero_or_pos (fees stored contractId) with hzero | hpos
      · omega
      · have hothers : fees (othersEntries db work.report) contractId = 0 := by
          refine fees_eq_zero.2 fun e he => ?_
          have hother := List.of_mem_filter he
          simp only [decide_eq_true_eq] at hother
          by_contra hfee
          exact hother (hown hpos e (List.mem_of_mem_filter he) (by simpa using hfee))
        omega

/-- What a commit leaves to a session that has inserted a fee of its own. -/
theorem feeSound_commit {work : Approved} {stored : Option (List RevenueSubledgerEntry)}
    {u : Approval} (hu : u.FeeSound db) (hapart : (Approval.posted work stored).Apart u) :
    u.FeeSound (commitApproval db work stored) := by
  cases u with
  | called env shiftId userId notes => trivial
  | locked work => trivial
  | cleared work contract => trivial
  | posted work' stored' =>
      cases stored' with
      | none => trivial
      | some stored' =>
          intro contractId
          refine ⟨(hu contractId).1, fun hpos e he hfee => ?_⟩
          cases stored with
          | none => exact (hu contractId).2 hpos e he hfee
          | some stored =>
              rcases List.mem_append.1 he with he | he
              · exact (hu contractId).2 hpos e (List.mem_of_mem_filter he) hfee
              · refine absurd ⟨hasFee_posted.2 ?_, hasFee_posted.2 hpos⟩ (hapart contractId)
                exact List.countP_pos_iff.2 ⟨e, he, hfee⟩

theorem approving_keeps {others : List Approval} {session : Approval} {db' : Database}
    {next : Option Approval} (hdb : db.FeesOnce) (hsession : session.FeeSound db)
    (hothers : ∀ u ∈ others, u.FeeSound db ∧ session.Apart u)
    (hcond : session.ChecksAlone others db)
    (h : approving ctx refs others db session = some (db', next)) :
    Sessions.Keeps Database.FeesOnce Approval.FeeSound Approval.Apart others db' next := by
  have hsound : ∀ u ∈ others, u.FeeSound db := fun u hu => (hothers u hu).1
  -- Sessions that have inserted nothing are sound in any database and apart from any other.
  have hquiet : ∀ t : Option Approval, (∀ u ∈ t, ∀ c, u.hasFee c = false) →
      (∀ u ∈ t, u.FeeSound db) →
      Sessions.Keeps Database.FeesOnce Approval.FeeSound Approval.Apart others db t :=
    fun t hnone hfee => ⟨hdb, hfee, hsound, fun u hu v _ c hboth => by
      rw [hnone u hu c] at hboth
      exact absurd hboth.1 (by simp)⟩
  cases session with
  | called env shiftId userId notes =>
      unfold approving at h
      dsimp only at h
      split at h
      · cases h
      · split at h
        · obtain ⟨rfl, rfl⟩ := Prod.mk.inj (Option.some.inj h)
          exact hquiet none (by simp) (by simp)
        · next work hwork =>
          obtain ⟨rfl, rfl⟩ := Prod.mk.inj (Option.some.inj h)
          exact hquiet _ (by simp [Approval.hasFee]) (by simp [Approval.FeeSound])
  | locked work =>
      unfold approving at h
      dsimp only at h
      split at h
      · obtain ⟨rfl, rfl⟩ := Prod.mk.inj (Option.some.inj h)
        exact hquiet _ (by simp [Approval.hasFee]) (by simp [Approval.FeeSound])
      · obtain ⟨rfl, rfl⟩ := Prod.mk.inj (Option.some.inj h)
        exact hquiet _ (by simp [Approval.hasFee]) (by simp [Approval.FeeSound])
  | cleared work contract =>
      unfold approving at h
      dsimp only at h
      split at h
      · obtain ⟨rfl, rfl⟩ := Prod.mk.inj (Option.some.inj h)
        exact hquiet none (by simp) (by simp)
      · next stored hstored =>
        obtain ⟨rfl, rfl⟩ := Prod.mk.inj (Option.some.inj h)
        have hpost := post_spec hstored
        refine ⟨hdb, fun t ht => ?_, hsound, fun t ht u hu c hboth => ?_⟩
        · obtain rfl := Option.some.inj ht
          refine fun c => ⟨(hpost c).1, fun hpos e he hfee => ?_⟩
          obtain ⟨rfl, hmissing⟩ := (hpost c).2 hpos
          by_contra hother
          have hkept : e ∈ othersEntries db work.report :=
            List.mem_filter.2 ⟨he, by simpa using hother⟩
          rw [hmissing e hkept] at hfee
          cases hfee
        · obtain rfl := Option.some.inj ht
          obtain ⟨rfl, hmissing⟩ := (hpost c).2 (hasFee_posted.1 hboth.1)
          rcases hcond with ⟨e, he, hfee⟩ | halone
          · rw [hmissing e he] at hfee
            cases hfee
          · rw [halone u hu] at hboth
            exact absurd hboth.2 (by simp)
  | posted work stored =>
      obtain ⟨rfl, rfl⟩ := Prod.mk.inj (Option.some.inj h)
      exact ⟨feesOnce_commit hdb hsession, by simp,
        fun u hu => feeSound_commit (hsound u hu) (hothers u hu).2, by simp⟩

/-- As long as no approval looks for the fee of its contract while another has inserted it
and not committed, no contract gets more than one mobilization entry. -/
theorem mobilization_once {s : Sessions Database Approval}
    (h : Approvals ctx refs Approval.ChecksAlone s) : s.db.FeesOnce := by
  have hholds := Sessions.Interleaved.holds h (L := Approval.FeeSound) (R := Approval.Apart)
    (fun _ _ hapart c hboth => hapart c hboth.symm) (fun _ hdb => hdb)
    (fun db session hcall _ => ⟨by cases session <;> trivial, fun u c hboth => ?_⟩)
    (fun _ _ _ _ _ hdb hsession hothers _ hcond => approving_keeps hdb hsession hothers hcond)
  · exact hholds.database
  · cases session with
    | called env shiftId userId notes => exact absurd hboth.1 (by simp [Approval.hasFee])
    | locked work => exact hcall.elim
    | cleared work contract => exact hcall.elim
    | posted work stored => exact hcall.elim

namespace Sample

/-- A contract with a mobilization fee of five. -/
def mobilizingContract : References :=
  { references with
    contracts := [{ services with
      rateCards := [{ card 1 none none with rateType := .mobilizationFlat, unitRate := fee }] }] }

/-- Two drafts of the project, for two rigs. -/
def twoReports : Database where
  holes := .empty
  reports := ⟨[{ shift with intervals := [] }, { shift with id := 2, rigId := 2, intervals := [] }],
    by decide⟩
  entries := []

theorem twoReports_feesOnce : twoReports.FeesOnce := fun _ => Nat.zero_le _

end Sample

/-- One approval after the other: the second finds the fee of the first. -/
theorem mobilization_once_twice : ∃ s : Sessions Database Approval,
    fees s.db.entries 1 = 1 ∧ (∀ r ∈ s.db.reports.rows, r.status = .approved) ∧ s.db.FeesOnce := by
  obtain ⟨s, hs, hout⟩ := Sessions.Interleaved.of_play Approval.IsCall
    (approving .python Sample.mobilizingContract) Approval.ChecksAlone Database.FeesOnce
    Sample.twoReports
    [.begins (.called ⟨1, 0⟩ 1 1 none), .begins (.called ⟨1, 0⟩ 2 1 none),
      .acts 0, .acts 1, .acts 0, .acts 0, .acts 0, .acts 0, .acts 0, .acts 0]
    (p := fun s => fees s.db.entries 1 = 1 ∧ ∀ r ∈ s.db.reports.rows, r.status = .approved)
    Sample.twoReports_feesOnce (by decide +kernel)
  simp only [decide_eq_true_eq] at hout
  exact ⟨s, hout.1, hout.2, mobilization_once hs⟩

/-- Two approvals that both look for the fee before either commits post it twice. -/
theorem mobilization_once_fails :
    ¬ ∀ s, Approvals .python Sample.mobilizingContract (fun _ _ _ => True) s → s.db.FeesOnce := by
  intro hall
  obtain ⟨s, hs, hout⟩ := Sessions.Interleaved.of_play Approval.IsCall
    (approving .python Sample.mobilizingContract) (fun _ _ _ => True) Database.FeesOnce
    Sample.twoReports
    [.begins (.called ⟨1, 0⟩ 1 1 none), .begins (.called ⟨1, 0⟩ 2 1 none),
      .acts 0, .acts 1, .acts 0, .acts 1, .acts 0, .acts 1, .acts 0, .acts 0]
    (p := fun s => fees s.db.entries 1 = 2) Sample.twoReports_feesOnce (by decide +kernel)
  simp only [decide_eq_true_eq] at hout
  have hone := hall s hs 1
  omega

end Cestos.Drilling
