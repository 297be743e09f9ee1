import Cestos.Drilling.Effects
import Cestos.Drilling.Meterage

/-!
# Revenue in step with its report

An approval posts what the report earns. Creation with the status of an approved report
posts nothing, and a correction of an approved report posts nothing anew, so the ledger
stays in step as long as neither changes what a contract bills.
-/

namespace Cestos.Drilling

open Cestos.Core Cestos.Core.Decimal

variable {ctx : Context 28 12} {refs : References} {env : Env} {db db' : Database}
  {requests : List (Env × Operation)}

def shiftCategories : List RevenueCategory := [.drillingMeterage, .standbyTime, .daywork]

/-- The entries of a report, without the mobilization fee. -/
def billed (ledger : List RevenueSubledgerEntry) (shiftId : Id) : List RevenueSubledgerEntry :=
  ledger.filter fun e => e.shiftReportId = shiftId ∧ e.revenueCategory ∈ shiftCategories

/-- What the revenue calculation makes of the report as it is. -/
def earnedEntries (ctx : Context 28 12) (refs : References) (report : DrillingShiftReport) :
    Outcome (List RevenueSubledgerEntry) :=
  match activeContract refs report.projectId with
  | none => .ok []
  | some contract => (shiftEntries ctx refs.lower contract report).mapM storeEntry

/-- An approved report has the entries it earns and no others. -/
def InStep (ctx : Context 28 12) (refs : References) (ledger : List RevenueSubledgerEntry)
    (report : DrillingShiftReport) : Prop :=
  report.status = .approved → earnedEntries ctx refs report = .ok (billed ledger report.id)

/-- Neither a creation with the status of an approved report nor a correction of one changes
what a contract bills. -/
def BillingKept (refs : References) (db : Database) : Operation → Prop
  | .create payload _ => payload.status = some .approved →
      activeContract refs payload.projectId = none
  | .update shiftId payload => ∀ report ∈ db.reports.find? shiftId, report.status = .approved →
      payload.projectId.getD report.projectId = report.projectId ∧
        payload.rigId.getD report.rigId = report.rigId ∧ payload.intervals = none ∧
        payload.timeSegments = none ∧ payload.totalProductiveHours = none ∨
      activeContract refs report.projectId = none ∧
        activeContract refs (payload.projectId.getD report.projectId) = none
  | .submit _ _ _ | .approve _ _ _ | .giveBack _ _ | .delete _ => True

instance (refs : References) (db : Database) : DecidablePred (BillingKept refs db)
  | .create _ _ => inferInstanceAs (Decidable (_ → _))
  | .update _ _ => inferInstanceAs (Decidable (∀ _ ∈ _, _ → _ ∨ _))
  | .submit _ _ _ | .approve _ _ _ | .giveBack _ _ | .delete _ => .isTrue trivial

/-! ## What the calculation looks at -/

/-- The columns of a report that its revenue depends on. -/
structure SameBilling (a b : DrillingShiftReport) : Prop where
  id : b.id = a.id
  projectId : b.projectId = a.projectId
  rigId : b.rigId = a.rigId
  intervals : b.intervals = a.intervals
  timeSegments : b.timeSegments = a.timeSegments
  totalProductiveHours : b.totalProductiveHours = a.totalProductiveHours

theorem shiftEntries_congr {lower : String → String} {contract : ProjectContract}
    {a b : DrillingShiftReport} (h : SameBilling a b) :
    shiftEntries ctx lower contract b = shiftEntries ctx lower contract a := by
  obtain ⟨hid, hproject, hrig, hintervals, hsegments, hhours⟩ := h
  obtain ⟨⟩ := a
  obtain ⟨⟩ := b
  dsimp only at hid hproject hrig hintervals hsegments hhours
  subst hid hproject hrig hintervals hsegments hhours
  rfl

theorem earnedEntries_congr {a b : DrillingShiftReport} (h : SameBilling a b) :
    earnedEntries ctx refs b = earnedEntries ctx refs a := by
  unfold earnedEntries
  rw [h.projectId]
  split
  · rfl
  · rw [shiftEntries_congr h]

theorem earnedEntries_of_no_contract {report : DrillingShiftReport}
    (h : activeContract refs report.projectId = none) : earnedEntries ctx refs report = .ok [] := by
  rw [earnedEntries, h]

theorem earnedEntries_of_contract {report : DrillingShiftReport} {contract : ProjectContract}
    (h : activeContract refs report.projectId = some contract) :
    earnedEntries ctx refs report =
      (shiftEntries ctx refs.lower contract report).mapM storeEntry := by
  rw [earnedEntries, h]

/-! ## What the calculation posts -/

theorem storeEntry_spec {e e' : RevenueSubledgerEntry} (h : storeEntry e = .ok e') :
    e'.shiftReportId = e.shiftReportId ∧ e'.revenueCategory = e.revenueCategory ∧
      e'.contractId = e.contractId := by
  simp only [storeEntry, ensure_bind_eq_ok] at h
  obtain ⟨-, h⟩ := h
  simp only [orError_bind_eq_ok, Except.ok.injEq] at h
  obtain ⟨_, -, _, -, _, -, rfl⟩ := h
  exact ⟨rfl, rfl, rfl⟩

theorem mem_shiftEntries {lower : String → String} {contract : ProjectContract}
    {report : DrillingShiftReport} {e : RevenueSubledgerEntry}
    (h : e ∈ shiftEntries ctx lower contract report) :
    e.shiftReportId = report.id ∧ e.revenueCategory ∈ shiftCategories := by
  have hband : ∀ cards iv, e ∈ bandEntries ctx lower contract report cards iv →
      e.shiftReportId = report.id ∧ e.revenueCategory ∈ shiftCategories := by
    intro cards iv he
    obtain ⟨card, -, rfl⟩ := List.mem_map.1 he
    exact ⟨rfl, by simp [earned, shiftCategories]⟩
  have hinterval : ∀ cards iv, e ∈ intervalEntries ctx lower contract report cards iv →
      e.shiftReportId = report.id ∧ e.revenueCategory ∈ shiftCategories := by
    intro cards iv he
    unfold intervalEntries at he
    split at he
    · cases he
    · dsimp only at he
      split at he
      · rcases List.mem_append.1 he with he | he
        · exact hband _ _ he
        · obtain ⟨card, -, rfl⟩ := List.mem_map.1 he
          exact ⟨rfl, by simp [earned, shiftCategories]⟩
      · exact hband _ _ he
  have hhours : ∀ rateType category description hours, category ∈ shiftCategories →
      e ∈ hourEntries ctx contract report rateType category description hours →
      e.shiftReportId = report.id ∧ e.revenueCategory ∈ shiftCategories := by
    intro rateType category description hours hcategory he
    unfold hourEntries at he
    split at he
    · cases he
    · split at he
      · obtain rfl := List.mem_singleton.1 he
        exact ⟨rfl, hcategory⟩
      · cases he
  rcases List.mem_append.1 h with h | h
  · rcases List.mem_append.1 h with h | h
    · obtain ⟨iv, -, he⟩ := List.mem_flatMap.1 h
      exact hinterval _ _ he
    · exact hhours _ _ _ _ (by decide) h
  · exact hhours _ _ _ _ (by decide) h

theorem mem_mobilizationEntries {contract : ProjectContract} {report : DrillingShiftReport}
    {ledger : List RevenueSubledgerEntry} {e : RevenueSubledgerEntry}
    (h : e ∈ mobilizationEntries ctx contract report ledger) :
    e.shiftReportId = report.id ∧ e.revenueCategory = .mobilization := by
  unfold mobilizationEntries at h
  split at h
  · cases h
  · split at h
    · cases h
    · obtain rfl := List.mem_singleton.1 h
      exact ⟨rfl, rfl⟩

/-- The ledger after a calculation: without a contract what it was, and otherwise the
entries of other reports, what the report earns and at most the mobilization fee. -/
theorem calculate_spec {ledger entries : List RevenueSubledgerEntry}
    {report : DrillingShiftReport}
    (h : calculateAndPostShiftRevenue ctx refs ledger report = .ok entries) :
    (activeContract refs report.projectId = none ∧ entries = ledger) ∨
      ∃ posted fee, earnedEntries ctx refs report = .ok posted ∧
        entries = ledger.filter (·.shiftReportId ≠ report.id) ++ (posted ++ fee) ∧
        (∀ e ∈ posted, e.shiftReportId = report.id ∧ e.revenueCategory ∈ shiftCategories) ∧
        ∀ e ∈ fee, e.shiftReportId = report.id ∧ e.revenueCategory = .mobilization := by
  unfold calculateAndPostShiftRevenue at h
  split at h
  · next hnone => exact .inl ⟨hnone, (Except.ok.inj h).symm⟩
  · next contract hcontract =>
    obtain ⟨stored, hstored, hentries⟩ := bind_eq_ok.1 h
    simp only [List.mapM_append, bind_eq_ok, pure_eq_ok] at hstored
    obtain ⟨posted, hposted, fee, hfee, rfl⟩ := hstored
    refine .inr ⟨posted, fee, (earnedEntries_of_contract hcontract).trans hposted,
      (Except.ok.inj hentries).symm, forall_of_mapM hposted fun e he e' he' => ?_,
      forall_of_mapM hfee fun e he e' he' => ?_⟩
    · rw [(storeEntry_spec he').1, (storeEntry_spec he').2.1]
      exact mem_shiftEntries he
    · rw [(storeEntry_spec he').1, (storeEntry_spec he').2.1]
      exact mem_mobilizationEntries he

/-- A calculation leaves the entries of other reports alone. -/
theorem billed_other {ledger entries : List RevenueSubledgerEntry} {report : DrillingShiftReport}
    (h : calculateAndPostShiftRevenue ctx refs ledger report = .ok entries) {id : Id}
    (hid : id ≠ report.id) : billed entries id = billed ledger id := by
  rcases calculate_spec h with ⟨-, rfl⟩ | ⟨posted, fee, -, rfl, hposted, hfee⟩
  · rfl
  · have hown : ∀ e ∈ posted ++ fee, e.shiftReportId = report.id := fun e he =>
      (List.mem_append.1 he).elim (fun he => (hposted e he).1) fun he => (hfee e he).1
    have hnone : billed (posted ++ fee) id = [] := by
      refine List.filter_eq_nil_iff.2 fun e he => ?_
      simp [hown e he, hid.symm]
    unfold billed at hnone ⊢
    rw [List.filter_append, hnone, List.append_nil, List.filter_filter]
    refine List.filter_congr fun e _ => ?_
    by_cases he : e.shiftReportId = id <;> simp [he, hid]

/-- What an approved report has in the ledger is what it earns. -/
theorem billed_own {ledger entries : List RevenueSubledgerEntry} {report : DrillingShiftReport}
    (h : calculateAndPostShiftRevenue ctx refs ledger report = .ok entries)
    (hnone : billed ledger report.id = []) :
    earnedEntries ctx refs report = .ok (billed entries report.id) := by
  rcases calculate_spec h with ⟨hcontract, rfl⟩ | ⟨posted, fee, hearned, rfl, hposted, hfee⟩
  · rw [hnone, earnedEntries_of_no_contract hcontract]
  · have hkept : billed (ledger.filter (·.shiftReportId ≠ report.id)) report.id = [] := by
      refine List.filter_eq_nil_iff.2 fun e he => ?_
      have hother := List.of_mem_filter he
      simp only [decide_eq_true_eq] at hother
      simp [hother]
    have hown : billed posted report.id = posted := by
      refine List.filter_eq_self.2 fun e he => ?_
      simp [hposted e he]
    have hfee' : billed fee report.id = [] := by
      refine List.filter_eq_nil_iff.2 fun e he => ?_
      simp [hfee e he, shiftCategories]
    unfold billed at hkept hown hfee' ⊢
    rw [List.filter_append, List.filter_append, hkept, hown, hfee', List.nil_append,
      List.append_nil, hearned]

/-! ## Runs -/

/-- Approved reports are in step, and entries belong to approved reports. -/
structure LedgerKept (ctx : Context 28 12) (refs : References) (db : Database) : Prop where
  inStep : ∀ r ∈ db.reports.rows, InStep ctx refs db.entries r
  owned : ∀ e ∈ db.entries, ∃ r, db.reports.find? e.shiftReportId = some r ∧ r.status = .approved

theorem LedgerKept.billed_eq_nil (h : LedgerKept ctx refs db) {id : Id}
    (hid : ∀ r, db.reports.find? id = some r → r.status ≠ .approved) : billed db.entries id = [] := by
  refine List.filter_eq_nil_iff.2 fun e he => ?_
  obtain ⟨r, hr, happroved⟩ := h.owned e he
  simp only [decide_eq_true_eq, not_and]
  rintro rfl
  exact absurd happroved (hid r hr)

/-- A report is replaced and the ledger stays: entries stay owned when an approved report
stays approved. -/
theorem LedgerKept.set (h : LedgerKept ctx refs db) {old new : DrillingShiftReport}
    (hold : db.reports.find? new.id = some old)
    (hstatus : old.status = .approved → new.status = .approved)
    (hnew : InStep ctx refs db.entries new) :
    LedgerKept ctx refs { db with reports := db.reports.set new } := by
  refine ⟨fun r hr => ?_, fun e he => ?_⟩
  · rcases (Table.mem_set_of_find? hold).1 hr with ⟨hr, -⟩ | rfl
    · exact h.inStep r hr
    · exact hnew
  · obtain ⟨r, hr, happroved⟩ := h.owned e he
    by_cases hid : new.id = e.shiftReportId
    · refine ⟨new, ?_, hstatus ?_⟩
      · show (db.reports.set new).find? _ = _
        rw [← hid, Table.find?_set_self hold]
      · rw [← hid, hold] at hr
        exact Option.some.inj hr ▸ happroved
    · exact ⟨r, (Table.find?_set_ne hid).trans hr, happroved⟩

theorem Effect.ledgerKept {op : Operation} (heffect : Effect ctx refs env db op db')
    (hcond : BillingKept refs db op) (h : LedgerKept ctx refs db) : LedgerKept ctx refs db' := by
  cases heffect with
  | created payload actorId report reports hsame hproject hinsert =>
      refine ⟨fun r hr => ?_, fun e he => ?_⟩
      · rcases (Table.mem_insert? hinsert).1 hr with hr | rfl
        · exact h.inStep r hr
        · intro happroved
          have hstatus : payload.status = some .approved := by
            rw [hsame.status] at happroved
            cases hpayload : payload.status <;> simp_all [newReport]
          have hfresh : db.reports.find? r.id = none :=
            Table.find?_eq_none.2 fun s hs => Table.insert?_fresh hinsert hs
          rw [h.billed_eq_nil fun s hs => by rw [hfresh] at hs; cases hs]
          exact earnedEntries_of_no_contract (hproject ▸ hcond hstatus)
      · obtain ⟨r, hr, happroved⟩ := h.owned e he
        exact ⟨r, Table.find?_insert?_of_find? hinsert hr, happroved⟩
  | updated shiftId payload old new hold hupdated =>
      have hfind : db.reports.find? new.id = some old := by
        rw [hupdated.signatures.id, Table.key_of_find? hold, hold]
      refine h.set hfind (fun happroved => hupdated.signatures.status ▸ happroved) fun happroved => ?_
      rw [hupdated.signatures.status] at happroved
      have hold' := h.inStep old (Table.mem_of_find? hold) happroved
      rw [hupdated.signatures.id]
      rcases hcond old hold happroved with ⟨hproject, hrig, hivs, hsegments, hhours⟩ |
        ⟨hcontract, hcontract'⟩
      · obtain ⟨h₁, h₂, h₃⟩ := hupdated.parts hivs hsegments
        rw [← hold']
        exact earnedEntries_congr ⟨hupdated.signatures.id, hupdated.projectId.trans hproject,
          hupdated.rigId.trans hrig, h₁, h₂, h₃ hhours⟩
      · rw [← hold', earnedEntries_of_no_contract hcontract]
        exact earnedEntries_of_no_contract (hupdated.projectId ▸ hcontract')
  | submitted shiftId userId notes old new hold hopen hid hstatus hat hby =>
      have hfind : db.reports.find? new.id = some old := by
        rw [hid, Table.key_of_find? hold, hold]
      refine h.set hfind (fun happroved => ?_) fun happroved => ?_
      · rw [happroved] at hopen
        simp at hopen
      · rw [hstatus] at happroved
        cases happroved
  | approved shiftId userId notes old entries hold hstatus hentries =>
      obtain rfl := Table.key_of_find? hold
      have hopen : old.status ≠ .approved := by
        intro happroved
        rw [happroved] at hstatus
        simp at hstatus
      have hnone : billed db.entries old.id = [] := h.billed_eq_nil fun r hr => by
        rw [hold] at hr
        exact Option.some.inj hr ▸ hopen
      have hkept : ∀ e ∈ db.entries, ∃ r, (db.reports.set (Drilling.approved env userId notes old)).find?
          e.shiftReportId = some r ∧ r.status = .approved := fun e he => by
        obtain ⟨r, hr, happroved⟩ := h.owned e he
        refine ⟨r, (Table.find?_set_ne fun hid => ?_).trans hr, happroved⟩
        rw [← hid] at hr
        exact hopen (Option.some.inj (hold.symm.trans hr) ▸ happroved)
      have hown : ∀ e : RevenueSubledgerEntry, e.shiftReportId = old.id →
          ∃ r, (db.reports.set (Drilling.approved env userId notes old)).find? e.shiftReportId = some r ∧
            r.status = .approved := fun e he => by
        refine ⟨Drilling.approved env userId notes old, ?_, rfl⟩
        rw [he]
        exact Table.find?_set_self (r := Drilling.approved env userId notes old) hold
      refine ⟨fun r hr => ?_, fun e he => ?_⟩
      · rcases (Table.mem_set_of_find? (r := Drilling.approved env userId notes old) hold).1 hr with
          ⟨hr, hid⟩ | rfl
        · intro happroved
          rw [billed_other hentries hid]
          exact h.inStep r hr happroved
        · exact fun _ => billed_own hentries hnone
      · rcases calculate_spec hentries with ⟨-, rfl⟩ | ⟨posted, fee, -, rfl, hposted, hfee⟩
        · exact hkept e he
        · rcases List.mem_append.1 he with he | he
          · exact hkept e (List.mem_of_mem_filter he)
          · rcases List.mem_append.1 he with he | he
            · exact hown e (hposted e he).1
            · exact hown e (hfee e he).1
  | returned shiftId reason old new hold hsubmitted hid hstatus hat hby =>
      have hfind : db.reports.find? new.id = some old := by
        rw [hid, Table.key_of_find? hold, hold]
      refine h.set hfind (fun happroved => ?_) fun happroved => ?_
      · rw [happroved] at hsubmitted
        cases hsubmitted
      · rw [hstatus] at happroved
        cases happroved
  | deleted shiftId hfree =>
      refine ⟨fun r hr => h.inStep r (Table.mem_removeIf.1 hr).1, fun e he => ?_⟩
      obtain ⟨r, hr, happroved⟩ := h.owned e he
      refine ⟨r, Table.find?_removeIf.2 ⟨hr, ?_⟩, happroved⟩
      simpa [Table.key_of_find? hr] using hfree e he

/-- In every run whose creations and corrections keep what contracts bill, an approved report
has in the ledger exactly what the revenue calculation makes of it. -/
theorem revenue_in_step (h : Run ctx refs (BillingKept refs) requests db) :
    ∀ r ∈ db.reports.rows, r.status = .approved →
      earnedEntries ctx refs r = .ok (billed db.entries r.id) := by
  have hkept : LedgerKept ctx refs db := by
    induction h with
    | init hreports hentries =>
        refine ⟨fun r hr => ?_, fun e he => ?_⟩
        · rw [hreports] at hr
          cases hr
        · rw [hentries] at he
          cases he
    | step env op _ hcond hexec ih => exact (exec_effect hexec).ledgerKept hcond ih
  exact hkept.inStep

namespace Sample

/-- A hole on the project of the contract. -/
def hole : DrillHole where
  id := 1
  holeNumber := "DH-1"
  projectId := 1
  siteLocationId := none
  targetDepthM := none
  finalDepthM := none
  status := .planned
  startedAt := none
  archived := false

/-- A contract that pays every metre. -/
def payingContract : References :=
  { references with contracts := [{ services with rateCards := [card 1 none none] }] }

def oneHole : Database := ⟨⟨[hole], by simp⟩, .empty, []⟩

def fiveMetres : IntervalCreate where
  drillHoleId := 1
  fromDepthM := ⟨0, by decide +kernel⟩
  toDepthM := ⟨5, by decide +kernel⟩
  drillingMethod := none

/-- A correction of the intervals alone. -/
def correction (intervals : Option (List IntervalCreate)) : ShiftReportUpdate where
  siteLocationId := none
  projectId := none
  rigId := none
  date := none
  shiftType := none
  notes := none
  correctionReason := some "Depth misread"
  totalMetres := none
  totalProductiveHours := none
  totalNonproductiveHours := none
  intervals := intervals
  timeSegments := none

def approval : List (Env × Operation) :=
  [(⟨1, 1⟩, .create { creation none with intervals := [fiveMetres] } (some 1)),
    (⟨2, 0⟩, .approve 1 2 none)]

end Sample

/-- A report of five metres that is approved, and then corrected in its notes. -/
theorem revenue_in_step_notes : ∃ db : Database, (∃ r ∈ db.reports.rows, r.status = .approved) ∧
    ∀ r ∈ db.reports.rows, r.status = .approved →
      earnedEntries .python Sample.payingContract r = .ok (billed db.entries r.id) := by
  obtain ⟨db, hrun, happroved⟩ := Run.of_execAll .python Sample.payingContract
    (BillingKept Sample.payingContract) Sample.oneHole
    (Sample.approval ++ [(⟨3, 0⟩, .update 1 (Sample.correction none))])
    (p := fun db => ∃ r ∈ db.reports.rows, r.status = .approved) rfl rfl (by decide +kernel)
  exact ⟨db, by simpa using happroved, revenue_in_step hrun⟩

/-- After a correction that removes the intervals the metres stay billed. -/
theorem revenue_in_step_fails : ¬ ∀ requests db,
    Run .python Sample.payingContract (fun _ _ => True) requests db →
      ∀ r ∈ db.reports.rows, r.status = .approved →
        earnedEntries .python Sample.payingContract r = .ok (billed db.entries r.id) := by
  intro hall
  obtain ⟨db, hrun, hout⟩ := Run.of_execAll .python Sample.payingContract (fun _ _ => True)
    Sample.oneHole (Sample.approval ++ [(⟨3, 0⟩, .update 1 (Sample.correction (some [])))])
    (p := fun db => ∃ r ∈ db.reports.rows, r.status = .approved ∧
      (earnedEntries .python Sample.payingContract r).toOption ≠ some (billed db.entries r.id))
    rfl rfl (by decide +kernel)
  simp only [decide_eq_true_eq] at hout
  obtain ⟨r, hr, hstatus, hne⟩ := hout
  exact hne (by rw [hall _ db hrun r hr hstatus]; rfl)

end Cestos.Drilling
