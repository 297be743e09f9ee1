import Cestos.Drilling.Effects

/-!
# Drill holes

Holes are created and changed next to the reports of what was drilled in them. A hole that has an
interval stays on its site, so the holes of a report are on the project and the site of the report.
-/

namespace Cestos.Drilling

open Cestos.Core Cestos.Core.Decimal

structure DrillHoleCreate where
  siteLocationId : Option Id
  projectId : Id
  holeNumber : String
  targetDepthM : Option {x : ℚ // 0 ≤ x}
  deriving DecidableEq

/-- Fields that are absent stay as they are; each of the others may be null. -/
structure DrillHoleUpdate where
  siteLocationId : Option (Option Id)
  holeNumber : Option (Option String)
  targetDepthM : Option (Option {x : ℚ // 0 ≤ x})
  finalDepthM : Option (Option {x : ℚ // 0 ≤ x})
  status : Option (Option DrillHoleStatus)
  startedAt : Option (Option Instant)
  deriving DecidableEq

def storeDepth : Option {x : ℚ // 0 ≤ x} → Outcome (Option (Column 18 2))
  | none => .ok none
  | some x => do
    let depth ← orError (Column.store 18 2 x.1) .data
    .ok (some depth)

def createDrillHole (refs : References) (env : Env) (db : Database) (payload : DrillHoleCreate) :
    Outcome Database := do
  requireSite refs payload.projectId payload.siteLocationId
  ensure (∀ hole ∈ db.holes.rows, ¬ (hole.projectId = payload.projectId ∧
      hole.holeNumber = payload.holeNumber ∧ hole.archived = false))
    (.value ("Drill hole '" ++ payload.holeNumber ++ "' already exists in this project."))
  let targetDepthM ← storeDepth payload.targetDepthM
  ensure (∀ hole ∈ db.holes.rows, ¬ (hole.projectId = payload.projectId ∧
      hole.holeNumber = payload.holeNumber)) (.integrity "ix_drill_holes_number")
  let holes ← orError (db.holes.insert?
    { id := env.uuid, holeNumber := payload.holeNumber, projectId := payload.projectId
      siteLocationId := payload.siteLocationId, targetDepthM, finalDepthM := none
      status := .planned, startedAt := none, archived := false })
    (.integrity "drill_holes_pkey")
  .ok { db with holes }

/-- The site may be set while nothing was drilled. -/
def checkMove (refs : References) (db : Database) (hole : DrillHole) :
    Option (Option Id) → Outcome Unit
  | none => .ok ()
  | some site => do
    requireSite refs hole.projectId site
    ensure (site = hole.siteLocationId ∨
        ∀ r ∈ db.reports.rows, ∀ iv ∈ r.intervals, iv.drillHoleId ≠ hole.id)
      (.value "A hole with recorded shift intervals cannot be moved to another site")

def updateDrillHole (refs : References) (db : Database) (holeId : Id) (payload : DrillHoleUpdate) :
    Outcome Database := do
  let hole ← orError ((db.holes.find? holeId).filter (·.archived = false))
    (.value ("Drill Hole " ++ toString holeId ++ " not found."))
  checkMove refs db hole payload.siteLocationId
  let holeNumber ← orError (payload.holeNumber.getD (some hole.holeNumber))
    (.integrity "drill_holes.hole_number")
  let status ← orError (payload.status.getD (some hole.status)) (.integrity "drill_holes.status")
  let targetDepthM ← payload.targetDepthM.elim (.ok hole.targetDepthM) storeDepth
  let finalDepthM ← payload.finalDepthM.elim (.ok hole.finalDepthM) storeDepth
  ensure (∀ other ∈ db.holes.rows, other.id ≠ hole.id →
      ¬ (other.projectId = hole.projectId ∧ other.holeNumber = holeNumber))
    (.integrity "ix_drill_holes_number")
  .ok { db with holes := db.holes.set { hole with
    siteLocationId := payload.siteLocationId.getD hole.siteLocationId
    holeNumber, status, targetDepthM, finalDepthM
    startedAt := payload.startedAt.getD hole.startedAt } }

/-! ## Histories -/

inductive HoleOperation
  | report (op : Operation)
  | createHole (payload : DrillHoleCreate)
  | updateHole (holeId : Id) (payload : DrillHoleUpdate)
  deriving DecidableEq

def HoleOperation.exec (ctx : Context 28 12) (refs : References) (env : Env) (db : Database) :
    HoleOperation → Outcome Database
  | .report op => Drilling.exec ctx refs env db op
  | .createHole payload => createDrillHole refs env db payload
  | .updateHole holeId payload => updateDrillHole refs db holeId payload

/-- The states that are reached by requests that meet `cond`. The rest of the database may change
between any two of them. -/
inductive History (ctx : Context 28 12) (cond : Database → HoleOperation → Prop) : Database → Prop
  | init : History ctx cond ⟨.empty, .empty, []⟩
  | step {db db'} (refs : References) (env : Env) (op : HoleOperation) : History ctx cond db →
      cond db op → op.exec ctx refs env db = .ok db' → History ctx cond db'

/-- The requests of a schedule, one after the other; none of them may fail. -/
def execHistory (ctx : Context 28 12) (refs : References) (cond : Database → HoleOperation → Prop)
    [∀ db op, Decidable (cond db op)] (db : Database) (requests : List (Env × HoleOperation)) :
    Option Database :=
  requests.foldlM (fun db r => if cond db r.2 then (r.2.exec ctx refs r.1 db).toOption else none) db

variable {ctx : Context 28 12} {refs : References} {env : Env} {db db' : Database}
  {cond : Database → HoleOperation → Prop}

theorem History.execHistory [∀ db op, Decidable (cond db op)]
    {requests : List (Env × HoleOperation)} (h : History ctx cond db)
    (hexec : execHistory ctx refs cond db requests = some db') : History ctx cond db' := by
  induction requests generalizing db with
  | nil => exact Option.some.inj hexec ▸ h
  | cons r rest ih =>
      simp only [Drilling.execHistory, List.foldlM_cons, Option.bind_eq_bind,
        Option.bind_eq_some_iff, Option.ite_none_right_eq_some] at hexec
      obtain ⟨mid, ⟨hcond, hmid⟩, hrest⟩ := hexec
      refine ih (h.step refs r.1 r.2 hcond ?_) hrest
      cases hr : r.2.exec ctx refs r.1 db with
      | error e => simp [hr, Except.toOption] at hmid
      | ok out => simpa [hr, Except.toOption] using hmid

theorem History.of_execHistory (ctx : Context 28 12) (refs : References)
    (cond : Database → HoleOperation → Prop) [∀ db op, Decidable (cond db op)]
    (requests : List (Env × HoleOperation)) {p : Database → Bool}
    (hexec : (Drilling.execHistory ctx refs cond ⟨.empty, .empty, []⟩ requests).any p = true) :
    ∃ db, History ctx cond db ∧ p db = true := by
  cases hdb : Drilling.execHistory ctx refs cond ⟨.empty, .empty, []⟩ requests with
  | none => simp [hdb] at hexec
  | some db =>
      rw [hdb, Option.any_some] at hexec
      exact ⟨db, History.init.execHistory hdb, hexec⟩

/-! ## What the requests do to intervals -/

/-- The hole of an interval and how deep it goes. -/
def DrillingShiftInterval.reach (iv : DrillingShiftInterval) : Id × ℚ := (iv.drillHoleId, iv.toDepthM.1)

/-- What the interval reaches when it is stored. -/
def IntervalCreate.reach (iv : IntervalCreate) : Id × ℚ := (iv.drillHoleId, numeric 2 iv.toDepthM.1)

/-- What a request for a report that succeeds does to intervals and holes. -/
inductive Change (ctx : Context 28 12) (refs : References) (env : Env) (db : Database) :
    Operation → Database → Prop
  | created (payload : ShiftReportCreate) (actorId : Option Id) (report : DrillingShiftReport)
      (reports : Table DrillingShiftReport.id) :
      validateSiteIntervals refs db payload.projectId payload.siteLocationId
        (payload.intervals.map fun iv => (iv.drillHoleId, iv.toDepthM.1)) none = .ok () →
      report.projectId = payload.projectId → report.siteLocationId = payload.siteLocationId →
      report.status = payload.status.getD .draft →
      report.intervals.map (·.reach) = payload.intervals.map (·.reach) →
      db.reports.insert? report = some reports →
      Change ctx refs env db (.create payload actorId) { db with reports }
  | updated (shiftId : Id) (payload : ShiftReportUpdate) (old new : DrillingShiftReport) :
      db.reports.find? shiftId = some old →
      validateSiteIntervals refs db new.projectId new.siteLocationId
        (payload.intervals.elim (old.intervals.map fun iv => (iv.drillHoleId, iv.toDepthM.1))
          (·.map fun iv => (iv.drillHoleId, iv.toDepthM.1))) (some shiftId) = .ok () →
      new.id = old.id → new.status = old.status →
      new.intervals.map (·.reach) =
        payload.intervals.elim (old.intervals.map (·.reach)) (·.map (·.reach)) →
      Change ctx refs env db (.update shiftId payload) { db with reports := db.reports.set new }
  /-- A submission or a return. -/
  | moved (op : Operation) (shiftId : Id) (old new : DrillingShiftReport) :
      db.reports.find? shiftId = some old → new.id = old.id → new.projectId = old.projectId →
      new.siteLocationId = old.siteLocationId → new.intervals = old.intervals →
      old.status ≠ .approved → new.status ≠ .approved →
      Change ctx refs env db op { db with reports := db.reports.set new }
  | approved (shiftId userId : Id) (notes : Option String) (old : DrillingShiftReport)
      (entries : List RevenueSubledgerEntry) :
      db.reports.find? shiftId = some old →
      Change ctx refs env db (.approve shiftId userId notes)
        ⟨deepenHoles env db.holes old.intervals,
          db.reports.set (Drilling.approved env userId notes old), entries⟩
  | deleted (shiftId : Id) (old : DrillingShiftReport) : db.reports.find? shiftId = some old →
      old.status ≠ .approved →
      Change ctx refs env db (.delete shiftId)
        { db with reports := db.reports.removeIf (·.id = shiftId) }

theorem recalculateShiftTotals_reach {ivs : List WorkingInterval} {segments : List WorkingSegment}
    {report new : DrillingShiftReport}
    (h : recalculateShiftTotals ctx ivs segments report = .ok new) :
    new.siteLocationId = report.siteLocationId ∧
      new.intervals.map (·.reach) = ivs.map fun iv => (iv.drillHoleId, numeric 2 iv.toDepthM) := by
  simp only [recalculateShiftTotals, bind_eq_ok, Except.ok.injEq] at h
  obtain ⟨intervals, hintervals, _, -, _, -, _, -, _, -, rfl⟩ := h
  refine ⟨rfl, ?_⟩
  show intervals.map (·.reach) = _
  clear report segments
  induction ivs generalizing intervals with
  | nil =>
      simp only [List.mapM_nil, pure_eq_ok] at hintervals
      simp [← hintervals]
  | cons w ivs ih =>
      simp only [List.mapM_cons, bind_eq_ok, pure_eq_ok] at hintervals
      obtain ⟨iv, hiv, rest, hrest, rfl⟩ := hintervals
      have hreach : iv.reach = (w.drillHoleId, numeric 2 w.toDepthM) := by
        simp only [WorkingInterval.store, ensure_bind_eq_ok, orError_bind_eq_ok] at hiv
        obtain ⟨-, _, -, depth, hdepth, _, -, hiv⟩ := hiv
        split at hiv
        · obtain rfl := Except.ok.inj hiv
          exact congrArg _ (Column.store_val hdepth)
        · cases hiv
      rw [List.map_cons, List.map_cons, hreach, ih rest hrest]

theorem replaceParts_reach {payload : ShiftReportUpdate} {report new : DrillingShiftReport}
    (h : replaceParts ctx payload report = .ok new) :
    new.siteLocationId = report.siteLocationId ∧ new.intervals.map (·.reach) =
      payload.intervals.elim (report.intervals.map (·.reach)) (·.map (·.reach)) := by
  unfold replaceParts at h
  split at h
  · next hnone =>
    obtain rfl := Except.ok.inj h
    rw [hnone.1]
    exact ⟨rfl, rfl⟩
  · obtain ⟨hsite, hreach⟩ := recalculateShiftTotals_reach h
    refine ⟨hsite, hreach.trans ?_⟩
    cases payload.intervals with
    | none =>
        simp only [Option.elim_none, List.map_map]
        refine List.map_congr_left fun iv _ => ?_
        exact congrArg (iv.drillHoleId, ·) (numeric_of_onGrid iv.toDepthM.2.1)
    | some intervals =>
        simp only [Option.elim_some, List.map_map]
        rfl

theorem exec_change {op : Operation} (h : exec ctx refs env db op = .ok db') :
    Change ctx refs env db op db' := by
  cases op with
  | create payload actorId =>
      simp only [exec, createShiftReport] at h
      obtain ⟨_, -, h⟩ := bind_eq_ok.1 h
      obtain ⟨_, hvalid, h⟩ := bind_eq_ok.1 h
      simp only [orError_bind_eq_ok, ensure_bind_eq_ok] at h
      obtain ⟨_, -, -, h⟩ := h
      obtain ⟨report, hreport, h⟩ := bind_eq_ok.1 h
      simp only [orError_bind_eq_ok, Except.ok.injEq] at h
      obtain ⟨reports, hinsert, rfl⟩ := h
      obtain ⟨hsame, hproject, -⟩ := recalculateShiftTotals_spec hreport
      obtain ⟨hsite, hreach⟩ := recalculateShiftTotals_reach hreport
      refine .created payload actorId report reports hvalid hproject hsite hsame.status ?_ hinsert
      rw [hreach, List.map_map]
      rfl
  | update shiftId payload =>
      simp only [exec, updateShiftReport, getShiftReport, orError_bind_eq_ok,
        ensure_bind_eq_ok] at h
      obtain ⟨old, hold, -, hrest⟩ := h
      simp only [bind_eq_ok, Except.ok.injEq] at hrest
      obtain ⟨_, hvalid, mid, hparts, _, -, _, -, _, -, _, -, rfl⟩ := hrest
      obtain ⟨hsame, hproject, -⟩ := replaceParts_spec hparts
      obtain ⟨hsite, hreach⟩ := replaceParts_reach hparts
      refine .updated shiftId payload old _ hold ?_ hsame.id hsame.status hreach
      rw [show _ = _ from hproject, show _ = _ from hsite]
      exact hvalid
  | submit shiftId userId notes =>
      simp only [exec, submitShiftReport, getShiftReport, orError_bind_eq_ok, ensure_bind_eq_ok,
        Except.ok.injEq] at h
      obtain ⟨old, hold, hopen, rfl⟩ := h
      refine .moved _ shiftId old _ hold rfl rfl rfl rfl (fun happroved => ?_) (by simp)
      rw [happroved] at hopen
      simp at hopen
  | approve shiftId userId notes =>
      simp only [exec, approveShiftReport, getShiftReport, checkApprovable] at h
      obtain ⟨_, -, h⟩ := bind_eq_ok.1 h
      simp only [orError_bind_eq_ok, ensure_bind_eq_ok] at h
      obtain ⟨old, hold, hstatus, h⟩ := h
      obtain ⟨entries, hentries, hdb⟩ := bind_eq_ok.1 h
      obtain rfl := Except.ok.inj hdb
      exact .approved shiftId userId notes old entries hold
  | giveBack shiftId reason =>
      simp only [exec, returnShiftReport, getShiftReport, orError_bind_eq_ok, ensure_bind_eq_ok,
        Except.ok.injEq] at h
      obtain ⟨old, hold, hstatus, rfl⟩ := h
      exact .moved _ shiftId old _ hold rfl rfl rfl rfl (by simp [hstatus]) (by simp)
  | delete shiftId =>
      simp only [exec, deleteShiftReport, getShiftReport, orError_bind_eq_ok, ensure_bind_eq_ok,
        Except.ok.injEq] at h
      obtain ⟨old, hold, hopen, -, rfl⟩ := h
      exact .deleted shiftId old hold hopen

/-! ## Where the holes are -/

/-- The project and the site of a hole, and whether it is archived. -/
def DrillHole.place (hole : DrillHole) : Id × Option Id × Bool :=
  (hole.projectId, hole.siteLocationId, hole.archived)

/-- A hole on a project and a site. -/
def HoleFits (holes : Table DrillHole.id) (projectId : Id) (site : Option Id) (holeId : Id) : Prop :=
  (holes.find? holeId).map DrillHole.place = some (projectId, site, false)

/-- The holes of every report are on its project and its site. -/
def Placed (db : Database) : Prop :=
  ∀ r ∈ db.reports.rows, ∀ p ∈ r.intervals.map (·.reach),
    HoleFits db.holes r.projectId r.siteLocationId p.1

theorem fits_of_validate {projectId : Id} {site : Option Id} {intervals : List (Id × ℚ)}
    {shiftId : Option Id}
    (h : validateSiteIntervals refs db projectId site intervals shiftId = .ok ()) :
    ∀ p ∈ intervals, HoleFits db.holes projectId site p.1 := by
  intro p hp
  simp only [validateSiteIntervals, bind_eq_ok] at h
  obtain ⟨_, -, _, hmap, -⟩ := h
  obtain ⟨_, hp⟩ := ok_of_mapM hmap p hp
  simp only [orError_bind_eq_ok, ensure_bind_eq_ok] at hp
  obtain ⟨hole, hhole, ⟨hproject, harchived, hsite⟩, -⟩ := hp
  rw [HoleFits, hhole, Option.map_some, DrillHole.place, hproject, hsite,
    Bool.eq_false_iff.2 harchived]

theorem map_deepenHoles {β : Type} {g : DrillHole → β}
    (hg : ∀ iv hole, g (deepen env iv hole) = g hole) (holes : Table DrillHole.id)
    (ivs : List DrillingShiftInterval) (holeId : Id) :
    ((deepenHoles env holes ivs).find? holeId).map g = (holes.find? holeId).map g := by
  unfold deepenHoles
  induction ivs generalizing holes with
  | nil => rfl
  | cons iv ivs ih =>
      rw [List.foldl_cons, ih]
      cases hhole : holes.find? iv.drillHoleId with
      | none => rfl
      | some hole =>
          refine Table.map_find?_set (fun old hold => ?_) holeId
          have hid : hole.id = iv.drillHoleId := Table.key_of_find? hhole
          rw [show (deepen env iv hole).id = hole.id from rfl, hid, hhole] at hold
          rw [hg, Option.some.inj hold]

theorem Change.placed {op : Operation} (h : Change ctx refs env db op db') (hplaced : Placed db) :
    Placed db' := by
  have hset : ∀ {new old : DrillingShiftReport}, db.reports.find? new.id = some old →
      (∀ p ∈ new.intervals.map (·.reach), HoleFits db.holes new.projectId new.siteLocationId p.1) →
      Placed { db with reports := db.reports.set new } := by
    intro new old hold hnew r hr
    rcases (Table.mem_set_of_find? hold).1 hr with ⟨hr, -⟩ | rfl
    · exact hplaced r hr
    · exact hnew
  cases h with
  | created payload actorId report reports hvalid hproject hsite hstatus hreach hinsert =>
      intro r hr p hp
      rcases (Table.mem_insert? hinsert).1 hr with hr | rfl
      · exact hplaced r hr p hp
      · rw [hreach] at hp
        obtain ⟨iv, hiv, rfl⟩ := List.mem_map.1 hp
        rw [hproject, hsite]
        exact fits_of_validate hvalid (iv.drillHoleId, iv.toDepthM.1)
          (List.mem_map.2 ⟨iv, hiv, rfl⟩)
  | updated shiftId payload old new hold hvalid hid hstatus hreach =>
      have hfind : db.reports.find? new.id = some old := by
        rw [hid, Table.key_of_find? hold, hold]
      refine hset hfind fun p hp => ?_
      rw [hreach] at hp
      have hfits := fits_of_validate hvalid
      cases hintervals : payload.intervals with
      | none =>
          rw [hintervals] at hp hfits
          exact hfits p hp
      | some intervals =>
          rw [hintervals] at hp hfits
          obtain ⟨iv, hiv, rfl⟩ := List.mem_map.1 hp
          exact hfits (iv.drillHoleId, iv.toDepthM.1) (List.mem_map.2 ⟨iv, hiv, rfl⟩)
  | moved _ shiftId old new hold hid hproject hsite hintervals hopen hnew =>
      have hfind : db.reports.find? new.id = some old := by
        rw [hid, Table.key_of_find? hold, hold]
      refine hset hfind fun p hp => ?_
      rw [hintervals] at hp
      rw [hproject, hsite]
      exact hplaced old (Table.mem_of_find? hold) p hp
  | approved shiftId userId notes old entries hold =>
      obtain rfl := Table.key_of_find? hold
      have hfind : db.reports.find? (Drilling.approved env userId notes old).id = some old := hold
      intro r hr p hp
      have hfits := hset hfind (hplaced old (Table.mem_of_find? hold)) r hr p hp
      exact (map_deepenHoles (g := DrillHole.place) (fun _ _ => rfl) db.holes old.intervals
        p.1).trans hfits
  | deleted shiftId old hold hopen =>
      intro r hr
      exact hplaced r (Table.mem_removeIf.1 hr).1

theorem storeDepth_nonneg {x : Option {x : ℚ // 0 ≤ x}} {depth : Option (Column 18 2)}
    (h : storeDepth x = .ok depth) : ∀ d ∈ depth, 0 ≤ d.1 := by
  cases x with
  | none => simp [← Except.ok.inj h]
  | some x =>
      simp only [storeDepth, bind_eq_ok, orError_eq_ok, Except.ok.injEq] at h
      obtain ⟨d, hd, rfl⟩ := h
      intro d' hd'
      obtain rfl := Option.some.inj hd'
      exact (Column.store_val hd).symm ▸ numeric_nonneg 2 x.2

theorem createDrillHole_spec {payload : DrillHoleCreate}
    (h : createDrillHole refs env db payload = .ok db') : ∃ hole holes,
      hole.finalDepthM = none ∧ (∀ target ∈ hole.targetDepthM, 0 ≤ target.1) ∧
      db.holes.insert? hole = some holes ∧ db' = { db with holes } := by
  simp only [createDrillHole, bind_eq_ok, orError_eq_ok, Except.ok.injEq] at h
  obtain ⟨_, -, _, -, _, htarget, _, -, holes, hinsert, rfl⟩ := h
  exact ⟨_, holes, rfl, storeDepth_nonneg htarget, hinsert, rfl⟩

theorem updateDrillHole_spec {holeId : Id} {payload : DrillHoleUpdate}
    (h : updateDrillHole refs db holeId payload = .ok db') : ∃ old new,
      db.holes.find? holeId = some old ∧ new.id = old.id ∧
      (payload.finalDepthM = none → new.finalDepthM = old.finalDepthM) ∧
      ((∀ target ∈ old.targetDepthM, 0 ≤ target.1) → ∀ target ∈ new.targetDepthM, 0 ≤ target.1) ∧
      (new.place = old.place ∨ ∀ r ∈ db.reports.rows, ∀ iv ∈ r.intervals, iv.drillHoleId ≠ old.id) ∧
      db' = { db with holes := db.holes.set new } := by
  simp only [updateDrillHole, bind_eq_ok, orError_eq_ok, Option.filter_eq_some_iff,
    Except.ok.injEq] at h
  obtain ⟨old, ⟨hold, -⟩, _, hsite, _, -, _, -, _, htarget, _, hdepth, _, -, rfl⟩ := h
  refine ⟨old, _, hold, ?_, fun hnone => ?_, fun hnonneg => ?_, ?_, rfl⟩
  · rfl
  · rw [hnone] at hdepth
    exact (Except.ok.inj hdepth).symm
  · cases hpayload : payload.targetDepthM with
    | none =>
        rw [hpayload] at htarget
        exact Except.ok.inj htarget ▸ hnonneg
    | some target =>
        rw [hpayload] at htarget
        exact storeDepth_nonneg htarget
  · cases hpayload : payload.siteLocationId with
    | none => exact .inl rfl
    | some site =>
        simp only [hpayload, checkMove, bind_eq_ok, ensure_eq_ok] at hsite
        obtain ⟨_, -, hsame | hfree⟩ := hsite
        · exact .inl (by rw [DrillHole.place, DrillHole.place, Option.getD_some, hsame])
        · exact .inr hfree

theorem HoleOperation.exec_placed {op : HoleOperation} (h : op.exec ctx refs env db = .ok db')
    (hplaced : Placed db) : Placed db' := by
  cases op with
  | report op => exact (exec_change h).placed hplaced
  | createHole payload =>
      obtain ⟨hole, holes, -, -, hinsert, rfl⟩ := createDrillHole_spec h
      intro r hr p hp
      obtain ⟨known, hknown, hplace⟩ := Option.map_eq_some_iff.1 (hplaced r hr p hp)
      rw [HoleFits, Table.find?_insert?_of_find? hinsert hknown, Option.map_some, hplace]
  | updateHole holeId payload =>
      obtain ⟨old, new, hold, hid, -, -, hplace, rfl⟩ := updateDrillHole_spec h
      obtain rfl := Table.key_of_find? hold
      intro r hr p hp
      refine Eq.trans ?_ (hplaced r hr p hp)
      by_cases hhole : new.id = p.1
      · rcases hplace with hplace | hfree
        · refine Table.map_find?_set (fun known hknown => ?_) p.1
          rw [hid, hold] at hknown
          exact Option.some.inj hknown ▸ hplace.symm
        · obtain ⟨iv, hiv, rfl⟩ := List.mem_map.1 hp
          exact absurd (hhole.symm.trans hid) (hfree r hr iv hiv)
      · exact congrArg _ (Table.find?_set_ne hhole)

/-- No target is above the ground. -/
def TargetsBelow (db : Database) : Prop :=
  ∀ hole ∈ db.holes.rows, ∀ target ∈ hole.targetDepthM, 0 ≤ target.1

theorem HoleOperation.exec_targets {op : HoleOperation} (h : op.exec ctx refs env db = .ok db')
    (htargets : TargetsBelow db) : TargetsBelow db' := by
  cases op with
  | report op =>
      cases exec_change h with
      | created | updated | moved | deleted => exact htargets
      | approved shiftId userId notes old entries hold =>
          intro hole hhole target htarget
          have hsame : ((deepenHoles env db.holes old.intervals).find? hole.id).map _ = _ :=
            map_deepenHoles (g := DrillHole.targetDepthM) (fun _ _ => rfl) db.holes old.intervals
              hole.id
          rw [Table.find?_of_mem hhole] at hsame
          obtain ⟨known, hknown, hsame⟩ := Option.map_eq_some_iff.1 hsame.symm
          exact htargets known (Table.mem_of_find? hknown) target (hsame ▸ htarget)
  | createHole payload =>
      obtain ⟨hole, holes, -, htarget, hinsert, rfl⟩ := createDrillHole_spec h
      intro other hother
      rcases (Table.mem_insert? hinsert).1 hother with hother | rfl
      · exact htargets other hother
      · exact htarget
  | updateHole holeId payload =>
      obtain ⟨old, new, hold, hid, -, htarget, -, rfl⟩ := updateDrillHole_spec h
      obtain rfl := Table.key_of_find? hold
      intro other hother
      rcases (Table.mem_set_of_find? (hid ▸ hold)).1 hother with ⟨hother, -⟩ | rfl
      · exact htargets other hother
      · exact htarget (htargets old (Table.mem_of_find? hold))

theorem History.targets (h : History ctx cond db) : TargetsBelow db := by
  induction h with
  | init =>
      intro hole hhole
      cases hhole
  | step refs env op _ _ hexec ih => exact HoleOperation.exec_targets hexec ih

theorem History.placed (h : History ctx cond db) : Placed db := by
  induction h with
  | init =>
      intro r hr
      cases hr
  | step refs env op _ _ hexec ih => exact HoleOperation.exec_placed hexec ih

namespace Sample

/-- A hole of a target depth. -/
def newHole (target : Option {x : ℚ // 0 ≤ x}) : HoleOperation := .createHole ⟨none, 1, "DH-1", target⟩

/-- A report of a day on what was drilled from the surface. -/
def drilling (date : Day) (status : ShiftReportStatus) (depth : {x : ℚ // 0 ≤ x}) : HoleOperation :=
  .report (.create { creation (some status) with date, intervals := [⟨1, 0, depth, none⟩] } none)

theorem ten_nonneg : (0 : ℚ) ≤ 10 := by decide +kernel

def tenMetres : {x : ℚ // 0 ≤ x} := ⟨10, ten_nonneg⟩

end Sample

end Cestos.Drilling
