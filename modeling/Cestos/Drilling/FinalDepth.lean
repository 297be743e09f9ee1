import Cestos.Drilling.Holes

/-!
# The final depth of a hole

An approval deepens the holes of the report. A report that is created as approved, or corrected
after its approval, deepens none, and nothing makes a hole less deep.
-/

namespace Cestos.Drilling

open Cestos.Core Cestos.Core.Decimal

/-- How deep a hole is reached. -/
def deepest (reaches : List (Id × ℚ)) (holeId : Id) : Option ℚ :=
  ((reaches.filter (·.1 = holeId)).map (·.2)).max?

namespace Database

variable (db : Database)

/-- What the approved reports reach. -/
def approvedReaches : List (Id × ℚ) :=
  (db.reports.rows.filter (·.status = .approved)).flatMap fun r => r.intervals.map (·.reach)

/-- What the approved reports except one reach. -/
def approvedExcept (shiftId : Id) : List (Id × ℚ) :=
  (db.reports.rows.filter fun r => r.status = .approved ∧ r.id ≠ shiftId).flatMap fun r =>
    r.intervals.map (·.reach)

/-- The final depth of every hole is the greatest depth of its intervals in approved reports. -/
def FinalDepths : Prop :=
  ∀ hole ∈ db.holes.rows, hole.finalDepthM.map (·.1) = deepest db.approvedReaches hole.id

instance : Decidable db.FinalDepths := inferInstanceAs (Decidable (∀ hole ∈ _, _ = _))

end Database

/-- What is written without an approval leaves the greatest approved depths as they are, and final
depths are not edited. -/
def KeepsDepths (db : Database) : HoleOperation → Prop
  | .report (.create payload _) => payload.status = some .approved → ∀ hole ∈ db.holes.rows,
      deepest (db.approvedReaches ++ payload.intervals.map (·.reach)) hole.id =
        deepest db.approvedReaches hole.id
  | .report (.update shiftId payload) => ∀ r ∈ db.reports.find? shiftId, r.status = .approved →
      ∀ intervals ∈ payload.intervals, ∀ hole ∈ db.holes.rows,
        deepest (db.approvedExcept shiftId ++ intervals.map (·.reach)) hole.id =
          deepest db.approvedReaches hole.id
  | .report (.submit _ _ _) | .report (.approve _ _ _) | .report (.giveBack _ _)
  | .report (.delete _) | .createHole _ => True
  | .updateHole _ payload => payload.finalDepthM = none

instance (db : Database) : DecidablePred (KeepsDepths db)
  | .report (.create _ _) => inferInstanceAs (Decidable (_ = _ → ∀ hole ∈ _, _ = _))
  | .report (.update _ _) =>
      inferInstanceAs (Decidable (∀ r ∈ _, _ = _ → ∀ intervals ∈ _, ∀ hole ∈ _, _ = _))
  | .report (.submit _ _ _) | .report (.approve _ _ _) | .report (.giveBack _ _)
  | .report (.delete _) | .createHole _ => .isTrue trivial
  | .updateHole _ _ => inferInstanceAs (Decidable (_ = _))

/-- No final depth is edited. -/
def Unedited (_ : Database) : HoleOperation → Prop
  | .updateHole _ payload => payload.finalDepthM = none
  | .report _ | .createHole _ => True

instance (db : Database) : DecidablePred (Unedited db)
  | .updateHole _ _ => inferInstanceAs (Decidable (_ = _))
  | .report _ | .createHole _ => .isTrue trivial

variable {ctx : Context 28 12} {refs : References} {env : Env} {db db' : Database}
  {reaches other : List (Id × ℚ)} {p : Id × ℚ} {holeId : Id}

theorem deepest_eq_none : deepest reaches holeId = none ↔ ∀ p ∈ reaches, p.1 ≠ holeId := by
  simp [deepest]

theorem deepest_congr (h : ∀ p, p ∈ reaches ↔ p ∈ other) :
    deepest reaches holeId = deepest other holeId := by
  refine Option.ext fun depth => ?_
  simp only [deepest, List.max?_eq_some_iff, List.mem_map, List.mem_filter, h]

theorem deepest_append_singleton : deepest (reaches ++ [p]) holeId =
    if p.1 = holeId then some ((deepest reaches holeId).elim p.2 (max · p.2))
    else deepest reaches holeId := by
  unfold deepest
  rw [List.filter_append, List.map_append]
  split
  · next hp =>
    rw [List.filter_cons_of_pos (by simpa using hp)]
    cases (reaches.filter (·.1 = holeId)).map (·.2) with
    | nil => rfl
    | cons depth depths =>
        rw [List.cons_append, List.max?_cons', List.max?_cons', List.foldl_append]
        rfl
  · next hp => simp [List.filter_cons_of_neg, hp]

theorem deepen_final {iv : DrillingShiftInterval} {hole : DrillHole} {depth : Option ℚ}
    (h : hole.finalDepthM.map (·.1) = depth) :
    (deepen env iv hole).finalDepthM.map (·.1) =
      some (depth.elim iv.toDepthM.1 (max · iv.toDepthM.1)) := by
  subst h
  show Option.map _ (if _ then _ else _) = _
  cases hole.finalDepthM with
  | none => rfl
  | some final =>
      by_cases hlt : final.1 < iv.toDepthM.1
      · rw [if_pos (by simpa using hlt)]
        exact congrArg some (max_eq_right hlt.le).symm
      · rw [if_neg (by simpa using hlt)]
        exact congrArg some (max_eq_left (not_lt.1 hlt)).symm

theorem deepenHoles_final {holes : Table DrillHole.id} (ivs : List DrillingShiftInterval)
    (h : ∀ hole ∈ holes.rows, hole.finalDepthM.map (·.1) = deepest reaches hole.id) :
    ∀ hole ∈ (deepenHoles env holes ivs).rows,
      hole.finalDepthM.map (·.1) = deepest (reaches ++ ivs.map (·.reach)) hole.id := by
  unfold deepenHoles
  induction ivs generalizing holes reaches with
  | nil => simpa using h
  | cons iv ivs ih =>
      rw [List.foldl_cons, List.map_cons, List.append_cons]
      refine ih fun hole hmem => ?_
      rw [deepest_append_singleton]
      cases hfind : holes.find? iv.drillHoleId with
      | none =>
          rw [hfind] at hmem
          have hne : iv.reach.1 ≠ hole.id :=
            (Table.find?_eq_none.1 hfind hole hmem).symm
          rw [if_neg hne]
          exact h hole hmem
      | some old =>
          rw [hfind] at hmem
          have hid : old.id = iv.drillHoleId := Table.key_of_find? hfind
          have hset : holes.find? (deepen env iv old).id = some old := hid ▸ hfind
          rcases (Table.mem_set_of_find? hset).1 hmem with ⟨hmem, hne⟩ | rfl
          · have hne : iv.reach.1 ≠ hole.id := fun heq => hne (heq.symm.trans hid.symm)
            rw [if_neg hne]
            exact h hole hmem
          · rw [if_pos (show iv.reach.1 = (deepen env iv old).id from hid.symm)]
            exact deepen_final (h old (Table.mem_of_find? hfind))

/-! ## What is approved -/

theorem mem_approvedReaches : p ∈ db.approvedReaches ↔
    ∃ r ∈ db.reports.rows, r.status = .approved ∧ p ∈ r.intervals.map (·.reach) := by
  simp only [Database.approvedReaches, List.mem_flatMap, List.mem_filter, decide_eq_true_eq,
    and_assoc]

theorem mem_approvedExcept {shiftId : Id} : p ∈ db.approvedExcept shiftId ↔
    ∃ r ∈ db.reports.rows, r.id ≠ shiftId ∧ r.status = .approved ∧
      p ∈ r.intervals.map (·.reach) := by
  simp only [Database.approvedExcept, List.mem_flatMap, List.mem_filter, decide_eq_true_eq]
  refine exists_congr fun r => ?_
  tauto

theorem mem_approvedReaches_of_find? {shiftId : Id} {old : DrillingShiftReport}
    (hold : db.reports.find? shiftId = some old) : p ∈ db.approvedReaches ↔
      p ∈ db.approvedExcept shiftId ∨ old.status = .approved ∧ p ∈ old.intervals.map (·.reach) := by
  obtain ⟨hmem, rfl⟩ := Table.find?_eq_some.1 hold
  rw [mem_approvedReaches, mem_approvedExcept]
  constructor
  · rintro ⟨r, hr, happroved, hp⟩
    by_cases hid : r.id = old.id
    · obtain rfl := db.reports.key_injective hr hmem hid
      exact .inr ⟨happroved, hp⟩
    · exact .inl ⟨r, hr, hid, happroved, hp⟩
  · rintro (⟨r, hr, -, happroved, hp⟩ | ⟨happroved, hp⟩)
    · exact ⟨r, hr, happroved, hp⟩
    · exact ⟨old, hmem, happroved, hp⟩

theorem mem_approvedReaches_set {new old : DrillingShiftReport}
    {holes : Table DrillHole.id} {entries : List RevenueSubledgerEntry}
    (hold : db.reports.find? new.id = some old) :
    p ∈ (Database.mk holes (db.reports.set new) entries).approvedReaches ↔
      p ∈ db.approvedExcept new.id ∨ new.status = .approved ∧ p ∈ new.intervals.map (·.reach) := by
  rw [mem_approvedReaches, mem_approvedExcept]
  constructor
  · rintro ⟨r, hr, happroved, hp⟩
    rcases (Table.mem_set_of_find? hold).1 hr with ⟨hr, hid⟩ | rfl
    · exact .inl ⟨r, hr, hid, happroved, hp⟩
    · exact .inr ⟨happroved, hp⟩
  · rintro (⟨r, hr, hid, happroved, hp⟩ | ⟨happroved, hp⟩)
    · exact ⟨r, (Table.mem_set_of_find? hold).2 (.inl ⟨hr, hid⟩), happroved, hp⟩
    · exact ⟨new, (Table.mem_set_of_find? hold).2 (.inr rfl), happroved, hp⟩

/-! ## Histories -/

theorem Change.finalDepths {op : Operation} (h : Change ctx refs env db op db')
    (hcond : KeepsDepths db (.report op)) (hdepths : db.FinalDepths) : db'.FinalDepths := by
  cases h with
  | created payload actorId report reports hvalid hproject hsite hstatus hreach hinsert =>
      intro hole hhole
      rw [hdepths hole hhole]
      have hmem : ∀ p, p ∈ (Database.mk db.holes reports db.entries).approvedReaches ↔
          p ∈ db.approvedReaches ∨ report.status = .approved ∧ p ∈ report.intervals.map (·.reach) := by
        intro p
        simp only [mem_approvedReaches, Table.mem_insert? hinsert, or_and_right, exists_or,
          exists_eq_left]
      by_cases happroved : payload.status = some .approved
      · refine (hcond happroved hole hhole).symm.trans (deepest_congr fun p => ?_)
        rw [hmem, List.mem_append, hreach, hstatus, happroved]
        simp
      · refine deepest_congr fun p => ?_
        have hopen : report.status ≠ .approved := by
          intro heq
          rw [hstatus] at heq
          cases hpayload : payload.status with
          | none => simp [hpayload] at heq
          | some status => simp_all
        rw [hmem, or_iff_left fun hp => hopen hp.1]
  | updated shiftId payload old new hold hvalid hid hstatus hreach =>
      obtain rfl := Table.key_of_find? hold
      intro hole hhole
      rw [hdepths hole hhole]
      by_cases happroved : old.status = .approved
      · cases hintervals : payload.intervals with
        | none =>
            refine deepest_congr fun p => ?_
            rw [mem_approvedReaches_set (hid ▸ hold), mem_approvedReaches_of_find? hold, hid,
              hstatus, hreach, hintervals]
            rfl
        | some intervals =>
            have hkeep := hcond old hold happroved intervals hintervals hole hhole
            refine hkeep.symm.trans (deepest_congr fun p => ?_)
            rw [mem_approvedReaches_set (hid ▸ hold), List.mem_append, hid, hstatus, hreach,
              hintervals]
            simp [happroved]
      · refine deepest_congr fun p => ?_
        rw [mem_approvedReaches_set (hid ▸ hold), mem_approvedReaches_of_find? hold, hid, hstatus]
        simp [happroved]
  | moved _ shiftId old new hold hid hproject hsite hintervals hopen hnew =>
      obtain rfl := Table.key_of_find? hold
      intro hole hhole
      rw [hdepths hole hhole]
      refine deepest_congr fun p => ?_
      rw [mem_approvedReaches_set (hid ▸ hold), mem_approvedReaches_of_find? hold, hid]
      simp [hopen, hnew]
  | approved shiftId userId notes old entries hold =>
      obtain rfl := Table.key_of_find? hold
      intro hole hhole
      rw [deepenHoles_final old.intervals hdepths hole hhole]
      refine deepest_congr fun p => ?_
      have hfind : db.reports.find? (Drilling.approved env userId notes old).id = some old := hold
      rw [mem_approvedReaches_set hfind, List.mem_append, mem_approvedReaches_of_find? hold]
      show _ ↔ p ∈ db.approvedExcept old.id ∨ ShiftReportStatus.approved = .approved ∧ _
      tauto
  | deleted shiftId old hold hopen =>
      intro hole hhole
      rw [hdepths hole hhole]
      refine deepest_congr fun p => ?_
      rw [mem_approvedReaches_of_find? hold, mem_approvedExcept, mem_approvedReaches]
      simp only [Table.mem_removeIf, hopen, false_and, or_false, decide_eq_false_iff_not, and_assoc]

theorem HoleOperation.exec_finalDepths {op : HoleOperation}
    (h : op.exec ctx refs env db = .ok db') (hcond : KeepsDepths db op) (hplaced : Placed db)
    (hdepths : db.FinalDepths) : db'.FinalDepths := by
  cases op with
  | report op => exact (exec_change h).finalDepths hcond hdepths
  | createHole payload =>
      obtain ⟨hole, holes, hfinal, -, hinsert, rfl⟩ := createDrillHole_spec h
      intro other hother
      rcases (Table.mem_insert? hinsert).1 hother with hother | rfl
      · exact hdepths other hother
      -- nothing has been drilled in a hole that is new
      · rw [hfinal]
        refine (deepest_eq_none.2 fun p hp hid => ?_).symm
        obtain ⟨r, hr, -, hp⟩ := mem_approvedReaches.1 hp
        obtain ⟨known, hknown, -⟩ := Option.map_eq_some_iff.1 (hplaced r hr p hp)
        obtain ⟨hmem, hkey⟩ := Table.find?_eq_some.1 hknown
        exact Table.insert?_fresh hinsert hmem (hkey.trans hid)
  | updateHole holeId payload =>
      obtain ⟨old, new, hold, hid, hfinal, -, -, rfl⟩ := updateDrillHole_spec h
      obtain rfl := Table.key_of_find? hold
      intro hole hhole
      rcases (Table.mem_set_of_find? (hid ▸ hold)).1 hhole with ⟨hhole, -⟩ | rfl
      · exact hdepths hole hhole
      · rw [hfinal hcond, hid]
        exact hdepths old (Table.mem_of_find? hold)

/-- In every history in which nothing but an approval changes the greatest approved depths, the
final depth of each hole is the greatest depth of its intervals in approved reports. -/
theorem final_depths (h : History ctx KeepsDepths db) : db.FinalDepths := by
  induction h with
  | init =>
      intro hole hhole
      cases hhole
  | step refs env op hrun hcond hexec ih =>
      exact HoleOperation.exec_finalDepths hexec hcond hrun.placed ih

/-- A hole of an approved report. -/
theorem final_depths_approved : ∃ db : Database, db.approvedReaches = [(1, 10)] ∧ db.FinalDepths := by
  obtain ⟨db, hrun, hreaches⟩ := History.of_execHistory .python Sample.references KeepsDepths
    [(⟨1, 1⟩, Sample.newHole none), (⟨2, 2⟩, Sample.drilling 1 .draft Sample.tenMetres),
      (⟨3, 0⟩, .report (.approve 2 1 none))]
    (p := fun db => db.approvedReaches = [(1, 10)]) (by decide +kernel)
  exact ⟨db, by simpa using hreaches, final_depths hrun⟩

/-- A report that is created as approved leaves the hole without a final depth. -/
theorem final_depths_fails : ¬ ∀ db, History .python Unedited db → db.FinalDepths := by
  intro hall
  obtain ⟨db, hrun, hdepths⟩ := History.of_execHistory .python Sample.references Unedited
    [(⟨1, 1⟩, Sample.newHole none), (⟨2, 2⟩, Sample.drilling 1 .approved Sample.tenMetres)]
    (p := fun db => ¬ db.FinalDepths) (by decide +kernel)
  exact absurd (hall db hrun) (by simpa using hdepths)

end Cestos.Drilling
