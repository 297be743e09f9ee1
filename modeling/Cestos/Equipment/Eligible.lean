import Cestos.Equipment.Active
import Cestos.Equipment.Yard

/-!
# Eligible assets

However requests interleave, an asset has one active assignment at most, and none while it is
archived. No assignment becomes active while the asset is not eligible, as long as the defects and
the inspections that have been looked for are not edited before the commit.
-/

namespace Cestos.Equipment

open Cestos.Core

variable {q : LatestQuery AssetInspection.inspectionDate} {others : List YardTransaction}
  {db db' : Yard} {t : YardTransaction}

def Yard.Sound (db : Yard) : Prop := ∀ file ∈ db.files.rows, file.Sound

/-- What the queries return. -/
def Yard.seen (q : LatestQuery AssetInspection.inspectionDate) (db : Yard) (asset : Asset) : Seen :=
  ⟨db.critical asset, db.latest q asset⟩

/-- `eligibility` reports that the asset is not eligible. -/
def Yard.NotEligible (q : LatestQuery AssetInspection.inspectionDate) (db : Yard)
    (file : AssetFile) : Prop :=
  ∃ env e, file.asset.eligibility env (db.seen q file.asset) file.activeAssignment = .ok e ∧
    e.operationalEligibility = .notEligible

/-- No assignment has become active of an asset that was not eligible. -/
def Yard.Eligibly (q : LatestQuery AssetInspection.inspectionDate) (db db' : Yard) : Prop :=
  ∀ file ∈ db.files.rows, ∀ file' ∈ db'.files.find? file.asset.id, file.Activates file' →
    ¬ db.NotEligible q file

/-- When a request that deploys an asset commits, no critical defect is open but what was seen, and
the latest inspection has not become an unfit one. -/
def Steady (q : LatestQuery AssetInspection.inspectionDate) (_others : List YardTransaction)
    (db : Yard) (t : YardTransaction) : Prop :=
  match t.task with
  | .committing r file seen => r.request.Deploys →
    (db.critical file.asset = true → seen.critical = true) ∧
      ((db.seen q file.asset).unfit = true → seen.unfit = true)
  | _ => True

/-- What others leave as it is while an asset is locked: its rows. -/
def YardLock.Kept : YardLock → Yard → Yard → Prop
  | .asset id, db, db' => db'.files.find? id = db.files.find? id
  | _, _, _ => True

/-- What a request knows that holds an asset. -/
def YardTransaction.Knows (db : Yard) (t : YardTransaction) : Prop :=
  match t.task with
  | .seekingDefect _ file | .seekingInspection _ file _ | .committing _ file _ =>
    .asset file.asset.id ∈ t.held ∧ db.files.find? file.asset.id = some file
  | .request _ | .record _ | .recording _ => True

theorem YardLock.kept_refl (row : YardLock) (db : Yard) : row.Kept db db := by
  cases row <;> trivial

theorem YardTransaction.Knows.stable (h : t.Knows db)
    (hkept : ∀ row ∈ t.held, row.Kept db db') : t.Knows db' := by
  obtain ⟨held, task⟩ := t
  cases task with
  | request r | record r | recording r => trivial
  | seekingDefect r file | seekingInspection r file critical | committing r file seen =>
      exact ⟨h.1, (hkept _ h.1).trans h.2⟩

theorem Yard.file?_mem {r : FleetRequest} {file : AssetFile} (h : db.file? r = some file) :
    file ∈ db.files.rows := by
  have hfound := (Option.filter_eq_some_iff.1 h).1
  split at hfound
  · exact List.mem_of_find?_eq_some hfound
  · exact Table.mem_of_find? hfound

theorem Yard.commitRecord_files {r : RecordRequest} (h : db.commitRecord r = some db') :
    db'.files = db.files := by
  cases r with
  | reportDefect defect | inspect inspection =>
      obtain ⟨rows, -, rfl⟩ := Option.map_eq_some_iff.1 h
      rfl
  | updateDefect | resolveDefect | updateInspection =>
      obtain ⟨row, -, h⟩ := Option.bind_eq_some_iff.1 h
      exact Option.some.inj h ▸ rfl

theorem yardProceed_guards (hsound : db.Sound) (next : Except AppError YardTask)
    (hfree : ∀ row ∈ t.wants db, ¬ locked YardTransaction.held others row)
    (hnext : ∀ task, next = .ok task → YardTransaction.Knows db ⟨t.wants db ++ t.held, task⟩) :
    Guards YardTransaction.held YardLock.Kept (fun _ _ => True) Yard.Sound YardTransaction.Knows
      others db t (t.proceed db next).1 (t.proceed db next).2 := by
  cases next with
  | error e => exact .stops hsound trivial (YardLock.kept_refl · db)
  | ok task =>
      refine .goes hsound trivial (YardLock.kept_refl · db) (hnext task rfl) fun row hrow => ?_
      exact (List.mem_append.1 hrow).symm.imp_right (hfree row)

/-- The rows of an asset are written by the request that holds it. -/
theorem yardCommit_guards {r : FleetRequest} {seen : Seen} {held : List YardLock}
    {file file' : AssetFile} (hsound : db.Sound)
    (hexclusive : ∀ u ∈ others, Exclusive YardTransaction.held ⟨held, .committing r file seen⟩ u)
    (hheld : .asset file.asset.id ∈ held) (hfile : file.Sound)
    (h : file.run r.call seen r.request = .ok file') :
    Guards YardTransaction.held YardLock.Kept (fun _ _ => True) Yard.Sound YardTransaction.Knows
      others db ⟨held, .committing r file seen⟩ { db with files := db.files.set file' } none := by
  have hkept := AssetFile.run_kept hfile h
  refine .commits (fun f hf => ?_) trivial hexclusive fun row hrow => ?_
  · rcases Table.mem_set.1 hf with ⟨hold, -⟩ | ⟨rfl, -⟩
    · exact hsound f hold
    · exact hkept.sound
  · cases row with
    | asset id =>
        refine Table.find?_set_ne fun hid => hrow ?_
        rwa [← hid, hkept.assetId]
    | defect id | inspection id => trivial

theorem yardStep_guards (hsound : db.Sound) (hknows : t.Knows db)
    (hexclusive : ∀ u ∈ others, Exclusive YardTransaction.held t u)
    (hfree : ∀ row ∈ t.wants db, ¬ locked YardTransaction.held others row) :
    Guards YardTransaction.held YardLock.Kept (fun _ _ => True) Yard.Sound YardTransaction.Knows
      others db t (t.step q others db).1 (t.step q others db).2 := by
  obtain ⟨held, task⟩ := t
  cases task with
  | request r =>
      refine yardProceed_guards hsound _ hfree fun task h => ?_
      obtain ⟨file, hfile, hnext⟩ := bind_eq_ok.1 h
      obtain rfl := Except.ok.inj hnext
      rw [orError_eq_ok] at hfile
      refine ⟨List.mem_append_left _ ?_, Table.find?_of_mem (Yard.file?_mem hfile)⟩
      simp [YardTransaction.wants, hfile]
  | seekingDefect r file | seekingInspection r file critical =>
      refine yardProceed_guards hsound _ hfree fun task h => ?_
      obtain rfl := Except.ok.inj h
      exact hknows
  | committing r file seen =>
      obtain ⟨hheld, hfile⟩ := hknows
      have hfileSound := hsound file (Table.mem_of_find? hfile)
      simp only [YardTransaction.step]
      split
      · next file' hrun => exact yardCommit_guards hsound hexclusive hheld hfileSound hrun
      · exact .stops hsound trivial (YardLock.kept_refl · db)
  | record r =>
      refine yardProceed_guards hsound _ hfree fun task h => ?_
      obtain ⟨_, -, hnext⟩ := bind_eq_ok.1 h
      obtain rfl := Except.ok.inj hnext
      trivial
  | recording r =>
      simp only [YardTransaction.step]
      cases hcommit : db.commitRecord r with
      | none => exact .stops hsound trivial (YardLock.kept_refl · db)
      | some db' =>
          have hfiles := Yard.commitRecord_files hcommit
          refine .commits (fun f hf => hsound f (hfiles ▸ hf)) trivial hexclusive fun row _ => ?_
          cases row with
          | asset id => exact congrArg (Table.find? · id) hfiles
          | defect id | inspection id => trivial

theorem yardServing_guarded {admits : List YardTransaction → Yard → YardTransaction → Prop} :
    Guarded YardTransaction.held YardLock.Kept (fun _ _ => True) Yard.Sound YardTransaction.Knows
      YardTransaction.IsRequest (yardServing q) admits := by
  refine ⟨fun db t hrequest _ => ?_, fun db db' t hknows _ => hknows.stable, ?_⟩
  · obtain ⟨held, task⟩ := t
    obtain ⟨hheld, hrequest⟩ := hrequest
    refine ⟨?_, hheld⟩
    cases task <;> trivial
  · intro others db t db' next hsound hknows hexclusive _ hstatement
    obtain ⟨hfree, hstep⟩ := locking_eq_some hstatement
    have hguards := yardStep_guards (q := q) hsound hknows hexclusive hfree
    rwa [hstep] at hguards

theorem Yard.Eligibly.of_files (h : db'.files = db.files) : db.Eligibly q db' := by
  intro file hfile file' hfile' hactivates
  rw [h, Table.find?_of_mem hfile] at hfile'
  obtain rfl := Option.some.inj hfile'
  obtain ⟨row, hrow, hactive, hold⟩ := hactivates
  exact absurd hactive (hold row hrow rfl)

/-- What is committed of an asset that is held was checked for what there still is. -/
theorem eligibly_commit {r : FleetRequest} {seen : Seen} {held : List YardLock}
    {file file' : AssetFile} (hsound : db.Sound)
    (hknows : YardTransaction.Knows db ⟨held, .committing r file seen⟩)
    (hsteady : Steady q others db ⟨held, .committing r file seen⟩)
    (h : file.run r.call seen r.request = .ok file') :
    db.Eligibly q { db with files := db.files.set file' } := by
  obtain ⟨-, hfile⟩ := hknows
  have hkept := AssetFile.run_kept (hsound file (Table.mem_of_find? hfile)) h
  intro f hf f' hf' hactivates
  by_cases hsame : f.asset.id = file.asset.id
  · rw [hsame] at hf'
    obtain rfl : file = f := Option.some.inj (hfile.symm.trans (hsame ▸ Table.find?_of_mem hf))
    have hwritten : (db.files.set file').find? file.asset.id = some file' := by
      rw [← hkept.assetId]
      exact Table.find?_set_self (hkept.assetId ▸ hfile)
    obtain rfl := Option.some.inj (hwritten.symm.trans hf')
    obtain ⟨hdeploys, hreasons⟩ := hkept.eligible hactivates
    obtain ⟨hactive, harchived, hstopped, hcritical, hunfit⟩ := Asset.reasons_eq_nil.1 hreasons
    obtain ⟨hdefects, hinspections⟩ := hsteady hdeploys
    rintro ⟨env, e, he, hnot⟩
    refine (Asset.eligibility_notEligible he).1 hnot (Asset.reasons_eq_nil.2
      ⟨hactive, harchived, hstopped, ?_, ?_⟩)
    · exact Bool.eq_false_of_not_eq_true fun hnow => by simp [hdefects hnow] at hcritical
    · exact Bool.eq_false_of_not_eq_true fun hnow => by simp [hinspections hnow] at hunfit
  · have hother : (db.files.set file').find? f.asset.id = db.files.find? f.asset.id :=
      Table.find?_set_ne fun hid => hsame (hid.symm.trans hkept.assetId)
    rw [hother, Table.find?_of_mem hf] at hf'
    obtain rfl := Option.some.inj hf'
    obtain ⟨row, hrow, hactive, hold⟩ := hactivates
    exact absurd hactive (hold row hrow rfl)

theorem eligibly_step (hsound : db.Sound) (hknows : t.Knows db) (hsteady : Steady q others db t) :
    db.Eligibly q (t.step q others db).1 := by
  have hproceed : ∀ next, db.Eligibly q (t.proceed db next).1 := by
    intro next
    cases next <;> exact .of_files rfl
  obtain ⟨held, task⟩ := t
  cases task with
  | request r | seekingDefect r file | seekingInspection r file critical | record r =>
      exact hproceed _
  | committing r file seen =>
      simp only [YardTransaction.step]
      split
      · next file' hrun => exact eligibly_commit hsound hknows hsteady hrun
      · exact .of_files rfl
  | recording r =>
      simp only [YardTransaction.step]
      cases hcommit : db.commitRecord r with
      | none => exact .of_files rfl
      | some db' => exact .of_files (Yard.commitRecord_files hcommit)

/-- In every interleaving an asset has one active assignment at most, and none while it is archived;
and a step that meets the condition makes none active of an asset that is not eligible. -/
theorem active_assignments {s : Sessions Yard YardTransaction}
    (h : YardRequests q (fun _ _ _ => True) s) : s.db.Sound ∧
      ∀ s', Sessions.Step YardTransaction.IsRequest (yardServing q) (Steady q) s s' →
        s.db.Eligibly q s'.db := by
  have hs := yardServing_guarded.holds (fun _ => trivial) (fun _ _ => trivial) (fun db hnone file
    hfile => ⟨by simp [hnone file hfile], by simp [hnone file hfile]⟩) h
  refine ⟨hs.database, fun s' hstep => ?_⟩
  cases hstep with
  | begins t ht => exact .of_files rfl
  | acts t hsteady hstatement =>
      obtain ⟨-, hresult⟩ := locking_eq_some hstatement
      have hsafe := eligibly_step hs.database (hs.session t (by simp)) hsteady
      rwa [hresult] at hsafe
  | ends t => exact .of_files rfl

/-! ## A loader -/

instance (others : List YardTransaction) (db : Yard) : DecidablePred (Steady q others db)
  | ⟨_, .committing r _ _⟩ => inferInstanceAs
    (Decidable (r.request.Deploys → (_ = true → _ = true) ∧ (_ = true → _ = true)))
  | ⟨_, .request _⟩ | ⟨_, .seekingDefect _ _⟩ | ⟨_, .seekingInspection _ _ _⟩ | ⟨_, .record _⟩
  | ⟨_, .recording _⟩ => .isTrue trivial

instance (file file' : AssetFile) : Decidable (file.Activates file') :=
  inferInstanceAs (Decidable (∃ row ∈ file'.assignments.rows, _ ∧
    ∀ old ∈ file.assignments.rows, _ → _))

namespace Sample

def site : Surroundings where
  project _ := some ⟨true, "ACTIVE"⟩
  location _ := none
  employee _ := true
  category _ := some ⟨5, 1, none, false, false, false⟩
  insured := true
  registered := true
  checked := true
  strip := id

def loader : AssetFile where
  asset := ⟨1, 1, 5, .available, true, none, none, .none, none⟩
  assignments := .empty
  readings := .empty

/-- A loader with a small defect. -/
def depot : Yard where
  files := .single loader
  defects := .single ⟨2, 1, 1, .low, .opened⟩
  inspections := .empty

def deploy (assignmentId projectId : Id) : YardTransaction where
  held := []
  task := .request ⟨⟨7, 1⟩, 1, ⟨0, 0, site, false, false, .first _⟩,
    .createAssignment ⟨assignmentId, 12⟩ { projectId := projectId, assignedAt := 0 }⟩

def worsen : YardTransaction where
  held := []
  task := .record (.updateDefect 2 (some .critical) none)

end Sample

/-- The loader is deployed to a second project, while the defect is looked at. -/
theorem active_assignments_second : ∃ s s' : Sessions Yard YardTransaction,
    Sessions.Step YardTransaction.IsRequest (yardServing (.first _)) (Steady (.first _)) s s' ∧
      s'.db.files.rows.flatMap (fun file => file.assignments.rows.map (·.status)) =
        [.completed, .active] ∧
      s.db.Sound ∧ s.db.Eligibly (.first _) s'.db := by
  obtain ⟨s, hs, hnext⟩ := Sessions.Interleaved.of_play YardTransaction.IsRequest
    (yardServing (.first _)) (fun _ _ _ => True)
    (fun db => ∀ file ∈ db.files.rows, file.assignments.rows = []) Sample.depot
    [.begins (Sample.deploy 20 3), .acts 0, .acts 0, .acts 0, .acts 0,
      .begins (Sample.deploy 21 4), .acts 0, .begins Sample.worsen, .acts 1, .acts 0, .acts 0]
    (p := fun s => (s.move YardTransaction.IsRequest (yardServing (.first _)) (Steady (.first _))
      (.acts 0)).any fun s' =>
        s'.db.files.rows.flatMap (fun file => file.assignments.rows.map (·.status)) =
          [.completed, .active])
    (by decide) (by decide +kernel)
  obtain ⟨s', hmove, hrows⟩ := (Option.any_eq_true ..).1 hnext
  have hstep := Sessions.Step.of_move hmove
  obtain ⟨hsound, heligibly⟩ := active_assignments hs
  exact ⟨s, s', hstep, of_decide_eq_true hrows, hsound, heligibly s' hstep⟩

/-- A defect becomes critical after it was looked at, and before the loader is deployed. -/
theorem active_assignments_critical : ¬ ∀ (q : LatestQuery AssetInspection.inspectionDate) (s),
    YardRequests q (fun _ _ _ => True) s → s.db.Sound ∧
      ∀ s', Sessions.Step YardTransaction.IsRequest (yardServing q) (fun _ _ _ => True) s s' →
        s.db.Eligibly q s'.db := by
  intro h
  obtain ⟨s, hs, hnext⟩ := Sessions.Interleaved.of_play YardTransaction.IsRequest
    (yardServing (.first _)) (fun _ _ _ => True)
    (fun db => ∀ file ∈ db.files.rows, file.assignments.rows = []) Sample.depot
    [.begins (Sample.deploy 20 3), .acts 0, .acts 0, .acts 0, .begins Sample.worsen, .acts 1,
      .acts 1]
    (p := fun s => (s.move YardTransaction.IsRequest (yardServing (.first _)) (fun _ _ _ => True)
      (.acts 0)).any fun s' => ∃ file ∈ s.db.files.rows,
        ∃ file' ∈ s'.db.files.find? file.asset.id, file.Activates file' ∧
          file.asset.reasons (s.db.seen (.first _) file.asset) ≠ [])
    (by decide) (by decide +kernel)
  obtain ⟨s', hmove, hrows⟩ := (Option.any_eq_true ..).1 hnext
  obtain ⟨file, hfile, file', hfile', hactivates, hreasons⟩ := of_decide_eq_true hrows
  have hnot := (Asset.eligibility_notEligible (show file.asset.eligibility Sample.site
    (s.db.seen (.first _) file.asset) file.activeAssignment = .ok _ from rfl)).2 hreasons
  exact (h _ s hs).2 s' (.of_move hmove) file hfile file' hfile' hactivates
    ⟨Sample.site, _, rfl, hnot⟩

end Cestos.Equipment
