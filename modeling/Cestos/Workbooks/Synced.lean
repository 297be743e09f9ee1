import Cestos.Workbooks.Versions

/-!
# Saves from several devices

A save decides under the lock of its workbook, so what it has read is still the case when it
commits. Every interleaving of saves, retries and deletions therefore keeps the versions of each
workbook in agreement with what was answered.
-/

namespace Cestos.Workbooks

open Cestos.Core

variable {env : Env} {others : List Transaction} {db db' : Database} {t u : Transaction}

/-! ## What a statement does -/

/-- A statement that does not commit, and how the request goes on. -/
inductive Goes (db : Database) : Task → Task → Prop
  | saveLocked {r : WorkbookSave} : Goes db (.save r) (.saveLocked r)
  | unseen {r : WorkbookSave} : Goes db (.saveLocked r) (.unseen r)
  | accepted {r : WorkbookSave} : db.checkSave r = .ok () → Goes db (.unseen r) (.storing r)
  | found {r : DeleteWorkbook} {workbookId : String} :
      db.versions r.actor.organizationId workbookId ≠ [] →
      Goes db (.delete r) (.found r workbookId)
  | deleteLocked {r : DeleteWorkbook} {workbookId : String} :
      Goes db (.found r workbookId) (.deleteLocked r workbookId)
  | read {r : DeleteWorkbook} {workbookId : String} :
      Goes db (.deleteLocked r workbookId) (.deactivating r workbookId
        (((db.versions r.actor.organizationId workbookId).filter fun d =>
          d.isActive = true).map (·.id)))

/-- What a request commits. -/
inductive Commits (env : Env) (db : Database) : Task → Database → Prop
  | repeated {r : WorkbookSave} {version : Id} : db.replay env r = .ok (some version) →
      Commits env db (.saveLocked r) { db with log := db.log ++ [.repeated r version] }
  | saved {r : WorkbookSave} {documents : Table LibraryDocument.id} : db.previous r = none →
      db.documents.insert? (r.document env (db.clock + r.pause + 1)) = some documents →
      Commits env db (.storing r)
        ⟨documents, db.clock + r.pause + 1, db.log ++ [.saved r (db.clock + r.pause + 1)]⟩
  | deleted {r : DeleteWorkbook} {workbookId : String} {versions : List Id} :
      Commits env db (.deactivating r workbookId versions)
        (db.commitDelete r workbookId versions)

/-- A statement goes on, ends without effect, or commits and ends the request. -/
inductive Stepped (env : Env) (db : Database) (t : Transaction) :
    Database × Option Transaction → Prop
  | goes {task : Task} : Goes db t.task task →
      Stepped env db t (db, some ⟨t.task.wants env ++ t.held, task⟩)
  | stops : Stepped env db t (db, none)
  | commits {db' : Database} : Commits env db t.task db' → Stepped env db t (db', none)

theorem Stepped.proceed {next : Except AppError Task}
    (h : ∀ task, next = .ok task → Goes db t.task task) :
    Stepped env db t (t.proceed env db next) := by
  cases next with
  | ok task => exact .goes (h task rfl)
  | error e => exact .stops

theorem findWorkbook_spec {r : DeleteWorkbook} {workbookId : String}
    (h : db.findWorkbook r = .ok workbookId) :
    db.versions r.actor.organizationId workbookId ≠ [] := by
  obtain ⟨row, hrow, hrest⟩ := bind_eq_ok.1 h
  obtain ⟨_, -, hrest⟩ := bind_eq_ok.1 hrest
  obtain ⟨_, hcategory, hworkbook⟩ := bind_eq_ok.1 hrest
  obtain ⟨hfind, hsees⟩ := Option.filter_eq_some_iff.1 (orError_eq_ok.1 hrow)
  have htag : .workbook workbookId ∈ row.tags := by
    obtain ⟨tag, htag, hsome⟩ := List.exists_of_findSome?_eq_some (orError_eq_ok.1 hworkbook)
    cases tag with
    | workbook id => exact Option.some.inj hsome ▸ htag
    | other text => cases hsome
  have hmem : row ∈ db.versions r.actor.organizationId workbookId :=
    List.mem_filter.2 ⟨Table.mem_of_find? hfind,
      decide_eq_true ⟨(of_decide_eq_true hsees).1, ensure_eq_ok.1 hcategory, htag⟩⟩
  exact List.ne_nil_of_mem hmem

theorem step_spec (t : Transaction) : Stepped env db t (t.step env others db) := by
  obtain ⟨held, task⟩ := t
  cases task with
  | save r => exact .goes .saveLocked
  | saveLocked r =>
      simp only [Transaction.step]
      split
      · exact .goes .unseen
      · next version hreplay => exact .commits (.repeated hreplay)
      · exact .stops
  | unseen r =>
      refine .proceed fun task h => ?_
      obtain ⟨_, hcheck, hnext⟩ := bind_eq_ok.1 h
      obtain rfl := Except.ok.inj hnext
      exact .accepted hcheck
  | storing r =>
      simp only [Transaction.step, Database.commitSave]
      split
      · exact .stops
      · next hprevious =>
        cases hinsert : db.documents.insert? (r.document env (db.clock + r.pause + 1)) with
        | none => exact .stops
        | some documents =>
            exact .commits (.saved (Option.not_isSome_iff_eq_none.1 hprevious) hinsert)
  | delete r =>
      refine .proceed fun task h => ?_
      obtain ⟨workbookId, hfound, hnext⟩ := bind_eq_ok.1 h
      obtain rfl := Except.ok.inj hnext
      exact .found (findWorkbook_spec hfound)
  | found r workbookId => exact .goes .deleteLocked
  | deleteLocked r workbookId =>
      refine .proceed fun task h => ?_
      obtain ⟨versions, hread, hnext⟩ := bind_eq_ok.1 h
      obtain ⟨_, -, hversions⟩ := bind_eq_ok.1 hread
      obtain rfl := Except.ok.inj hversions
      obtain rfl := Except.ok.inj hnext
      exact .read
  | deactivating r workbookId versions => exact .commits .deleted

/-! ## What the requests keep -/

/-- What a request has read of the workbook that it holds is still the case. -/
def Transaction.Current (env : Env) (db : Database) (t : Transaction) : Prop :=
  match t.task with
  | .save _ | .delete _ => True
  | .saveLocked r | .unseen r => env.lockKey r.actor.organizationId r.workbook.id ∈ t.held
  | .storing r => env.lockKey r.actor.organizationId r.workbook.id ∈ t.held ∧
    db.checkSave r = .ok ()
  | .found r workbookId => db.versions r.actor.organizationId workbookId ≠ []
  | .deleteLocked r workbookId => env.lockKey r.actor.organizationId workbookId ∈ t.held ∧
    db.versions r.actor.organizationId workbookId ≠ []
  | .deactivating r workbookId versions =>
    env.lockKey r.actor.organizationId workbookId ∈ t.held ∧
      db.versions r.actor.organizationId workbookId ≠ [] ∧
      versions = ((db.versions r.actor.organizationId workbookId).filter fun d =>
        d.isActive = true).map (·.id)

/-- The versions of the workbooks that the others hold stay. -/
structure Spares (env : Env) (others : List Transaction) (db db' : Database) : Prop where
  versions : ∀ organizationId workbookId,
    locked Transaction.held others (env.lockKey organizationId workbookId) →
      db'.versions organizationId workbookId = db.versions organizationId workbookId
  kept : ∀ organizationId workbookId, db.versions organizationId workbookId ≠ [] →
    db'.versions organizationId workbookId ≠ []

theorem checkSave_congr {r : WorkbookSave}
    (h : db'.versions r.actor.organizationId r.workbook.id =
      db.versions r.actor.organizationId r.workbook.id) : db'.checkSave r = db.checkSave r := by
  have hlatest : db'.latest r.actor.organizationId r.workbook.id =
      db.latest r.actor.organizationId r.workbook.id := by
    rw [Database.latest, h, Database.latest]
  unfold Database.checkSave
  rw [hlatest]

theorem Transaction.Current.spare (h : u.Current env db) (hu : u ∈ others)
    (hspares : Spares env others db db') : u.Current env db' := by
  have hversions : ∀ organizationId workbookId, env.lockKey organizationId workbookId ∈ u.held →
      db'.versions organizationId workbookId = db.versions organizationId workbookId :=
    fun _ _ hheld => hspares.versions _ _ ⟨u, hu, hheld⟩
  obtain ⟨held, task⟩ := u
  cases task with
  | save r | delete r => trivial
  | saveLocked r | unseen r => exact h
  | storing r => exact ⟨h.1, (checkSave_congr (hversions _ _ h.1)).trans h.2⟩
  | found r workbookId => exact hspares.kept _ _ h
  | deleteLocked r workbookId => exact ⟨h.1, hspares.kept _ _ h.2⟩
  | deactivating r workbookId versions =>
      obtain ⟨hheld, hexists, hread⟩ := h
      refine ⟨hheld, hspares.kept _ _ hexists, ?_⟩
      rw [hversions _ _ hheld]
      exact hread

theorem Commits.spares (h : Commits env db t.task db') (hdb : db.Consistent env)
    (hcurrent : t.Current env db)
    (hexclusive : ∀ u ∈ others, Exclusive Transaction.held t u) : Spares env others db db' := by
  obtain ⟨held, task⟩ := t
  have hheld : ∀ key ∈ held, ¬ locked Transaction.held others key :=
    fun _ => not_locked_of_exclusive hexclusive
  cases h with
  | repeated hreplay => exact ⟨fun _ _ _ => rfl, fun _ _ => id⟩
  | @saved r documents hprevious hinsert =>
      refine ⟨fun organizationId workbookId hlocked => ?_, fun organizationId workbookId hsome => ?_⟩
      · rw [versions_insert hinsert rfl, if_neg, List.append_nil]
        rintro ⟨rfl, rfl⟩
        exact hheld _ hcurrent.1 hlocked
      · rw [versions_insert hinsert rfl]
        exact List.append_ne_nil_of_left_ne_nil hsome _
  | @deleted r key versions =>
      obtain ⟨hmine, -, hread⟩ := hcurrent
      refine ⟨fun organizationId workbookId hlocked => ?_, fun organizationId workbookId hsome => ?_⟩
      · rw [versions_delete]
        refine (List.map_congr_left fun d hd => ?_).trans (List.map_id _)
        refine if_neg fun hmem => ?_
        obtain ⟨d', hd', hid⟩ := List.mem_map.1 (hread ▸ hmem)
        have hversion := (List.mem_filter.1 hd').1
        obtain rfl : d' = d := db.documents.key_injective (List.mem_filter.1 hversion).1
          (List.mem_filter.1 hd).1 hid
        obtain ⟨rfl, rfl⟩ := hdb.workbook_unique hversion hd
        exact hheld _ hmine hlocked
      · rw [versions_delete]
        simpa using hsome

theorem Goes.current {held : List Int} {task task' : Task} (h : Goes db task task')
    (hcurrent : Transaction.Current env db ⟨held, task⟩) :
    Transaction.Current env db ⟨task.wants env ++ held, task'⟩ := by
  cases h with
  | saveLocked => exact List.mem_cons_self
  | unseen => exact hcurrent
  | accepted hcheck => exact ⟨hcurrent, hcheck⟩
  | found hexists => exact hexists
  | deleteLocked => exact ⟨List.mem_cons_self, hcurrent⟩
  | read => exact ⟨hcurrent.1, hcurrent.2, rfl⟩

/-! ## Interleavings -/

theorem Commits.consistent (h : Commits env db t.task db') (hdb : db.Consistent env)
    (hcurrent : t.Current env db) : db'.Consistent env := by
  obtain ⟨held, task⟩ := t
  cases h with
  | repeated hreplay => exact hdb.repeated hreplay
  | saved hprevious hinsert => exact hdb.saved hprevious hinsert hcurrent.2
  | deleted => exact hdb.delete hcurrent.2.1 hcurrent.2.2

theorem Transaction.IsRequest.current (h : t.IsRequest) :
    t.Current env db ∧ ∀ u, Exclusive Transaction.held t u := by
  obtain ⟨held, task⟩ := t
  obtain ⟨rfl, hrequest⟩ := h
  refine ⟨?_, fun u row hrow => nomatch hrow⟩
  cases task with
  | save r | delete r => trivial
  | _ => cases hrequest

/-- A statement keeps the library and the log in agreement, and leaves to the others what they have
read of the workbooks that they hold. -/
theorem serving_keeps {next : Option Transaction} (hdb : db.Consistent env)
    (hcurrent : t.Current env db)
    (hothers : ∀ u ∈ others, u.Current env db ∧ Exclusive Transaction.held t u)
    (h : serving env others db t = some (db', next)) :
    Sessions.Keeps (Database.Consistent env) (Transaction.Current env)
      (Exclusive Transaction.held) others db' next := by
  obtain ⟨hfree, hstep⟩ := locking_eq_some h
  have hspec : Stepped env db t (db', next) := hstep ▸ step_spec t
  cases hspec with
  | goes hgoes =>
      exact .locks hdb (hgoes.current hcurrent) hothers hfree fun key => List.mem_append.1
  | stops => exact .over hdb fun u hu => (hothers u hu).1
  | commits hcommit =>
      have hspares := hcommit.spares hdb hcurrent fun u hu => (hothers u hu).2
      exact .over (hcommit.consistent hdb hcurrent) fun u hu => (hothers u hu).1.spare hu hspares

/-- In every interleaving, the accepted saves of each workbook are a chain, repeating one adds
nothing, and none comes after a deletion. -/
theorem workbook_synced {s : Sessions Database Transaction} (h : Requests env s) :
    s.db.Synced env :=
  (h.holds (fun _ _ => Exclusive.symm) (fun _ hfirst => hfirst.consistent)
    (fun _ _ hrequest _ => hrequest.current)
    fun _ _ _ _ _ hdb hcurrent hothers _ _ hserving =>
      serving_keeps hdb hcurrent hothers hserving).database.synced

/-! ## Two devices -/

namespace Sample

def hashes : Env := ⟨id, fun organizationId workbookId => organizationId + workbookId.length⟩

def owner : Actor := ⟨7, 1, false, [], []⟩

def library : Database := ⟨.empty, 0, []⟩

theorem library_initial : library.Initial := ⟨nofun, fun _ _ => rfl, rfl⟩

def save (operationId : Id) (data : String) (baseVersion : Option Id) (version : Id) :
    Transaction :=
  ⟨[], .save ⟨owner, ⟨"w", "Borehole log", false, data⟩, operationId, baseVersion, version,
    ⟨"documents/1/w", "w.cestos.json", "application/json", data.length⟩, 0⟩⟩

def delete (identifier : Id) : Transaction := ⟨[], .delete ⟨owner, identifier⟩⟩

end Sample

/-- One device's save is refused because the other was faster, a save is repeated, the refused one
comes again with its new base, and after the deletion another save is refused. -/
theorem workbook_synced_devices : ∃ s : Sessions Database Transaction,
    s.db.saves.map (fun save => (save.1.version, save.1.baseVersion)) = [(10, none), (12, some 10)] ∧
      s.db.log.length = 4 ∧ s.running.length = 0 ∧ s.db.Synced Sample.hashes := by
  obtain ⟨s, hs, hlog⟩ := Sessions.Interleaved.of_play Transaction.IsRequest (serving Sample.hashes)
    (fun _ _ _ => True) Database.Initial Sample.library
    [.begins (Sample.save 1 "a" none 10), .begins (Sample.save 2 "b" none 11), .acts 0, .acts 0,
      .acts 0, .acts 0, .acts 0, .acts 0, .acts 0,
      .begins (Sample.save 1 "a" none 13), .acts 0, .acts 0,
      .begins (Sample.save 3 "b" (some 10) 12), .acts 0, .acts 0, .acts 0, .acts 0,
      .begins (Sample.delete 10), .begins (Sample.save 4 "c" (some 12) 14), .acts 0, .acts 0,
      .acts 0, .acts 0, .acts 0, .acts 0, .acts 0]
    (p := fun s => s.db.saves.map (fun save => (save.1.version, save.1.baseVersion)) =
      [(10, none), (12, some 10)] ∧ s.db.log.length = 4 ∧ s.running.length = 0)
    Sample.library_initial (by decide +kernel)
  simp only [decide_eq_true_eq] at hlog
  exact ⟨s, hlog.1, hlog.2.1, hlog.2.2, workbook_synced hs⟩

end Cestos.Workbooks
