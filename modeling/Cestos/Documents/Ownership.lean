import Cestos.Core.Latest
import Cestos.Documents.Uploads
import Cestos.Workbooks.Synced

/-!
# Saves of one's own workbook

The versions of a workbook are found by category and tag, which uploads and edits may give to any
document. As long as others leave the latest version what it is, and make no later one, who saved
the workbook first can save it again.
-/

namespace Cestos.Documents

open Cestos.Core Cestos.Workbooks

variable {text : TextEnv} {env : Env} {db db' : Database} {organizationId userId version : Id}
  {workbookId : String} {latest : LibraryDocument}

/-! ## Requests -/

/-- `save_workbook`, with nothing beside it. -/
def saveWorkbook (env : Env) (db : Database) (r : WorkbookSave) : Except AppError (Database × Id) := do
  match ← db.replay env r with
  | some version => .ok ({ db with log := db.log ++ [.repeated r version] }, version)
  | none =>
    db.checkSave r
    let db ← orError (db.commitSave env r) .internal
    .ok (db, r.version)

/-- Write a row; an insert fails if the identifier or the source is taken. -/
def writeRow (db : Database) : Write → Option Database
  | .inserts d =>
    if source d ∈ db.documents.rows.map source then none
    else (db.documents.insert? d).map fun documents => { db with documents, clock := d.createdAt }
  | .changes d change => some { db with documents := change.rows (fun e => e.id = d.id) db.documents }

/-- A request to the library, an upload with how long after the last one the clock is read. -/
inductive LibraryRequest
  | save (r : WorkbookSave)
  | upload (r : Upload) (pause : Nat)
  | edit (r : Edit)

def LibraryRequest.actor : LibraryRequest → Actor
  | .save r => r.actor
  | .upload r _ => r.actor
  | .edit r => r.actor

/-- The row that an upload or an edit writes, if it is accepted. -/
def LibraryRequest.written (text : TextEnv) (db : Database) : LibraryRequest → Option Write
  | .save _ => none
  | .upload r pause => r.written text db.documents.rows (db.clock + pause + 1)
  | .edit r => r.written text db.documents.rows

/-- A request that is refused leaves everything as it is. -/
def serve (text : TextEnv) (env : Env) (db : Database) (r : LibraryRequest) : Database :=
  match r with
  | .save r => ((saveWorkbook env db r).toOption.map (·.1)).getD db
  | r => ((r.written text db).bind (writeRow db)).getD db

/-! ## Versions -/

/-- What versions are ordered by. -/
def order (d : LibraryDocument) : Instant ×ₗ Id := toLex (d.createdAt, d.id)

/-- A row that is written is a later version, or was the latest version and is none. -/
def Write.Intrudes (organizationId : Id) (workbookId : String) (latest : LibraryDocument) :
    Write → Prop
  | .inserts d => d.IsVersionOf organizationId workbookId ∧ order latest < order d
  | .changes d change =>
    if d.id = latest.id then ¬ (change.apply d).IsVersionOf organizationId workbookId
    else (change.apply d).IsVersionOf organizationId workbookId ∧ order latest < order d

instance (organizationId : Id) (workbookId : String) (latest : LibraryDocument) :
    DecidablePred (Write.Intrudes organizationId workbookId latest) :=
  fun w => by cases w <;> unfold Write.Intrudes order <;> infer_instance

/-- What is written leaves the latest version of the workbook the latest. -/
def LibraryRequest.Respects (text : TextEnv) (organizationId : Id) (workbookId : String)
    (db : Database) (r : LibraryRequest) : Prop :=
  ∀ w ∈ r.written text db, ∀ latest ∈ db.latest organizationId workbookId,
    ¬ w.Intrudes organizationId workbookId latest

/-- A save of the workbook by its owner. -/
def Own (organizationId userId : Id) (workbookId : String) (r : WorkbookSave) : Prop :=
  r.actor.id = userId ∧ r.actor.organizationId = organizationId ∧ r.workbook.id = workbookId

/-- The databases that the owner and others lead to, with the last version that the owner has
received. -/
inductive Run (text : TextEnv) (env : Env) (organizationId userId : Id) (workbookId : String) :
    Database → Id → Prop
  | first {db db' r version} : db.versions organizationId workbookId = [] →
      Own organizationId userId workbookId r → db.replay env r = .ok none →
      saveWorkbook env db r = .ok (db', version) →
      Run text env organizationId userId workbookId db' version
  | saves {db db' r received version} : Run text env organizationId userId workbookId db received →
      Own organizationId userId workbookId r → db.replay env r = .ok none →
      saveWorkbook env db r = .ok (db', version) →
      Run text env organizationId userId workbookId db' version
  | other {db r received} : Run text env organizationId userId workbookId db received →
      r.actor.id ≠ userId → r.Respects text organizationId workbookId db →
      Run text env organizationId userId workbookId (serve text env db r) received

/-- The latest version is what the owner has received. -/
structure Owned (organizationId userId : Id) (workbookId : String) (db : Database) (received : Id)
    (d : LibraryDocument) : Prop where
  latest : db.latest organizationId workbookId = some d
  id : d.id = received
  owner : d.ownerId = some userId
  active : d.isActive = true
  past : d.createdAt ≤ db.clock
  source : d.sourceType = "workbook-sync"

theorem latest_eq_some : db.latest organizationId workbookId = some latest ↔
    (latest ∈ db.documents.rows ∧ latest.IsVersionOf organizationId workbookId) ∧
      ∀ d ∈ db.documents.rows, d.IsVersionOf organizationId workbookId → order d ≤ order latest := by
  have hinjective : ∀ a ∈ db.versions organizationId workbookId,
      ∀ b ∈ db.versions organizationId workbookId, order a = order b → a = b := by
    intro a ha b hb horder
    have hid : a.id = b.id := congrArg (fun o => (ofLex o).2) horder
    exact db.documents.key_injective (List.mem_of_mem_filter ha) (List.mem_of_mem_filter hb) hid
  unfold Database.latest
  rw [show (fun d : LibraryDocument => toLex (d.createdAt, d.id)) = order from rfl,
    argmax_eq_some_of_injective hinjective]
  simp [Database.versions]

/-! ## Writing beside the latest version -/

theorem latest_insert (h : db.latest organizationId workbookId = some latest) {d : LibraryDocument}
    (hrows : db'.documents.rows = db.documents.rows ++ [d])
    (hd : ¬ (d.IsVersionOf organizationId workbookId ∧ order latest < order d)) :
    db'.latest organizationId workbookId = some latest := by
  obtain ⟨⟨hmem, hversion⟩, hmax⟩ := latest_eq_some.1 h
  refine latest_eq_some.2 ⟨⟨?_, hversion⟩, fun e he heversion => ?_⟩
  · rw [hrows]
    exact List.mem_append_left _ hmem
  · rw [hrows] at he
    rcases List.mem_append.1 he with hold | hnew
    · exact hmax e hold heversion
    · obtain rfl := List.mem_singleton.1 hnew
      exact not_lt.1 fun hlt => hd ⟨heversion, hlt⟩

/-- A row that is changed, and neither is a later version nor the latest one no more. -/
theorem latest_change (h : db.latest organizationId workbookId = some latest) {d : LibraryDocument}
    (hd : d ∈ db.documents.rows) {change : Change}
    (hcreated : ∀ e, (change.apply e).createdAt = e.createdAt)
    (hintrudes : ¬ (Write.changes d change).Intrudes organizationId workbookId latest)
    (hwrite : writeRow db (.changes d change) = some db') :
    db'.latest organizationId workbookId =
      some (if latest.id = d.id then change.apply latest else latest) := by
  obtain ⟨⟨hmem, hversion⟩, hmax⟩ := latest_eq_some.1 h
  let changed (e : LibraryDocument) : LibraryDocument := if e.id = d.id then change.apply e else e
  have hrows : db'.documents.rows = db.documents.rows.map changed := by
    rw [← Option.some.inj hwrite]
    exact List.map_congr_left fun e _ => by simp [changed]
  have horder : ∀ e, order (changed e) = order e := by
    intro e
    by_cases hid : e.id = d.id
    · simp [changed, hid, order, hcreated, change.id_apply]
    · simp [changed, hid]
  have hsame : ∀ u ∈ db.documents.rows, u.id = d.id → u = d :=
    fun u hu hid => db.documents.key_injective hu hd hid
  refine latest_eq_some.2 ⟨⟨?_, ?_⟩, fun e he heversion => ?_⟩
  · rw [hrows]
    exact List.mem_map_of_mem hmem
  · by_cases hid : latest.id = d.id
    · obtain rfl := hsame latest hmem hid
      simpa [Write.Intrudes] using hintrudes
    · rw [if_neg hid]
      exact hversion
  · rw [hrows] at he
    obtain ⟨u, hu, rfl⟩ := List.mem_map.1 he
    show order (changed u) ≤ order (changed latest)
    rw [horder, horder]
    by_cases huid : u.id = d.id
    · obtain rfl := hsame u hu huid
      by_cases hid : u.id = latest.id
      · rw [db.documents.key_injective hu hmem hid]
      · have hother : ¬ ((change.apply u).IsVersionOf organizationId workbookId ∧
            order latest < order u) := by
          simpa [Write.Intrudes, hid] using hintrudes
        have huversion : (change.apply u).IsVersionOf organizationId workbookId := by
          simpa [changed] using heversion
        exact not_lt.1 fun hlt => hother ⟨huversion, hlt⟩
    · refine hmax u hu ?_
      simpa [changed, huid] using heversion

/-! ## Saves -/

theorem saveWorkbook_spec {r : WorkbookSave} (h : saveWorkbook env db r = .ok (db', version)) :
    (db.replay env r = .ok (some version) ∧
        db' = { db with log := db.log ++ [.repeated r version] }) ∨
      db.replay env r = .ok none ∧ db.checkSave r = .ok () ∧ db.commitSave env r = some db' ∧
        version = r.version := by
  unfold saveWorkbook at h
  obtain ⟨replayed, hreplay, h⟩ := bind_eq_ok.1 h
  cases replayed with
  | some v =>
      obtain ⟨rfl, rfl⟩ := Prod.mk.inj (Except.ok.inj h)
      exact .inl ⟨hreplay, rfl⟩
  | none =>
      obtain ⟨_, hcheck, h⟩ := bind_eq_ok.1 h
      obtain ⟨saved, hsaved, h⟩ := bind_eq_ok.1 h
      obtain ⟨rfl, rfl⟩ := Prod.mk.inj (Except.ok.inj h)
      exact .inr ⟨hreplay, hcheck, orError_eq_ok.1 hsaved, rfl⟩

theorem commitSave_spec {r : WorkbookSave} (h : db.commitSave env r = some db') :
    db'.documents.rows = db.documents.rows ++ [r.document env (db.clock + r.pause + 1)] ∧
      db'.clock = db.clock + r.pause + 1 := by
  unfold Database.commitSave at h
  split at h
  · cases h
  · obtain ⟨documents, hinsert, rfl⟩ := Option.map_eq_some_iff.1 h
    exact ⟨Table.insert?_rows hinsert, rfl⟩

theorem owned_saved {r : WorkbookSave} (hown : Own organizationId userId workbookId r)
    (hreplay : db.replay env r = .ok none) (hsave : saveWorkbook env db r = .ok (db', version))
    (hpast : ∀ d ∈ db.latest organizationId workbookId, d.createdAt ≤ db.clock) :
    ∃ d, Owned organizationId userId workbookId db' version d := by
  obtain ⟨hactor, horganization, hworkbook⟩ := hown
  rcases saveWorkbook_spec hsave with ⟨hrepeated, -⟩ | ⟨-, -, hcommit, rfl⟩
  · rw [hreplay] at hrepeated
    cases hrepeated
  · obtain ⟨hrows, hclock⟩ := commitSave_spec hcommit
    refine ⟨r.document env (db.clock + r.pause + 1), ?_, rfl, congrArg some hactor, rfl,
      hclock.symm.le, rfl⟩
    refine latest_eq_some.2 ⟨⟨?_, isVersionOf_document.2 ⟨horganization, hworkbook⟩⟩, ?_⟩
    · rw [hrows]
      exact List.mem_append_right _ (List.mem_singleton_self _)
    · intro d hd hversion
      rw [hrows] at hd
      rcases List.mem_append.1 hd with hold | hnew
      · have hsome : d ∈ db.versions organizationId workbookId :=
          List.mem_filter.2 ⟨hold, decide_eq_true hversion⟩
        obtain ⟨m, hm⟩ : ∃ m, db.latest organizationId workbookId = some m := by
          refine Option.ne_none_iff_exists'.1 fun hnone => ?_
          rw [List.argmax_eq_none.1 hnone] at hsome
          cases hsome
        have hle := (latest_eq_some.1 hm).2 d hold hversion
        have hearlier := hpast m hm
        refine hle.trans (Prod.Lex.toLex_le_toLex.2 (.inl ?_))
        show m.createdAt < db.clock + r.pause + 1
        exact Nat.lt_succ_of_le (Nat.le_add_right_of_le hearlier)
      · rw [List.mem_singleton.1 hnew]

namespace Owned

variable {received : Id}

theorem save (h : Owned organizationId userId workbookId db received latest) {r : WorkbookSave}
    (hactor : r.actor.id ≠ userId) (hsave : saveWorkbook env db r = .ok (db', version)) :
    Owned organizationId userId workbookId db' received latest := by
  rcases saveWorkbook_spec hsave with ⟨-, rfl⟩ | ⟨-, hcheck, hcommit, -⟩
  · exact ⟨h.latest, h.id, h.owner, h.active, h.past, h.source⟩
  · obtain ⟨hrows, hclock⟩ := commitSave_spec hcommit
    refine ⟨latest_insert h.latest hrows ?_, h.id, h.owner, h.active, ?_, h.source⟩
    · rintro ⟨hversion, -⟩
      obtain ⟨rfl, rfl⟩ := isVersionOf_document.1 hversion
      obtain ⟨_, howner, -⟩ := bind_eq_ok.1 hcheck
      have hsame := ensure_eq_ok.1 howner latest h.latest
      exact hactor (Option.some.inj (hsame.symm.trans h.owner))
    · rw [hclock]
      exact Nat.le_add_right_of_le (Nat.le_add_right_of_le h.past)

theorem insert (h : Owned organizationId userId workbookId db received latest) {d : LibraryDocument}
    (hwrite : writeRow db (.inserts d) = some db') (hclock : db.clock ≤ d.createdAt)
    (hd : ¬ (Write.inserts d).Intrudes organizationId workbookId latest) :
    Owned organizationId userId workbookId db' received latest := by
  unfold writeRow at hwrite
  dsimp only at hwrite
  split at hwrite
  · cases hwrite
  · obtain ⟨documents, hinsert, rfl⟩ := Option.map_eq_some_iff.1 hwrite
    exact ⟨latest_insert h.latest (Table.insert?_rows hinsert) hd, h.id, h.owner, h.active,
      h.past.trans hclock, h.source⟩

/-- A change of another row, or one that leaves the owner and the activity. -/
theorem change (h : Owned organizationId userId workbookId db received latest) {d : LibraryDocument}
    {change : Change} (hwrite : writeRow db (.changes d change) = some db')
    (hd : d ∈ db.documents.rows) (hcreated : ∀ e, (change.apply e).createdAt = e.createdAt)
    (hkeeps : latest.id = d.id → (change.apply latest).ownerId = latest.ownerId ∧
      (change.apply latest).isActive = latest.isActive)
    (hintrudes : ¬ (Write.changes d change).Intrudes organizationId workbookId latest) :
    ∃ d, Owned organizationId userId workbookId db' received d := by
  have hlatest := latest_change h.latest hd hcreated hintrudes hwrite
  obtain rfl := Option.some.inj hwrite
  by_cases hid : latest.id = d.id
  · rw [if_pos hid] at hlatest
    obtain ⟨howner, hactive⟩ := hkeeps hid
    have hsource := congrArg Source.sourceType (change.source_apply latest)
    exact ⟨_, hlatest, (change.id_apply latest).trans h.id, howner.trans h.owner,
      hactive.trans h.active, (hcreated latest).trans_le h.past, hsource.trans h.source⟩
  · rw [if_neg hid] at hlatest
    exact ⟨latest, hlatest, h.id, h.owner, h.active, h.past, h.source⟩

/-- An import that takes the place of another is not of a version that was saved. -/
theorem upload (h : Owned organizationId userId workbookId db received latest) {r : Upload}
    {pause : Nat} {w : Write}
    (hw : r.written text db.documents.rows (db.clock + pause + 1) = some w)
    (hwrite : writeRow db w = some db') (hintrudes : ¬ w.Intrudes organizationId workbookId latest) :
    ∃ d, Owned organizationId userId workbookId db' received d := by
  obtain ⟨a, -, ⟨d, hd, rfl⟩ | rfl⟩ := Upload.written_spec hw
  · obtain ⟨hmem, himport⟩ := Upload.existingImport_spec hd
    refine h.change hwrite hmem (fun _ => rfl) (fun hid => ?_) hintrudes
    have hsame : latest = d :=
      db.documents.key_injective (latest_eq_some.1 h.latest).1.1 hmem hid
    rw [← hsame, h.source] at himport
    exact absurd himport (by decide)
  · have hclock : db.clock ≤ db.clock + pause + 1 := Nat.le_add_right db.clock (pause + 1)
    exact ⟨latest, h.insert hwrite hclock hintrudes⟩

theorem edit (h : Owned organizationId userId workbookId db received latest) {r : Edit} {w : Write}
    (hw : r.written text db.documents.rows = some w) (hwrite : writeRow db w = some db')
    (hintrudes : ¬ w.Intrudes organizationId workbookId latest) :
    ∃ d, Owned organizationId userId workbookId db' received d := by
  obtain ⟨body, row, hrow, -, -, rfl⟩ := Edit.written_spec hw
  exact h.change hwrite hrow (fun _ => rfl) (fun _ => ⟨rfl, rfl⟩) hintrudes

theorem serve (h : Owned organizationId userId workbookId db received latest) {r : LibraryRequest}
    (hactor : r.actor.id ≠ userId) (hrespects : r.Respects text organizationId workbookId db) :
    ∃ d, Owned organizationId userId workbookId (serve text env db r) received d := by
  cases r with
  | save r =>
      show ∃ d, Owned organizationId userId workbookId
        (((saveWorkbook env db r).toOption.map (·.1)).getD db) received d
      cases hsave : saveWorkbook env db r with
      | error e => exact ⟨latest, h⟩
      | ok saved => exact ⟨latest, h.save hactor hsave⟩
  | upload r pause =>
      exact getD_bind (P := fun db' => ∃ d, Owned organizationId userId workbookId db' received d)
        ⟨latest, h⟩ fun w hw db' hwrite => h.upload hw hwrite (hrespects w hw latest h.latest)
  | edit r =>
      exact getD_bind (P := fun db' => ∃ d, Owned organizationId userId workbookId db' received d)
        ⟨latest, h⟩ fun w hw db' hwrite => h.edit hw hwrite (hrespects w hw latest h.latest)

end Owned

/-- However the requests of the owner and of others follow each other. -/
theorem Run.owned {received : Id} (h : Run text env organizationId userId workbookId db received) :
    ∃ d, Owned organizationId userId workbookId db received d := by
  induction h with
  | first hnone hown hreplay hsave =>
      refine owned_saved hown hreplay hsave fun d hd => ?_
      rw [Database.latest, hnone] at hd
      cases hd
  | saves _ hown hreplay hsave ih =>
      obtain ⟨latest, hlatest⟩ := ih
      refine owned_saved hown hreplay hsave fun d hd => ?_
      obtain rfl := Option.some.inj (hlatest.latest.symm.trans hd)
      exact hlatest.past
  | other _ hactor hrespects ih =>
      obtain ⟨latest, hlatest⟩ := ih
      exact hlatest.serve hactor hrespects

/-- Who saved a workbook first can save it again, as long as others leave its latest version the
latest. -/
theorem own_workbook_saved {received : Id}
    (hrun : Run text env organizationId userId workbookId db received) {r : WorkbookSave}
    (hown : Own organizationId userId workbookId r) (hbase : r.baseVersion = some received)
    (hfresh : db.previous r = none) (hversion : r.version ∉ db.documents.rows.map (·.id)) :
    ∃ db', saveWorkbook env db r = .ok (db', r.version) := by
  obtain ⟨latest, h⟩ := hrun.owned
  obtain ⟨hactor, horganization, hworkbook⟩ := hown
  have hlatest : db.latest r.actor.organizationId r.workbook.id = some latest := by
    rw [horganization, hworkbook]
    exact h.latest
  have hreplay : db.replay env r = .ok none := by
    rw [Database.replay, hfresh]
  have hcheck : db.checkSave r = .ok () := by
    have howner : latest.ownerId = some r.actor.id := h.owner.trans (congrArg some hactor.symm)
    have hreceived : some latest.id = r.baseVersion := (congrArg some h.id).trans hbase.symm
    simp [Database.checkSave, checkRevision, hlatest, howner, h.active, hreceived]
  have hcommit : ∃ db', db.commitSave env r = some db' := by
    obtain ⟨documents, hinsert, -⟩ := Table.insert?_of_fresh (t := db.documents)
      (r := r.document env (db.clock + r.pause + 1)) hversion
    simp [Database.commitSave, hfresh, hinsert]
  obtain ⟨db', hcommit⟩ := hcommit
  refine ⟨db', ?_⟩
  rw [saveWorkbook, hreplay, ok_bind]
  dsimp only
  rw [hcheck, ok_bind, hcommit]
  rfl

namespace Sample

def logId : String := "6a1c0c9e-5f0f-4c1e-9f4e-2f3b8a7d1e55"

/-- The owner, the user 7, saves the log. -/
def saveLog (operationId : Id) (data : String) (baseVersion : Option Id) (version : Id) :
    WorkbookSave :=
  ⟨Workbooks.Sample.owner, ⟨logId, "Borehole log", false, data⟩, operationId, baseVersion, version,
    ⟨"documents/1/log", "log.cestos.json", "application/json", data.length⟩, 0⟩

/-- The user 9 uploads a document with the tag of the log. -/
def tagged (category : String) : LibraryRequest :=
  .upload ⟨⟨9, 1, false, [], []⟩, some "photo.jpg", "Site", category, "wb-" ++ logId, none, none,
    true, false, 10, "", .ok ⟨"documents/1/photo", "photo.jpg", "image/jpeg", 10⟩, 50⟩ 0

def first : Database :=
  ⟨⟨[(saveLog 1 "a" none 20).document Workbooks.Sample.hashes 1], List.nodup_singleton _⟩, 1,
    [.saved (saveLog 1 "a" none 20) 1]⟩

def secondSave : WorkbookSave := saveLog 2 "b" (some 20) 21

end Sample

/-- Another document with the tag of the workbook is no version. -/
theorem own_workbook_saved_tagged : ∃ db', saveWorkbook Workbooks.Sample.hashes
    (serve Sample.plain Workbooks.Sample.hashes Sample.first (Sample.tagged "Photos"))
    Sample.secondSave = .ok (db', 21) := by
  have hnone : Workbooks.Sample.library.versions 1 Sample.logId = [] := rfl
  have hsave : saveWorkbook Workbooks.Sample.hashes Workbooks.Sample.library
      (Sample.saveLog 1 "a" none 20) = .ok (Sample.first, 20) := rfl
  have hfirst : Run Sample.plain Workbooks.Sample.hashes 1 7 Sample.logId Sample.first 20 :=
    .first hnone ⟨rfl, rfl, rfl⟩ rfl hsave
  have hrespects : (Sample.tagged "Photos").Respects Sample.plain 1 Sample.logId Sample.first := by
    unfold LibraryRequest.Respects
    decide +kernel
  exact own_workbook_saved (hfirst.other (by decide) hrespects) ⟨rfl, rfl, rfl⟩ rfl rfl
    (by decide +kernel)

/-- Another user uploads a document with the category and the tag of the workbook. Its owner cannot
save it any more. -/
theorem own_workbook_refused : ∃ db : Database, ∃ other : LibraryRequest, ∃ r : WorkbookSave,
    Workbooks.Sample.library.versions 1 Sample.logId = [] ∧
      saveWorkbook Workbooks.Sample.hashes Workbooks.Sample.library (Sample.saveLog 1 "a" none 20) =
        .ok (db, 20) ∧
      other.actor.id ≠ 7 ∧ other.actor.organizationId = 1 ∧ Own 1 7 Sample.logId r ∧
      r.baseVersion = some 20 ∧
      (serve Sample.plain Workbooks.Sample.hashes db other).previous r = none ∧
      saveWorkbook Workbooks.Sample.hashes (serve Sample.plain Workbooks.Sample.hashes db other) r =
        .error (.forbidden "Save a personal copy to edit a workbook owned by another user") :=
  ⟨Sample.first, Sample.tagged "Field Workbooks", Sample.secondSave, rfl, rfl, by decide, rfl,
    ⟨rfl, rfl, rfl⟩, rfl, rfl, rfl⟩

end Cestos.Documents
