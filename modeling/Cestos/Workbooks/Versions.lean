import Cestos.Core.Latest
import Cestos.Workbooks.Requests

/-!
# Versions of a workbook

However saves, retries and deletions interleave, the accepted saves of a workbook are a chain in
which each names the one before it as its base. A save that is repeated adds nothing and returns
the version that there is, and nothing is answered after the workbook was deleted.
-/

namespace Cestos.Workbooks

open Cestos.Core

variable {env : Env} {others : List Transaction} {db db' : Database} {t u : Transaction}

/-! ## What was saved -/

def Event.save : Event → Option (WorkbookSave × Instant)
  | .saved r createdAt => some (r, createdAt)
  | _ => none

/-- The saves that were accepted, in their order. -/
def Database.saves (db : Database) : List (WorkbookSave × Instant) := db.log.filterMap Event.save

/-- The accepted saves of a workbook. -/
def Database.history (db : Database) (organizationId : Id) (workbookId : String) :
    List (WorkbookSave × Instant) :=
  db.saves.filter fun save =>
    save.1.actor.organizationId = organizationId ∧ save.1.workbook.id = workbookId

/-- Whether a save of the workbook was answered with a version. -/
def Event.Answers (organizationId : Id) (workbookId : String) : Event → Prop
  | .saved r _ | .repeated r _ =>
    r.actor.organizationId = organizationId ∧ r.workbook.id = workbookId
  | .deleted _ _ => False

/-- The workbook was deleted. -/
def Database.Deleted (db : Database) (organizationId : Id) (workbookId : String) : Prop :=
  .deleted organizationId workbookId ∈ db.log

/-- The same operation with the same content, by the same user. -/
def WorkbookSave.Repeats (first r : WorkbookSave) : Prop :=
  r.actor.id = first.actor.id ∧ r.actor.organizationId = first.actor.organizationId ∧
    r.operationId = first.operationId ∧ r.workbook = first.workbook

structure Database.Synced (env : Env) (db : Database) : Prop where
  /-- Each accepted save names the one before it as its base. -/
  chain : ∀ organizationId workbookId, Succession (fun save => save.1.version)
    (fun save => save.1.baseVersion) none (db.history organizationId workbookId)
  /-- The versions in the library are those of the accepted saves. -/
  versions : ∀ organizationId workbookId,
    (db.versions organizationId workbookId).map (·.id) =
      (db.history organizationId workbookId).map fun save => save.1.version
  /-- An operation is saved once. -/
  once : (db.saves.map fun save =>
    (save.1.actor.organizationId, save.1.operationId)).Nodup
  /-- A save that is repeated returns the version of the first one, unless that is deleted. -/
  repeats : ∀ first ∈ db.saves, ∀ r, first.1.Repeats r →
    (¬ db.Deleted r.actor.organizationId r.workbook.id →
      db.replay env r = .ok (some first.1.version)) ∧
    (db.Deleted r.actor.organizationId r.workbook.id → db.replay env r =
      .error (.conflict "The saved workbook was deleted. Save a new copy instead."))
  /-- Whatever was returned for an operation that was saved before is its version. -/
  returned : ∀ r version, .repeated r version ∈ db.log → ∃ first ∈ db.saves,
    first.1.actor.organizationId = r.actor.organizationId ∧
      first.1.operationId = r.operationId ∧ first.1.version = version
  /-- After a deletion no save of the workbook is answered. -/
  deleted : db.log.Pairwise fun e e' => ∀ organizationId workbookId,
    e = .deleted organizationId workbookId → ¬ e'.Answers organizationId workbookId

/-- A version as it was saved. -/
def LibraryDocument.asSaved (d : LibraryDocument) : LibraryDocument := { d with isActive := true }

/-- The library and the log agree. -/
structure Database.Consistent (env : Env) (db : Database) : Prop where
  documents : (db.documents.rows.filter fun d => d.sourceType = "workbook-sync").map
    LibraryDocument.asSaved = db.saves.map fun save => save.1.document env save.2
  sources : ∀ organizationId workbookId, ∀ d ∈ db.versions organizationId workbookId,
    d.sourceType = "workbook-sync"
  active : ∀ organizationId workbookId, ∀ d ∈ db.versions organizationId workbookId,
    d.isActive = false ↔ db.Deleted organizationId workbookId
  clock : ∀ save ∈ db.saves, save.2 ≤ db.clock
  order : db.saves.Pairwise fun a b => a.2 < b.2
  exists_version : ∀ organizationId workbookId, db.Deleted organizationId workbookId →
    db.history organizationId workbookId ≠ []
  chain : ∀ organizationId workbookId, Succession (fun save => save.1.version)
    (fun save => save.1.baseVersion) none (db.history organizationId workbookId)
  once : (db.saves.map fun save =>
    (save.1.actor.organizationId, save.1.operationId)).Nodup
  returned : ∀ r version, .repeated r version ∈ db.log → ∃ first ∈ db.saves,
    first.1.actor.organizationId = r.actor.organizationId ∧
      first.1.operationId = r.operationId ∧ first.1.version = version
  deleted : db.log.Pairwise fun e e' => ∀ organizationId workbookId,
    e = .deleted organizationId workbookId → ¬ e'.Answers organizationId workbookId

theorem isVersionOf_document {r : WorkbookSave} {createdAt : Instant} {organizationId : Id}
    {workbookId : String} :
    (r.document env createdAt).IsVersionOf organizationId workbookId ↔
      r.actor.organizationId = organizationId ∧ r.workbook.id = workbookId := by
  constructor
  · rintro ⟨horg, -, htag⟩
    rcases List.mem_cons.1 htag with htag | htag
    · exact ⟨horg, (Tag.workbook.inj htag).symm⟩
    · cases List.mem_singleton.1 htag
  · rintro ⟨rfl, rfl⟩
    exact ⟨rfl, rfl, List.mem_cons_self⟩

theorem isVersionOf_asSaved {d : LibraryDocument} {organizationId : Id} {workbookId : String} :
    d.asSaved.IsVersionOf organizationId workbookId ↔ d.IsVersionOf organizationId workbookId :=
  Iff.rfl

theorem Database.Consistent.versions_eq (h : db.Consistent env) (organizationId : Id)
    (workbookId : String) :
    (db.versions organizationId workbookId).map LibraryDocument.asSaved =
      (db.history organizationId workbookId).map fun save => save.1.document env save.2 := by
  have hsync : db.versions organizationId workbookId =
      (db.documents.rows.filter fun d => d.sourceType = "workbook-sync").filter
        (·.IsVersionOf organizationId workbookId) := by
    rw [List.filter_filter, versions]
    refine List.filter_congr fun d hd => ?_
    by_cases hversion : d.IsVersionOf organizationId workbookId
    · have hmem : d ∈ db.versions organizationId workbookId :=
        List.mem_filter.2 ⟨hd, decide_eq_true hversion⟩
      simp [hversion, h.sources _ _ d hmem]
    · simp [hversion]
  have hmap : (db.versions organizationId workbookId).map LibraryDocument.asSaved =
      ((db.documents.rows.filter fun d => d.sourceType = "workbook-sync").map
        LibraryDocument.asSaved).filter (·.IsVersionOf organizationId workbookId) := by
    rw [hsync, List.filter_map]
    rfl
  rw [hmap, h.documents, List.filter_map, history]
  congr 1
  refine List.filter_congr fun save _ => ?_
  simp [isVersionOf_document]

theorem Database.Consistent.versions_id (h : db.Consistent env) (organizationId : Id)
    (workbookId : String) :
    (db.versions organizationId workbookId).map (·.id) =
      (db.history organizationId workbookId).map fun save => save.1.version := by
  have heq := congrArg (List.map LibraryDocument.id) (h.versions_eq organizationId workbookId)
  rwa [List.map_map, List.map_map] at heq

theorem Database.Consistent.versions_eq_nil (h : db.Consistent env) {organizationId : Id}
    {workbookId : String} :
    db.versions organizationId workbookId = [] ↔ db.history organizationId workbookId = [] := by
  rw [← List.map_eq_nil_iff, h.versions_id, List.map_eq_nil_iff]

theorem Database.Consistent.latest_eq (h : db.Consistent env) (organizationId : Id)
    (workbookId : String) :
    db.latest organizationId workbookId = (db.versions organizationId workbookId).getLast? := by
  refine argmax_of_increasing ?_
  have horder : ((db.versions organizationId workbookId).map LibraryDocument.asSaved).Pairwise
      fun a b => a.createdAt < b.createdAt := by
    rw [h.versions_eq, List.pairwise_map]
    exact h.order.sublist List.filter_sublist
  refine (List.pairwise_map.1 horder).imp fun hlt => ?_
  exact Prod.Lex.toLex_lt_toLex.2 (.inl hlt)

theorem Database.Consistent.latest_id (h : db.Consistent env) (organizationId : Id)
    (workbookId : String) :
    (db.latest organizationId workbookId).map (·.id) =
      (db.history organizationId workbookId).getLast?.map fun save => save.1.version := by
  rw [h.latest_eq, ← List.getLast?_map, h.versions_id, List.getLast?_map]

/-! ## Earlier saves -/

theorem Database.Consistent.previous_save (h : db.Consistent env) {r : WorkbookSave}
    {d : LibraryDocument} (hprevious : db.previous r = some d) :
    d ∈ db.documents.rows ∧ ∃ first ∈ db.saves, d.asSaved = first.1.document env first.2 ∧
      first.1.actor.organizationId = r.actor.organizationId ∧
      first.1.operationId = r.operationId := by
  have hmem : d ∈ db.documents.rows := List.mem_of_find?_eq_some hprevious
  have hfound := List.find?_some hprevious
  simp only [decide_eq_true_eq] at hfound
  obtain ⟨horg, hsource, hoperation⟩ := hfound
  have hsaved : d.asSaved ∈ db.saves.map fun save => save.1.document env save.2 := by
    rw [← h.documents]
    exact List.mem_map_of_mem (List.mem_filter.2 ⟨hmem, decide_eq_true hsource⟩)
  obtain ⟨first, hfirst, heq⟩ := List.mem_map.1 hsaved
  refine ⟨hmem, first, hfirst, heq.symm, ?_, ?_⟩
  · exact (congrArg LibraryDocument.organizationId heq).trans horg
  · exact (congrArg LibraryDocument.sourceId heq).trans hoperation

theorem Database.Consistent.previous_of_save (h : db.Consistent env)
    {first : WorkbookSave × Instant} (hfirst : first ∈ db.saves) {r : WorkbookSave}
    (horg : r.actor.organizationId = first.1.actor.organizationId)
    (hoperation : r.operationId = first.1.operationId) :
    ∃ d ∈ db.documents.rows, db.previous r = some d ∧
      d.asSaved = first.1.document env first.2 := by
  have hsaved : first.1.document env first.2 ∈
      (db.documents.rows.filter fun d => d.sourceType = "workbook-sync").map
        LibraryDocument.asSaved := by
    rw [h.documents]
    exact List.mem_map_of_mem hfirst
  obtain ⟨d, hd, heq⟩ := List.mem_map.1 hsaved
  have hsome : (db.previous r).isSome := by
    rw [Database.previous, List.find?_isSome]
    refine ⟨d, (List.mem_filter.1 hd).1, decide_eq_true ⟨?_, ?_, ?_⟩⟩
    · exact (congrArg LibraryDocument.organizationId heq).trans horg.symm
    · exact congrArg LibraryDocument.sourceType heq
    · exact (congrArg LibraryDocument.sourceId heq).trans hoperation.symm
  obtain ⟨d', hprevious⟩ := Option.isSome_iff_exists.1 hsome
  obtain ⟨hmem, first', hfirst', heq', horg', hoperation'⟩ := h.previous_save hprevious
  have hsame : first' = first := List.inj_on_of_nodup_map h.once hfirst' hfirst
    (Prod.ext (horg'.trans horg) (hoperation'.trans hoperation))
  exact ⟨d', hmem, hprevious, hsame ▸ heq'⟩

theorem isVersionOf_of_asSaved {d : LibraryDocument} {r : WorkbookSave} {createdAt : Instant}
    (h : d.asSaved = r.document env createdAt) :
    d.IsVersionOf r.actor.organizationId r.workbook.id := by
  have hsaved : d.asSaved.IsVersionOf r.actor.organizationId r.workbook.id :=
    h ▸ isVersionOf_document.2 ⟨rfl, rfl⟩
  exact hsaved

/-- A save that is repeated returns the version of the first one, unless that is deleted. -/
theorem Database.Consistent.replay_eq (h : db.Consistent env) {first : WorkbookSave × Instant}
    (hfirst : first ∈ db.saves) {r : WorkbookSave} (hrepeats : first.1.Repeats r) :
    (¬ db.Deleted r.actor.organizationId r.workbook.id →
      db.replay env r = .ok (some first.1.version)) ∧
    (db.Deleted r.actor.organizationId r.workbook.id → db.replay env r =
      .error (.conflict "The saved workbook was deleted. Save a new copy instead.")) := by
  obtain ⟨hactor, horg, hoperation, hworkbook⟩ := hrepeats
  obtain ⟨d, hd, hprevious, heq⟩ := h.previous_of_save hfirst horg hoperation
  have hversion : d ∈ db.versions r.actor.organizationId r.workbook.id := by
    rw [horg, hworkbook]
    exact List.mem_filter.2 ⟨hd, decide_eq_true (isVersionOf_of_asSaved heq)⟩
  have hid : d.id = first.1.version := congrArg LibraryDocument.id heq
  have hmatches : d.ownerId = some r.actor.id ∧ .workbook r.workbook.id ∈ d.tags ∧
      d.contentHash = some (env.sha256 r.workbook.data) := by
    rw [hactor, hworkbook]
    exact ⟨congrArg LibraryDocument.ownerId heq, (isVersionOf_of_asSaved heq).2.2,
      congrArg LibraryDocument.contentHash heq⟩
  have hactive := h.active _ _ d hversion
  simp only [Database.replay, hprevious, ensure, if_pos hmatches, ok_bind]
  refine ⟨fun hkept => ?_, fun hdeleted => ?_⟩
  · have htrue : d.isActive = true := by
      rw [← Bool.not_eq_false, hactive]
      exact hkept
    rw [if_pos htrue, hid]
    rfl
  · rw [if_neg (by rw [hactive.2 hdeleted]; exact Bool.false_ne_true)]
    rfl

theorem Database.Consistent.synced (h : db.Consistent env) : db.Synced env :=
  ⟨h.chain, h.versions_id, h.once, fun _ hfirst _ hrepeats => h.replay_eq hfirst hrepeats,
    h.returned, h.deleted⟩

/-! ## What the log and the library become -/

theorem Database.saves_append (event : Event) (h : db'.log = db.log ++ [event]) :
    db'.saves = db.saves ++ event.save.toList := by
  rw [saves, h, List.filterMap_append, saves]
  cases event <;> rfl

theorem Database.history_congr {organizationId : Id} {workbookId : String}
    (h : db'.saves = db.saves) :
    db'.history organizationId workbookId = db.history organizationId workbookId := by
  rw [history, h, history]

theorem Database.deleted_append {event : Event} {organizationId : Id} {workbookId : String}
    (h : db'.log = db.log ++ [event]) :
    db'.Deleted organizationId workbookId ↔
      db.Deleted organizationId workbookId ∨ event = .deleted organizationId workbookId := by
  rw [Deleted, h, List.mem_append, List.mem_singleton, eq_comm, Deleted]

theorem Database.Consistent.workbook_unique (h : db.Consistent env) {a b : Id} {v w : String}
    {d : LibraryDocument} (hd : d ∈ db.versions a v) (hd' : d ∈ db.versions b w) :
    a = b ∧ v = w := by
  have hsaved : d.asSaved ∈ (db.versions a v).map LibraryDocument.asSaved :=
    List.mem_map_of_mem hd
  rw [h.versions_eq] at hsaved
  obtain ⟨save, -, heq⟩ := List.mem_map.1 hsaved
  have hfirst : d.asSaved.IsVersionOf a v := of_decide_eq_true (List.mem_filter.1 hd).2
  have hsecond : d.asSaved.IsVersionOf b w := of_decide_eq_true (List.mem_filter.1 hd').2
  rw [← heq, isVersionOf_document] at hfirst hsecond
  exact ⟨hfirst.1.symm.trans hsecond.1, hfirst.2.symm.trans hsecond.2⟩

theorem versions_insert {r : WorkbookSave} {createdAt : Instant}
    {documents : Table LibraryDocument.id} {organizationId : Id} {workbookId : String}
    (h : db.documents.insert? (r.document env createdAt) = some documents)
    (hdocuments : db'.documents = documents) :
    db'.versions organizationId workbookId = db.versions organizationId workbookId ++
      if r.actor.organizationId = organizationId ∧ r.workbook.id = workbookId then
        [r.document env createdAt] else [] := by
  rw [Database.versions, hdocuments, Table.insert?_rows h, List.filter_append, Database.versions,
    List.filter_singleton]
  simp only [isVersionOf_document, Bool.cond_decide]

@[simp] theorem LibraryDocument.asSaved_deactivate (versions : List Id) (d : LibraryDocument) :
    (d.deactivate versions).asSaved = d.asSaved := by
  unfold deactivate
  split <;> rfl

@[simp] theorem LibraryDocument.sourceType_deactivate (versions : List Id)
    (d : LibraryDocument) : (d.deactivate versions).sourceType = d.sourceType := by
  unfold deactivate
  split <;> rfl

theorem LibraryDocument.isActive_deactivate {versions : List Id} {d : LibraryDocument} :
    (d.deactivate versions).isActive = false ↔ d.id ∈ versions ∨ d.isActive = false := by
  unfold deactivate
  split
  · next hmem => simp [hmem]
  · next hmem => simp [hmem]

theorem versions_delete {r : DeleteWorkbook} {key : String} {versions : List Id}
    {organizationId : Id} {workbookId : String} :
    (db.commitDelete r key versions).versions organizationId workbookId =
      (db.versions organizationId workbookId).map (LibraryDocument.deactivate versions) := by
  rw [Database.versions, Database.commitDelete, Table.mapRows, List.filter_map, Database.versions]
  congr 1
  refine List.filter_congr fun d _ => ?_
  have hsame : (d.deactivate versions).IsVersionOf organizationId workbookId ↔
      d.IsVersionOf organizationId workbookId := by
    rw [← isVersionOf_asSaved, LibraryDocument.asSaved_deactivate, isVersionOf_asSaved]
  simp only [Function.comp, hsame]

/-! ## Consistency -/

theorem Database.history_append {organizationId : Id} {workbookId : String} {r : WorkbookSave}
    {createdAt : Instant} (h : db'.log = db.log ++ [.saved r createdAt]) :
    db'.history organizationId workbookId = db.history organizationId workbookId ++
      if r.actor.organizationId = organizationId ∧ r.workbook.id = workbookId then
        [(r, createdAt)] else [] := by
  rw [history, saves_append _ h, List.filter_append, history]
  simp only [Event.save, Option.toList_some, List.filter_singleton, Bool.cond_decide]

/-- A version that was read as active is not of a deleted workbook. -/
theorem Database.Consistent.not_deleted (h : db.Consistent env) {organizationId : Id}
    {workbookId : String} {d : LibraryDocument} (hd : d ∈ db.versions organizationId workbookId)
    (hactive : d.isActive = true) : ¬ db.Deleted organizationId workbookId := by
  intro hdeleted
  rw [(h.active _ _ d hd).2 hdeleted] at hactive
  cases hactive

theorem checkSave_spec {r : WorkbookSave} (h : db.checkSave r = .ok ()) :
    (∀ d ∈ db.latest r.actor.organizationId r.workbook.id, d.isActive = true) ∧
      (db.latest r.actor.organizationId r.workbook.id).map (·.id) = r.baseVersion := by
  obtain ⟨_, -, hcheck⟩ := bind_eq_ok.1 h
  obtain ⟨_, hactive, hbase⟩ := bind_eq_ok.1 hcheck
  exact ⟨ensure_eq_ok.1 hactive, ensure_eq_ok.1 hbase⟩

theorem Database.Consistent.deleted_append (h : db.Consistent env) {event : Event}
    (hkept : ∀ organizationId workbookId, event.Answers organizationId workbookId →
      ¬ db.Deleted organizationId workbookId) :
    (db.log ++ [event]).Pairwise fun e e' => ∀ organizationId workbookId,
      e = .deleted organizationId workbookId → ¬ e'.Answers organizationId workbookId := by
  refine List.pairwise_append.2 ⟨h.deleted, List.pairwise_singleton _ _, ?_⟩
  rintro e he e' he' organizationId workbookId rfl hanswers
  obtain rfl := List.mem_singleton.1 he'
  exact hkept organizationId workbookId hanswers he

theorem replay_spec {r : WorkbookSave} {version : Id}
    (h : db.replay env r = .ok (some version)) :
    ∃ d, db.previous r = some d ∧ .workbook r.workbook.id ∈ d.tags ∧ d.isActive = true ∧
      d.id = version := by
  unfold Database.replay at h
  split at h
  · cases h
  · next d hprevious =>
    obtain ⟨_, hmatches, hrest⟩ := bind_eq_ok.1 h
    obtain ⟨_, hactive, hid⟩ := bind_eq_ok.1 hrest
    exact ⟨d, hprevious, (ensure_eq_ok.1 hmatches).2.1, ensure_eq_ok.1 hactive,
      Option.some.inj (Except.ok.inj hid)⟩

theorem Database.Consistent.repeated (h : db.Consistent env) {r : WorkbookSave} {version : Id}
    (hreplay : db.replay env r = .ok (some version)) :
    Database.Consistent env { db with log := db.log ++ [.repeated r version] } := by
  obtain ⟨d, hprevious, htag, hactive, rfl⟩ := replay_spec hreplay
  obtain ⟨hmem, first, hfirst, heq, horg, hoperation⟩ := h.previous_save hprevious
  have hversion : d ∈ db.versions r.actor.organizationId r.workbook.id := by
    refine List.mem_filter.2 ⟨hmem, decide_eq_true ⟨?_, ?_, htag⟩⟩
    · exact (congrArg LibraryDocument.organizationId heq).trans horg
    · exact congrArg LibraryDocument.category heq
  have hkept := h.not_deleted hversion hactive
  let db' : Database := { db with log := db.log ++ [.repeated r d.id] }
  have hsaves : db'.saves = db.saves := by
    rw [saves_append (.repeated r d.id) rfl]
    exact List.append_nil _
  have hdeleted : ∀ organizationId workbookId,
      db'.Deleted organizationId workbookId ↔ db.Deleted organizationId workbookId := by
    intro organizationId workbookId
    rw [Database.deleted_append rfl, or_iff_left nofun]
  constructor
  case documents => exact hsaves ▸ h.documents
  case sources => exact h.sources
  case active =>
    intro organizationId workbookId d' hd'
    rw [hdeleted]
    exact h.active organizationId workbookId d' hd'
  case clock => exact hsaves ▸ h.clock
  case order => exact hsaves ▸ h.order
  case exists_version =>
    intro organizationId workbookId hgone
    rw [Database.history_congr hsaves]
    exact h.exists_version _ _ ((hdeleted _ _).1 hgone)
  case chain =>
    intro organizationId workbookId
    rw [Database.history_congr hsaves]
    exact h.chain organizationId workbookId
  case once => exact hsaves ▸ h.once
  case returned =>
    intro r' version hreturned
    rw [hsaves]
    rcases List.mem_append.1 hreturned with hold | hnew
    · exact h.returned r' version hold
    · obtain ⟨rfl, rfl⟩ := Event.repeated.inj (List.mem_singleton.1 hnew)
      exact ⟨first, hfirst, horg, hoperation, (congrArg LibraryDocument.id heq).symm⟩
  case deleted =>
    refine h.deleted_append ?_
    rintro organizationId workbookId ⟨rfl, rfl⟩
    exact hkept

theorem Database.Consistent.kept_of_check (h : db.Consistent env) {r : WorkbookSave}
    (hcheck : db.checkSave r = .ok ()) :
    ¬ db.Deleted r.actor.organizationId r.workbook.id := by
  intro hdeleted
  have hversions : db.versions r.actor.organizationId r.workbook.id ≠ [] :=
    fun hnone => h.exists_version _ _ hdeleted (h.versions_eq_nil.1 hnone)
  have hlast := List.getLast?_eq_some_getLast hversions
  have hactive := (checkSave_spec hcheck).1 _ ((h.latest_eq _ _).trans hlast)
  exact h.not_deleted (List.getLast_mem hversions) hactive hdeleted

/-- No earlier save is of the operation of a save that finds none. -/
theorem Database.Consistent.fresh (h : db.Consistent env) {r : WorkbookSave}
    (hprevious : db.previous r = none) : ∀ save ∈ db.saves,
      (save.1.actor.organizationId, save.1.operationId) ≠
        (r.actor.organizationId, r.operationId) := by
  intro save hsave hsame
  obtain ⟨horg, hoperation⟩ := Prod.mk.inj hsame
  obtain ⟨d, -, hfound, -⟩ := h.previous_of_save hsave horg.symm hoperation.symm
  rw [hprevious] at hfound
  cases hfound

theorem Database.Consistent.saved (h : db.Consistent env) {r : WorkbookSave}
    {documents : Table LibraryDocument.id} (hprevious : db.previous r = none)
    (hinsert : db.documents.insert? (r.document env (db.clock + r.pause + 1)) = some documents)
    (hcheck : db.checkSave r = .ok ()) : Database.Consistent env
      ⟨documents, db.clock + r.pause + 1, db.log ++ [.saved r (db.clock + r.pause + 1)]⟩ := by
  have hbase := (checkSave_spec hcheck).2
  have hkept := h.kept_of_check hcheck
  generalize hnow : db.clock + r.pause + 1 = now at hinsert ⊢
  have hlater : db.clock < now := hnow ▸ Nat.lt_succ_of_le (Nat.le_add_right _ _)
  let db' : Database := ⟨documents, now, db.log ++ [.saved r now]⟩
  have hsaves : db'.saves = db.saves ++ [(r, now)] := saves_append (.saved r now) rfl
  have hdeleted : ∀ organizationId workbookId,
      db'.Deleted organizationId workbookId ↔ db.Deleted organizationId workbookId := by
    intro organizationId workbookId
    rw [Database.deleted_append rfl, or_iff_left nofun]
  -- what is a version now was one before, or is the one that was saved
  have hversions : ∀ organizationId workbookId, ∀ d ∈ db'.versions organizationId workbookId,
      d ∈ db.versions organizationId workbookId ∨ d = r.document env now ∧
        r.actor.organizationId = organizationId ∧ r.workbook.id = workbookId := by
    intro organizationId workbookId d hd
    rw [versions_insert hinsert rfl, List.mem_append] at hd
    refine hd.imp_right fun hnew => ?_
    split at hnew
    · next hof => exact ⟨List.mem_singleton.1 hnew, hof⟩
    · cases hnew
  constructor
  case documents =>
    show (documents.rows.filter fun d => d.sourceType = "workbook-sync").map _ = _
    rw [Table.insert?_rows hinsert, List.filter_append, List.map_append, h.documents]
    show _ = db'.saves.map _
    rw [hsaves, List.map_append]
    rfl
  case sources =>
    intro organizationId workbookId d hd
    rcases hversions _ _ d hd with hold | ⟨rfl, -⟩
    · exact h.sources _ _ d hold
    · rfl
  case active =>
    intro organizationId workbookId d hd
    rw [hdeleted]
    rcases hversions _ _ d hd with hold | ⟨rfl, rfl, rfl⟩
    · exact h.active _ _ d hold
    · exact iff_of_false Bool.true_eq_false.mp hkept
  case clock =>
    intro save hsave
    rw [hsaves] at hsave
    show save.2 ≤ now
    rcases List.mem_append.1 hsave with hold | hnew
    · exact (h.clock save hold).trans hlater.le
    · rw [List.mem_singleton.1 hnew]
  case order =>
    rw [hsaves]
    refine List.pairwise_append.2 ⟨h.order, List.pairwise_singleton _ _, ?_⟩
    intro save hsave last hlast
    rw [List.mem_singleton.1 hlast]
    exact (h.clock save hsave).trans_lt hlater
  case exists_version =>
    intro organizationId workbookId hgone
    rw [Database.history_append rfl]
    exact List.append_ne_nil_of_left_ne_nil
      (h.exists_version _ _ ((hdeleted _ _).1 hgone)) _
  case chain =>
    intro organizationId workbookId
    rw [Database.history_append rfl]
    split
    · next hof =>
      obtain ⟨rfl, rfl⟩ := hof
      refine (h.chain _ _).append ?_
      rw [Option.or_none, ← h.latest_id]
      exact hbase.symm
    · rw [List.append_nil]
      exact h.chain organizationId workbookId
  case once =>
    rw [hsaves, List.map_append, List.map_singleton, List.nodup_append]
    refine ⟨h.once, List.nodup_singleton _, ?_⟩
    rintro a ha b hb rfl
    obtain ⟨save, hsave, heq⟩ := List.mem_map.1 ha
    exact h.fresh hprevious save hsave (heq.trans (List.mem_singleton.1 hb))
  case returned =>
    intro r' version hreturned
    have hold : .repeated r' version ∈ db.log := by
      refine (List.mem_append.1 hreturned).resolve_right fun hnew => ?_
      cases List.mem_singleton.1 hnew
    obtain ⟨first, hfirst, hwhich⟩ := h.returned r' version hold
    rw [hsaves]
    exact ⟨first, List.mem_append_left _ hfirst, hwhich⟩
  case deleted =>
    refine h.deleted_append ?_
    rintro organizationId workbookId ⟨rfl, rfl⟩
    exact hkept

theorem Database.Consistent.delete (h : db.Consistent env) {r : DeleteWorkbook}
    {key : String} {versions : List Id}
    (hexists : db.versions r.actor.organizationId key ≠ [])
    (hread : versions = ((db.versions r.actor.organizationId key).filter fun d =>
      d.isActive = true).map (·.id)) :
    (db.commitDelete r key versions).Consistent env := by
  have hsaves : (db.commitDelete r key versions).saves = db.saves := by
    rw [Database.saves_append (.deleted r.actor.organizationId key) rfl]
    exact List.append_nil _
  have hdeleted : ∀ organizationId workbookId,
      (db.commitDelete r key versions).Deleted organizationId workbookId ↔
        db.Deleted organizationId workbookId ∨
          r.actor.organizationId = organizationId ∧ key = workbookId := by
    intro organizationId workbookId
    rw [Database.deleted_append rfl, Event.deleted.injEq]
  have hread' : ∀ d ∈ db.versions r.actor.organizationId key, d.isActive = true →
      d.id ∈ versions := by
    intro d hd hactive
    rw [hread]
    exact List.mem_map_of_mem (List.mem_filter.2 ⟨hd, decide_eq_true hactive⟩)
  constructor
  case documents =>
    show ((db.documents.rows.map (LibraryDocument.deactivate versions)).filter _).map _ = _
    rw [List.filter_map, List.map_map, hsaves, ← h.documents]
    simp only [Function.comp_def, LibraryDocument.sourceType_deactivate,
      LibraryDocument.asSaved_deactivate]
  case sources =>
    intro organizationId workbookId d hd
    rw [versions_delete] at hd
    obtain ⟨old, hold, rfl⟩ := List.mem_map.1 hd
    exact (old.sourceType_deactivate versions).trans (h.sources _ _ old hold)
  case active =>
    intro organizationId workbookId d hd
    rw [versions_delete] at hd
    obtain ⟨old, hold, rfl⟩ := List.mem_map.1 hd
    rw [LibraryDocument.isActive_deactivate, hdeleted, h.active _ _ old hold, or_comm]
    refine or_congr_right' fun hkept => ⟨fun hmem => ?_, ?_⟩
    · rw [hread] at hmem
      obtain ⟨d, hd', hid⟩ := List.mem_map.1 hmem
      have hversion := (List.mem_filter.1 hd').1
      obtain rfl : d = old := db.documents.key_injective (List.mem_filter.1 hversion).1
        (List.mem_filter.1 hold).1 hid
      exact h.workbook_unique hversion hold
    · rintro ⟨rfl, rfl⟩
      refine hread' old hold ?_
      rw [← Bool.not_eq_false, h.active _ _ old hold]
      exact hkept
  case clock => exact hsaves ▸ h.clock
  case order => exact hsaves ▸ h.order
  case exists_version =>
    intro organizationId workbookId hgone
    rw [Database.history_congr hsaves]
    rcases (hdeleted _ _).1 hgone with hold | ⟨rfl, rfl⟩
    · exact h.exists_version _ _ hold
    · exact fun hnone => hexists (h.versions_eq_nil.2 hnone)
  case chain =>
    intro organizationId workbookId
    rw [Database.history_congr hsaves]
    exact h.chain organizationId workbookId
  case once => exact hsaves ▸ h.once
  case returned =>
    intro r' version hreturned
    rw [hsaves]
    refine h.returned r' version ((List.mem_append.1 hreturned).resolve_right fun hnew => ?_)
    cases List.mem_singleton.1 hnew
  case deleted => exact h.deleted_append fun _ _ hanswers => hanswers.elim

theorem Database.Initial.consistent (h : db.Initial) : db.Consistent env := by
  have hsaves : db.saves = [] := by
    rw [Database.saves, h.log]
    rfl
  have hdeleted : ∀ organizationId workbookId, ¬ db.Deleted organizationId workbookId := by
    intro organizationId workbookId hmem
    rw [Database.Deleted, h.log] at hmem
    cases hmem
  constructor
  case documents =>
    rw [hsaves, List.filter_eq_nil_iff.2]
    · rfl
    · exact fun d hd hsync => h.sources d hd (of_decide_eq_true hsync)
  case sources => simp [h.versions]
  case active => simp [h.versions]
  case clock => simp [hsaves]
  case order => simp [hsaves]
  case exists_version => exact fun _ _ hgone => absurd hgone (hdeleted _ _)
  case chain =>
    intro organizationId workbookId
    rw [Database.history, hsaves]
    trivial
  case once => simp [hsaves]
  case returned => simp [h.log]
  case deleted => simp [h.log]

end Cestos.Workbooks
