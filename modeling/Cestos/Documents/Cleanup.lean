import Cestos.Documents.Files
import Cestos.Documents.Registered

/-!
# Files and rows

Where a request fails, the paths that rows hold name files, and a file that no row names is
deleted: except after the commit of a new report, between the storing and the commit of an update,
and in the search for the import that an upload takes the place of.
-/

namespace Cestos.Documents

open Cestos.Core Cestos.Workbooks

variable {failing : Option Point} {registry : Registry} {files : List String} {w : World}

/-- A committed row or document holds the path. -/
def Registry.Holds (registry : Registry) (path : String) : Prop :=
  (∃ row ∈ registry.rows.rows, ∃ slot ∈ row.model.slots, row.storedPath slot = some path) ∨
    ∃ d ∈ registry.catalog.documents.rows, d.storagePath = path

/-- Of the world after a request: the paths of the rows name files, and the files of the request are
those that rows name. -/
structure Settled (files : List String) (after : World) : Prop where
  named : ∀ path, after.committed.Holds path → path ∈ after.files
  deleted : ∀ path ∈ after.files, path ∉ files → after.committed.Holds path

/-! ## What is written -/

/-- What is registered has the path that it is registered with, and other documents theirs. -/
theorem path_register {c c' : Catalog} {values d : LibraryDocument}
    (h : c.register values = some c') (hd : d ∈ c'.documents.rows) :
    d.storagePath = values.storagePath ∨ ∃ e ∈ c.documents.rows, e.storagePath = d.storagePath := by
  have hfind : c'.bySource.find? (source d) = some d := c'.bySource.find?_of_mem hd
  rw [find?_register h] at hfind
  split at hfind
  · cases hold : c.bySource.find? (source d) with
    | none =>
        rw [hold] at hfind
        exact .inl (Option.some.inj hfind ▸ rfl)
    | some e =>
        rw [hold] at hfind
        exact .inl (Option.some.inj hfind ▸ rfl)
  · have hold : d ∈ c.bySource.rows := Table.mem_of_find? hfind
    exact .inr ⟨d, hold, rfl⟩

theorem path_foldlM_register {l : List LibraryDocument} {c c' : Catalog} {d : LibraryDocument}
    (h : l.foldlM Catalog.register c = some c') (hd : d ∈ c'.documents.rows) :
    (∃ values ∈ l, d.storagePath = values.storagePath) ∨
      ∃ e ∈ c.documents.rows, e.storagePath = d.storagePath := by
  induction l generalizing c with
  | nil =>
      cases h
      exact .inr ⟨d, hd, rfl⟩
  | cons values l ih =>
      rw [List.foldlM_cons, Option.bind_eq_bind, Option.bind_eq_some_iff] at h
      obtain ⟨mid, hmid, hrest⟩ := h
      rcases ih hrest with ⟨v, hv, hpath⟩ | ⟨e, he, hpath⟩
      · exact .inl ⟨v, List.mem_cons_of_mem _ hv, hpath⟩
      · rcases path_register hmid he with hnew | ⟨e', he', hpath'⟩
        · exact .inl ⟨values, List.mem_cons_self, hpath.symm.trans hnew⟩
        · exact .inr ⟨e', he', hpath'.trans hpath⟩

section Flush

variable {actor : Actor} {generated : Source → Id} {now : Instant} {row : SourceRow}
  {path : String}

/-- After a flush of a row a path is held that was held before, or that of the row. -/
theorem holds_flush (h : (registry.flush (flushOf actor generated now row)).Holds path) :
    registry.Holds path ∨ ∃ slot ∈ row.model.slots, row.storedPath slot = some path := by
  unfold Registry.flush at h
  split at h
  · exact .inl h
  · next catalog hregister =>
    rcases h with ⟨other, hother, slot, hslot, hpath⟩ | ⟨d, hd, rfl⟩
    · have hfind := Table.find?_of_mem hother
      rw [find?_rows, if_neg (by simp [flushOf])] at hfind
      rcases Option.or_eq_some_iff.1 hfind with hwritten | ⟨-, hold⟩
      · obtain rfl := List.mem_singleton.1 (List.mem_of_find?_eq_some hwritten)
        exact .inr ⟨slot, hslot, hpath⟩
      · exact .inl (.inl ⟨other, Table.mem_of_find? hold, slot, hslot, hpath⟩)
    · simp only [Catalog.registerSources, Option.bind_eq_bind, Option.bind_eq_some_iff,
        Option.some.injEq] at hregister
      obtain ⟨mid, hmid, rfl⟩ := hregister
      rcases path_foldlM_register hmid hd with ⟨values, hvalues, hpath⟩ | ⟨e, he, hpath⟩
      · obtain ⟨other, hother, hvalues⟩ := List.mem_flatMap.1 hvalues
        obtain rfl := List.mem_singleton.1 hother
        obtain ⟨slot, hslot, -, stored, hstored, rfl⟩ := mem_sourceValues.1 hvalues
        exact .inr ⟨slot, hslot, hstored.trans (congrArg some hpath.symm)⟩
      · exact .inl (.inr ⟨e, he, hpath⟩)

theorem holds_flush_self {slot : Slot}
    (hflush : (registry.catalog.registerSources (flushOf actor generated now row)).isSome = true)
    (hslot : slot ∈ row.model.slots) (hpath : row.storedPath slot = some path) :
    (registry.flush (flushOf actor generated now row)).Holds path := by
  unfold Registry.flush
  split
  · next hnone => simp [hnone] at hflush
  · next catalog hregister =>
    refine .inl ⟨row, Table.mem_of_find? (k := row.toRowKey) ?_, slot, hslot, hpath⟩
    rw [find?_rows, if_neg (by simp [flushOf])]
    simp [flushOf]

end Flush

/-! ## Statements -/

section Statements

variable {raised : World → Prop}

theorem leaves_statement {point : Point} {ok : Unit → World → Prop} :
    (statement failing point).Leaves w ok raised ↔
      if failing = some point then raised w else ok () w := by
  rw [statement, Handler.leaves_reads]
  by_cases h : failing = some point <;> simp [succeeds, ensure, h]

theorem leaves_save {stored : Except AppError Stored} {ok : Stored → World → Prop} :
    (save stored).Leaves w ok raised ↔
      match stored with
      | .ok stored => ok stored (w.save stored)
      | .error _ => raised w := by
  rw [save, Handler.leaves_bind, Handler.leaves_reads]
  cases stored <;> rfl

theorem leaves_flush {f : Flush} {ok : Unit → World → Prop} :
    (flush failing f).Leaves w ok raised ↔
      if failing = some .flush ∨ (w.session.catalog.registerSources f).isSome = false then raised w
      else ok () { w with session := w.session.flush f } := by
  rw [flush, Handler.leaves_bind, leaves_statement, Handler.leaves_bind, Handler.leaves_reads]
  by_cases h : failing = some .flush
  · simp [h]
  · cases hregister : (w.session.catalog.registerSources f).isSome
    all_goals simp [h, ensure, Handler.leaves_writes]

theorem leaves_commit {ok : Unit → World → Prop} :
    (commit failing).Leaves w ok raised ↔
      if failing = some .commit then raised w else ok () { w with committed := w.session } := by
  rw [commit, Handler.leaves_bind, leaves_statement]
  exact Iff.rfl

theorem leaves_storeFile {file : Option Attachment} {message : String}
    {ok : Option Stored → World → Prop} :
    (storeFile file message).Leaves w ok raised ↔
      match storedFile file with
      | some stored => ok (some stored) (w.save stored)
      | none => if file.isSome = true then raised w else ok none w := by
  cases file with
  | none => exact Iff.rfl
  | some file =>
      rw [storeFile, Handler.leaves_bind, Handler.leaves_reads]
      by_cases h : file.size = 0
      · simp [h, ensure, storedFile, Option.filter]
      · cases hstored : file.stored
        all_goals simp [h, ensure, storedFile, Option.filter, hstored, Except.toOption,
          Except.mapError, Handler.leaves_bind, leaves_save, Handler.leaves_pure]

end Statements

/-! ## What is left -/

section Left

variable {stored : Stored}

theorem filter_save {path : String} (hfresh : path ∉ files) :
    (path :: files).filter (· ≠ path) = files := by
  rw [List.filter_cons_of_neg (by simp)]
  exact List.filter_eq_self.2 fun other hother =>
    decide_eq_true fun heq => hfresh (heq ▸ hother)

theorem settled_unchanged (hnamed : ∀ path, registry.Holds path → path ∈ files) {after : World}
    (hcommitted : after.committed = registry) (hfiles : after.files = files) :
    Settled files after where
  named path hpath := hfiles ▸ hnamed path (hcommitted ▸ hpath)
  deleted _ hpath hnew := absurd (hfiles ▸ hpath) hnew

theorem not_settled_saved (hnamed : ∀ path, registry.Holds path → path ∈ files)
    (hfresh : stored.relativePath ∉ files) {after : World} (hcommitted : after.committed = registry)
    (hfiles : after.files = stored.relativePath :: files) : ¬ Settled files after := by
  intro h
  have hheld := h.deleted stored.relativePath (hfiles ▸ List.mem_cons_self) hfresh
  exact hfresh (hnamed _ (hcommitted ▸ hheld))

variable {actor : Actor} {generated : Source → Id} {now : Instant} {row : SourceRow}

theorem settled_flush (hnamed : ∀ path, registry.Holds path → path ∈ files) {after : World}
    (hflush : (registry.catalog.registerSources (flushOf actor generated now row)).isSome = true)
    (hcommitted : after.committed = registry.flush (flushOf actor generated now row))
    (hfiles : ∀ path, path ∈ after.files ↔
      (∃ slot ∈ row.model.slots, row.storedPath slot = some path) ∨ path ∈ files) :
    Settled files after where
  named path hpath := by
    rw [hfiles]
    rcases holds_flush (hcommitted ▸ hpath) with hold | hrow
    · exact .inr (hnamed path hold)
    · exact .inl hrow
  deleted path hpath hnew := by
    obtain ⟨slot, hslot, hrow⟩ := ((hfiles path).1 hpath).resolve_right hnew
    exact hcommitted ▸ holds_flush_self hflush hslot hrow

theorem not_settled_deleted {slot : Slot} {path : String} {after : World}
    (hflush : (registry.catalog.registerSources (flushOf actor generated now row)).isSome = true)
    (hcommitted : after.committed = registry.flush (flushOf actor generated now row))
    (hslot : slot ∈ row.model.slots) (hpath : row.storedPath slot = some path)
    (hdeleted : path ∉ after.files) : ¬ Settled files after := fun h =>
  hdeleted (h.named path (hcommitted ▸ holds_flush_self hflush hslot hpath))

end Left

/-! ## Requests that go wrong -/

/-- The new report is committed with its file, and what is queried after that fails. -/
def CreateReport.Misses (failing : Option Point) (registry : Registry) (r : CreateReport) : Prop :=
  failing = some .visible ∧ ∃ body siteName stored, r.check failing = .ok (body, siteName) ∧
    storedFile r.file = some stored ∧ (registry.catalog.registerSources
      (flushOf r.actor r.generated r.now (r.row body siteName (some stored)))).isSome = true

/-- The file of an update is stored, and the update is not committed. -/
def UpdateReport.Misses (failing : Option Point) (registry : Registry) (r : UpdateReport) : Prop :=
  ∃ row changes stored, r.check failing registry = .ok (row, changes) ∧
    storedFile r.file = some stored ∧
    (failing = some .flush ∨ failing = some .commit ∨ (registry.catalog.registerSources
      (flushOf r.actor r.generated r.now
        (UpdateReport.apply row changes (some stored)))).isSome = false)

/-- A row, or another document than the one, holds the path. -/
def Registry.HoldsBeside (registry : Registry) (id : Id) (path : String) : Prop :=
  (∃ row ∈ registry.rows.rows, ∃ slot ∈ row.model.slots, row.storedPath slot = some path) ∨
    ∃ e ∈ registry.catalog.documents.rows, e.id ≠ id ∧ e.storagePath = path

/-- The search for an earlier import fails after the file is stored, or the file of the import that
the upload takes the place of is the file of something else. -/
def Upload.Misses (env : TextEnv) (failing : Option Point) (registry : Registry) (r : Upload) :
    Prop :=
  ∃ a, failing ≠ some (.lookup 0) ∧
    r.check env registry.catalog.documents.rows = .ok (some a) ∧
    ((a.isImport = true ∧ failing = some .existingImport) ∨
      (failing ≠ some .flush ∧ failing ≠ some .commit ∧ ∃ existing,
        r.existingImport registry.catalog.documents.rows a.link a.stored.fileName = some existing ∧
        registry.HoldsBeside existing.id existing.storagePath))

/-- Whether a file is left that no row names, or a row names a file that is not there. -/
def FileRequest.Misses (failing : Option Point) (registry : Registry) : FileRequest → Prop
  | .createReport r => r.Misses failing registry
  | .updateReport r => r.Misses failing registry
  | .upload env _ r => r.Misses env failing registry
  | .completeWork _ => False

/-! ## Project reports -/

section Reports

variable {r : CreateReport} {u : UpdateReport}

theorem CreateReport.storedPath_row (body : String → Option String) (siteName : String)
    (stored : Option Stored) {path : String} :
    (∃ slot ∈ (r.row body siteName stored).model.slots,
      (r.row body siteName stored).storedPath slot = some path) ↔
      (stored.map (·.relativePath)).filter isStored = some path :=
  ⟨fun ⟨slot, hslot, h⟩ => by
    obtain rfl := List.mem_singleton.1 hslot
    exact h, fun h => ⟨_, List.mem_singleton_self _, h⟩⟩

theorem CreateReport.misses_iff {body : String → Option String} {siteName : String} {stored : Stored}
    (hcheck : r.check failing = .ok (body, siteName)) (hstored : storedFile r.file = some stored) :
    r.Misses failing registry ↔ failing = some .visible ∧ (registry.catalog.registerSources
      (flushOf r.actor r.generated r.now (r.row body siteName (some stored)))).isSome = true := by
  simp [Misses, hcheck, hstored]

theorem settled_createReport (hnamed : ∀ path, registry.Holds path → path ∈ files)
    (hfresh : ∀ stored, storedFile r.file = some stored →
      stored.relativePath ∉ files ∧ isStored stored.relativePath = true) :
    (createReport failing r).Leaves (World.begin registry files) (fun _ => Settled files)
      (Settled files) ↔ ¬ r.Misses failing registry := by
  rw [createReport, Handler.leaves_bind, Handler.leaves_reads]
  cases hcheck : r.check failing with
  | error e =>
      refine iff_of_true (settled_unchanged hnamed rfl rfl) fun ⟨_, _, _, _, h, _⟩ => ?_
      rw [hcheck] at h
      cases h
  | ok found =>
      obtain ⟨body, siteName⟩ := found
      simp only [Handler.leaves_cleaning, Handler.leaves_bind, leaves_storeFile, leaves_flush,
        leaves_commit, leaves_statement, Handler.leaves_pure]
      cases hstored : storedFile r.file with
      | none =>
          refine iff_of_true ?_ fun ⟨_, _, _, _, _, h, _⟩ => by simp [hstored] at h
          dsimp only
          split_ifs with hfile hflush
          · exact settled_unchanged hnamed rfl rfl
          · exact settled_unchanged hnamed rfl rfl
          · exact settled_unchanged hnamed rfl rfl
          all_goals
            rw [not_or, Bool.not_eq_false] at hflush
            refine settled_flush hnamed hflush.2 rfl fun path => ?_
            rw [CreateReport.storedPath_row]
            exact (or_iff_right (by simp)).symm
      | some stored =>
          obtain ⟨hnew, hpath⟩ := hfresh stored hstored
          have hfiles : (stored.relativePath :: files).filter (· ≠ stored.relativePath) = files :=
            filter_save hnew
          rw [CreateReport.misses_iff hcheck hstored]
          dsimp only
          split_ifs with hflush hcommit hvisible
          · refine iff_of_true (settled_unchanged hnamed rfl hfiles) fun h => ?_
            rcases hflush with hflush | hflush
            · exact absurd (hflush.symm.trans h.1) (by simp)
            · exact absurd (hflush.symm.trans h.2) (by simp)
          · exact iff_of_true (settled_unchanged hnamed rfl hfiles) fun h =>
              absurd (hcommit.symm.trans h.1) (by simp)
          all_goals rw [not_or, Bool.not_eq_false] at hflush
          · refine iff_of_false ?_ (not_not.2 ⟨hvisible, hflush.2⟩)
            refine not_settled_deleted hflush.2 rfl (List.mem_singleton_self _) ?_
              (hfiles.symm ▸ hnew)
            exact Option.filter_eq_some_iff.2 ⟨rfl, hpath⟩
          · refine iff_of_true (settled_flush hnamed hflush.2 rfl fun path => ?_)
              fun h => hvisible h.1
            rw [CreateReport.storedPath_row, Option.map_some, Option.filter_some, if_pos hpath,
              Option.some.injEq, eq_comm]
            exact List.mem_cons

theorem UpdateReport.leaves_storeFile {ok : Option Stored → World → Prop} {raised : World → Prop} :
    u.storeFile.Leaves w ok raised ↔
      match storedFile u.file with
      | some stored => ok (some stored) (w.save stored)
      | none => if (u.file.filter fun file => file.size ≠ 0).isSome = true then raised w
          else ok none w := by
  unfold UpdateReport.storeFile storedFile
  cases u.file.filter fun file => file.size ≠ 0 with
  | none => exact Iff.rfl
  | some file =>
      cases hstored : file.stored
      all_goals simp [hstored, Except.toOption, Except.mapError, Handler.leaves_bind, leaves_save,
        Handler.leaves_pure]

theorem UpdateReport.check_ok {row : SourceRow} {changes : List (String × String)}
    (h : u.check failing registry = .ok (row, changes)) :
    row ∈ registry.rows.rows ∧ row.model = .projectReport := by
  have hrow : u.report? registry = some row := by
    simp only [UpdateReport.check, bind_eq_ok, orError_eq_ok] at h
    obtain ⟨body, -, _, -, _, -, _, -, report, hreport, h⟩ := h
    rw [hreport]
    cases hsite : u.siteName
    all_goals
      rw [hsite] at h
      split at h
      all_goals
        simp only [bind_eq_ok, Except.ok.injEq, Prod.mk.injEq] at h
        grind
  obtain ⟨hfind, -⟩ := Option.filter_eq_some_iff.1 hrow
  exact ⟨Table.mem_of_find? hfind, congrArg RowKey.model (Table.key_of_find? hfind)⟩

theorem UpdateReport.storedPath_apply {row : SourceRow} {changes : List (String × String)}
    (hmodel : row.model = .projectReport) (stored : Option Stored) {path : String} :
    (∃ slot ∈ (apply row changes stored).model.slots,
      (apply row changes stored).storedPath slot = some path) ↔
      ((stored.map (·.relativePath)).or (row.texts "storage_path")).filter isStored = some path := by
  rw [show (apply row changes stored).model = .projectReport from hmodel]
  constructor
  · rintro ⟨slot, hslot, h⟩
    obtain rfl := List.mem_singleton.1 hslot
    exact h
  · exact fun h => ⟨_, List.mem_singleton_self _, h⟩

theorem UpdateReport.misses_iff {row : SourceRow} {changes : List (String × String)}
    {stored : Stored} (hcheck : u.check failing registry = .ok (row, changes))
    (hstored : storedFile u.file = some stored) :
    u.Misses failing registry ↔ failing = some .flush ∨ failing = some .commit ∨
      (registry.catalog.registerSources (flushOf u.actor u.generated u.now
        (UpdateReport.apply row changes (some stored)))).isSome = false := by
  simp [Misses, hcheck, hstored]

theorem settled_updateReport (hnamed : ∀ path, registry.Holds path → path ∈ files)
    (hfresh : ∀ stored, storedFile u.file = some stored →
      stored.relativePath ∉ files ∧ isStored stored.relativePath = true) :
    (updateReport failing u).Leaves (World.begin registry files) (fun _ => Settled files)
      (Settled files) ↔ ¬ u.Misses failing registry := by
  rw [updateReport, Handler.leaves_bind, Handler.leaves_reads,
    show (World.begin registry files).session = registry from rfl]
  cases hcheck : u.check failing registry with
  | error e =>
      refine iff_of_true (settled_unchanged hnamed rfl rfl) fun ⟨_, _, _, h, _⟩ => ?_
      rw [hcheck] at h
      cases h
  | ok found =>
      obtain ⟨row, changes⟩ := found
      obtain ⟨hrow, hmodel⟩ := UpdateReport.check_ok hcheck
      simp only [Handler.leaves_bind, UpdateReport.leaves_storeFile, leaves_flush, leaves_commit,
        leaves_statement, Handler.leaves_pure, ite_self]
      cases hstored : storedFile u.file with
      | none =>
          refine iff_of_true ?_ fun ⟨_, _, _, _, h, _⟩ => by simp [hstored] at h
          dsimp only
          split_ifs with hfile hflush
          · exact settled_unchanged hnamed rfl rfl
          · exact settled_unchanged hnamed rfl rfl
          · exact settled_unchanged hnamed rfl rfl
          · rw [not_or, Bool.not_eq_false] at hflush
            refine settled_flush hnamed hflush.2 rfl fun path => ?_
            rw [UpdateReport.storedPath_apply hmodel]
            refine (or_iff_right_of_imp fun h => hnamed path (.inl ⟨row, hrow, ?_⟩)).symm
            rw [hmodel]
            exact ⟨_, List.mem_singleton_self _, h⟩
      | some stored =>
          obtain ⟨hnew, hpath⟩ := hfresh stored hstored
          rw [UpdateReport.misses_iff hcheck hstored]
          dsimp only
          split_ifs with hflush hcommit
          · exact iff_of_false (not_settled_saved hnamed hnew rfl rfl) (by tauto)
          · exact iff_of_false (not_settled_saved hnamed hnew rfl rfl) (by tauto)
          · refine iff_of_true ?_ (by tauto)
            rw [not_or, Bool.not_eq_false] at hflush
            refine settled_flush hnamed hflush.2 rfl fun path => ?_
            rw [UpdateReport.storedPath_apply hmodel, Option.map_some, Option.some_or,
              Option.filter_some, if_pos hpath, Option.some.injEq, eq_comm]
            exact List.mem_cons

end Reports

/-! ## Uploads -/

section Uploads

variable {env : TextEnv} {now : Instant} {r : Upload} {a : Accepted}

/-- What is accepted has the file that the storage has made. -/
theorem Upload.check_stored {documents : List LibraryDocument}
    (h : r.check env documents = .ok (some a)) : r.stored = .ok a.stored := by
  simp only [Upload.check, bind_eq_ok] at h
  obtain ⟨m, -, link, -, _, -, previous, -, h⟩ := h
  cases previous with
  | some d => simp at h
  | none =>
      obtain ⟨stored, hstored, h⟩ := bind_eq_ok.1 h
      cases hr : r.stored with
      | error e => simp [hr, Except.mapError] at hstored
      | ok s =>
          simp only [hr, Except.mapError, Except.ok.injEq, Option.some.injEq] at hstored h
          rw [hstored, ← h]

theorem leaves_writeDocument {write : Write} {ok : Unit → World → Prop} {raised : World → Prop} :
    (writeDocument failing write).Leaves w ok raised ↔
      if failing = some .flush then raised w
      else match w.session.catalog.write write with
        | none => raised w
        | some catalog => ok () { w with session := { w.session with catalog := catalog } } := by
  rw [writeDocument, Handler.leaves_bind, leaves_statement, Handler.leaves_bind,
    Handler.leaves_reads]
  by_cases h : failing = some .flush
  · simp [h]
  · cases hwrite : w.session.catalog.write write
    all_goals simp [h, hwrite, ensure, Handler.leaves_writes]

theorem settled_insert {d : LibraryDocument} {catalog : Catalog} {after : World}
    (hnamed : ∀ path, registry.Holds path → path ∈ files)
    (hinsert : registry.catalog.insert? d = some catalog)
    (hcommitted : after.committed = { registry with catalog := catalog })
    (hfiles : after.files = d.storagePath :: files) : Settled files after where
  named path hpath := by
    rw [hcommitted] at hpath
    rw [hfiles, List.mem_cons]
    rcases hpath with hrow | ⟨e, he, rfl⟩
    · exact .inr (hnamed path (.inl hrow))
    · rw [(Catalog.insert?_rows hinsert).1, List.mem_append, List.mem_singleton] at he
      rcases he with hold | rfl
      · exact .inr (hnamed _ (.inr ⟨e, hold, rfl⟩))
      · exact .inl rfl
  deleted path hpath hnew := by
    rw [hfiles, List.mem_cons] at hpath
    obtain rfl := hpath.resolve_right hnew
    refine hcommitted ▸ .inr ⟨d, ?_, rfl⟩
    rw [(Catalog.insert?_rows hinsert).1]
    exact List.mem_append_right _ List.mem_cons_self

theorem holds_update {d : LibraryDocument} {change : Change} {path : String}
    (hd : d ∈ registry.catalog.documents.rows) :
    Registry.Holds { registry with catalog := registry.catalog.update (fun e => e.id = d.id) change }
      path ↔ (change.apply d).storagePath = path ∨ registry.HoldsBeside d.id path := by
  constructor
  · rintro (hrow | ⟨e', he', rfl⟩)
    · exact .inr (.inl hrow)
    · obtain ⟨e, he, rfl⟩ := List.mem_map.1 he'
      by_cases hid : e.id = d.id
      · obtain rfl := Table.key_injective _ he hd hid
        exact .inl (by simp)
      · exact .inr (.inr ⟨e, he, hid, by simp [hid]⟩)
  · rintro (hpath | hrow | ⟨e, he, hid, hpath⟩)
    · exact .inr ⟨_, List.mem_map.2 ⟨d, hd, rfl⟩, by simpa using hpath⟩
    · exact .inl hrow
    · exact .inr ⟨_, List.mem_map.2 ⟨e, he, rfl⟩, by simpa [hid] using hpath⟩

/-- A document is committed with another file, and the file before is deleted. -/
theorem settled_replaced {d : LibraryDocument} {change : Change} {path : String} {after : World}
    (hnamed : ∀ path, registry.Holds path → path ∈ files)
    (hd : d ∈ registry.catalog.documents.rows) (hother : d.storagePath ≠ path)
    (hpath : (change.apply d).storagePath = path)
    (hcommitted : after.committed =
      { registry with catalog := registry.catalog.update (fun e => e.id = d.id) change })
    (hfiles : after.files = (path :: files).filter (· ≠ d.storagePath)) :
    Settled files after ↔ ¬ registry.HoldsBeside d.id d.storagePath := by
  have hmem : ∀ p, p ∈ after.files ↔ (p = path ∨ p ∈ files) ∧ p ≠ d.storagePath := by
    intro p
    rw [hfiles, List.mem_filter, List.mem_cons, decide_eq_true_iff]
  have hholds : ∀ p, after.committed.Holds p ↔ path = p ∨ registry.HoldsBeside d.id p := by
    intro p
    rw [hcommitted, holds_update hd, hpath]
  constructor
  · intro h hshares
    exact ((hmem _).1 (h.named _ ((hholds _).2 (.inr hshares)))).2 rfl
  · intro hshares
    refine ⟨fun p hp => ?_, fun p hp hnot => ?_⟩
    · rw [hmem]
      rcases (hholds p).1 hp with rfl | hkept
      · exact ⟨.inl rfl, hother.symm⟩
      · refine ⟨.inr (hnamed p ?_), ?_⟩
        · rcases hkept with hrow | ⟨e, he, -, he'⟩
          · exact .inl hrow
          · exact .inr ⟨e, he, he'⟩
        · rintro rfl
          exact hshares hkept
    · exact (hholds p).2 (.inl (((hmem p).1 hp).1.resolve_right hnot).symm)

theorem Upload.misses_iff (hlookup : failing ≠ some (.lookup 0))
    (hcheck : r.check env registry.catalog.documents.rows = .ok (some a)) :
    r.Misses env failing registry ↔ (a.isImport = true ∧ failing = some .existingImport) ∨
      (failing ≠ some .flush ∧ failing ≠ some .commit ∧ ∃ existing,
        r.existingImport registry.catalog.documents.rows a.link a.stored.fileName = some existing ∧
        registry.HoldsBeside existing.id existing.storagePath) := by
  simp [Misses, hlookup, hcheck]

theorem settled_uploadFile (hnamed : ∀ path, registry.Holds path → path ∈ files)
    (hnew : a.stored.relativePath ∉ files) :
    (uploadFile failing now r a).Leaves (World.begin registry files) (fun _ => Settled files)
      (Settled files) ↔ ¬ ((a.isImport = true ∧ failing = some .existingImport) ∨
        (failing ≠ some .flush ∧ failing ≠ some .commit ∧ ∃ existing,
          r.existingImport registry.catalog.documents.rows a.link a.stored.fileName =
            some existing ∧ registry.HoldsBeside existing.id existing.storagePath)) := by
  simp only [uploadFile, Handler.leaves_bind, leaves_save, Handler.leaves_reads,
    Handler.leaves_cleaning, leaves_writeDocument, leaves_commit]
  by_cases himport : a.isImport = true ∧ failing = some .existingImport
  · rw [if_pos himport.1, himport.2]
    exact iff_of_false (not_settled_saved hnamed hnew rfl rfl) (not_not.2 (.inl ⟨himport.1, rfl⟩))
  · have hsearch : (if a.isImport = true then succeeds failing .existingImport else .ok ()) =
        .ok () := by
      split_ifs with h
      · exact ensure_eq_ok.2 fun hfailing => himport ⟨h, hfailing⟩
      · rfl
    have hfiles : (a.stored.relativePath :: files).filter (· ≠ a.stored.relativePath) = files :=
      filter_save hnew
    have hcleaned : Settled files ((World.begin registry files).save a.stored).cleanUp :=
      settled_unchanged hnamed rfl hfiles
    have hsession : ((World.begin registry files).save a.stored).session = registry := rfl
    rw [hsearch, or_iff_right himport]
    dsimp only
    rw [hsession]
    split_ifs with hflush hcommit
    · exact iff_of_true hcleaned fun h => h.1 hflush
    · refine iff_of_true ?_ fun h => h.2.1 hcommit
      split
      · exact hcleaned
      · exact settled_unchanged hnamed rfl hfiles
    · cases hexisting : r.existingImport registry.catalog.documents.rows a.link a.stored.fileName with
      | none =>
          refine iff_of_true ?_ fun ⟨_, _, _, h, _⟩ => by cases h
          split
          · exact hcleaned
          · next catalog hwrite =>
            rw [Upload.write, hexisting] at hwrite
            exact settled_insert hnamed hwrite rfl rfl
      | some existing =>
          rw [Upload.write, hexisting]
          have hmem := (Upload.existingImport_spec hexisting).1
          have hold := hnamed _ (.inr ⟨existing, hmem, rfl⟩)
          have hother : existing.storagePath ≠ a.stored.relativePath := fun h => hnew (h ▸ hold)
          dsimp only [Catalog.write]
          rw [if_pos hother, Handler.leaves_writes,
            settled_replaced hnamed hmem hother rfl rfl rfl]
          simp [hflush, hcommit]

theorem settled_upload (hnamed : ∀ path, registry.Holds path → path ∈ files)
    (hfresh : ∀ stored, r.stored.toOption = some stored → stored.relativePath ∉ files) :
    (upload env failing now r).Leaves (World.begin registry files) (fun _ => Settled files)
      (Settled files) ↔ ¬ r.Misses env failing registry := by
  have hunchanged : Settled files (World.begin registry files) := settled_unchanged hnamed rfl rfl
  rw [upload, Handler.leaves_bind, leaves_statement]
  split_ifs with hlookup
  · exact iff_of_true hunchanged fun ⟨_, h, _⟩ => h hlookup
  · rw [Handler.leaves_bind, Handler.leaves_reads,
      show (World.begin registry files).session = registry from rfl]
    cases hcheck : r.check env registry.catalog.documents.rows with
    | error e => exact iff_of_true hunchanged fun ⟨_, _, h, _⟩ => by simp [hcheck] at h
    | ok accepted =>
        cases accepted with
        | none => exact iff_of_true hunchanged fun ⟨_, _, h, _⟩ => by simp [hcheck] at h
        | some a =>
            rw [Upload.misses_iff hlookup hcheck]
            exact settled_uploadFile hnamed
              (hfresh a.stored (by rw [Upload.check_stored hcheck]; rfl))

end Uploads

/-! ## Field work -/

theorem CompleteWork.storedPath_row {r : CompleteWork} {logType path : String} {stored : Stored}
    (hpath : isStored stored.relativePath = true) :
    (∃ slot ∈ (r.row logType stored).model.slots,
      (r.row logType stored).storedPath slot = some path) ↔ stored.relativePath = path := by
  have hslot : ∀ slot ∈ (r.row logType stored).model.slots,
      (r.row logType stored).storedPath slot = some stored.relativePath := by
    intro slot hslot
    obtain rfl := List.mem_singleton.1 hslot
    exact Option.filter_eq_some_iff.2 ⟨rfl, hpath⟩
  constructor
  · rintro ⟨slot, hmem, h⟩
    exact Option.some.inj ((hslot slot hmem).symm.trans h)
  · rintro rfl
    exact ⟨_, List.mem_singleton_self _, hslot _ (List.mem_singleton_self _)⟩

theorem settled_completeWorkOrder {r : CompleteWork}
    (hnamed : ∀ path, registry.Holds path → path ∈ files)
    (hfresh : ∀ stored, storedFile r.file = some stored →
      stored.relativePath ∉ files ∧ isStored stored.relativePath = true) :
    (completeWorkOrder failing r).Leaves (World.begin registry files) (fun _ => Settled files)
      (Settled files) := by
  have hrolled : Settled files (World.begin registry files).cleanUp :=
    settled_unchanged hnamed rfl rfl
  rw [completeWorkOrder, Handler.leaves_cleaning, Handler.leaves_bind, leaves_statement]
  split_ifs
  · exact hrolled
  · rw [Handler.leaves_bind, Handler.leaves_reads]
    cases r.logType with
    | error e => exact hrolled
    | ok logType =>
        simp only [Handler.leaves_bind, leaves_storeFile, leaves_statement, leaves_commit]
        cases hstored : storedFile r.file with
        | none =>
            simp only [CompleteWork.flush, leaves_statement]
            split_ifs
            all_goals exact hrolled
        | some stored =>
            obtain ⟨hnew, hpath⟩ := hfresh stored hstored
            have hfiles : (stored.relativePath :: files).filter (· ≠ stored.relativePath) = files :=
              filter_save hnew
            simp only [CompleteWork.flush, leaves_flush]
            split_ifs with hflush
            · exact settled_unchanged hnamed rfl hfiles
            · exact settled_unchanged hnamed rfl hfiles
            · exact settled_unchanged hnamed rfl hfiles
            · rw [not_or, Bool.not_eq_false] at hflush
              refine settled_flush hnamed hflush.2 rfl fun path => ?_
              rw [CompleteWork.storedPath_row hpath, eq_comm]
              exact List.mem_cons

/-! ## The requests -/

/-- However a request ends, the rows name files and the new files are named by rows, unless it is one
that goes wrong. The storage gives a file a path that is not in use. -/
theorem files_settled_iff (hnamed : ∀ path, registry.Holds path → path ∈ files)
    (r : FileRequest) (hfresh : ∀ stored, r.stored = some stored →
      stored.relativePath ∉ files ∧ isStored stored.relativePath = true) :
    Settled files (r.run failing (World.begin registry files)) ↔ ¬ r.Misses failing registry := by
  cases r with
  | createReport r => exact Handler.leaves_iff.symm.trans (settled_createReport hnamed hfresh)
  | updateReport r => exact Handler.leaves_iff.symm.trans (settled_updateReport hnamed hfresh)
  | upload env now r =>
      exact Handler.leaves_iff.symm.trans
        (settled_upload hnamed fun stored hstored => (hfresh stored hstored).1)
  | completeWork r =>
      exact iff_of_true (Handler.leaves_iff.1 (settled_completeWorkOrder hnamed hfresh)) id

namespace Sample

def plan : Stored := ⟨"project-reports/7/1/plan.pdf", "plan.pdf", "application/pdf", 3⟩

/-- A report with a file is created. -/
def reporting : CreateReport :=
  ⟨⟨1, 7, false, [], []⟩, "1", true, .ok fun _ => none, some "Site", some ⟨3, .ok plan⟩, 1, "",
    fun _ => 1, 0⟩

/-- The report of the project is given a file. -/
def amending : UpdateReport :=
  ⟨⟨1, 7, false, [], []⟩, "1", true, 1, .ok [], none, some ⟨3, .ok plan⟩, fun _ => 1, 0⟩

/-- A project with a report that has no file. -/
def reported : Registry := ⟨.single (file .projectReport [("project_id", "1")]), empty.catalog⟩

end Sample

theorem not_holds_empty (path : String) : ¬ Sample.empty.Holds path := by
  simp [Registry.Holds, Sample.empty]

theorem not_holds_reported (path : String) : ¬ Sample.reported.Holds path := by
  simp [Registry.Holds, Sample.reported, Sample.empty, Sample.file, SourceModel.slots, Slot.plain,
    SourceRow.storedPath]

/-- The commit of a new report fails: its file is deleted. -/
theorem files_settled_created :
    Settled [] ((FileRequest.createReport Sample.reporting).run (some .commit)
      (World.begin Sample.empty [])) ∧
    ((FileRequest.createReport Sample.reporting).run (some .commit)
      (World.begin Sample.empty [])).files = [] := by
  refine ⟨(files_settled_iff (fun path h => absurd h (not_holds_empty path)) _ ?_).2
    fun h => by simp [FileRequest.Misses, CreateReport.Misses] at h, by decide +kernel⟩
  intro stored hstored
  obtain rfl := Option.some.inj hstored
  exact ⟨List.not_mem_nil, by decide +kernel⟩

/-- The commit of an update fails: the file that was stored is left, and no row names it. -/
theorem files_not_settled : ¬ ∀ (failing : Option Point) (registry : Registry)
    (files : List String) (r : FileRequest), (∀ path, registry.Holds path → path ∈ files) →
    (∀ stored, r.stored = some stored →
      stored.relativePath ∉ files ∧ isStored stored.relativePath = true) →
    Settled files (r.run failing (World.begin registry files)) := by
  intro h
  have hsettled := h (some .commit) Sample.reported [] (.updateReport Sample.amending)
    (fun path hpath => absurd hpath (not_holds_reported path)) fun stored hstored => by
      obtain rfl := Option.some.inj hstored
      exact ⟨List.not_mem_nil, by decide +kernel⟩
  have hfiles : ((FileRequest.updateReport Sample.amending).run (some .commit)
      (World.begin Sample.reported [])).files = [Sample.plan.relativePath] := by decide +kernel
  exact not_holds_reported _ (hsettled.deleted _ (hfiles ▸ List.mem_cons_self) List.not_mem_nil)

end Cestos.Documents
