import Cestos.Documents.Indexing

/-!
# What a document that is ready was indexed from

An import that is replaced keeps its index, and a worker writes back what it has found of the file
that it has read, whatever the row has come to since. As long as no import that is ready is replaced,
and no worker writes back to a row that was changed under it, the text of a document that is ready is
that of its file.
-/

namespace Cestos.Documents

open Cestos.Core Cestos.Workbooks

variable {text : TextEnv} {env : IndexEnv} {c c' : Catalog} {d : LibraryDocument}

/-- The text, the chunks and the hash are those of the file at the path of the document. -/
def Computed (env : IndexEnv) (d : LibraryDocument) (columns : IndexColumns) : Prop :=
  ∃ fileName sections warning, env.extract d.storagePath fileName = .ok (sections, warning) ∧
    columns.extractedText = "\n".intercalate (sections.map (·.text)) ∧
    columns.chunks = sections.flatMap (chunksOf env) ∧
    d.contentHash = some (env.sha256 d.storagePath)

def Catalog.Computed (env : IndexEnv) (c : Catalog) : Prop :=
  ∀ d ∈ c.documents.rows, (c.index d.id).indexStatus = .ready → Documents.Computed env d (c.index d.id)

def IndexResult.isFailed : IndexResult → Bool
  | .failed _ => true
  | _ => false

/-- The row has the path that was read, and what the worker writes to has not changed since the row
was loaded. -/
def Loaded.Unchanged (c : Catalog) (loaded : Loaded) (path : String) : Prop :=
  ∀ d ∈ c.documents.find? loaded.document.id, d.storagePath = path ∧
    d.contentHash = loaded.document.contentHash ∧
    (c.index d.id).indexStatus = loaded.index.indexStatus ∧
    (c.index d.id).extractedText = loaded.index.extractedText ∧
    (c.index d.id).chunks = loaded.index.chunks

instance (c : Catalog) (loaded : Loaded) (path : String) : Decidable (loaded.Unchanged c path) :=
  inferInstanceAs (Decidable (∀ d ∈ c.documents.find? loaded.document.id, _))

/-- No import is replaced while it is ready, and a worker that has not failed writes back only while
the row is unchanged. -/
def Task.Orderly (env : IndexEnv) (c : Catalog) : Task → Prop
  | .replacing loaded _ => (c.index loaded.document.id).indexStatus ≠ .ready
  | .storing w path fileName loaded =>
    (w.result env path fileName).isFailed = false → loaded.Unchanged c path
  | _ => True

instance (env : IndexEnv) (c : Catalog) : DecidablePred (Task.Orderly env c) := fun t => by
  cases t <;> unfold Task.Orderly <;> infer_instance

/-! ## Catalogs -/

theorem Catalog.Computed.insert? (h : c.Computed env) (hinsert : c.insert? d = some c') :
    c'.Computed env := by
  obtain ⟨hrows, hindex⟩ := Catalog.insert?_rows hinsert
  intro e he hready
  rw [hindex] at hready ⊢
  rw [hrows] at he
  by_cases hid : e.id = d.id
  · rw [hid, Function.update_self] at hready
    cases hready
  · rw [Function.update_of_ne hid] at hready ⊢
    refine h e ((List.mem_append.1 he).resolve_right fun hin => hid ?_) hready
    rw [List.mem_singleton.1 hin]

theorem mem_update {p : LibraryDocument → Bool} {change : Change} {e : LibraryDocument}
    (h : e ∈ (c.update p change).documents.rows) :
    ∃ d ∈ c.documents.rows, e.id = d.id ∧ e = if p d then change.apply d else d := by
  obtain ⟨d, hd, rfl⟩ := List.mem_map.1 h
  refine ⟨d, hd, ?_, rfl⟩
  split
  · exact change.id_apply d
  · rfl

theorem Catalog.Computed.update (h : c.Computed env) {p : LibraryDocument → Bool} {change : Change}
    (hsame : ∀ d ∈ c.documents.rows, p d = true → (c.index d.id).indexStatus = .ready →
      (change.apply d).storagePath = d.storagePath ∧
        (change.apply d).contentHash = d.contentHash) : (c.update p change).Computed env := by
  intro e he hready
  obtain ⟨d, hd, hid, rfl⟩ := mem_update he
  rw [hid] at hready ⊢
  have hold := h d hd hready
  show Documents.Computed env _ (c.index d.id)
  split
  · next hp =>
    obtain ⟨hpath, hhash⟩ := hsame d hd hp hready
    unfold Documents.Computed
    rw [hpath, hhash]
    exact hold
  · exact hold

theorem Catalog.Computed.setIndex (h : c.Computed env) {id : Id} {columns : IndexColumns}
    (hcolumns : ∀ d ∈ c.documents.rows, d.id = id → columns.indexStatus = .ready →
      Documents.Computed env d columns) : (c.setIndex id columns).Computed env := by
  intro d hd hready
  show Documents.Computed env d (Function.update c.index id columns d.id)
  have hstatus : (Function.update c.index id columns d.id).indexStatus = .ready := hready
  by_cases hid : d.id = id
  · rw [hid, Function.update_self] at hstatus ⊢
    exact hcolumns d hd hid hstatus
  · rw [Function.update_of_ne hid] at hstatus ⊢
    exact h d hd hstatus

theorem Catalog.Computed.register (h : c.Computed env) {values : LibraryDocument}
    (hregister : c.register values = some c') : c'.Computed env := by
  unfold Catalog.register at hregister
  split at hregister
  · exact h.insert? hregister
  · next d hfound =>
    have hunique : ∀ e ∈ c.documents.rows, source e = source values → e = d := by
      intro e he hsource
      have hsame : c.bySource.find? (source values) = some e := Table.find?_eq_some.2 ⟨he, hsource⟩
      exact Option.some.inj (hsame.symm.trans hfound)
    obtain rfl := Option.some.inj hregister
    split
    · next hpath =>
      refine h.update fun e he hp _ => ?_
      rw [hunique e he (of_decide_eq_true hp)]
      exact ⟨hpath.symm, rfl⟩
    · intro e he hready
      obtain ⟨u, hu, hsame, rfl⟩ := mem_update he
      rw [hsame] at hready ⊢
      have hstatus : (Function.update c.index d.id (c.index d.id).reset u.id).indexStatus =
          .ready := hready
      show Documents.Computed env _ (Function.update c.index d.id (c.index d.id).reset u.id)
      by_cases hid : u.id = d.id
      · rw [hid, Function.update_self] at hstatus
        cases hstatus
      · rw [Function.update_of_ne hid] at hstatus ⊢
        have hother : ¬ source u = source values := fun hsource => hid (by rw [hunique u hu hsource])
        rw [if_neg (by simpa using hother)]
        exact h u hu hstatus

theorem Catalog.Computed.registerSources (h : c.Computed env) {f : Flush}
    (hflush : c.registerSources f = some c') : c'.Computed env := by
  refine Catalog.registerSources_inv (fun c values c' h hregister => h.register hregister) ?_ h hflush
  exact fun c row h => h.update fun _ _ _ _ => ⟨rfl, rfl⟩

theorem Catalog.Computed.save (h : c.Computed env) {loaded : Loaded} {change : Change}
    {index : IndexColumns → IndexColumns}
    (hrow : ∀ d, c.documents.find? loaded.document.id = some d →
      (flushIndex loaded.index (index loaded.index) (c.index d.id)).indexStatus = .ready →
        Documents.Computed env ((change.flush loaded.document).apply d)
          (flushIndex loaded.index (index loaded.index) (c.index d.id))) :
    (c.save loaded change index).Computed env := by
  intro e he hready
  obtain ⟨d, hd, hsame, rfl⟩ := mem_update he
  rw [hsame] at hready ⊢
  have hstatus : (Function.update c.index loaded.document.id (flushIndex loaded.index
      (index loaded.index) (c.index loaded.document.id)) d.id).indexStatus = .ready := hready
  show Documents.Computed env _ (Function.update c.index loaded.document.id _ d.id)
  by_cases hid : d.id = loaded.document.id
  · rw [if_pos (decide_eq_true hid)]
    rw [← hid, Function.update_self] at hstatus ⊢
    exact hrow d (Table.find?_eq_some.2 ⟨hd, hid⟩) hstatus
  · rw [Function.update_of_ne hid] at hstatus ⊢
    rw [if_neg (by simpa using hid)]
    exact h d hd hstatus

/-! ## Statements -/

/-- What is loaded and still there is written as it was assigned. -/
theorem flushed_eq {α : Type} [DecidableEq α] {loaded assigned current : α}
    (h : current = loaded) : flushed loaded assigned current = assigned := by
  unfold flushed
  split
  · next hsame => rw [h, hsame]
  · rfl

theorem eq_of_flushed {α : Type} [DecidableEq α] {loaded assigned current value : α}
    (h : flushed loaded assigned current = value) (hne : assigned ≠ value) : current = value := by
  unfold flushed at h
  split at h
  · exact h
  · exact absurd h hne

theorem result_eq_ready {w : Worker} {path fileName contentText vectorPath hash : String}
    {message : Option String} {chunks : List Chunk} {indexedAt : Instant}
    (h : w.result env path fileName = .ready message chunks contentText vectorPath hash indexedAt) :
    ∃ sections warning, env.extract path fileName = .ok (sections, warning) ∧
      contentText = "\n".intercalate (sections.map (·.text)) ∧
      chunks = sections.flatMap (chunksOf env) ∧ hash = env.sha256 path := by
  unfold Worker.result at h
  split at h
  · cases h
  · cases h
  · next sections warning _ hextract =>
    dsimp only at h
    split at h
    · cases h
    · cases h
      exact ⟨sections, _, hextract, rfl, rfl, rfl⟩

/-- What a worker writes back to a row that is unchanged is computed from its file. -/
theorem Catalog.Computed.store (h : c.Computed env) {w : Worker} {path fileName : String}
    {loaded : Loaded} (horderly : Task.Orderly env c (.storing w path fileName loaded)) :
    (c.save loaded (w.result env path fileName).change
      (w.result env path fileName).columns).Computed env := by
  refine h.save fun d hd hready => ?_
  cases hresult : w.result env path fileName with
  | failed message =>
      rw [hresult] at hready
      -- the status is written, unless it was loaded as it is; nothing else that counts is
      have hold : (c.index d.id).indexStatus = .ready := eq_of_flushed hready fun hother => by cases hother
      obtain ⟨name, sections, warning, hextract, htext, hchunks, hhash⟩ :=
        h d (Table.mem_of_find? hd) hold
      refine ⟨name, sections, warning, ?_, ?_, ?_, ?_⟩
      · simpa [Change.flush, IndexResult.change] using hextract
      · simpa [flushIndex, IndexResult.columns] using htext
      · simpa [flushIndex, IndexResult.columns] using hchunks
      · simpa [Change.flush, IndexResult.change, IndexResult.contentHash] using hhash
  | unsupported message =>
      rw [hresult] at hready
      obtain ⟨-, -, hstatus, -, -⟩ := horderly (by rw [hresult]; rfl) d hd
      cases (flushed_eq hstatus).symm.trans hready
  | ready message chunks contentText vectorPath hash indexedAt =>
      obtain ⟨hpath, hhash, -, htext, hchunks⟩ := horderly (by rw [hresult]; rfl) d hd
      obtain ⟨sections, warning, hextract, rfl, rfl, rfl⟩ := result_eq_ready hresult
      refine ⟨fileName, sections, warning, ?_, ?_, ?_, ?_⟩
      · simpa [Change.flush, IndexResult.change, hpath] using hextract
      · exact flushed_eq htext
      · exact flushed_eq hchunks
      · show flushed _ (some (env.sha256 path)) d.contentHash =
          some (env.sha256 (flushed _ _ d.storagePath))
        rw [flushed_eq hhash]
        simp [IndexResult.change, hpath]

theorem Catalog.Computed.step (h : c.Computed env) {t : Task} (horderly : t.Orderly env c) :
    (t.step text env c).1.Computed env := by
  cases t with
  | upload r now =>
      unfold Task.step
      dsimp only
      split <;> exact h
  | inserting d =>
      unfold Task.step
      dsimp only
      cases hinsert : c.insert? d with
      | none => exact h
      | some c' => exact h.insert? hinsert
  | replacing loaded change =>
      refine Catalog.Computed.save h fun d hd hready => ?_
      have hid : d.id = loaded.document.id := Table.key_of_find? hd
      rw [hid] at hready
      exact absurd hready (by simpa [flushIndex, Task.Orderly] using horderly)
  | flush f =>
      unfold Task.step
      dsimp only
      cases hregister : c.registerSources f with
      | none => exact h
      | some c' => exact h.registerSources hregister
  | reindex actor identifier =>
      unfold Task.step
      dsimp only
      split
      · split <;> exact h
      · exact h
  | repeating loaded =>
      refine Catalog.Computed.save h fun d hd hready => ?_
      -- pending, unless that is what was loaded
      have hold : (c.index d.id).indexStatus = .ready := eq_of_flushed hready fun hother => by cases hother
      obtain ⟨name, sections, warning, hextract, htext, hchunks, hhash⟩ :=
        h d (Table.mem_of_find? hd) hold
      refine ⟨name, sections, warning, ?_, ?_, ?_, ?_⟩
      · simpa [Change.flush, Change.none] using hextract
      · simpa [flushIndex, IndexColumns.requeue] using htext
      · simpa [flushIndex, IndexColumns.requeue] using hchunks
      · simpa [Change.flush, Change.none] using hhash
  | index w =>
      unfold Task.step
      dsimp only
      cases hclaim : c.claim w with
      | none => exact h
      | some claimed =>
          obtain ⟨c', d⟩ := claimed
          simp only [Catalog.claim, Option.bind_eq_bind, Option.bind_eq_some_iff,
            Option.ite_none_right_eq_some, Option.some.injEq, Prod.mk.injEq] at hclaim
          obtain ⟨d', -, -, rfl, rfl⟩ := hclaim
          refine h.setIndex fun e he hid hready => ?_
          cases hready
  | extracting w id path fileName => exact h
  | storing w path fileName loaded => exact h.store horderly

/-- Whatever runs beside it, a document that is ready has the text of its file, as long as all is
orderly. -/
theorem ready_computed {s : Sessions Catalog Task}
    (h : Sessions.Interleaved (fun t => t.isRequest = true) (serving text env)
      (fun _ c t => t.Orderly env c) (Catalog.Computed env) s) :
    ∀ d ∈ s.db.documents.rows, (s.db.index d.id).indexStatus = .ready →
      Computed env d (s.db.index d.id) := by
  obtain ⟨c, hc, hsteps⟩ := h
  refine (Sessions.steps_rel (P := fun _ _ => True) (fun _ => trivial) (fun _ _ => trivial) ?_ hc
    hsteps).1
  intro others c t c' next hc horderly hstep
  obtain rfl : (t.step text env c).1 = c' := congrArg Prod.fst (Option.some.inj hstep)
  exact ⟨hc.step horderly, trivial⟩

namespace Sample

def nothing : Catalog := ⟨.empty, fun _ => .default, List.nodup_nil⟩

theorem nothing_computed : nothing.Computed paths := nofun

def planner : Actor := ⟨1, 7, false, [], []⟩

/-- The document 5 of a file at a path, linked to a job card or not. -/
def upload (sourceType : Option String) (path : String) : Task :=
  .upload ⟨planner, some "card.csv", "Card", "", "", sourceType, sourceType.map fun _ => 3, false,
    true, 10, path, .ok ⟨path, "card.csv", "text/csv", 10⟩, 5⟩ 0

def worker : Task := .index ⟨5, none, "vectors", 60⟩

/-- A purchase order with a file at the path. -/
def attach (path : String) : Task :=
  .flush ⟨none, [{
    model := .purchaseOrder
    organizationId := 7
    id := 1
    isActive := true
    texts := fun name => if name = "attachment_path" then some path else none
    sizes := fun _ => none
    users := fun _ => none
    employeeId := none }], [], fun _ => 5, 0, List.nodup_singleton _⟩

def outcome (s : Sessions Catalog Task) : List (String × String × String × IndexStatus) :=
  s.db.documents.rows.map fun d => (d.sourceType, d.storagePath,
    (s.db.index d.id).extractedText, (s.db.index d.id).indexStatus)

end Sample

/-- An import is replaced before it is indexed. -/
theorem ready_computed_import : ∃ s : Sessions Catalog Task,
    Sample.outcome s = [("pm_job_card_import", "b.csv", "b.csv", .ready)] ∧
      ∀ d ∈ s.db.documents.rows, (s.db.index d.id).indexStatus = .ready →
        Computed Sample.paths d (s.db.index d.id) := by
  obtain ⟨s, hs, houtcome⟩ := Sessions.Interleaved.of_play (fun t => t.isRequest = true)
    (serving Sample.plain Sample.paths) (fun _ c t => t.Orderly Sample.paths c)
    (Catalog.Computed Sample.paths) Sample.nothing
    [.begins (Sample.upload (some "pm_job_card_import") "a.csv"), .acts 0, .acts 0,
      .begins (Sample.upload (some "pm_job_card_import") "b.csv"), .acts 0, .acts 0,
      .begins Sample.worker, .acts 0, .acts 0, .acts 0]
    (p := fun s => Sample.outcome s = [("pm_job_card_import", "b.csv", "b.csv", .ready)]) Sample.nothing_computed
    (by decide +kernel)
  exact ⟨s, of_decide_eq_true houtcome, ready_computed hs⟩

/-- What some interleaving leads to, orderly or not. -/
abbrev Sample.Reached : Sessions Catalog Task → Prop :=
  Sessions.Interleaved (fun t => t.isRequest = true) (serving Sample.plain Sample.paths)
    (fun _ _ _ => True) (Catalog.Computed Sample.paths)

theorem exists_not_computed {sourceType : String} (moves : List (Sessions.Move Task))
    (h : (Sessions.play (fun t => t.isRequest = true) (serving Sample.plain Sample.paths)
      (fun _ _ _ => True) ⟨Sample.nothing, []⟩ moves).any (fun s =>
        Sample.outcome s = [(sourceType, "b.csv", "a.csv", .ready)]) = true) :
    ∃ s, Sample.Reached s ∧ ∃ d ∈ s.db.documents.rows, d.sourceType = sourceType ∧
      (s.db.index d.id).indexStatus = .ready ∧ ¬ Computed Sample.paths d (s.db.index d.id) := by
  obtain ⟨s, hs, houtcome⟩ := Sessions.Interleaved.of_play _ _ _ (Catalog.Computed Sample.paths)
    Sample.nothing moves Sample.nothing_computed h
  obtain ⟨d, rest, hrows, hd, -⟩ := List.map_eq_cons_iff.1 (of_decide_eq_true houtcome)
  simp only [Prod.mk.injEq] at hd
  obtain ⟨hsource, hpath, htext, hready⟩ := hd
  refine ⟨s, hs, d, hrows ▸ List.mem_cons_self, hsource, hready, ?_⟩
  rintro ⟨name, sections, warning, hextract, hcomputed, -⟩
  rw [hpath] at hextract
  cases hextract
  rw [htext] at hcomputed
  exact absurd hcomputed (by decide)

/-- An import is replaced once it is ready, and keeps the text of the file before. A purchase order
gets another file while the worker reads the first, and the worker makes it ready with that. -/
theorem ready_not_computed :
    (∃ s, Sample.Reached s ∧ ∃ d ∈ s.db.documents.rows, d.sourceType = "pm_job_card_import" ∧
      (s.db.index d.id).indexStatus = .ready ∧ ¬ Computed Sample.paths d (s.db.index d.id)) ∧
    ∃ s, Sample.Reached s ∧ ∃ d ∈ s.db.documents.rows, d.sourceType = "purchase_orders" ∧
      (s.db.index d.id).indexStatus = .ready ∧ ¬ Computed Sample.paths d (s.db.index d.id) := by
  constructor
  · exact exists_not_computed [.begins (Sample.upload (some "pm_job_card_import") "a.csv"), .acts 0,
      .acts 0, .begins Sample.worker, .acts 0, .acts 0, .acts 0,
      .begins (Sample.upload (some "pm_job_card_import") "b.csv"), .acts 0, .acts 0]
      (by decide +kernel)
  · exact exists_not_computed [.begins (Sample.attach "a.csv"), .acts 0, .begins Sample.worker,
      .acts 0, .begins (Sample.attach "b.csv"), .acts 1, .acts 0, .acts 0] (by decide +kernel)

end Cestos.Documents
