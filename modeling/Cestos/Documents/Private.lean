import Cestos.Documents.Indexing

/-!
# Documents that are private to one user

Who may not see a document cannot edit it, and neither flushes nor the index change who sees it.
But an import is found by its record alone, and the upload that takes its place makes it public.
-/

namespace Cestos.Documents

open Cestos.Core Cestos.Workbooks

variable {text : TextEnv} {env : IndexEnv} {c c' : Catalog} {d : LibraryDocument} {id userId : Id}

/-! ## Requests -/

inductive Request
  | upload (r : Upload) (now : Instant)
  | edit (r : Edit)
  | flush (f : Flush)
  | index (w : Worker)

/-- Who makes the request; the worker is nobody. -/
def Request.actorId : Request → Option Id
  | .upload r _ => some r.actor.id
  | .edit r => some r.actor.id
  | .flush f => f.actorId
  | .index _ => none

/-- `index_one`, with nothing beside it. -/
def Catalog.indexOne (env : IndexEnv) (c : Catalog) (w : Worker) : Catalog :=
  match c.claim w with
  | none => c
  | some (claimed, d) =>
    match claimed.load d.id with
    | none => claimed
    | some loaded =>
      let result := w.result env d.storagePath d.fileName
      claimed.save loaded result.change result.columns

/-- A request that is refused leaves everything as it is. -/
def Catalog.serve (text : TextEnv) (env : IndexEnv) (c : Catalog) : Request → Catalog
  | .upload r now => ((r.written text c.documents.rows now).bind c.write).getD c
  | .edit r => ((r.written text c.documents.rows).bind c.write).getD c
  | .flush f => (c.registerSources f).getD c
  | .index w => c.indexOne env w

/-- The document that an upload takes the place of, if it is accepted. -/
def Upload.replaced (text : TextEnv) (documents : List LibraryDocument) (r : Upload) :
    Option LibraryDocument :=
  match r.check text documents with
  | .ok (some a) => r.existingImport documents a.link a.stored.fileName
  | _ => none

def Request.Replaces (text : TextEnv) (c : Catalog) (id : Id) : Request → Prop
  | .upload r _ => ∃ d ∈ r.replaced text c.documents.rows, d.id = id
  | _ => False

instance (text : TextEnv) (c : Catalog) (id : Id) : DecidablePred (Request.Replaces text c id) :=
  fun r => by cases r <;> unfold Request.Replaces <;> infer_instance

/-- Requests of others, none of which takes the place of the document. -/
def Catalog.Sparing (text : TextEnv) (env : IndexEnv) (id userId : Id) :
    Catalog → List Request → Prop
  | _, [] => True
  | c, r :: rest => r.actorId ≠ some userId ∧ ¬ r.Replaces text c id ∧
      (c.serve text env r).Sparing text env id userId rest

/-! ## Who sees a document -/

/-- The document is private to the user. -/
def Catalog.PrivateTo (id userId : Id) (c : Catalog) : Prop :=
  ∃ d, c.documents.find? id = some d ∧ d.visibility = .superPrivate ∧ d.privateToId = some userId

theorem not_sees {actor : Actor} (hvisibility : d.visibility = .superPrivate)
    (hholder : d.privateToId = some userId) (hactor : actor.id ≠ userId) : ¬ actor.sees d := by
  rintro ⟨-, -, ⟨-, hprivate⟩ | ⟨hpublic, -⟩⟩
  · exact hactor (Option.some.inj (hprivate.symm.trans hholder))
  · exact hpublic hvisibility

theorem Catalog.PrivateTo.update (h : c.PrivateTo id userId) {p : LibraryDocument → Bool}
    {change : Change} (hsame : ∀ d, c.documents.find? id = some d → p d = true →
      (change.apply d).visibility = d.visibility ∧
        (change.apply d).privateToId = d.privateToId) : (c.update p change).PrivateTo id userId := by
  obtain ⟨d, hd, hvisibility, hholder⟩ := h
  refine ⟨if p d then change.apply d else d, ?_, ?_⟩
  · rw [Catalog.find?_update_id, hd]
    rfl
  · split
    · next hp =>
      obtain ⟨hsameVisibility, hsameHolder⟩ := hsame d hd hp
      exact ⟨hsameVisibility.trans hvisibility, hsameHolder.trans hholder⟩
    · exact ⟨hvisibility, hholder⟩

theorem Catalog.PrivateTo.insert? (h : c.PrivateTo id userId) (hinsert : c.insert? d = some c') :
    c'.PrivateTo id userId := by
  obtain ⟨e, he, hprivate⟩ := h
  have hrows := (Catalog.insert?_rows hinsert).1
  refine ⟨e, Table.find?_eq_some.2 ⟨?_, Table.key_of_find? he⟩, hprivate⟩
  rw [hrows]
  exact List.mem_append_left _ (Table.mem_of_find? he)

theorem Catalog.PrivateTo.setIndex (h : c.PrivateTo id userId) (other : Id)
    (columns : IndexColumns) : (c.setIndex other columns).PrivateTo id userId := h

theorem Catalog.PrivateTo.register (h : c.PrivateTo id userId) {values : LibraryDocument}
    (hregister : c.register values = some c') : c'.PrivateTo id userId := by
  unfold Catalog.register at hregister
  split at hregister
  · exact h.insert? hregister
  · obtain rfl := Option.some.inj hregister
    have hupdate : (c.update (fun d => source d = source values) (refresh values)).PrivateTo id
        userId := h.update fun _ _ _ => ⟨rfl, rfl⟩
    split
    · exact hupdate
    · exact hupdate.setIndex _ _

theorem Catalog.PrivateTo.registerSources (h : c.PrivateTo id userId) {f : Flush}
    (hflush : c.registerSources f = some c') : c'.PrivateTo id userId := by
  refine Catalog.registerSources_inv (fun c values c' h hregister => h.register hregister) ?_ h hflush
  exact fun c row h => h.update fun _ _ _ => ⟨rfl, rfl⟩

theorem Catalog.PrivateTo.save (h : c.PrivateTo id userId) (loaded : Loaded) {change : Change}
    (index : IndexColumns → IndexColumns) (hsame : ∀ d, (change.apply d).visibility = d.visibility ∧
      (change.apply d).privateToId = d.privateToId) :
    (c.save loaded change index).PrivateTo id userId := by
  refine (h.update fun d _ _ => ?_).setIndex _ _
  obtain ⟨hvisibility, hholder⟩ := hsame loaded.document
  show flushed _ _ _ = _ ∧ flushed _ _ _ = _
  rw [hvisibility, hholder]
  exact ⟨flushed_self _ _, flushed_self _ _⟩

theorem Catalog.PrivateTo.indexOne (h : c.PrivateTo id userId) (w : Worker) :
    (c.indexOne env w).PrivateTo id userId := by
  unfold Catalog.indexOne
  cases hclaim : c.claim w with
  | none => exact h
  | some claimed =>
      obtain ⟨c', d⟩ := claimed
      simp only [Catalog.claim, Option.bind_eq_bind, Option.bind_eq_some_iff,
        Option.ite_none_right_eq_some, Option.some.injEq, Prod.mk.injEq] at hclaim
      obtain ⟨d', -, -, rfl, rfl⟩ := hclaim
      dsimp only
      split
      · exact h
      · next loaded _ =>
        exact (h.setIndex _ _).save loaded _ fun _ => ⟨rfl, rfl⟩

theorem Catalog.PrivateTo.edit (h : c.PrivateTo id userId) {r : Edit} {w : Write}
    (hactor : r.actor.id ≠ userId) (hw : r.written text c.documents.rows = some w)
    (hwrite : c.write w = some c') : c'.PrivateTo id userId := by
  obtain ⟨body, row, hrow, -, hsees, rfl⟩ := Edit.written_spec hw
  obtain rfl := Option.some.inj hwrite
  refine h.update fun d hd hp => ?_
  obtain ⟨e, he, hvisibility, hholder⟩ := h
  obtain rfl := Option.some.inj (hd.symm.trans he)
  -- the row that is edited is seen, so it is another one
  have hsame : row = d := c.documents.key_injective hrow (Table.mem_of_find? hd)
    (of_decide_eq_true hp).symm
  exact absurd (hsame ▸ hsees) (not_sees hvisibility hholder hactor)

theorem Catalog.PrivateTo.upload (h : c.PrivateTo id userId) {r : Upload} {now : Instant} {w : Write}
    (hspares : ∀ d ∈ r.replaced text c.documents.rows, d.id ≠ id)
    (hw : r.written text c.documents.rows now = some w) (hwrite : c.write w = some c') :
    c'.PrivateTo id userId := by
  obtain ⟨a, hcheck, ⟨row, hrow, rfl⟩ | rfl⟩ := Upload.written_spec hw
  · obtain rfl := Option.some.inj hwrite
    refine h.update fun d hd hp => ?_
    have hid : row.id = id := (of_decide_eq_true hp).symm.trans (Table.key_of_find? hd)
    refine absurd hid (hspares row ?_)
    unfold Upload.replaced
    simp only [hcheck]
    exact hrow
  · exact h.insert? hwrite

/-- A request of somebody else that takes the place of another document. -/
theorem Catalog.PrivateTo.serve (h : c.PrivateTo id userId) {r : Request}
    (hactor : r.actorId ≠ some userId) (hspares : ¬ r.Replaces text c id) :
    (c.serve text env r).PrivateTo id userId := by
  cases r with
  | upload r now =>
      exact getD_bind (P := Catalog.PrivateTo id userId) h fun w hw c' hwrite =>
        h.upload (fun d hd hid => hspares ⟨d, hd, hid⟩) hw hwrite
  | edit r =>
      exact getD_bind (P := Catalog.PrivateTo id userId) h fun w hw c' hwrite =>
        h.edit (fun heq => hactor (congrArg some heq)) hw hwrite
  | flush f =>
      show ((c.registerSources f).getD c).PrivateTo id userId
      cases hflush : c.registerSources f with
      | none => exact h
      | some c' => exact h.registerSources hflush
  | index w => exact h.indexOne w

namespace Sample

/-- An import that is private to the user 1. -/
def secret : LibraryDocument where
  id := 5
  organizationId := 7
  sourceType := "pm_job_card_import"
  sourceId := 3
  ownerId := some 1
  employeeId := none
  title := "Card"
  category := "General"
  tags := []
  storagePath := "a.csv"
  fileName := "card.csv"
  mimeType := "text/csv"
  sizeBytes := 10
  visibility := .superPrivate
  privateToId := some 1
  isActive := true
  contentHash := none
  createdAt := 0

def secrets : Catalog :=
  ⟨⟨[secret], List.nodup_singleton _⟩, fun _ => .default, List.nodup_singleton _⟩

theorem secrets_private : secrets.PrivateTo 5 1 := ⟨secret, rfl, rfl, rfl⟩

def administrator : Actor := ⟨2, 7, true, [], []⟩

/-- Another upload of the job card, with a file name. -/
def cardImport (fileName : String) : Request :=
  .upload ⟨administrator, some fileName, "Mine", "", "", some "pm_job_card_import", some 3, false,
    true, 10, "", .ok ⟨"b.csv", fileName, "text/csv", 10⟩, 6⟩ 1

/-- The administrator wants everybody to see the document. -/
def publish : Request := .edit ⟨administrator, 5, ⟨none, none, none, some .isPublic⟩⟩

def indexing : Request := .index ⟨5, none, "vectors", 60⟩

end Sample

end Cestos.Documents
