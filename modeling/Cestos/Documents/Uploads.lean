import Cestos.Documents.Catalog

/-!
# Uploads and edits

What an upload or an edit writes: a new document, or changes of one that is there. An upload that is
an import of a record takes the place of an earlier one, whoever has made that and whoever may see
it; an edit is made of a document that the actor sees and may change.
-/

namespace Cestos.Documents

open Cestos.Core Cestos.Workbooks

/-- The text functions of Python. -/
structure TextEnv where
  strip : String → String
  lower : String → String

/-- A row that a request writes. -/
inductive Write
  | inserts (d : LibraryDocument)
  | changes (d : LibraryDocument) (change : Change)

/-! ## What is checked of the fields -/

/-- The fields that are given. -/
structure DocumentEdit where
  title : Option String
  category : Option String
  tags : Option (List String)
  visibility : Option Visibility

/-- The fields that are given, with what the validators return. -/
structure CleanEdit where
  title : Option String
  category : Option String
  tags : Option (List Tag)
  visibility : Option Visibility

def tagOf (text : String) : Tag :=
  match text.toList with
  | 'w' :: 'b' :: '-' :: id => .workbook (String.ofList id)
  | _ => .other text

def nonblank (env : TextEnv) (maximum : Nat) (value : String) : Option String :=
  if 1 ≤ value.length ∧ value.length ≤ maximum ∧ env.strip value ≠ "" then some (env.strip value)
  else none

def cleanTags (env : TextEnv) (tags : List String) : Option (List Tag) :=
  let cleaned := ((tags.filter fun t => env.strip t ≠ "").map fun t =>
    env.lower (env.strip t)).eraseDups
  if tags.length ≤ 20 ∧ ∀ t ∈ cleaned, t.length ≤ 40 then some (cleaned.map tagOf) else none

def DocumentEdit.clean (env : TextEnv) (edit : DocumentEdit) : Option CleanEdit := do
  let title ← edit.title.mapM (nonblank env 250)
  let category ← edit.category.mapM (nonblank env 60)
  let tags ← edit.tags.mapM (cleanTags env)
  some ⟨title, category, tags, edit.visibility⟩

/-! ## Uploads -/

/-- A call of `upload`. -/
structure Upload where
  actor : Actor
  fileName : Option String
  title : String
  category : String
  tags : String
  sourceType : Option String
  sourceId : Option Id
  isPublic : Bool
  /-- Whether the record that the document is linked to is found. -/
  linked : Bool
  sizeBytes : Nat
  /-- The SHA-256 of the contents. -/
  mediaHash : String
  /-- What the storage returns, or says of the file. -/
  stored : Except String Stored
  identifier : Id

def Upload.metadata (env : TextEnv) (r : Upload) : Except AppError CleanEdit :=
  let title := env.strip r.title
  let category := env.strip r.category
  orError (DocumentEdit.clean env {
    title := some (if title ≠ "" then title else
      String.ofList (((r.fileName.filter (· ≠ "")).getD "Untitled document").toList.take 250))
    category := some (if category ≠ "" then category else "General")
    tags := some ((r.tags.toList.splitOn ',').map String.ofList)
    visibility := none })
    (.validation "Check the title, category and tags (up to 20 tags, 40 characters each)")

def linkedTypes : List String := ["pm_job_card", "breakdown_job_card", "maintenance_assessment",
  "hse_incident", "employee_timesheet_import", "pm_job_card_import", "breakdown_job_card_import",
  "maintenance_assessment_import", "action_tracker_import", "pm_tracker_import",
  "equipment_register_import"]

/-- The type and the identifier of the record that the document is linked to. -/
def Upload.link (r : Upload) : Except AppError (Option (String × Id)) :=
  match r.sourceType.filter (· ≠ ""), r.sourceId with
  | none, none => .ok none
  | some sourceType, some sourceId => do
    ensure (sourceType ∈ linkedTypes) (.validation "Unsupported linked document type")
    ensure (r.linked = true) (.notFound "Linked maintenance record not found")
    .ok (some (sourceType, sourceId))
  | _, _ => .error (.validation "Both source type and source ID are required to link a document")

def isMediaKey : Tag → Bool
  | .other text => "wm-".toList.isPrefixOf text.toList
  | .workbook _ => false

def CleanEdit.isMedia (m : CleanEdit) : Bool := m.category = some "Workbook Media"

/-- The document of media that was uploaded before. -/
def Upload.previousMedia (documents : List LibraryDocument) (r : Upload) (m : CleanEdit) :
    Except AppError (Option LibraryDocument) :=
  if m.isMedia then do
    let keys := (m.tags.getD []).filter isMediaKey
    ensure (keys.length = 1 ∧ r.sizeBytes ≤ 8 * 1024 * 1024)
      (.validation "Workbook media requires one file identifier and a file up to 8 MB")
    match documents.find? fun d => d.organizationId = r.actor.organizationId ∧
        d.ownerId = some r.actor.id ∧ d.category = "Workbook Media" ∧ (∀ key ∈ keys, key ∈ d.tags) ∧
        d.isActive = true with
    | none => .ok none
    | some previous => do
      ensure (previous.contentHash = some r.mediaHash)
        (.validation "This media identifier already belongs to another file")
      .ok (some previous)
  else .ok none

def isImport (sourceType : String) : Bool := "_import".toList.isSuffixOf sourceType.toList

/-- Whether the document is the import that an upload takes the place of. -/
def IsImportOf (organizationId : Id) (link : String × Id) (fileName : String)
    (d : LibraryDocument) : Prop :=
  isImport link.1 = true ∧ d.organizationId = organizationId ∧ d.sourceType = link.1 ∧
    d.sourceId = link.2 ∧ (link.1 = "employee_timesheet_import" ∨ d.fileName = fileName)

instance (organizationId : Id) (link : String × Id) (fileName : String) :
    DecidablePred (IsImportOf organizationId link fileName) :=
  fun _ => inferInstanceAs (Decidable (_ ∧ _ ∧ _ ∧ _ ∧ (_ ∨ _)))

def Upload.existingImport (documents : List LibraryDocument) (r : Upload)
    (link : Option (String × Id)) (fileName : String) : Option LibraryDocument :=
  link.bind fun link =>
    documents.find? fun d => IsImportOf r.actor.organizationId link fileName d

/-- The columns that an upload writes. -/
def Upload.assign (r : Upload) (m : CleanEdit) (link : Option (String × Id)) (stored : Stored) :
    Change where
  apply d := { d with
    contentHash := if m.isMedia then some r.mediaHash else d.contentHash
    title := m.title.getD d.title
    category := m.category.getD d.category
    tags := m.tags.getD d.tags
    storagePath := stored.relativePath
    fileName := stored.fileName
    mimeType := stored.mimeType
    sizeBytes := stored.sizeBytes
    ownerId := some r.actor.id
    visibility := if link.isSome || r.isPublic then .isPublic else .isPrivate }
  id_apply _ := rfl
  source_apply _ := rfl

/-- A document with the columns of a new one and the defaults. -/
def Upload.document (r : Upload) (link : Option (String × Id)) (now : Instant) :
    LibraryDocument where
  id := r.identifier
  organizationId := r.actor.organizationId
  sourceType := (link.map (·.1)).getD "library"
  sourceId := (link.map (·.2)).getD r.identifier
  ownerId := some r.actor.id
  employeeId := none
  title := ""
  category := "General"
  tags := []
  storagePath := ""
  fileName := ""
  mimeType := "application/octet-stream"
  sizeBytes := 0
  visibility := .isPrivate
  privateToId := none
  isActive := true
  contentHash := none
  createdAt := now

/-- What an upload was accepted with: the fields, the record and the stored file. -/
structure Accepted where
  metadata : CleanEdit
  link : Option (String × Id)
  stored : Stored

/-- The checks of an upload; nothing is left to write for media that is there. -/
def Upload.check (env : TextEnv) (documents : List LibraryDocument) (r : Upload) :
    Except AppError (Option Accepted) := do
  let m ← r.metadata env
  let link ← r.link
  ensure (r.sizeBytes ≠ 0) (.validation "Choose a non-empty file")
  match ← r.previousMedia documents m with
  | some _ => .ok none
  | none =>
    let stored ← r.stored.mapError .validation
    .ok (some ⟨m, link, stored⟩)

/-- The row that an upload writes. -/
def Upload.write (documents : List LibraryDocument) (now : Instant) (r : Upload) (a : Accepted) :
    Write :=
  let change := r.assign a.metadata a.link a.stored
  match r.existingImport documents a.link a.stored.fileName with
  | some d => .changes d change
  | none => .inserts (change.apply (r.document a.link now))

/-! ## Edits -/

/-- A call of `edit`. -/
structure Edit where
  actor : Actor
  identifier : Id
  body : DocumentEdit

/-- `get_document`. -/
def getDocument (documents : List LibraryDocument) (actor : Actor) (identifier : Id) :
    Except AppError LibraryDocument :=
  orError (documents.find? fun d => d.id = identifier ∧ actor.sees d)
    (.notFound "Document not found")

/-- The columns that an edit writes. -/
def CleanEdit.assign (body : CleanEdit) (actor : Actor) : Change where
  apply d := { d with
    privateToId := match body.visibility with
      | none => d.privateToId
      | some .superPrivate => some actor.id
      | some _ => none
    title := body.title.getD d.title
    category := body.category.getD d.category
    tags := body.tags.getD d.tags
    visibility := body.visibility.getD d.visibility }
  id_apply _ := rfl
  source_apply _ := rfl

def Edit.write (documents : List LibraryDocument) (r : Edit) (body : CleanEdit) :
    Except AppError Write := do
  let row ← getDocument documents r.actor r.identifier
  manage row r.actor
  ensure (body.visibility ≠ some .superPrivate ∨ r.actor.isDocumentAdmin = true)
    (.forbidden "Only document administrators can mark a file Super Private")
  .ok (.changes row (body.assign r.actor))

/-! ## Writing -/

/-- The row that an upload writes, if it is accepted. -/
def Upload.written (env : TextEnv) (documents : List LibraryDocument) (now : Instant) (r : Upload) :
    Option Write :=
  match r.check env documents with
  | .ok (some a) => some (r.write documents now a)
  | _ => none

/-- The row that an edit writes, if its body is valid and it is accepted. -/
def Edit.written (env : TextEnv) (documents : List LibraryDocument) (r : Edit) : Option Write := do
  let body ← r.body.clean env
  (r.write documents body).toOption

/-- An insert fails if the identifier or the source is taken. -/
def Catalog.write (c : Catalog) : Write → Option Catalog
  | .inserts d => c.insert? d
  | .changes d change => some (c.update (fun e => e.id = d.id) change)

theorem Edit.written_spec {env : TextEnv} {documents : List LibraryDocument} {r : Edit} {w : Write}
    (h : r.written env documents = some w) :
    ∃ body : CleanEdit, ∃ row ∈ documents, row.id = r.identifier ∧ r.actor.sees row ∧
      w = .changes row (body.assign r.actor) := by
  simp only [Edit.written, Option.bind_eq_bind, Option.bind_eq_some_iff] at h
  obtain ⟨body, -, h⟩ := h
  cases hok : r.write documents body with
  | error e => rw [hok] at h; cases h
  | ok w' =>
      rw [hok] at h
      obtain rfl := Option.some.inj h
      simp only [Edit.write, getDocument, bind_eq_ok, orError_eq_ok] at hok
      obtain ⟨row, hrow, -, -, -, -, hchanges⟩ := hok
      have hfound := List.find?_some hrow
      simp only [decide_eq_true_eq] at hfound
      exact ⟨body, row, List.mem_of_find?_eq_some hrow, hfound.1, hfound.2,
        (Except.ok.inj hchanges).symm⟩

/-- An upload takes the place of an import that is there, or adds a document. -/
theorem Upload.written_spec {env : TextEnv} {documents : List LibraryDocument} {now : Instant}
    {r : Upload} {w : Write} (h : r.written env documents now = some w) :
    ∃ a : Accepted, r.check env documents = .ok (some a) ∧
      ((∃ d, r.existingImport documents a.link a.stored.fileName = some d ∧
          w = .changes d (r.assign a.metadata a.link a.stored)) ∨
        w = .inserts ((r.assign a.metadata a.link a.stored).apply (r.document a.link now))) := by
  unfold Upload.written at h
  split at h
  · next a hcheck =>
    refine ⟨a, hcheck, ?_⟩
    rw [← Option.some.inj h]
    unfold Upload.write
    dsimp only
    split
    · next d hd => exact .inl ⟨d, hd, rfl⟩
    · exact .inr rfl
  · cases h

/-- What an import takes the place of is an import in the same organization. -/
theorem Upload.existingImport_spec {documents : List LibraryDocument} {r : Upload}
    {link : Option (String × Id)} {fileName : String} {d : LibraryDocument}
    (h : r.existingImport documents link fileName = some d) :
    d ∈ documents ∧ isImport d.sourceType = true := by
  unfold Upload.existingImport at h
  obtain ⟨link, -, h⟩ := Option.bind_eq_some_iff.1 h
  have hfound := List.find?_some h
  simp only [decide_eq_true_eq] at hfound
  obtain ⟨himport, -, hsame, -⟩ := hfound
  exact ⟨List.mem_of_find?_eq_some h, hsame ▸ himport⟩

namespace Sample

def plain : TextEnv := ⟨id, id⟩

end Sample

end Cestos.Documents
