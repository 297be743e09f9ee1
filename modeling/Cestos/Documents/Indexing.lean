import Cestos.Documents.Catalog
import Cestos.Documents.Uploads

/-!
# Background indexing

A worker takes a document that is pending, extracts the text of its file outside of any
transaction, and writes the result back in another one. Meanwhile imports are replaced, rows are
flushed and documents are to be indexed again. A file at a path stays as it is; a session writes
the columns that differ from those it has loaded.
-/

namespace Cestos.Documents

open Cestos.Core Cestos.Workbooks

/-! ## What is extracted -/

inductive IndexError
  | timeout
  | damagedPdf
  | value (message : String)
  | other

/-- What the libraries make of the file at a path with a file name, `str.split`, the SHA-256 of the
file at a path, and the time that is allowed. -/
structure IndexEnv where
  extract : String → String → Except IndexError (List Chunk × Option String)
  words : String → List String
  sha256 : String → String
  timeoutSeconds : String

def IndexError.message (env : IndexEnv) : IndexError → String
  | .timeout => "Text indexing timed out after " ++ env.timeoutSeconds ++
      " seconds. Check file size or model availability."
  | .damagedPdf => "This PDF is damaged or incomplete. Upload a valid PDF to extract its text."
  | .value message => String.ofList (message.toList.take 400)
  | .other => "Text indexing failed. Retry after checking the file and local model availability."

inductive IndexResult
  | ready (message : Option String) (chunks : List Chunk) (text : String) (vectorPath : String)
      (contentHash : String) (indexedAt : Instant)
  | unsupported (message : Option String)
  | failed (message : String)

/-- Windows of 220 words, 180 apart. -/
def chunksOf (env : IndexEnv) (part : Chunk) : List Chunk :=
  let words := env.words part.text
  ((List.range ((words.length + 179) / 180)).map fun i =>
    (⟨part.location, " ".intercalate ((words.drop (180 * i)).take 220)⟩ : Chunk)).filter
      fun chunk => chunk.text ≠ ""

/-- The worker with what it comes upon: the first of the pending documents that nobody has locked,
what else goes wrong, and the name of the vector index. -/
structure Worker where
  chosen : Id
  failure : Option IndexError
  vectorPath : String
  indexedAt : Instant

/-- `build_index`, and what is made of its errors. -/
def Worker.result (env : IndexEnv) (w : Worker) (path fileName : String) : IndexResult :=
  match w.failure, env.extract path fileName with
  | some error, _ => .failed (error.message env)
  | none, .error error => .failed (error.message env)
  | none, .ok (sections, warning) =>
    let chunks := sections.flatMap (chunksOf env)
    if chunks = [] then .unsupported warning
    else .ready warning chunks ("\n".intercalate (sections.map (·.text))) w.vectorPath
      (env.sha256 path) w.indexedAt

/-- The columns with those of the result. -/
def IndexResult.columns (columns : IndexColumns) : IndexResult → IndexColumns
  | .ready message chunks text vectorPath _ indexedAt =>
    ⟨.ready, message, some indexedAt, text, chunks, some vectorPath⟩
  | .unsupported message => { columns with
      indexStatus := .unsupported
      indexMessage := message
      extractedText := ""
      chunks := []
      vectorPath := none }
  | .failed message => { columns with indexStatus := .failed, indexMessage := some message }

def IndexResult.contentHash (contentHash : Option String) : IndexResult → Option String
  | .ready _ _ _ _ hash _ => some hash
  | _ => contentHash

/-! ## Rows in a session -/

/-- A column that is not changed in the session is not written. -/
def flushed {α : Type} [DecidableEq α] (loaded assigned current : α) : α :=
  if assigned = loaded then current else assigned

@[simp] theorem flushed_self {α : Type} [DecidableEq α] (loaded current : α) :
    flushed loaded loaded current = current := if_pos rfl

/-- A row as it was loaded. -/
structure Loaded where
  document : LibraryDocument
  index : IndexColumns

def flushIndex (loaded assigned current : IndexColumns) : IndexColumns where
  indexStatus := flushed loaded.indexStatus assigned.indexStatus current.indexStatus
  indexMessage := flushed loaded.indexMessage assigned.indexMessage current.indexMessage
  indexedAt := flushed loaded.indexedAt assigned.indexedAt current.indexedAt
  extractedText := flushed loaded.extractedText assigned.extractedText current.extractedText
  chunks := flushed loaded.chunks assigned.chunks current.chunks
  vectorPath := flushed loaded.vectorPath assigned.vectorPath current.vectorPath

/-- What is written of a change that was made to the row as it was loaded. -/
def Change.flush (change : Change) (loaded : LibraryDocument) : Change where
  apply d :=
    let assigned := change.apply loaded
    { d with
      title := flushed loaded.title assigned.title d.title
      category := flushed loaded.category assigned.category d.category
      tags := flushed loaded.tags assigned.tags d.tags
      storagePath := flushed loaded.storagePath assigned.storagePath d.storagePath
      fileName := flushed loaded.fileName assigned.fileName d.fileName
      mimeType := flushed loaded.mimeType assigned.mimeType d.mimeType
      sizeBytes := flushed loaded.sizeBytes assigned.sizeBytes d.sizeBytes
      ownerId := flushed loaded.ownerId assigned.ownerId d.ownerId
      employeeId := flushed loaded.employeeId assigned.employeeId d.employeeId
      visibility := flushed loaded.visibility assigned.visibility d.visibility
      privateToId := flushed loaded.privateToId assigned.privateToId d.privateToId
      isActive := flushed loaded.isActive assigned.isActive d.isActive
      contentHash := flushed loaded.contentHash assigned.contentHash d.contentHash }
  id_apply _ := rfl
  source_apply _ := rfl

def IndexResult.change (result : IndexResult) : Change where
  apply d := { d with contentHash := result.contentHash d.contentHash }
  id_apply _ := rfl
  source_apply _ := rfl

namespace Catalog

def load (c : Catalog) (id : Id) : Option Loaded :=
  (c.documents.find? id).map fun d => ⟨d, c.index id⟩

/-- The row with its columns as a session writes them. -/
def save (c : Catalog) (loaded : Loaded) (change : Change)
    (index : IndexColumns → IndexColumns) : Catalog :=
  (c.update (fun d => d.id = loaded.document.id) (change.flush loaded.document)).setIndex
    loaded.document.id
    (flushIndex loaded.index (index loaded.index) (c.index loaded.document.id))

/-- The worker takes the document that it has chosen. -/
def claim (c : Catalog) (w : Worker) : Option (Catalog × LibraryDocument) := do
  let d ← (c.documents.find? w.chosen).filter fun d => d.isActive
  if (c.index d.id).indexStatus = .pending then
    some (c.setIndex d.id { c.index d.id with indexStatus := .processing }, d)
  else none

end Catalog

/-- What is asked for by `reindex`. -/
def IndexColumns.requeue (columns : IndexColumns) : IndexColumns :=
  { columns with indexStatus := .pending, indexMessage := none }

/-! ## Statements -/

inductive Task
  | upload (r : Upload) (now : Instant)
  /-- The upload is accepted. -/
  | inserting (d : LibraryDocument)
  /-- The import that the upload takes the place of is loaded. -/
  | replacing (loaded : Loaded) (change : Change)
  | flush (f : Flush)
  | reindex (actor : Actor) (identifier : Id)
  /-- The document is to be indexed again. -/
  | repeating (loaded : Loaded)
  | index (w : Worker)
  /-- The document is claimed; its file is read. -/
  | extracting (w : Worker) (id : Id) (path fileName : String)
  /-- The row is loaded again. -/
  | storing (w : Worker) (path fileName : String) (loaded : Loaded)

/-- The statements of `upload`, `register_sources`, `reindex` and `index_one`; a request that fails
is over. -/
def Task.step (text : TextEnv) (env : IndexEnv) (c : Catalog) : Task → Catalog × Option Task
  | .upload r now =>
    match r.written text c.documents.rows now with
    | some (.inserts d) => (c, some (.inserting d))
    | some (.changes d change) => (c, some (.replacing ⟨d, c.index d.id⟩ change))
    | none => (c, none)
  | .inserting d => ((c.insert? d).getD c, none)
  | .replacing loaded change => (c.save loaded change id, none)
  | .flush f => ((c.registerSources f).getD c, none)
  | .reindex actor identifier =>
    match getDocument c.documents.rows actor identifier with
    | .ok d => if (manage d actor).isOk then (c, some (.repeating ⟨d, c.index d.id⟩)) else (c, none)
    | .error _ => (c, none)
  | .repeating loaded => (c.save loaded .none IndexColumns.requeue, none)
  | .index w =>
    match c.claim w with
    | some (c, d) => (c, some (.extracting w d.id d.storagePath d.fileName))
    | none => (c, none)
  | .extracting w id path fileName => (c, (c.load id).map (.storing w path fileName))
  | .storing w path fileName loaded =>
    let result := w.result env path fileName
    (c.save loaded result.change result.columns, none)

/-- Whether a request begins. -/
def Task.isRequest : Task → Bool
  | .upload .. | .flush _ | .reindex .. | .index _ => true
  | _ => false

def serving (text : TextEnv) (env : IndexEnv) : Statement Catalog Task :=
  fun _ c t => some (t.step text env c)

namespace Sample

/-- The text of a file is its path. -/
def paths : IndexEnv where
  extract path _ := .ok ([⟨"Document", path⟩], none)
  words text := [text]
  sha256 := id
  timeoutSeconds := "120"

end Sample

end Cestos.Documents
