import Cestos.Core.Outcome
import Cestos.Core.Paths
import Mathlib.Logic.Function.Basic

/-!
# Where files are stored

Uploaded files are kept in a directory of the server, or as objects in two buckets: documents in a
private one, everything else in a public one. Both are asked by the path that a save has returned.
-/

namespace Cestos.Storage

open Cestos.Core PosixPath

abbrev Text := List Char

abbrev Bytes := List UInt8

inductive StorageError
  /-- With the limit in megabytes. -/
  | tooLarge (limit : Nat)
  | extension (suffix : Text)
  | invalidPath
  deriving DecidableEq

def StorageError.message : StorageError → String
  | .tooLarge limit => s!"File exceeds the {limit} MB upload limit"
  | .extension suffix =>
      "Extension '" ++ (if suffix = [] then "(none)" else String.ofList suffix) ++
        "' is not allowed; allowed: ['.csv', '.doc', '.docx', '.jpeg', '.jpg', '.pdf', '.png', " ++
        "'.txt', '.xls', '.xlsx']"
  | .invalidPath => "Invalid stored file path"

/-- `ALLOWED_EXTENSIONS`. -/
def allowedExtensions : List Text :=
  [".pdf".toList, ".png".toList, ".jpg".toList, ".jpeg".toList, ".doc".toList, ".docx".toList,
    ".xls".toList, ".xlsx".toList, ".txt".toList, ".csv".toList]

/-- `DOCUMENT_NAMESPACES`. -/
def documentNamespaces : List Text :=
  ["documents".toList, "employee-documents".toList, "employee-resumes".toList,
    "asset-documents".toList, "asset-log-files".toList, "project-files".toList,
    "project-reports".toList, "leave-letters".toList, "stores".toList, "items".toList]

/-- `document_path`: the text before the first slash is a namespace of documents. -/
def DocumentPath (path : Text) : Prop := path.takeWhile (· ≠ '/') ∈ documentNamespaces

instance : DecidablePred DocumentPath := fun path =>
  inferInstanceAs (Decidable (path.takeWhile (· ≠ '/') ∈ documentNamespaces))

/-- `str.rfind` of a character. -/
def rfind (c : Char) (text : Text) : Option Nat :=
  (text.reverse.idxOf? c).map fun i => text.length - 1 - i

/-- `PurePath.suffix` of the name of a path. -/
def suffixOf (name : Text) : Text :=
  match rfind '.' name with
  | some i => if 0 < i ∧ i < name.length - 1 then name.drop i else []
  | none => []

/-- `str.lower`, which makes no slash, and `mimetypes.guess_type`. -/
structure Host where
  lower : Text → Text
  guessType : Text → Option Text
  notMem_lower : ∀ text, '/' ∉ text → '/' ∉ lower text

/-- `uuid4().hex`. -/
def Hex : Type := {text : Text // text.length = 32 ∧ '/' ∉ text}

/-- A call of `save`, with the name that it generates. -/
structure Save where
  namespacePath : Text
  data : Bytes
  originalFilename : Text
  contentType : Option Text
  hex : Hex

structure StoredFile where
  relativePath : Text
  filename : Text
  mimeType : Text
  sizeBytes : Nat
  deriving DecidableEq

section Saving

variable (host : Host)

def Save.suffix (s : Save) : Text := host.lower (suffixOf (parse s.originalFilename).name)

def Save.storedName (s : Save) : Text := s.hex.1 ++ s.suffix host

/-- `PurePosixPath(namespace, stored_name)`. -/
def Save.relative (s : Save) : PosixPath := parse (joinText s.namespacePath (s.storedName host))

/-- The first text that is given and not empty. -/
def orElse (text : Option Text) (other : Text) : Text :=
  match text with
  | some text => if text = [] then other else text
  | none => other

def Save.mimeType (s : Save) : Text :=
  orElse s.contentType (orElse (host.guessType s.originalFilename)
    "application/octet-stream".toList)

/-- What both storages check of a file, and what they return for it. -/
def Save.prepare (s : Save) (maxBytes : Nat) : Except StorageError StoredFile := do
  ensure (s.data.length ≤ maxBytes) (.tooLarge (maxBytes / (1024 * 1024)))
  ensure (s.suffix host ∈ allowedExtensions ∨ "documents/".toList <+: s.namespacePath)
    (.extension (s.suffix host))
  .ok ⟨(s.relative host).text, (parse s.originalFilename).name, s.mimeType host, s.data.length⟩

end Saving

/-- What both storages check of a path: that it is relative, without two dots. -/
def checkPath (path : Text) : Except StorageError PosixPath := do
  ensure (parse path).Within .invalidPath
  .ok (parse path)

theorem checkPath_of_within {path : Text} (h : (parse path).Within) :
    checkPath path = .ok (parse path) := by
  simp [checkPath, ensure, h, bind, Except.bind]

theorem checkPath_of_not_within {path : Text} (h : ¬ (parse path).Within) :
    checkPath path = .error .invalidPath := by
  simp [checkPath, ensure, h, bind, Except.bind]

/-- `parts`. -/
def parts (p : PosixPath) : List Text :=
  if p.root = .relative then p.components else p.root.text :: p.components

/-! ## A directory -/

structure LocalStorage where
  root : Text
  maxBytes : Nat

abbrev Files := PosixPath → Option Bytes

/-- `root.joinpath(*parts)`. -/
def LocalStorage.target (storage : LocalStorage) (p : PosixPath) : PosixPath :=
  parse ((parts p).foldl joinText storage.root)

def LocalStorage.save (host : Host) (storage : LocalStorage) (files : Files) (s : Save) :
    Except StorageError (StoredFile × Files) := do
  let stored ← s.prepare host storage.maxBytes
  .ok (stored, Function.update files (storage.target (s.relative host)) (some s.data))

def LocalStorage.resolve (storage : LocalStorage) (path : Text) :
    Except StorageError PosixPath := do
  let pure ← checkPath path
  .ok (storage.target pure)

def LocalStorage.delete (storage : LocalStorage) (files : Files) (path : Text) : Files :=
  match storage.resolve path with
  | .ok target => Function.update files target none
  | .error _ => files

/-- What is read from the path that `resolve` returns. -/
def LocalStorage.read (storage : LocalStorage) (files : Files) (path : Text) :
    Except StorageError (Option Bytes) := do
  let target ← storage.resolve path
  .ok (files target)

/-! ## Two buckets -/

structure SupabaseStorage where
  maxBytes : Nat

structure Buckets where
  publicObjects : Text → Option Bytes
  privateObjects : Text → Option Bytes

/-- What `bucket_for` finds. -/
def Buckets.find (b : Buckets) (path key : Text) : Option Bytes :=
  if DocumentPath path then b.privateObjects key else b.publicObjects key

/-- An object is written to the bucket of `bucket_for`, or removed from it. -/
def Buckets.put (b : Buckets) (path key : Text) (data : Option Bytes) : Buckets :=
  if DocumentPath path then { b with privateObjects := Function.update b.privateObjects key data }
  else { b with publicObjects := Function.update b.publicObjects key data }

def SupabaseStorage.save (host : Host) (storage : SupabaseStorage) (b : Buckets) (s : Save) :
    Except StorageError (StoredFile × Buckets) := do
  let stored ← s.prepare host storage.maxBytes
  .ok (stored, b.put stored.relativePath stored.relativePath (some s.data))

/-- What `resolve` downloads, if there is such an object. -/
def SupabaseStorage.read (b : Buckets) (path : Text) : Except StorageError (Option Bytes) := do
  let pure ← checkPath path
  .ok (b.find path pure.text)

def SupabaseStorage.delete (b : Buckets) (path : Text) : Buckets := b.put path path none

/-! ## Calls -/

inductive Call
  | save (s : Save)
  | delete (path : Text)
  | read (path : Text)

inductive Answer
  | saved (stored : Except StorageError StoredFile)
  | deleted
  | read (data : Except StorageError (Option Bytes))

/-- A storage: what a call does to it, and what it answers. -/
abbrev Backend (σ : Type) := σ → Call → σ × Answer

/-- What a save leads to. -/
def saved {σ : Type} (s : σ) (outcome : Except StorageError (StoredFile × σ)) : σ × Answer :=
  match outcome with
  | .ok (stored, s') => (s', .saved (.ok stored))
  | .error e => (s, .saved (.error e))

def LocalStorage.serve (host : Host) (storage : LocalStorage) : Backend Files
  | files, .save s => saved files (storage.save host files s)
  | files, .delete path => (storage.delete files path, .deleted)
  | files, .read path => (files, .read (storage.read files path))

def SupabaseStorage.serve (host : Host) (storage : SupabaseStorage) : Backend Buckets
  | b, .save s => saved b (storage.save host b s)
  | b, .delete path => (delete b path, .deleted)
  | b, .read path => (b, .read (read b path))

/-- The answers to calls, one after the other. -/
def answers {σ : Type} (serve : Backend σ) : σ → List Call → List Answer
  | _, [] => []
  | s, call :: calls => (serve s call).2 :: answers serve (serve s call).1 calls

/-- What the calls leave. -/
def after {σ : Type} (serve : Backend σ) (s : σ) (calls : List Call) : σ :=
  calls.foldl (fun s call => (serve s call).1) s

end Cestos.Storage
