import Cestos.Core.Runs
import Cestos.Core.Sessions
import Cestos.Fuel.Records
import Cestos.Storage.Agreement

/-!
# Receipts of fuel deliveries

An upload locks its delivery, saves the file, commits the delivery with its path, and then deletes
the file that was there before. It may stop at any point.
-/

namespace Cestos.Fuel

open Cestos.Core Cestos.Storage PosixPath

/-- Where files are kept; `idText` is `str` of an id. -/
structure Server where
  host : Host
  storage : LocalStorage
  idText : Id → Text
  within : ∀ id, (parse ("documents/".toList ++ idText id ++ "/fuel-deliveries".toList)).Within

def Server.namespacePath (server : Server) (organizationId : Id) : Text :=
  "documents/".toList ++ server.idText organizationId ++ "/fuel-deliveries".toList

structure UploadFile where
  content : Bytes
  filename : Option Text
  contentType : Option Text

structure Desk where
  book : FuelBook
  /-- The receipt columns of the deliveries. -/
  receipts : Id → Option StoredFile
  files : Files
  /-- The paths that saves have returned. -/
  issued : List Text
  /-- What was sent with the last upload for a delivery that was committed. -/
  sent : Id → Option Bytes

inductive Upload
  /-- A request, with the name that `uuid4` gives its file. -/
  | called (caller : Caller) (deliveryId : Id) (receipt : UploadFile) (hex : Hex)
  /-- The delivery is locked, and its path is read. -/
  | locked (deliveryId : Id) (oldPath : Option Text) (save : Save)
  /-- The file is saved, and not committed. -/
  | kept (deliveryId : Id) (oldPath : Option Text) (stored : StoredFile) (data : Bytes)
  /-- The file that was replaced is not deleted yet. -/
  | committed (oldPath : Text)
  /-- Any other request about fuel. -/
  | other (call : Caller × FuelRequest)

/-- The delivery whose row a session has locked. -/
def Upload.locks : Upload → Option Id
  | .locked deliveryId _ _ | .kept deliveryId _ _ _ => some deliveryId
  | .called _ _ _ _ | .committed _ | .other _ => none

def Desk.find (d : Desk) (caller : Caller) (deliveryId : Id) : Option FuelDelivery :=
  (d.book.deliveries.find? deliveryId).filter fun delivery =>
    delivery.organizationId = caller.organizationId ∧ delivery.archivedAt = none

/-- The receipt columns of a delivery are written. -/
def Desk.commit (d : Desk) (deliveryId : Id) (stored : StoredFile) (data : Bytes) : Desk :=
  { d with
    receipts := Function.update d.receipts deliveryId (some stored)
    sent := Function.update d.sent deliveryId (some data) }

/-- The statements of `upload_fuel_delivery_receipt`, and other requests. -/
def uploading (server : Server) : Statement Desk Upload := fun others d u => match u with
  | .called caller deliveryId receipt hex =>
    if ∃ v ∈ others, v.locks = some deliveryId then none
    else if d.find caller deliveryId = none then some (d, none)
    else if receipt.content.take (server.storage.maxBytes + 1) = [] then some (d, none)
    else some (d, some (.locked deliveryId ((d.receipts deliveryId).map (·.relativePath))
      ⟨server.namespacePath caller.organizationId,
        receipt.content.take (server.storage.maxBytes + 1),
        orElse receipt.filename "fuel-delivery-receipt.pdf".toList, receipt.contentType, hex⟩))
  | .locked deliveryId oldPath save =>
    match server.storage.save server.host d.files save with
    | .error _ => some (d, none)
    | .ok (stored, files) => some ({ d with files, issued := stored.relativePath :: d.issued },
        some (.kept deliveryId oldPath stored save.data))
  | .kept deliveryId oldPath stored data => some (d.commit deliveryId stored data,
      (oldPath.filter fun path => path ≠ [] ∧ path ≠ stored.relativePath).map .committed)
  | .committed oldPath =>
    some ({ d with files := server.storage.delete d.files oldPath }, none)
  | .other call => some ({ d with book := settled FuelBook.serve d.book call }, none)

inductive DownloadError
  /-- "Fuel delivery record not found". -/
  | notFound
  /-- "No uploaded receipt is available for this fuel delivery". -/
  | noReceipt
  /-- What `resolve` raises, or there is no such file. -/
  | unavailable
  deriving DecidableEq

/-- `download_fuel_delivery_receipt`. -/
def Desk.download (server : Server) (d : Desk) (caller : Caller) (deliveryId : Id) :
    Except DownloadError (StoredFile × Bytes) := do
  ensure (d.find caller deliveryId ≠ none) .notFound
  let receipt ← orError ((d.receipts deliveryId).filter fun receipt =>
    receipt.relativePath ≠ [] ∧ receipt.filename ≠ []) .noReceipt
  match server.storage.read d.files receipt.relativePath with
  | .ok (some data) => .ok (receipt, data)
  | _ => .error .unavailable

def Upload.IsRequest : Upload → Prop
  | .called _ _ _ _ | .other _ => True
  | .locked _ _ _ | .kept _ _ _ _ | .committed _ => False

instance : DecidablePred Upload.IsRequest
  | .called _ _ _ _ | .other _ => .isTrue trivial
  | .locked _ _ _ | .kept _ _ _ _ | .committed _ => .isFalse id

/-- `uuid4` gives names that it has not given before. -/
def Upload.DrawsNew (server : Server) (d : Desk) : Upload → Prop
  | .locked _ _ save => (save.relative server.host).text ∉ d.issued
  | .called _ _ _ _ | .kept _ _ _ _ | .committed _ | .other _ => True

instance (server : Server) (d : Desk) : DecidablePred (Upload.DrawsNew server d)
  | .locked _ _ _ => inferInstanceAs (Decidable (_ ∉ _))
  | .called _ _ _ _ | .kept _ _ _ _ | .committed _ | .other _ => .isTrue trivial

/-! ## Paths -/

/-- A path as a save within a namespace returns it. -/
def Regular (path : Text) : Prop := (parse path).Within ∧ Canonical path

theorem Regular.ne_nil {path : Text} (h : Regular path) : path ≠ [] := by
  rintro rfl
  exact absurd (show (parse []).text = [] from h.2) (by decide)

section Reads

variable {storage : LocalStorage} {files : Files} {path other : Text}

theorem read_update_self (h : Regular path) (data : Option Bytes) :
    storage.read (Function.update files (storage.target (parse path)) data) path = .ok data := by
  simp [LocalStorage.read, storage.resolve_of_within h.1, bind, Except.bind]

theorem read_update_of_ne (h : Regular path) (hother : Regular other) (hne : other ≠ path)
    (data : Option Bytes) :
    storage.read (Function.update files (storage.target (parse path)) data) other =
      storage.read files other := by
  have htarget : storage.target (parse other) ≠ storage.target (parse path) := by
    intro heq
    have hparse := storage.target_injective hother.1 h.1 heq
    exact hne (by rw [← hother.2, hparse, h.2])
  simp [LocalStorage.read, storage.resolve_of_within hother.1, bind, Except.bind,
    Function.update_of_ne htarget]

theorem read_delete_of_ne (h : Regular path) (hother : Regular other) (hne : other ≠ path) :
    storage.read (storage.delete files path) other = storage.read files other := by
  rw [LocalStorage.delete, storage.resolve_of_within h.1]
  exact read_update_of_ne h hother hne none

theorem save_spec {host : Host} {save : Save} {stored : StoredFile} {files' : Files}
    (hwithin : (parse save.namespacePath).Within)
    (h : storage.save host files save = .ok (stored, files')) :
    Regular stored.relativePath ∧ stored.relativePath = (save.relative host).text ∧
      stored.sizeBytes = save.data.length ∧
      files' = Function.update files (storage.target (parse stored.relativePath))
        (some save.data) := by
  obtain ⟨prepared, hprepare, h⟩ := bind_eq_ok.1 h
  simp only [Save.prepare, ensure_bind_eq_ok, Except.ok.injEq] at hprepare
  obtain ⟨-, -, rfl⟩ := hprepare
  obtain ⟨rfl, rfl⟩ := Prod.mk.inj (Except.ok.inj h)
  refine ⟨⟨?_, canonical_text _⟩, rfl, rfl, ?_⟩
  · rw [parse_text]
    exact save.within_relative host hwithin
  · rw [parse_text]

end Reads

/-! ## The invariant -/

variable {server : Server} {d d' : Desk}

/-- The path of a delivery has what was sent for it, and deliveries have different paths. -/
structure Desk.Sound (server : Server) (d : Desk) : Prop where
  regular : ∀ path ∈ d.issued, Regular path
  unsent : ∀ id, d.receipts id = none → d.sent id = none
  receipt : ∀ id r, d.receipts id = some r → r.relativePath ∈ d.issued ∧
    ∃ data, d.sent id = some data ∧ r.sizeBytes = data.length ∧
      server.storage.read d.files r.relativePath = .ok (some data)
  apart : ∀ id id' r r', d.receipts id = some r → d.receipts id' = some r' →
    r.relativePath = r'.relativePath → id = id'

/-- The path was returned by a save, and is not that of a delivery. -/
structure Desk.Spare (d : Desk) (path : Text) : Prop where
  issued : path ∈ d.issued
  unused : ∀ id r, d.receipts id = some r → r.relativePath ≠ path

/-- The path that a session has to write, or to delete. -/
def Upload.path : Upload → Option Text
  | .kept _ _ stored _ => some stored.relativePath
  | .committed oldPath => some oldPath
  | .called _ _ _ _ | .locked _ _ _ | .other _ => none

/-- What a session has read, and the file that it has saved. -/
def Upload.Sound (server : Server) (d : Desk) : Upload → Prop
  | .locked deliveryId oldPath save =>
      (d.receipts deliveryId).map (·.relativePath) = oldPath ∧ (parse save.namespacePath).Within
  | .kept deliveryId oldPath stored data =>
      (d.receipts deliveryId).map (·.relativePath) = oldPath ∧ d.Spare stored.relativePath ∧
        stored.sizeBytes = data.length ∧
        server.storage.read d.files stored.relativePath = .ok (some data)
  | .committed oldPath => d.Spare oldPath
  | .called _ _ _ _ | .other _ => True

/-- Sessions lock different deliveries and have different paths. -/
structure Upload.Apart (u v : Upload) : Prop where
  locks : ∀ id, u.locks = some id → v.locks ≠ some id
  path : ∀ path, u.path = some path → v.path ≠ some path

theorem Upload.Sound.spare {u : Upload} {path : Text} (h : u.Sound server d)
    (hpath : u.path = some path) : d.Spare path := by
  cases u with
  | kept deliveryId oldPath stored data => exact Option.some.inj hpath ▸ h.2.1
  | committed oldPath => exact Option.some.inj hpath ▸ h
  | called caller deliveryId receipt hex => cases hpath
  | locked deliveryId oldPath save => cases hpath
  | other call => cases hpath

theorem Desk.Sound.write {path : Text} {book : FuelBook} {issued : List Text} {files : Files}
    (h : d.Sound server) (hunused : ∀ id r, d.receipts id = some r → r.relativePath ≠ path)
    (hissued : d.issued ⊆ issued) (hregular : ∀ path ∈ issued, Regular path)
    (hread : ∀ other, Regular other → other ≠ path →
      server.storage.read files other = server.storage.read d.files other) :
    Desk.Sound server { d with book, files, issued } := by
  refine ⟨hregular, h.unsent, fun id r hr => ?_, h.apart⟩
  obtain ⟨hmem, data, hsent, hsize, hfile⟩ := h.receipt id r hr
  have hsame := hread r.relativePath (h.regular _ hmem) (hunused id r hr)
  exact ⟨hissued hmem, data, hsent, hsize, hsame.trans hfile⟩

theorem Upload.Sound.write {u : Upload} {path : Text} {book : FuelBook} {issued : List Text}
    {files : Files} (h : u.Sound server d) (hpath : u.path ≠ some path)
    (hissued : d.issued ⊆ issued) (hregular : ∀ path ∈ d.issued, Regular path)
    (hread : ∀ other, Regular other → other ≠ path →
      server.storage.read files other = server.storage.read d.files other) :
    Upload.Sound server { d with book, files, issued } u := by
  cases u with
  | kept deliveryId oldPath stored data =>
      obtain ⟨hold, hspare, hsize, hfile⟩ := h
      have hne : stored.relativePath ≠ path := fun heq => hpath (congrArg some heq)
      have hsame := hread _ (hregular _ hspare.issued) hne
      exact ⟨hold, ⟨hissued hspare.issued, hspare.unused⟩, hsize, hsame.trans hfile⟩
  | committed oldPath => exact ⟨hissued h.issued, h.unused⟩
  | locked deliveryId oldPath save => exact h
  | called caller deliveryId receipt hex => trivial
  | other call => trivial

section Commit

variable {deliveryId id : Id} {stored r : StoredFile} {data : Bytes}

@[simp] theorem Desk.receipts_commit : (d.commit deliveryId stored data).receipts id =
    if id = deliveryId then some stored else d.receipts id := by
  simp [Desk.commit, Function.update_apply]

@[simp] theorem Desk.sent_commit : (d.commit deliveryId stored data).sent id =
    if id = deliveryId then some data else d.sent id := by
  simp [Desk.commit, Function.update_apply]

theorem Desk.receipts_commit_eq_some (h : (d.commit deliveryId stored data).receipts id = some r) :
    id = deliveryId ∧ stored = r ∨ id ≠ deliveryId ∧ d.receipts id = some r := by
  by_cases hid : id = deliveryId
  · simp_all
  · simp_all

theorem Desk.Spare.commit {path : Text} (h : d.Spare path) (hne : stored.relativePath ≠ path) :
    (d.commit deliveryId stored data).Spare path := by
  refine ⟨h.issued, fun id r hr => ?_⟩
  cases receipts_commit_eq_some hr with
  | inl hnew => exact hnew.2 ▸ hne
  | inr hold => exact h.unused id r hold.2

/-- A session beside one that commits the delivery it has locked. -/
theorem Upload.Sound.commit {u : Upload} (h : u.Sound server d)
    (hlocks : u.locks ≠ some deliveryId) (hpath : u.path ≠ some stored.relativePath) :
    u.Sound server (d.commit deliveryId stored data) := by
  cases u with
  | locked id oldPath save =>
      have hid : id ≠ deliveryId := fun heq => hlocks (congrArg some heq)
      exact ⟨by simpa [hid] using h.1, h.2⟩
  | kept id oldPath other bytes =>
      have hid : id ≠ deliveryId := fun heq => hlocks (congrArg some heq)
      obtain ⟨hold, hspare, hfile⟩ := h
      refine ⟨by simpa [hid] using hold, hspare.commit fun heq => ?_, hfile⟩
      exact hpath (congrArg some heq.symm)
  | committed oldPath => exact Desk.Spare.commit h fun heq => hpath (congrArg some heq.symm)
  | called caller id receipt hex => trivial
  | other call => trivial

theorem Desk.Sound.commit (h : d.Sound server) (hspare : d.Spare stored.relativePath)
    (hsize : stored.sizeBytes = data.length)
    (hfile : server.storage.read d.files stored.relativePath = .ok (some data)) :
    (d.commit deliveryId stored data).Sound server := by
  refine ⟨h.regular, fun id hnone => ?_, fun id r hr => ?_, fun id id' r r' hr hr' heq => ?_⟩
  · by_cases hid : id = deliveryId
    · simp [hid] at hnone
    · simp only [receipts_commit, sent_commit, if_neg hid] at hnone ⊢
      exact h.unsent id hnone
  · cases receipts_commit_eq_some hr with
    | inl hnew =>
        obtain ⟨rfl, rfl⟩ := hnew
        exact ⟨hspare.issued, data, by simp, hsize, hfile⟩
    | inr hold =>
        obtain ⟨hmem, sent, hsent, hrest⟩ := h.receipt id r hold.2
        exact ⟨hmem, sent, by simp [hold.1, hsent], hrest⟩
  · cases receipts_commit_eq_some hr with
    | inl hnew =>
        cases receipts_commit_eq_some hr' with
        | inl hnew' => rw [hnew.1, hnew'.1]
        | inr hold => exact absurd (hnew.2 ▸ heq.symm) (hspare.unused id' r' hold.2)
    | inr hold =>
        cases receipts_commit_eq_some hr' with
        | inl hnew => exact absurd (hnew.2 ▸ heq) (hspare.unused id r hold.2)
        | inr hold' => exact h.apart id id' r r' hold.2 hold'.2 heq

end Commit

theorem uploading_keeps {others : List Upload} {u : Upload} {next : Option Upload}
    (hd : d.Sound server) (hu : u.Sound server d)
    (hothers : ∀ v ∈ others, v.Sound server d ∧ u.Apart v) (hnew : u.DrawsNew server d)
    (h : uploading server others d u = some (d', next)) :
    Sessions.Keeps (Desk.Sound server) (Upload.Sound server) Upload.Apart others d' next := by
  have hover : Sessions.Keeps (Desk.Sound server) (Upload.Sound server) Upload.Apart others d none :=
    .over hd fun v hv => (hothers v hv).1
  cases u with
  | called caller deliveryId receipt hex =>
      unfold uploading at h
      dsimp only at h
      split at h
      · cases h
      · next hfree =>
        split at h
        · cases h
          exact hover
        · split at h
          · cases h
            exact hover
          · cases h
            refine ⟨hd, ?_, hover.aside, ?_⟩
            · intro t ht
              cases ht
              exact ⟨rfl, server.within caller.organizationId⟩
            · intro t ht v hv
              cases ht
              refine ⟨fun id hid hheld => hfree ⟨v, hv, ?_⟩, nofun⟩
              rw [hheld, ← hid]
              rfl
  | locked deliveryId oldPath save =>
      unfold uploading at h
      dsimp only at h
      split at h
      · cases h
        exact hover
      · next stored files hsave =>
        cases h
        obtain ⟨hregular, hpath, hsize, rfl⟩ := save_spec hu.2 hsave
        have hfresh : stored.relativePath ∉ d.issued := hpath ▸ hnew
        have hunused : ∀ id r, d.receipts id = some r → r.relativePath ≠ stored.relativePath :=
          fun id r hr heq => hfresh (heq ▸ (hd.receipt id r hr).1)
        have hread : ∀ other, Regular other → other ≠ stored.relativePath →
            server.storage.read (Function.update d.files
              (server.storage.target (parse stored.relativePath)) (some save.data)) other =
                server.storage.read d.files other :=
          fun other hother hne => read_update_of_ne hregular hother hne (some save.data)
        have haside : ∀ v ∈ others, v.path ≠ some stored.relativePath := fun v hv heq =>
          hfresh ((hothers v hv).1.spare heq).issued
        refine ⟨hd.write hunused (List.subset_cons_self _ _) ?_ hread, ?_, ?_, ?_⟩
        · exact List.forall_mem_cons.2 ⟨hregular, hd.regular⟩
        · intro t ht
          cases ht
          exact ⟨hu.1, ⟨List.mem_cons_self, hunused⟩, hsize, read_update_self hregular _⟩
        · intro v hv
          exact (hothers v hv).1.write (haside v hv) (List.subset_cons_self _ _) hd.regular hread
        · intro t ht v hv
          cases ht
          refine ⟨(hothers v hv).2.locks, fun path heq => ?_⟩
          cases heq
          exact haside v hv
  | kept deliveryId oldPath stored data =>
      obtain ⟨hold, hspare, hsize, hfile⟩ := hu
      cases h
      -- What is replaced was the path of this delivery, so it is that of no other one and of no
      -- other session.
      have hreplaced : ∀ path ∈ oldPath, ∃ r, d.receipts deliveryId = some r ∧
          r.relativePath = path := fun path hpath => Option.map_eq_some_iff.1 (hold.trans hpath)
      refine ⟨hd.commit hspare hsize hfile, ?_, fun v hv => ?_, ?_⟩
      · intro t ht
        obtain ⟨path, hpath, rfl⟩ := Option.map_eq_some_iff.1 ht
        obtain ⟨hpath, hne⟩ := Option.filter_eq_some_iff.1 hpath
        obtain ⟨r, hr, rfl⟩ := hreplaced path hpath
        simp only [decide_eq_true_eq] at hne
        refine ⟨(hd.receipt deliveryId r hr).1, fun id r' hr' heq => ?_⟩
        cases Desk.receipts_commit_eq_some hr' with
        | inl hnew => exact hne.2 (hnew.2 ▸ heq.symm)
        | inr hold => exact hold.1 (hd.apart id deliveryId r' r hold.2 hr heq)
      · exact (hothers v hv).1.commit ((hothers v hv).2.locks deliveryId rfl)
          ((hothers v hv).2.path _ rfl)
      · intro t ht v hv
        obtain ⟨path, hpath, rfl⟩ := Option.map_eq_some_iff.1 ht
        obtain ⟨r, hr, rfl⟩ := hreplaced path (Option.filter_eq_some_iff.1 hpath).1
        refine ⟨nofun, fun other hother heq => ?_⟩
        cases hother
        exact ((hothers v hv).1.spare heq).unused deliveryId r hr rfl
  | committed oldPath =>
      cases h
      have hread : ∀ other, Regular other → other ≠ oldPath →
          server.storage.read (server.storage.delete d.files oldPath) other =
            server.storage.read d.files other :=
        fun other hother hne => read_delete_of_ne (hd.regular _ hu.issued) hother hne
      refine .over (hd.write hu.unused (fun _ => id) hd.regular hread) fun v hv => ?_
      exact (hothers v hv).1.write ((hothers v hv).2.path _ rfl) (fun _ => id) hd.regular hread
  | other call =>
      cases h
      refine .over ⟨hd.regular, hd.unsent, hd.receipt, hd.apart⟩ fun v hv => ?_
      have hpath : v.path ≠ some [] := fun heq =>
        (hd.regular _ ((hothers v hv).1.spare heq).issued).ne_nil rfl
      exact (hothers v hv).1.write hpath (fun _ => id) hd.regular fun _ _ _ => rfl

/-- Where uploads and other requests about fuel lead, from deliveries without receipts. -/
def Uploads (server : Server) : Sessions Desk Upload → Prop :=
  Sessions.Interleaved Upload.IsRequest (uploading server)
    (fun _ d u => u.DrawsNew server d) fun d => (∀ id, d.receipts id = none ∧ d.sent id = none) ∧
      d.issued = []

/-- However uploads interleave, and wherever they stop: a delivery has a receipt exactly if an
upload for it was committed, and the download is what the last one of these has sent, unless the
file has no name. -/
theorem download_sent {s : Sessions Desk Upload} (h : Uploads server s) {caller : Caller}
    {deliveryId : Id} (hfound : s.db.find caller deliveryId ≠ none) :
    match s.db.sent deliveryId with
    | none => s.db.download server caller deliveryId = .error .noReceipt
    | some data => ∃ receipt, s.db.receipts deliveryId = some receipt ∧
        receipt.sizeBytes = data.length ∧
        s.db.download server caller deliveryId =
          if receipt.filename = [] then .error .noReceipt else .ok (receipt, data) := by
  have hholds := Sessions.Interleaved.holds h (G := Desk.Sound server) (L := Upload.Sound server)
    (R := Upload.Apart) (fun u v huv => ⟨fun id hv hu => huv.locks id hu hv,
      fun path hv hu => huv.path path hu hv⟩)
    (fun d hd => ⟨by simp [hd.2], fun id _ => (hd.1 id).2, by simp [hd.1], by simp [hd.1]⟩)
    (fun d u hu _ => by
      cases u with
      | called caller deliveryId receipt hex => exact ⟨trivial, fun v => ⟨nofun, nofun⟩⟩
      | other call => exact ⟨trivial, fun v => ⟨nofun, nofun⟩⟩
      | locked deliveryId oldPath save => exact hu.elim
      | kept deliveryId oldPath stored data => exact hu.elim
      | committed oldPath => exact hu.elim)
    fun _ _ _ _ _ hd hu hothers _ hnew hstatement =>
      uploading_keeps hd hu hothers hnew hstatement
  have hdesk := hholds.database
  cases hreceipt : s.db.receipts deliveryId with
  | none =>
      rw [hdesk.unsent deliveryId hreceipt]
      simp [Desk.download, hfound, hreceipt, ensure, orError, bind, Except.bind]
  | some receipt =>
      obtain ⟨hissued, data, hsent, hsize, hfile⟩ := hdesk.receipt deliveryId receipt hreceipt
      have hpath := (hdesk.regular _ hissued).ne_nil
      rw [hsent]
      refine ⟨receipt, rfl, hsize, ?_⟩
      by_cases hname : receipt.filename = []
      · simp [Desk.download, hfound, hreceipt, hname, ensure, orError, bind, Except.bind,
          Option.filter]
      · simp [Desk.download, hfound, hreceipt, hname, hpath, hfile, ensure, orError, bind,
          Except.bind, Option.filter]

namespace Sample

def fileServer : Server where
  host := ⟨id, fun _ => none, fun _ h => h⟩
  storage := ⟨"/data".toList, 10⟩
  idText := fun _ => "1".toList
  within := fun _ => by decide

def diesel : FuelDelivery where
  id := 1
  organizationId := 1
  projectId := 1
  siteLocationId := 1
  recordedAt := 0
  fuelType := .diesel
  quantityLitres := ⟨1, by decide +kernel⟩
  supplier := none
  referenceNumber := none
  notes := none
  archivedAt := none
  createdById := 1

/-- A delivery without a receipt. -/
def desk : Desk := ⟨⟨.empty, .empty, .empty, .single diesel, .empty⟩, fun _ => none, fun _ => none,
  [], fun _ => none⟩

def supervisor : Caller := ⟨1, 1, 0⟩

/-- The upload of a docket of one byte, whose name is drawn from one letter. -/
def docket (byte : UInt8) (letter : Char) (h : letter ≠ '/') : Upload :=
  .called supervisor 1 ⟨[byte], none, none⟩ ⟨List.replicate 32 letter, by simp, by simp [h.symm]⟩

end Sample

/-- Two uploads for one delivery, of which the second waits for the first. -/
theorem download_sent_twice : ∃ s : Sessions Desk Upload, s.running = [] ∧
    s.db.sent 1 = some [8] ∧ ∃ receipt, s.db.receipts 1 = some receipt ∧
      receipt.sizeBytes = 1 ∧ s.db.download Sample.fileServer Sample.supervisor 1 =
        if receipt.filename = [] then .error .noReceipt else .ok (receipt, [8]) := by
  obtain ⟨s, hs, hout⟩ := Sessions.Interleaved.of_play Upload.IsRequest (uploading Sample.fileServer)
    (fun _ d u => u.DrawsNew Sample.fileServer d)
    (fun d => (∀ id, d.receipts id = none ∧ d.sent id = none) ∧ d.issued = []) Sample.desk
    [.begins (Sample.docket 7 'a' (by decide)), .begins (Sample.docket 8 'b' (by decide)),
      .acts 0, .acts 0, .acts 0, .acts 0, .acts 0, .acts 0, .acts 0]
    (p := fun s => s.running.isEmpty ∧ s.db.sent 1 = some [8] ∧
      (s.db.find Sample.supervisor 1).isSome = true) ⟨fun _ => ⟨rfl, rfl⟩, rfl⟩ (by decide +kernel)
  simp only [decide_eq_true_eq, List.isEmpty_iff] at hout
  have hfound : s.db.find Sample.supervisor 1 ≠ none := Option.isSome_iff_ne_none.1 hout.2.2
  have hdownload := download_sent hs hfound
  rw [hout.2.1] at hdownload
  exact ⟨s, hout.1, hout.2.1, hdownload⟩

end Cestos.Fuel
