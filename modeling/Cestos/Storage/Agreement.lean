import Cestos.Storage.Backends

/-!
# The two storages agree

What a storage is for: a file is read where it was saved, until it is deleted or another one is
saved there. The directory and the buckets both do this for the paths that saves return.
-/

namespace Cestos.Storage

open Cestos.Core PosixPath

/-! ## Stored names -/

theorem mem_of_mem_suffixOf {name : Text} {c : Char} (h : c ∈ suffixOf name) : c ∈ name := by
  unfold suffixOf at h
  split at h
  · split at h
    · exact List.mem_of_mem_drop h
    · cases h
  · cases h

theorem notMem_name (p : PosixPath) : '/' ∉ p.name := by
  unfold name
  cases hlast : p.components.getLast? with
  | none => simp
  | some c => exact (p.isComponent c (List.mem_of_getLast? hlast)).1

section Names

variable (host : Host)

theorem Save.notMem_suffix (s : Save) : '/' ∉ s.suffix host :=
  host.notMem_lower _ fun h => notMem_name _ (mem_of_mem_suffixOf h)

theorem Save.isComponent_storedName (s : Save) : IsComponent (s.storedName host) := by
  have hlength : 32 ≤ (s.storedName host).length := by
    simp [storedName, s.hex.2.1]
  refine ⟨?_, ?_, ?_⟩
  · simpa [storedName] using ⟨s.hex.2.2, s.notMem_suffix host⟩
  · intro h
    simp [h] at hlength
  · intro h
    simp [h] at hlength

theorem parse_of_isComponent {c : List Char} (h : IsComponent c) :
    (parse c).root = .relative ∧ (parse c).components = [c] := by
  obtain ⟨x, rest, rfl, hx⟩ := head_of_isComponent h
  have hsplit : splitRoot (x :: rest) = (.relative, x :: rest) :=
    splitRoot_of_head (by simpa using hx)
  rw [parse_root, parse_components, hsplit]
  exact ⟨rfl, componentsOf_of_isComponent h⟩

theorem Save.relative_eq (s : Save) :
    s.relative host = (parse s.namespacePath).append (parse (s.storedName host)) := by
  obtain ⟨x, rest, heq, hx⟩ := head_of_isComponent (s.isComponent_storedName host)
  exact parse_joinText _ (by simpa [heq] using hx)

theorem Save.components_relative (s : Save) : (s.relative host).components =
    (parse s.namespacePath).components ++ [s.storedName host] := by
  rw [s.relative_eq host]
  show _ ++ (parse (s.storedName host)).components = _
  rw [(parse_of_isComponent (s.isComponent_storedName host)).2]

theorem Save.within_relative {s : Save} (h : (parse s.namespacePath).Within) :
    (s.relative host).Within := by
  refine ⟨by rw [s.relative_eq host]; exact h.1, ?_⟩
  unfold Ascends
  rw [s.components_relative host, List.mem_append, List.mem_singleton]
  rintro (hmem | hname)
  · exact h.2 hmem
  · have hlength : 32 ≤ (s.storedName host).length := by simp [storedName, s.hex.2.1]
    simp [← hname] at hlength

end Names

/-! ## Targets in the directory -/

theorem parse_foldl_joinText {components : List (List Char)}
    (h : ∀ c ∈ components, IsComponent c) (root : Text) :
    (parse (components.foldl joinText root)).root = (parse root).root ∧
      (parse (components.foldl joinText root)).components =
        (parse root).components ++ components := by
  induction components generalizing root with
  | nil => simp
  | cons c rest ih =>
      have hc := h c List.mem_cons_self
      obtain ⟨x, tail, heq, hx⟩ := head_of_isComponent hc
      have hjoin : parse (joinText root c) = (parse root).append (parse c) :=
        parse_joinText root (by simpa [heq] using hx)
      have hrest := ih (fun d hd => h d (List.mem_cons_of_mem c hd)) (joinText root c)
      rw [List.foldl_cons, hrest.1, hrest.2, hjoin]
      refine ⟨rfl, ?_⟩
      show (parse root).components ++ (parse c).components ++ rest = _
      rw [(parse_of_isComponent hc).2, List.append_assoc, List.singleton_append]

theorem LocalStorage.target_of_within (storage : LocalStorage) {p : PosixPath} (h : p.Within) :
    storage.target p = (parse storage.root).append p := by
  have hfold := parse_foldl_joinText p.isComponent storage.root
  have hparts : parts p = p.components := if_pos h.1
  ext1
  · rw [target, hparts]
    exact hfold.1
  · rw [target, hparts]
    exact hfold.2

theorem LocalStorage.target_injective (storage : LocalStorage) {p q : PosixPath} (hp : p.Within)
    (hq : q.Within) (h : storage.target p = storage.target q) : p = q := by
  rw [storage.target_of_within hp, storage.target_of_within hq] at h
  exact append_injective h (hp.1.trans hq.1.symm)

theorem LocalStorage.resolve_of_within (storage : LocalStorage) {path : Text}
    (h : (parse path).Within) : storage.resolve path = .ok (storage.target (parse path)) := by
  rw [resolve, checkPath_of_within h]
  rfl

theorem LocalStorage.resolve_of_not_within (storage : LocalStorage) {path : Text}
    (h : ¬ (parse path).Within) : storage.resolve path = .error .invalidPath := by
  rw [resolve, checkPath_of_not_within h]
  rfl

/-! ## What a storage is for -/

/-- The files by the paths that they are read from. -/
abbrev Shelf := PosixPath → Option Bytes

def Shelf.serve (host : Host) (maxBytes : Nat) : Backend Shelf
  | shelf, .save s => saved shelf (do
      let stored ← s.prepare host maxBytes
      .ok (stored, Function.update shelf (s.relative host) (some s.data)))
  | shelf, .delete path =>
      (if (parse path).Within then Function.update shelf (parse path) none else shelf, .deleted)
  | shelf, .read path => (shelf, .read ((checkPath path).map shelf))

/-- A save that stays in the directory. -/
def Call.Contained : Call → Prop
  | .save s => (parse s.namespacePath).Within
  | _ => True

/-- A call whose path is as a save returns it, and that stays in the directory. -/
def Call.Regular : Call → Prop
  | .save s => (parse s.namespacePath).Within
  | .delete path => Canonical path
  | .read path => Canonical path

theorem Call.Regular.contained {call : Call} (h : call.Regular) : call.Contained := by
  cases call with
  | save s => exact h
  | delete path => trivial
  | read path => trivial

/-- The calls of a kind do to one state what they do to a state that it stands for. -/
structure Simulates {σ τ : Type} (rel : σ → τ → Prop) (kind : Call → Prop) (serve : Backend σ)
    (spec : Backend τ) : Prop where
  step : ∀ s t call, rel s t → kind call →
    rel (serve s call).1 (spec t call).1 ∧ (serve s call).2 = (spec t call).2

section Simulation

variable {σ τ : Type} {rel : σ → τ → Prop} {kind : Call → Prop} {serve : Backend σ}
  {spec : Backend τ} {calls : List Call} {s : σ} {t : τ}

theorem Simulates.answers_eq (h : Simulates rel kind serve spec)
    (hcalls : ∀ call ∈ calls, kind call) (hrel : rel s t) :
    answers serve s calls = answers spec t calls := by
  induction calls generalizing s t with
  | nil => rfl
  | cons call calls ih =>
      have hstep := h.step s t call hrel (hcalls call List.mem_cons_self)
      rw [answers, answers, hstep.2,
        ih (fun call hcall => hcalls call (List.mem_cons_of_mem _ hcall)) hstep.1]

theorem Simulates.after (h : Simulates rel kind serve spec) (hcalls : ∀ call ∈ calls, kind call)
    (hrel : rel s t) : rel (after serve s calls) (after spec t calls) := by
  induction calls generalizing s t with
  | nil => exact hrel
  | cons call calls ih =>
      have hstep := h.step s t call hrel (hcalls call List.mem_cons_self)
      exact ih (fun call hcall => hcalls call (List.mem_cons_of_mem _ hcall)) hstep.1

end Simulation

section Directory

variable (host : Host) (storage : LocalStorage)

/-- The directory holds the files of the shelf. -/
def LocalStorage.Shows (files : Files) (shelf : Shelf) : Prop :=
  ∀ p : PosixPath, p.Within → files (storage.target p) = shelf p

theorem LocalStorage.Shows.update {files : Files} {shelf : Shelf} (h : storage.Shows files shelf)
    {p : PosixPath} (hp : p.Within) (data : Option Bytes) :
    storage.Shows (Function.update files (storage.target p) data)
      (Function.update shelf p data) := by
  intro q hq
  by_cases hqp : q = p
  · rw [hqp, Function.update_self, Function.update_self]
  · have htarget : storage.target q ≠ storage.target p := fun heq =>
      hqp (storage.target_injective hq hp heq)
    rw [Function.update_of_ne htarget, Function.update_of_ne hqp, h q hq]

theorem LocalStorage.simulates :
    Simulates storage.Shows Call.Contained (storage.serve host)
      (Shelf.serve host storage.maxBytes) where
  step files shelf call hrel hcontained := by
    cases call with
    | save s =>
        cases hprepare : s.prepare host storage.maxBytes with
        | error e =>
            simp [serve, Shelf.serve, LocalStorage.save, saved, hprepare, bind, Except.bind, hrel]
        | ok stored =>
            have hkept := hrel.update storage (s.within_relative host hcontained) (some s.data)
            simp [serve, Shelf.serve, LocalStorage.save, saved, hprepare, bind, Except.bind, hkept]
    | delete path =>
        by_cases hwithin : (parse path).Within
        · simp [serve, Shelf.serve, LocalStorage.delete, storage.resolve_of_within hwithin, hwithin,
            hrel.update storage hwithin none]
        · simp [serve, Shelf.serve, LocalStorage.delete, storage.resolve_of_not_within hwithin,
            hwithin, hrel]
    | read path =>
        by_cases hwithin : (parse path).Within
        · simp [serve, Shelf.serve, LocalStorage.read, storage.resolve_of_within hwithin,
            checkPath_of_within hwithin, bind, Except.bind, Except.map, hrel,
            hrel (parse path) hwithin]
        · simp [serve, Shelf.serve, LocalStorage.read, storage.resolve_of_not_within hwithin,
            checkPath_of_not_within hwithin, bind, Except.bind, Except.map, hrel]

end Directory

section Buckets

variable (host : Host) (storage : SupabaseStorage)

/-- The buckets hold the files of the shelf, each where it is looked for. -/
def Buckets.Shows (b : Buckets) (shelf : Shelf) : Prop :=
  (∀ p : PosixPath, b.find p.text p.text = shelf p) ∧
    ∀ p : PosixPath, ¬ p.Within → shelf p = none

theorem Buckets.find_put_self (b : Buckets) (path : Text) (data : Option Bytes) :
    (b.put path path data).find path path = data := by
  by_cases hdoc : DocumentPath path
  · simp [put, find, hdoc]
  · simp [put, find, hdoc]

theorem Buckets.find_put_of_ne (b : Buckets) {path other : Text} (h : other ≠ path)
    (data : Option Bytes) : (b.put path path data).find other other = b.find other other := by
  by_cases hdoc : DocumentPath path
  · by_cases hother : DocumentPath other
    · simp [put, find, hdoc, hother, h]
    · simp [put, find, hdoc, hother]
  · by_cases hother : DocumentPath other
    · simp [put, find, hdoc, hother]
    · simp [put, find, hdoc, hother, h]

theorem Buckets.Shows.put {b : Buckets} {shelf : Shelf} (h : b.Shows shelf) {p : PosixPath}
    (data : Option Bytes) (hp : p.Within ∨ data = none) :
    (b.put p.text p.text data).Shows (Function.update shelf p data) := by
  constructor
  · intro q
    by_cases hqp : q = p
    · rw [hqp, b.find_put_self, Function.update_self]
    · rw [b.find_put_of_ne (fun heq => hqp (text_injective heq)), Function.update_of_ne hqp, h.1 q]
  · intro q hq
    by_cases hqp : q = p
    · subst hqp
      rw [Function.update_self]
      exact hp.resolve_left hq
    · rw [Function.update_of_ne hqp, h.2 q hq]

theorem SupabaseStorage.simulates :
    Simulates Buckets.Shows Call.Regular (storage.serve host)
      (Shelf.serve host storage.maxBytes) where
  step b shelf call hrel hregular := by
    cases call with
    | save s =>
        cases hprepare : s.prepare host storage.maxBytes with
        | error e =>
            simp [serve, Shelf.serve, SupabaseStorage.save, saved, hprepare, bind, Except.bind,
              hrel]
        | ok stored =>
            have hpath : stored.relativePath = (s.relative host).text := by
              simp only [Save.prepare, ensure_bind_eq_ok, Except.ok.injEq] at hprepare
              rw [← hprepare.2.2]
            have hkept := hrel.put (some s.data) (.inl (s.within_relative host hregular))
            simp [serve, Shelf.serve, SupabaseStorage.save, saved, hprepare, bind, Except.bind,
              hpath, hkept]
    | delete path =>
        have hpath : (parse path).text = path := hregular
        have hkept := hrel.put (p := parse path) none (.inr rfl)
        rw [hpath] at hkept
        by_cases hwithin : (parse path).Within
        · simp [serve, Shelf.serve, SupabaseStorage.delete, hwithin, hkept]
        · have hsame : Function.update shelf (parse path) none = shelf := by
            rw [← hrel.2 (parse path) hwithin, Function.update_eq_self]
          simpa [serve, Shelf.serve, SupabaseStorage.delete, hwithin, hsame] using hkept
    | read path =>
        have hpath : (parse path).text = path := hregular
        have hfound := hrel.1 (parse path)
        rw [hpath] at hfound
        by_cases hwithin : (parse path).Within
        · simp [serve, Shelf.serve, SupabaseStorage.read, checkPath_of_within hwithin, bind,
            Except.bind, Except.map, hpath, hfound, hrel]
        · simp [serve, Shelf.serve, SupabaseStorage.read, checkPath_of_not_within hwithin, bind,
            Except.bind, Except.map, hrel]

end Buckets

/-- Nothing is stored. -/
def Buckets.empty : Buckets := ⟨fun _ => none, fun _ => none⟩

namespace Sample

/-- A host that leaves names as they are. -/
def host : Host := ⟨id, fun _ => none, fun _ h => h⟩

def hexOf (c : Char) (h : '/' ≠ c) : Hex :=
  ⟨List.replicate 32 c, by simp, by simp [h]⟩

def report (hex : Hex) (data : Bytes) : Save :=
  ⟨"project-reports/7".toList, data, "july.pdf".toList, none, hex⟩

def first : Save := report (hexOf 'a' (by decide)) [1, 2, 3]

def second : Save := report (hexOf 'b' (by decide)) [4]

def directory : LocalStorage := ⟨"/srv/files".toList, 1024⟩

def firstPath : Text := (first.relative host).text

theorem within_namespace : (parse "project-reports/7".toList).Within := by decide

theorem regular : ∀ call ∈ [Call.save first, .read firstPath, .delete firstPath, .read firstPath],
    call.Regular := by
  intro call hcall
  simp only [List.mem_cons, List.not_mem_nil, or_false] at hcall
  rcases hcall with rfl | rfl | rfl | rfl
  · exact within_namespace
  · exact canonical_text _
  · exact canonical_text _
  · exact canonical_text _

end Sample

/-- A call that leaves the file of a save alone: another file is saved under another name. -/
def Call.Spares (host : Host) (s : Save) : Call → Prop
  | .save other => other.hex ≠ s.hex
  | .delete path => parse path ≠ s.relative host
  | .read _ => True

theorem Save.hex_eq_of_relative {host : Host} {s other : Save}
    (h : other.relative host = s.relative host) : other.hex = s.hex := by
  have hnames : other.storedName host = s.storedName host := by
    have hlast := congrArg (fun p : PosixPath => p.components.getLast?) h
    simpa [Save.components_relative] using hlast
  exact Subtype.ext (List.append_inj hnames (other.hex.2.1.trans s.hex.2.1.symm)).1

theorem Shelf.serve_of_spares {host : Host} {maxBytes : Nat} {s : Save} {call : Call}
    (h : call.Spares host s) (shelf : Shelf) :
    (Shelf.serve host maxBytes shelf call).1 (s.relative host) = shelf (s.relative host) := by
  cases call with
  | save other =>
      have hne : s.relative host ≠ other.relative host := fun heq =>
        h (Save.hex_eq_of_relative heq.symm)
      cases hprepare : other.prepare host maxBytes with
      | error e => simp [serve, saved, hprepare, bind, Except.bind]
      | ok stored => simp [serve, saved, hprepare, bind, Except.bind, hne]
  | delete path =>
      by_cases hwithin : (parse path).Within
      · simp [serve, hwithin, Function.update_of_ne (Ne.symm h)]
      · simp [serve, hwithin]
  | read path => rfl

theorem Shelf.after_of_spares {host : Host} {maxBytes : Nat} {s : Save} {calls : List Call}
    (h : ∀ call ∈ calls, call.Spares host s) (shelf : Shelf) :
    after (Shelf.serve host maxBytes) shelf calls (s.relative host) = shelf (s.relative host) := by
  induction calls generalizing shelf with
  | nil => rfl
  | cons call calls ih =>
      rw [after, List.foldl_cons, ← after,
        ih fun call hcall => h call (List.mem_cons_of_mem _ hcall),
        serve_of_spares (h call List.mem_cons_self)]

theorem LocalStorage.serve_outside {host : Host} {storage : LocalStorage} {q : PosixPath}
    (hq : ¬ (parse storage.root).Under q) {call : Call} (hcall : call.Contained) (files : Files) :
    (storage.serve host files call).1 q = files q := by
  have hne : ∀ p : PosixPath, p.Within → q ≠ storage.target p := fun p hp heq =>
    hq (heq ▸ storage.target_of_within hp ▸ under_append _ p)
  cases call with
  | save s =>
      have hwithin := s.within_relative host hcall
      cases hprepare : s.prepare host storage.maxBytes with
      | error e => simp [serve, LocalStorage.save, saved, hprepare, bind, Except.bind]
      | ok stored =>
          simp [serve, LocalStorage.save, saved, hprepare, bind, Except.bind, hne _ hwithin]
  | delete path =>
      by_cases hwithin : (parse path).Within
      · simp [serve, LocalStorage.delete, storage.resolve_of_within hwithin, hne _ hwithin]
      · simp [serve, LocalStorage.delete, storage.resolve_of_not_within hwithin]
  | read path => rfl

theorem LocalStorage.after_outside {host : Host} {storage : LocalStorage} {q : PosixPath}
    (hq : ¬ (parse storage.root).Under q) {calls : List Call}
    (hcalls : ∀ call ∈ calls, call.Contained) (files : Files) :
    after (storage.serve host) files calls q = files q := by
  induction calls generalizing files with
  | nil => rfl
  | cons call calls ih =>
      rw [after, List.foldl_cons, ← after,
        ih fun call hcall => hcalls call (List.mem_cons_of_mem _ hcall),
        serve_outside hq (hcalls call List.mem_cons_self)]

namespace Sample

def firstStored : StoredFile :=
  ⟨firstPath, "july.pdf".toList, "application/octet-stream".toList, 3⟩

theorem prepare_first : first.prepare host directory.maxBytes = .ok firstStored := by
  decide +kernel

theorem contained : ∀ call ∈ [Call.save second] ++ .save first ::
    [.delete "../secrets/key.txt".toList, .save second], call.Contained := by
  intro call hcall
  simp only [List.cons_append, List.nil_append, List.mem_cons, List.not_mem_nil, or_false] at hcall
  rcases hcall with rfl | rfl | rfl | rfl
  · exact within_namespace
  · exact within_namespace
  · trivial
  · exact within_namespace

theorem spares : ∀ call ∈ [Call.delete "../secrets/key.txt".toList, .save second],
    call.Spares host first := by
  intro call hcall
  simp only [List.mem_cons, List.not_mem_nil, or_false] at hcall
  rcases hcall with rfl | rfl
  · exact fun h => absurd (congrArg PosixPath.components h) (by decide +kernel)
  · exact fun h => absurd (congrArg Subtype.val h) (by decide)

end Sample

end Cestos.Storage
