import Cestos.Core.Sessions
import Cestos.Storage.Backends

/-!
# Moving documents to the private bucket

Older versions put documents into the public bucket. Every server that starts moves them, one
remote call after the other, while other servers start, save and delete. A remote call may raise,
also after its effect; a worker may stop at any time.
-/

namespace Cestos.Storage

open Cestos.Core

inductive RemoteCall
  | ready
  | download
  | upload
  | remove

inductive Fate
  | returns
  | raises (effective : Bool)
  deriving DecidableEq

inductive Task
  | migrate (path : Text)
  | save (path : Text) (data : Bytes)
  | delete (path : Text)

/-- How far `ensure_private` is. -/
inductive Phase
  | begun
  | downloaded (data : Bytes)
  | uploaded
  deriving DecidableEq

structure Worker where
  task : Task
  fate : RemoteCall → Fate
  phase : Phase

/-- The two buckets, and the paths whose `ensure_private` has returned. -/
structure Cloud where
  buckets : Buckets
  returned : List Text

/-- A remote call that writes: what it leaves, and what follows if it returns. -/
def remote (fate : Fate) (c effect : Cloud) (next : Cloud × Option Phase) :
    Cloud × Option Phase :=
  match fate with
  | .returns => next
  | .raises true => (effect, none)
  | .raises false => (c, none)

def Cloud.returns (c : Cloud) (path : Text) : Cloud := { c with returned := path :: c.returned }

def Cloud.putPublic (c : Cloud) (path : Text) (data : Option Bytes) : Cloud :=
  { c with buckets.publicObjects := Function.update c.buckets.publicObjects path data }

def Cloud.putPrivate (c : Cloud) (path : Text) (data : Option Bytes) : Cloud :=
  { c with buckets.privateObjects := Function.update c.buckets.privateObjects path data }

/-- An upload to the bucket of `bucket_for`, or a removal from it. -/
def Cloud.put (c : Cloud) (path : Text) (data : Option Bytes) : Cloud :=
  if DocumentPath path then c.putPrivate path data else c.putPublic path data

/-- The next part of `ensure_private`, and the phase after it unless it is over. -/
def ensurePrivate (c : Cloud) (path : Text) (fate : RemoteCall → Fate) :
    Phase → Cloud × Option Phase
  | .begun =>
      if ¬ DocumentPath path then (c.returns path, none)
      else if fate .ready ≠ .returns ∨ fate .download ≠ .returns then (c, none)
      else
        -- an object that is not there is the error 404, which is not raised again
        match c.buckets.publicObjects path with
        | none => (c.returns path, none)
        | some data => (c, some (.downloaded data))
  | .downloaded data =>
      remote (fate .upload) c (c.putPrivate path (some data))
        (c.putPrivate path (some data), some .uploaded)
  | .uploaded =>
      remote (fate .remove) c (c.putPublic path none) ((c.putPublic path none).returns path, none)

/-- The next remote call of a worker. -/
def work : Statement Cloud Worker := fun _ c w =>
  match w.task with
  | .migrate path =>
      some ((ensurePrivate c path w.fate w.phase).1,
        (ensurePrivate c path w.fate w.phase).2.map fun phase => { w with phase })
  | .save path data =>
      if DocumentPath path ∧ w.fate .ready ≠ .returns then some (c, none)
      else some ((remote (w.fate .upload) c (c.put path (some data))
        (c.put path (some data), none)).1, none)
  | .delete path =>
      if DocumentPath path ∧ w.fate .ready ≠ .returns then some (c, none)
      else some ((remote (w.fate .remove) c (c.put path none) (c.put path none, none)).1, none)

/-- A worker at its start that leaves a document alone, or saves it as it is. -/
def Worker.Leaves (p : Text) (d : Bytes) (w : Worker) : Prop :=
  w.phase = .begun ∧
    match w.task with
    | .migrate _ => True
    | .save path data => path = p → data = d
    | .delete path => path ≠ p

/-! ## One document -/

/-- All copies of a document are the same, and at least one is there. -/
structure Buckets.Keeps (b : Buckets) (p : Text) (d : Bytes) : Prop where
  publicCopy : b.publicObjects p = none ∨ b.publicObjects p = some d
  privateCopy : b.privateObjects p = none ∨ b.privateObjects p = some d
  stored : b.publicObjects p = some d ∨ b.privateObjects p = some d

/-- Documents only disappear from the public bucket. -/
def Buckets.Withdraws (first b : Buckets) : Prop :=
  ∀ q, DocumentPath q → b.publicObjects q = none ∨ b.publicObjects q = first.publicObjects q

structure Cloud.Sound (first : Buckets) (p : Text) (d : Bytes) (c : Cloud) : Prop where
  keeps : c.buckets.Keeps p d
  withdraws : first.Withdraws c.buckets
  /-- What `ensure_private` has returned for is no longer public. -/
  concealed : p ∈ c.returned → c.buckets.publicObjects p = none

/-- What a worker holds of the document, and that it has uploaded it. -/
def Worker.Sound (p : Text) (d : Bytes) (c : Cloud) (w : Worker) : Prop :=
  match w.task with
  | .migrate path => path = p →
      match w.phase with
      | .begun => True
      | .downloaded data => data = d
      | .uploaded => c.buckets.privateObjects p = some d
  | .save path data => path = p → data = d
  | .delete path => path ≠ p

variable {first : Buckets} {p : Text} {d : Bytes} {c : Cloud}

theorem Worker.Sound.of_private {w : Worker} {c' : Cloud} (h : w.Sound p d c)
    (hkept : c.buckets.privateObjects p = some d → c'.buckets.privateObjects p = some d) :
    w.Sound p d c' := by
  obtain ⟨task, fate, phase⟩ := w
  cases task with
  | migrate path =>
      cases phase with
      | begun => simp [Worker.Sound]
      | downloaded data => exact h
      | uploaded => exact fun hpath => hkept (h hpath)
  | save path data => exact h
  | delete path => exact h

namespace Cloud

/-- What a worker may do to the buckets. -/
structure Moves (p : Text) (d : Bytes) (c c' : Cloud) : Prop where
  publicObjects : ∀ q, DocumentPath q →
    c'.buckets.publicObjects q = none ∨ c'.buckets.publicObjects q = c.buckets.publicObjects q
  privateCopy : c'.buckets.privateObjects p = c.buckets.privateObjects p ∨
    c'.buckets.privateObjects p = some d
  /-- The public copy goes only when there is a private one. -/
  withdrawn : c'.buckets.publicObjects p = c.buckets.publicObjects p ∨
    c.buckets.privateObjects p = some d
  returned : p ∈ c'.returned → p ∈ c.returned ∨ c'.buckets.publicObjects p = none

theorem Moves.refl (c : Cloud) : Moves p d c c :=
  ⟨fun _ _ => .inr rfl, .inl rfl, .inl rfl, .inl⟩

theorem Moves.kept {c' : Cloud} (h : Moves p d c c')
    (hprivate : c.buckets.privateObjects p = some d) : c'.buckets.privateObjects p = some d := by
  cases h.privateCopy with
  | inl hsame => rw [hsame, hprivate]
  | inr hnew => exact hnew

theorem Sound.moves {c' : Cloud} (h : c.Sound first p d) (hp : DocumentPath p)
    (hmoves : Moves p d c c') : c'.Sound first p d := by
  constructor
  · constructor
    · cases hmoves.publicObjects p hp with
      | inl hnone => exact .inl hnone
      | inr hsame => rw [hsame]; exact h.keeps.publicCopy
    · cases hmoves.privateCopy with
      | inl hsame => rw [hsame]; exact h.keeps.privateCopy
      | inr hnew => exact .inr hnew
    · cases hmoves.withdrawn with
      | inr hprivate => exact .inr (hmoves.kept hprivate)
      | inl hsame =>
          cases h.keeps.stored with
          | inl hpublic => exact .inl (hsame.trans hpublic)
          | inr hprivate => exact .inr (hmoves.kept hprivate)
  · intro q hq
    cases hmoves.publicObjects q hq with
    | inl hnone => exact .inl hnone
    | inr hsame => rw [hsame]; exact h.withdraws q hq
  · intro hreturned
    cases hmoves.returned hreturned with
    | inr hnone => exact hnone
    | inl hbefore =>
        have hnone := h.concealed hbefore
        cases hmoves.publicObjects p hp with
        | inl hnone' => exact hnone'
        | inr hsame => rw [hsame, hnone]

theorem moves_putPrivate {path : Text} {data : Option Bytes} (h : path = p → data = some d) :
    Moves p d c (c.putPrivate path data) := by
  refine ⟨fun _ _ => .inr rfl, ?_, .inl rfl, .inl⟩
  by_cases hpath : path = p
  · simp [putPrivate, ← hpath, h hpath]
  · simp [putPrivate, Function.update_of_ne (Ne.symm hpath)]

/-- The public copy of a path is removed, once the private one is there. -/
theorem moves_removePublic {path : Text}
    (h : path = p → c.buckets.privateObjects p = some d) : Moves p d c (c.putPublic path none) := by
  refine ⟨fun q _ => ?_, .inl rfl, ?_, .inl⟩
  · by_cases hq : q = path
    · simp [putPublic, hq]
    · simp [putPublic, Function.update_of_ne hq]
  · by_cases hpath : path = p
    · exact .inr (h hpath)
    · simp [putPublic, Function.update_of_ne (Ne.symm hpath)]

theorem moves_putPublic {path : Text} {data : Option Bytes} (hpath : ¬ DocumentPath path)
    (hp : DocumentPath p) : Moves p d c (c.putPublic path data) := by
  have hother : ∀ q, DocumentPath q → q ≠ path := by
    intro q hq heq
    exact hpath (heq ▸ hq)
  refine ⟨fun q hq => .inr ?_, .inl rfl, .inl ?_, .inl⟩
  · simp [putPublic, Function.update_of_ne (hother q hq)]
  · simp [putPublic, Function.update_of_ne (hother p hp)]

theorem moves_put {path : Text} {data : Option Bytes} (hp : DocumentPath p)
    (h : path = p → data = some d) : Moves p d c (c.put path data) := by
  unfold put
  split
  · exact moves_putPrivate h
  · next hpath => exact moves_putPublic hpath hp

theorem Moves.returns {c' : Cloud} {path : Text} (h : Moves p d c c')
    (hpath : path = p → c'.buckets.publicObjects p = none) : Moves p d c (c'.returns path) := by
  refine ⟨h.publicObjects, h.privateCopy, h.withdrawn, fun hmem => ?_⟩
  cases hmem with
  | head => exact .inr (hpath rfl)
  | tail _ hmem => exact h.returned hmem

end Cloud

open Cloud

theorem moves_remote {fate : Fate} {effect : Cloud} {next : Cloud × Option Phase}
    (heffect : Moves p d c effect) (hnext : Moves p d c next.1) :
    Moves p d c (remote fate c effect next).1 := by
  unfold remote
  split
  · exact hnext
  · exact heffect
  · exact .refl c

variable (first) in
theorem ensurePrivate_spec {path : Text} {fate : RemoteCall → Fate} {phase : Phase}
    (hp : DocumentPath p) (h : c.Sound first p d)
    (hworker : (Worker.mk (.migrate path) fate phase).Sound p d c) :
    Moves p d c (ensurePrivate c path fate phase).1 ∧
      ∀ phase' ∈ (ensurePrivate c path fate phase).2,
        (Worker.mk (.migrate path) fate phase').Sound p d (ensurePrivate c path fate phase).1 := by
  cases phase with
  | begun =>
      unfold ensurePrivate
      dsimp only
      split
      · next hpath =>
        exact ⟨(Moves.refl c).returns fun heq => absurd (heq ▸ hp) hpath, by simp⟩
      · split
        · exact ⟨.refl c, by simp⟩
        · split
          · next hnone => exact ⟨(Moves.refl c).returns fun heq => heq ▸ hnone, by simp⟩
          · next data hdata =>
            refine ⟨.refl c, fun phase' hphase heq => ?_⟩
            obtain rfl := Option.some.inj hphase
            have hcopy := h.keeps.publicCopy
            rw [← heq, hdata] at hcopy
            simpa using hcopy
  | downloaded data =>
      have hput : Moves p d c (c.putPrivate path (some data)) :=
        moves_putPrivate fun heq => by rw [hworker heq]
      refine ⟨moves_remote hput hput, fun phase' hphase heq => ?_⟩
      cases hfate : fate .upload with
      | raises effective => cases effective <;> simp [ensurePrivate, remote, hfate] at hphase
      | returns =>
          obtain rfl : data = d := hworker heq
          obtain rfl : Phase.uploaded = phase' := by
            simpa [ensurePrivate, remote, hfate] using hphase
          simp [ensurePrivate, remote, hfate, putPrivate, heq]
  | uploaded =>
      have hremove : Moves p d c (c.putPublic path none) := moves_removePublic hworker
      refine ⟨moves_remote hremove (hremove.returns fun heq => ?_), fun phase' hphase => ?_⟩
      · simp [putPublic, heq]
      · cases hfate : fate .remove with
        | returns => simp [ensurePrivate, remote, hfate] at hphase
        | raises effective => cases effective <;> simp [ensurePrivate, remote, hfate] at hphase

theorem work_keeps {others : List Worker} {w : Worker} {c' : Cloud} {next : Option Worker}
    (hp : DocumentPath p) (hcloud : c.Sound first p d) (hworker : w.Sound p d c)
    (hothers : ∀ u ∈ others, u.Sound p d c) (h : work others c w = some (c', next)) :
    Sessions.Keeps (Cloud.Sound first p d) (Worker.Sound p d) (fun _ _ => True) others c' next := by
  have hmoved : Moves p d c c' → (∀ t ∈ next, t.Sound p d c') →
      Sessions.Keeps (Cloud.Sound first p d) (Worker.Sound p d) (fun _ _ => True) others c' next :=
    fun hmoves hnext => ⟨hcloud.moves hp hmoves, hnext,
      fun u hu => (hothers u hu).of_private hmoves.kept, fun _ _ _ _ => trivial⟩
  obtain ⟨task, fate, phase⟩ := w
  cases task with
  | migrate path =>
      obtain ⟨hmoves, hnext⟩ := ensurePrivate_spec first hp hcloud hworker
      obtain ⟨rfl, rfl⟩ := Prod.mk.inj (Option.some.inj h)
      apply hmoved hmoves
      intro t ht
      obtain ⟨phase', hphase, rfl⟩ := Option.map_eq_some_iff.1 ht
      exact hnext phase' hphase
  | save path data =>
      unfold work at h
      dsimp only at h
      have hput : Moves p d c (c.put path (some data)) :=
        moves_put hp fun heq => by rw [hworker heq]
      split at h
      · obtain ⟨rfl, rfl⟩ := Prod.mk.inj (Option.some.inj h)
        exact hmoved (.refl c) (by simp)
      · obtain ⟨rfl, rfl⟩ := Prod.mk.inj (Option.some.inj h)
        exact hmoved (moves_remote hput hput) (by simp)
  | delete path =>
      unfold work at h
      dsimp only at h
      have hput : Moves p d c (c.put path none) := moves_put hp fun heq => absurd heq hworker
      split at h
      · obtain ⟨rfl, rfl⟩ := Prod.mk.inj (Option.some.inj h)
        exact hmoved (.refl c) (by simp)
      · obtain ⟨rfl, rfl⟩ := Prod.mk.inj (Option.some.inj h)
        exact hmoved (moves_remote hput hput) (by simp)

/-! ## Every interleaving -/

/-- Where workers that leave a document alone, or save it as it is, lead. -/
def Migrations (first : Buckets) (p : Text) (d : Bytes) : Sessions Cloud Worker → Prop :=
  Sessions.Interleaved (Worker.Leaves p d) work (fun _ _ _ => True) (· = ⟨first, []⟩)

theorem Migrations.holds {s : Sessions Cloud Worker} (h : Migrations first p d s)
    (hp : DocumentPath p) (hfirst : first.Keeps p d) :
    Sessions.Holds (Cloud.Sound first p d) (Worker.Sound p d) (fun _ _ => True) s := by
  apply Sessions.Interleaved.holds h (fun _ _ _ => trivial)
  · intro c hc
    subst hc
    exact ⟨hfirst, fun _ _ => .inr rfl, by simp⟩
  · intro c w hbegins _
    refine ⟨?_, fun _ => trivial⟩
    obtain ⟨task, fate, phase⟩ := w
    obtain ⟨rfl, htask⟩ := hbegins
    cases task with
    | migrate path => simp [Worker.Sound]
    | save path data => exact htask
    | delete path => exact htask
  · intro others c w c' next hcloud hworker hothers _ _ hwork
    exact work_keeps hp hcloud hworker (fun u hu => (hothers u hu).1) hwork

/-- However migrations, saves and deletes of other files interleave and fail: a document keeps a
copy, no copy differs from it, after a migration that has returned the private bucket has it and
the public one has not, and the public bucket never gets a document that it did not hold. -/
theorem migration_private {s : Sessions Cloud Worker} (h : Migrations first p d s)
    (hp : DocumentPath p) (hfirst : first.Keeps p d) :
    s.db.buckets.Keeps p d ∧
      (p ∈ s.db.returned →
        s.db.buckets.privateObjects p = some d ∧ s.db.buckets.publicObjects p = none) ∧
      first.Withdraws s.db.buckets := by
  have hcloud := (h.holds hp hfirst).database
  refine ⟨hcloud.keeps, fun hreturned => ?_, hcloud.withdraws⟩
  have hnone := hcloud.concealed hreturned
  have hstored := hcloud.keeps.stored
  rw [hnone] at hstored
  simp only [reduceCtorEq, false_or] at hstored
  exact ⟨hstored, hnone⟩

namespace Sample

def contractPath : Text := "documents/c1.pdf".toList

/-- A contract that is still public. -/
def published : Buckets := ⟨fun path => if path = contractPath then some [7] else none, fun _ => none⟩

theorem published_keeps : published.Keeps contractPath [7] :=
  ⟨.inr (by decide), .inl rfl, .inl (by decide)⟩

/-- The worker of a server that starts. -/
def starting (fate : RemoteCall → Fate) : Worker := ⟨.migrate contractPath, fate, .begun⟩

def removeRaises : RemoteCall → Fate
  | .remove => .raises true
  | _ => .returns

end Sample

instance (w : Worker) (p : Text) (d : Bytes) : Decidable (w.Leaves p d) :=
  match w with
  | ⟨.migrate _, _, _⟩ => inferInstanceAs (Decidable (_ ∧ True))
  | ⟨.save _ _, _, _⟩ => inferInstanceAs (Decidable (_ ∧ (_ → _)))
  | ⟨.delete _, _, _⟩ => inferInstanceAs (Decidable (_ ∧ _ ≠ _))

/-- Two servers start at once; the removal of the first raises, the second returns. -/
theorem migration_private_twice : ∃ s : Sessions Cloud Worker,
    Sample.contractPath ∈ s.db.returned ∧ s.db.buckets.Keeps Sample.contractPath [7] ∧
      s.db.buckets.privateObjects Sample.contractPath = some [7] := by
  obtain ⟨s, hs, hreturned⟩ := Sessions.Interleaved.of_play (Worker.Leaves Sample.contractPath [7])
    work (fun _ _ _ => True) (· = ⟨Sample.published, []⟩) ⟨Sample.published, []⟩
    [.begins (Sample.starting Sample.removeRaises), .begins (Sample.starting fun _ => .returns),
      .acts 0, .acts 0, .acts 1, .acts 0, .acts 0, .acts 0]
    (p := fun s => Sample.contractPath ∈ s.db.returned) rfl (by decide +kernel)
  simp only [decide_eq_true_eq] at hreturned
  have hall := migration_private hs (by decide) Sample.published_keeps
  exact ⟨s, hreturned, hall.1, (hall.2.1 hreturned).1⟩

end Cestos.Storage
