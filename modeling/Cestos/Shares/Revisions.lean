import Cestos.Shares.Links

/-!
# Revisions of a link

An accepted update is made against the revision that the link has when it gets the row, by an
account that may edit, while the link is not revoked. So the revisions count up one by one, and the
history of a link is what it was before, as far back as five revisions. Whether a link has expired
is asked of the clock that was read before the row was waited for.
-/

namespace Cestos.Shares

open Cestos.Core Cestos.Core.Json

variable {env : LinkEnv} {db db' : Database} {events : List Event} {response : Response}

/-- The link that has changed. -/
def Event.link : Event → Id
  | .created row => row.id
  | .revoked identifier => identifier
  | .updated u => u.after.id

/-- The contents of a link with their revisions, the last first. -/
def versions (id : Id) : List Event → List (Nat × PublicWorkbook)
  | [] => []
  | .created row :: events =>
    if row.id = id then [(row.revision, row.workbook)] else versions id events
  | .updated u :: events =>
    if u.after.id = id then (u.after.revision, u.after.workbook) :: versions id events
    else versions id events
  | .revoked _ :: events => versions id events

/-- What a link is after the events: the last of the versions, whose revisions count up from one,
with the five before it. -/
structure WorkbookShare.Recorded (events : List Event) (row : WorkbookShare) : Prop where
  created : ∃ first, .created first ∈ events ∧ first.toLink = row.toLink
  current : (versions row.id events).head? = some (row.revision, row.workbook)
  revisions : (versions row.id events).map (·.1) = (List.range' 1 row.revision).reverse
  history : row.history = (versions row.id events).tail.take 5
  revoked : row.revoked = true ↔ .revoked row.id ∈ events

/-- An update that was accepted after the events. -/
structure Update.Sound (env : LinkEnv) (events : List Event) (u : Update) : Prop where
  found : u.before.Recorded events
  submitted : u.payload.revision = u.before.revision
  raised : u.after.revision = u.before.revision + 1
  same : u.after.toLink = u.before.toLink
  contents : cleanWorkbook env.toEnv u.payload.workbook = .ok u.after.workbook
  editor : u.before.CanEdit u.actor
  unrevoked : .revoked u.before.id ∉ events
  unexpired : u.began < u.before.expiresAt

structure Database.Recorded (env : LinkEnv) (db : Database) : Prop where
  rows : ∀ row ∈ db.shares.rows, row.Recorded db.events
  known : ∀ id, .revoked id ∈ db.events → ∃ row ∈ db.shares.rows, row.id = id
  updates : ∀ u events, .updated u :: events <:+ db.events → u.Sound env events

/-! ## Requests -/

theorem create_spec {now : Instant} {actor : User} {payload : ShareCreate} {id : Id} {token : String}
    (h : create env db now actor payload id token = .ok (db', response)) :
    ∃ row shares, row.revision = 1 ∧ row.history = [] ∧ row.revoked = false ∧
      db.shares.insert? row = some shares ∧
      db' = { db with shares, events := .created row :: db.events } := by
  simp only [create, bind_eq_ok, orError_eq_ok] at h
  obtain ⟨book, -, editors, -, -, -, shares, hshares, hdb⟩ := h
  exact ⟨_, shares, rfl, rfl, rfl, hshares, (Prod.mk.inj (Except.ok.inj hdb)).1.symm⟩

theorem revoke_spec {actor : User} {identifier : Id}
    (h : revoke db actor identifier = .ok (db', response)) :
    ∃ row ∈ db.shares.rows, db' = { db with
      shares := db.shares.set { row with revoked := true }
      events := .revoked row.id :: db.events } := by
  simp only [revoke, bind_eq_ok, orError_eq_ok] at h
  obtain ⟨row, hrow, hdb⟩ := h
  exact ⟨row, List.mem_of_find?_eq_some hrow, (Prod.mk.inj (Except.ok.inj hdb)).1.symm⟩

theorem update_spec {now : Instant} {actor : User} {token : String} {payload : ShareUpdate}
    (h : update env db now actor token payload = .ok (db', response)) :
    ∃ row ∈ db.shares.rows, ∃ book, row.revoked = false ∧ now < row.expiresAt ∧
      row.CanEdit actor ∧ payload.revision = row.revision ∧
      cleanWorkbook env.toEnv payload.workbook = .ok book ∧ db' = { db with
        shares := db.shares.set (row.save book)
        events := .updated ⟨now, actor, payload, row, row.save book⟩ :: db.events } := by
  simp only [update, lookup, bind_eq_ok, orError_eq_ok, ensure_eq_ok] at h
  obtain ⟨row, ⟨-, -, hrow⟩, -, heditor, -, hrevision, book, hbook, -, -, hdb⟩ := h
  have hfound := List.find?_some hrow
  simp only [decide_eq_true_eq] at hfound
  exact ⟨row, List.mem_of_find?_eq_some hrow, book, hfound.2.1, hfound.2.2, heditor,
    hrevision.symm, hbook, (Prod.mk.inj (Except.ok.inj hdb)).1.symm⟩

/-! ## What is recorded -/

theorem versions_cons_ne {e : Event} {id : Id} (h : e.link ≠ id) :
    versions id (e :: events) = versions id events := by
  cases e with
  | created row => exact if_neg h
  | revoked identifier => rfl
  | updated u => exact if_neg h

theorem WorkbookShare.Recorded.cons_ne {row : WorkbookShare} (h : row.Recorded events) {e : Event}
    (hne : e.link ≠ row.id) : row.Recorded (e :: events) := by
  have hversions : versions row.id (e :: events) = versions row.id events := versions_cons_ne hne
  refine ⟨?_, ?_, ?_, ?_, ?_⟩
  · obtain ⟨first, hfirst, hsame⟩ := h.created
    exact ⟨first, List.mem_cons_of_mem e hfirst, hsame⟩
  · rw [hversions, h.current]
  · rw [hversions, h.revisions]
  · rw [hversions, ← h.history]
  · rw [h.revoked, List.mem_cons]
    refine ⟨.inr, fun hin => hin.resolve_left fun heq => hne ?_⟩
    rw [← heq]
    rfl

/-- The events before an update are those before it in the longer list as well. -/
theorem updates_cons {e : Event} {u : Update} (h : .updated u :: events <:+ e :: db.events)
    (hold : .updated u :: events <:+ db.events → u.Sound env events)
    (hnew : e = .updated u → u.Sound env db.events) : u.Sound env events := by
  rcases List.suffix_cons_iff.1 h with heq | hsuffix
  · obtain ⟨rfl, rfl⟩ := List.cons.inj heq
    exact hnew rfl
  · exact hold hsuffix

theorem Database.Recorded.create {row : WorkbookShare} {shares : Table fun row : WorkbookShare => row.id}
    (h : db.Recorded env) (hrevision : row.revision = 1) (hhistory : row.history = [])
    (hrevoked : row.revoked = false) (hinsert : db.shares.insert? row = some shares) :
    Database.Recorded env { db with shares, events := .created row :: db.events } where
  rows r hr := by
    rcases (Table.mem_insert? hinsert).1 hr with hold | rfl
    · exact (h.rows r hold).cons_ne (Table.insert?_fresh hinsert hold).symm
    · have hversions : versions r.id (.created r :: db.events) = [(r.revision, r.workbook)] :=
        if_pos rfl
      refine ⟨⟨r, List.mem_cons_self, rfl⟩, ?_, ?_, ?_, ?_⟩
      · rw [hversions]
        rfl
      · rw [hversions, hrevision]
        rfl
      · rw [hversions, hhistory]
        rfl
      · rw [hrevoked]
        refine ⟨fun hfalse => (Bool.false_ne_true hfalse).elim, fun hin => ?_⟩
        obtain ⟨other, hother, hid⟩ := h.known r.id ((List.mem_cons.1 hin).resolve_left nofun)
        have hfresh := Table.insert?_fresh hinsert hother
        exact absurd hid hfresh
  known id hin := by
    obtain ⟨r, hr, hid⟩ := h.known id ((List.mem_cons.1 hin).resolve_left nofun)
    exact ⟨r, (Table.mem_insert? hinsert).2 (.inl hr), hid⟩
  updates u events hsuffix := updates_cons hsuffix (h.updates u events) nofun

theorem exists_mem_set (row : WorkbookShare) {id : Id} (h : ∃ r ∈ db.shares.rows, r.id = id) :
    ∃ r ∈ (db.shares.set row).rows, r.id = id := by
  have hkeys := Table.set_keys db.shares row
  obtain ⟨r, hr, rfl⟩ := h
  have hin : r.id ∈ (db.shares.set row).rows.map fun r => r.id :=
    hkeys ▸ List.mem_map_of_mem hr
  exact List.mem_map.1 hin

theorem Database.Recorded.revoke {row : WorkbookShare} (h : db.Recorded env)
    (hrow : row ∈ db.shares.rows) : Database.Recorded env { db with
      shares := db.shares.set { row with revoked := true }
      events := .revoked row.id :: db.events } where
  rows r hr := by
    rcases Table.mem_set.1 hr with ⟨hold, hne⟩ | ⟨rfl, -⟩
    · exact (h.rows r hold).cons_ne (Ne.symm hne)
    · have hbefore := h.rows row hrow
      obtain ⟨first, hfirst, hsame⟩ := hbefore.created
      exact ⟨⟨first, List.mem_cons_of_mem _ hfirst, hsame⟩, hbefore.current, hbefore.revisions,
        hbefore.history, ⟨fun _ => List.mem_cons_self, fun _ => rfl⟩⟩
  known id hin := by
    refine exists_mem_set _ ?_
    rcases List.mem_cons.1 hin with heq | hold
    · obtain rfl := Event.revoked.inj heq
      exact ⟨row, hrow, rfl⟩
    · exact h.known id hold
  updates u events hsuffix := updates_cons hsuffix (h.updates u events) nofun

/-- The contents that were replaced are the first of the history. -/
theorem WorkbookShare.Recorded.save {row : WorkbookShare} (h : row.Recorded events) {u : Update}
    {book : PublicWorkbook} (hafter : u.after = row.save book) :
    (row.save book).Recorded (.updated u :: events) := by
  have hid : u.after.id = row.id := by rw [hafter]; rfl
  have hversions : versions row.id (.updated u :: events) =
      (row.revision + 1, book) :: versions row.id events := by
    rw [versions, if_pos hid, hafter]
    rfl
  obtain ⟨first, hfirst, hsame⟩ := h.created
  refine ⟨⟨first, List.mem_cons_of_mem _ hfirst, hsame⟩, ?_, ?_, ?_, ?_⟩
  · show (versions row.id _).head? = _
    rw [hversions]
    rfl
  · show (versions row.id _).map (·.1) = (List.range' 1 (row.revision + 1)).reverse
    rw [hversions, List.map_cons, h.revisions, List.range'_1_concat, List.reverse_append,
      Nat.add_comm 1 row.revision]
    rfl
  · have hlast : versions row.id events =
        (row.revision, row.workbook) :: (versions row.id events).tail := by
      rw [List.cons_head?_tail h.current]
    show ((row.revision, row.workbook) :: row.history).take 5 = (versions row.id _).tail.take 5
    rw [hversions, List.tail_cons, hlast, List.take_succ_cons, List.take_succ_cons, h.history,
      List.take_take]
    rfl
  · show row.revoked = true ↔ .revoked row.id ∈ Event.updated u :: events
    rw [h.revoked, List.mem_cons]
    exact ⟨.inr, fun hin => hin.resolve_left nofun⟩

theorem Database.Recorded.update {row : WorkbookShare} {u : Update} {book : PublicWorkbook}
    (h : db.Recorded env) (hrow : row ∈ db.shares.rows) (hafter : u.after = row.save book)
    (hu : u.Sound env db.events) : Database.Recorded env { db with
      shares := db.shares.set (row.save book)
      events := .updated u :: db.events } where
  rows r hr := by
    rcases Table.mem_set.1 hr with ⟨hold, hne⟩ | ⟨rfl, -⟩
    · refine (h.rows r hold).cons_ne ?_
      show u.after.id ≠ r.id
      rw [hafter]
      exact Ne.symm hne
    · exact (h.rows row hrow).save hafter
  known id hin :=
    exists_mem_set _ (h.known id ((List.mem_cons.1 hin).resolve_left nofun))
  updates u' events hsuffix := by
    refine updates_cons hsuffix (h.updates u' events) fun heq => ?_
    obtain rfl := Event.updated.inj heq
    exact hu

theorem Database.Recorded.serve (h : db.Recorded env) (r : Request) :
    (serve env db r).Recorded env := by
  unfold Shares.serve
  split
  · next db' response hok =>
    cases r with
    | create began actor payload id token =>
        obtain ⟨row, shares, hrevision, hhistory, hrevoked, hinsert, rfl⟩ := create_spec hok
        exact h.create hrevision hhistory hrevoked hinsert
    | revoke began actor identifier =>
        obtain ⟨row, hrow, rfl⟩ := revoke_spec hok
        exact h.revoke hrow
    | update began actor token payload =>
        obtain ⟨row, hrow, book, hrevoked, hexpiry, heditor, hrevision, hbook, rfl⟩ :=
          update_spec hok
        have hfound := h.rows row hrow
        refine h.update hrow rfl ⟨hfound, hrevision, rfl, rfl, hbook, heditor, ?_, hexpiry⟩
        rw [← hfound.revoked, hrevoked]
        exact Bool.false_ne_true
  · exact h

/-- In whatever order requests get the rows of the links, each link is as recorded, and each
accepted update is sound where it was accepted. -/
theorem accepted_updates {users : List User} {s : Service Database Request}
    (h : Interleaved env users s) :
    (∀ row ∈ s.state.shares.rows, row.Recorded s.state.events) ∧
      ∀ u events, .updated u :: events <:+ s.state.events → u.Sound env events := by
  have hinit : Database.Recorded env ⟨users, .empty, []⟩ :=
    ⟨nofun, nofun, fun u events hsuffix => by cases List.suffix_nil.1 hsuffix⟩
  have hrecorded : s.state.Recorded env := h.invariant hinit fun db r hdb _ => hdb.serve r
  exact ⟨hrecorded.rows, hrecorded.updates⟩

namespace Sample

def links : LinkEnv where
  toEnv := ascii
  digest := id
  lowerColumn := ascii.lower

def owner : User := ⟨1, 7, "owner@example", true, none⟩

def editor : User := ⟨2, 7, "Editor@example", true, none⟩

def token : String := String.ofList (List.replicate 43 't')

def book : Members := workbook [("id", .str "s2")] []

/-- The owner shares a workbook with the editor for a day. -/
def share : Request :=
  .create 0 owner ⟨book, [" EDITOR@example"], 1, by decide, by decide⟩ 5 token

def edit (began : Instant) (actor : User) (revision : Nat) (h : 1 ≤ revision) : Request :=
  .update began actor token ⟨book, revision, h⟩

end Sample

/-- Two updates are made against the first revision, and one of them gets the row after the other.
A third waits while the link is revoked. -/
theorem accepted_updates_race : ∃ s : Service Database Request,
    s.state.shares.rows.map (fun row => (row.revision, row.history.map (·.1), row.revoked)) =
        [(2, [1], true)] ∧ s.state.events.length = 3 ∧
      (∀ row ∈ s.state.shares.rows, row.Recorded s.state.events) ∧
      ∀ u events, .updated u :: events <:+ s.state.events → u.Sound Sample.links events := by
  have hinit : Interleaved Sample.links [Sample.owner, Sample.editor] _ := .refl
  have hshared := (hinit.begins Sample.share (Nat.le_refl 0)).serves trivial
  have hwaiting := (hshared.begins (Sample.edit 50 Sample.editor 1 (by decide)) (by decide)).begins
    (Sample.edit 60 Sample.owner 1 (by decide)) (by decide)
  have hupdated := (hwaiting.serves trivial).serves trivial
  have hlate := (hupdated.begins (Sample.edit 70 Sample.editor 2 (by decide)) (by decide)).begins
    (.revoke 80 Sample.owner 5) (by decide)
  have hend := (hlate.serves trivial).serves trivial
  refine ⟨_, ?_, ?_, accepted_updates hend⟩
  · decide +kernel
  · decide +kernel

/-- An update reads the clock in time, gets the row when the link has expired, and is accepted. -/
theorem accepted_expired : ∃ (s : Service Database Request) (r : Request) (u : Update),
    Interleaved Sample.links [Sample.owner, Sample.editor] s ∧ r ∈ s.waiting ∧
      (serve Sample.links s.state r).events = .updated u :: s.state.events ∧
      u.before.expiresAt ≤ s.clock := by
  have hinit : Interleaved Sample.links [Sample.owner, Sample.editor] _ := .refl
  have hshared := (hinit.begins Sample.share (Nat.le_refl 0)).serves trivial
  have hwaiting := hshared.begins (Sample.edit 86399 Sample.editor 1 (by decide)) (by decide)
  have hexpired := hwaiting.wait (Nat.le_succ 86399)
  have hexpires : ∀ row ∈ (serve Sample.links ⟨[Sample.owner, Sample.editor], .empty, []⟩
      Sample.share).shares.rows, row.expiresAt ≤ 86400 := by decide +kernel
  have haccepted : (update Sample.links (serve Sample.links
      ⟨[Sample.owner, Sample.editor], .empty, []⟩ Sample.share) 86399 Sample.editor Sample.token
      ⟨Sample.book, 1, by decide⟩).isOk = true := by decide +kernel
  obtain ⟨⟨db, response⟩, hok⟩ := isOk_iff.1 haccepted
  obtain ⟨row, hrow, book, -, -, -, -, -, rfl⟩ := update_spec hok
  refine ⟨_, _, ⟨86399, Sample.editor, ⟨Sample.book, 1, by decide⟩, row, row.save book⟩, hexpired,
    List.mem_cons_self, ?_, hexpires row hrow⟩
  rw [Sample.edit, serve, handle, hok]

end Cestos.Shares
