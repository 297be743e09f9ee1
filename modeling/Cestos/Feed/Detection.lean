import Cestos.Core.Lookup
import Cestos.Feed.Changes

/-!
# What the feed detects

The transaction that writes a row holds the raised revision until it commits, and revisions only
rise. So a revision that stays the same speaks for the rows of its table and organization, if the
table has the trigger.
-/

namespace Cestos.Feed

open Cestos.Core

/-! ## Reading -/

/-- A client reads the revision of a table as the feed has it. -/
theorem Database.lookup_getDataChanges (db : Database) (organizationId : Id) (table : String) :
    (db.getDataChanges organizationId).lookup table =
      (db.feed.find? (organizationId, table)).map (·.revision) := by
  have hperm := List.mergeSort_perm
    (db.feed.rows.filter fun c => c.organizationId = organizationId)
    (fun c d => decide (c.tableName ≤ d.tableName))
  have hmem : ∀ c, c ∈ (db.feed.rows.filter fun c => c.organizationId = organizationId).mergeSort
      (fun c d => decide (c.tableName ≤ d.tableName)) ↔
      c ∈ db.feed.rows ∧ c.organizationId = organizationId := by
    intro c
    rw [hperm.mem_iff, List.mem_filter, decide_eq_true_eq]
  have hnodup : ((db.getDataChanges organizationId).map Prod.fst).Nodup := by
    have hnames : ((db.feed.rows.filter fun c => c.organizationId = organizationId).map
        (·.tableName)).Nodup := by
      have hkeys := db.feed.nodup.sublist
        ((List.filter_sublist (p := fun c => c.organizationId = organizationId)).map _)
      refine List.Nodup.of_map (fun name => (organizationId, name)) ?_
      rw [List.map_map]
      rw [List.map_congr_left (g := DataChange.key)]
      · exact hkeys
      · intro c hc
        have horg := (List.mem_filter.1 hc).2
        rw [decide_eq_true_eq] at horg
        simp [DataChange.key, horg]
    rw [Database.getDataChanges, List.map_map]
    exact (hperm.map _).nodup_iff.2 hnames
  refine Option.ext fun revision => ?_
  rw [lookup_eq_some_iff hnodup, Option.map_eq_some_iff, Database.getDataChanges, List.mem_map]
  constructor
  · rintro ⟨c, hc, heq⟩
    obtain ⟨rfl, rfl⟩ := Prod.mk.inj heq
    obtain ⟨hrow, rfl⟩ := (hmem c).1 hc
    exact ⟨c, Table.find?_of_mem hrow, rfl⟩
  · rintro ⟨c, hc, rfl⟩
    obtain ⟨hrow, hkey⟩ := Table.find?_eq_some.1 hc
    obtain ⟨horg, hname⟩ := Prod.mk.inj hkey
    exact ⟨c, (hmem c).2 ⟨hrow, horg⟩, by rw [hname]⟩

/-! ## Schema -/

/-- After the repair every table with an `organization_id` but the feed has the trigger; the only
table since then is that of the shares. -/
theorem upgrade_tracks {earlier : List Migration} {table : String}
    (h : (upgrade earlier).HasOrganizationId table) (hfeed : table ≠ feedTable)
    (hshares : table ≠ "workbook_shares") : (upgrade earlier).Tracks table := by
  obtain ⟨t, ht, rfl, horg⟩ := h
  rw [upgrade, latest, List.foldl_append] at ht ⊢
  generalize earlier.foldl Schema.migrate [] = s at ht ⊢
  simp only [List.foldl_cons, List.foldl_nil, Schema.migrate] at ht ⊢
  have hold : ∀ {u : TableInfo}, u ∈ s.trackAll.trackAll →
      u ∈ s.trackAll.trackAll.createTable "workbook_shares" true := by
    intro u hu
    unfold Schema.createTable
    split
    · exact hu
    · exact List.mem_append_left _ hu
  have ht' : t ∈ s.trackAll.trackAll := by
    unfold Schema.createTable at ht
    split at ht
    · exact ht
    · rcases List.mem_append.1 ht with hin | hnew
      · exact hin
      · rw [List.mem_singleton] at hnew
        exact absurd (congrArg TableInfo.name hnew) hshares
  refine ⟨t, hold ht', rfl, ?_⟩
  obtain ⟨u, -, rfl⟩ := List.mem_map.1 ht'
  unfold TableInfo.track at horg hfeed ⊢
  split
  · rfl
  · next hnot =>
    rw [if_neg hnot] at horg hfeed
    exact absurd ⟨horg, hfeed⟩ hnot

/-! ## Transactions -/

def Database.revision (db : Database) (key : Key) : Nat :=
  (db.feed.find? key).elim 0 (·.revision)

/-- A transaction has raised, and holds, the revisions of what it has written to tables with the
trigger. -/
structure Work.Sound (db : Database) (w : Work) : Prop where
  held : ∀ c ∈ w.changes, c.key ∈ w.held
  later : ∀ key, ∀ c ∈ w.change? key, db.revision key < c.revision
  written : ∀ row ∈ w.written, row.table ≠ feedTable → db.schema.Tracks row.table →
    ∀ organizationId ∈ row.organizations, (w.change? (organizationId, row.table)).isSome = true

/-- The trigger has raised what is no longer to be raised. -/
def Work.Knows (w : Work) : Stage → Prop
  | .write _ => True
  | .track row left => ∀ organizationId ∈ row.organizations, organizationId ∉ left →
      (w.change? (organizationId, row.table)).isSome = true

/-- What has happened since: revisions have risen, those of the rows that were committed did. -/
structure Database.Since (db₀ db : Database) : Prop where
  schema : db.schema = db₀.schema
  le : ∀ key, db₀.revision key ≤ db.revision key
  committed : ∃ more, db.committed = db₀.committed ++ more ∧
    ∀ rows ∈ more, ∀ row ∈ rows, row.table ≠ feedTable → db.schema.Tracks row.table →
      ∀ organizationId ∈ row.organizations,
        db₀.revision (organizationId, row.table) < db.revision (organizationId, row.table)

variable {db db₀ : Database} {w v : Work}

theorem RowWrite.Of.mem_organizations {row : RowWrite} {organizationId : Id}
    (h : row.Of organizationId) : organizationId ∈ row.organizations := by
  unfold RowWrite.organizations
  rcases h with hold | hnew
  · simp [hold]
  · by_cases hsame : row.newOrg = row.oldOrg
    · simp [← hsame, hnew]
    · rw [if_neg hsame]
      simp [hnew]

theorem Database.Since.refl (db : Database) : Database.Since db db :=
  ⟨rfl, fun _ => Nat.le_refl _, [], by simp⟩

theorem Work.Sound.lt_raised (h : w.Sound db) (key : Key) :
    db.revision key < (w.raised db key).revision := by
  unfold Work.raised Work.view
  cases hown : w.change? key with
  | some c =>
      have hlater := h.later key c hown
      show db.revision key < c.revision + 1
      omega
  | none =>
      unfold Database.revision
      cases db.feed.find? key with
      | none => exact Nat.zero_lt_one
      | some c => exact Nat.lt_succ_self c.revision

theorem Work.change?_raise (db : Database) (w : Work) (key k : Key) :
    (w.raise db key).change? k = if key = k then some (w.raised db key) else w.change? k := by
  show ((w.raised db key :: w.changes).find? fun c => c.key = k) = _
  have hkey : (w.raised db key).key = key := rfl
  rw [List.find?_cons, hkey]
  by_cases hk : key = k
  · simp [hk]
  · simp only [hk, decide_false, if_false]
    rfl

theorem Work.isSome_raise {key k : Key} (h : (w.change? k).isSome = true) :
    ((w.raise db key).change? k).isSome = true := by
  rw [Work.change?_raise]
  by_cases hk : key = k
  · rw [if_pos hk]
    rfl
  · rwa [if_neg hk]

theorem Work.Sound.raise (h : w.Sound db) (key : Key) : (w.raise db key).Sound db := by
  refine ⟨?_, fun k c hc => ?_, fun row hrow hfeed htracks organizationId horg => ?_⟩
  · refine List.forall_mem_cons.2 ⟨List.mem_cons_self, fun c hc => ?_⟩
    exact List.mem_cons_of_mem key (h.held c hc)
  · rw [Work.change?_raise] at hc
    by_cases hk : key = k
    · subst hk
      rw [if_pos rfl] at hc
      exact Option.some.inj hc ▸ h.lt_raised key
    · rw [if_neg hk] at hc
      exact h.later k c hc
  · have hold : row ∈ w.written := by
      have hcases : row = .insert feedTable (some key.1) ∨
          row = .update feedTable (some key.1) (some key.1) ∨ row ∈ w.written := by
        unfold Work.raise at hrow
        split at hrow
        · exact (List.mem_cons.1 hrow).imp_right .inr
        · exact .inr (List.mem_cons.1 hrow)
      rcases hcases with rfl | rfl | hold
      · exact absurd rfl hfeed
      · exact absurd rfl hfeed
      · exact hold
    exact Work.isSome_raise (h.written row hold hfeed htracks organizationId horg)

theorem Work.Sound.write (h : w.Sound db) {row : RowWrite}
    (hrow : db.schema.Tracks row.table → ∀ organizationId ∈ row.organizations,
      (w.change? (organizationId, row.table)).isSome = true) :
    Work.Sound db { w with written := row :: w.written } :=
  ⟨h.held, h.later, List.forall_mem_cons.2 ⟨fun _ => hrow, h.written⟩⟩

theorem Database.revision_commit (db : Database) (w : Work) (key : Key) :
    (db.commit w).revision key = (w.view db key).elim 0 (·.revision) := by
  show ((db.feed.upsertAll w.changes).find? key).elim 0 _ = _
  rw [Table.find?_upsertAll]
  rfl

theorem Work.Sound.le_commit (h : w.Sound db) (key : Key) :
    db.revision key ≤ (db.commit w).revision key := by
  rw [db.revision_commit]
  unfold Work.view
  cases hown : w.change? key with
  | some c => exact Nat.le_of_lt (h.later key c hown)
  | none => exact Nat.le_refl _

/-- A revision that the transaction has raised is higher after the commit. -/
theorem Work.Sound.lt_commit (h : w.Sound db) {key : Key}
    (hsome : (w.change? key).isSome = true) : db.revision key < (db.commit w).revision key := by
  obtain ⟨c, hown⟩ := Option.isSome_iff_exists.1 hsome
  rw [db.revision_commit, Work.view, hown]
  exact h.later key c hown

theorem Database.Since.commit (hdb : Database.Since db₀ db) (h : w.Sound db) :
    Database.Since db₀ (db.commit w) := by
  obtain ⟨hschema, hle, more, hcommitted, hmore⟩ := hdb
  refine ⟨hschema, fun key => (hle key).trans (h.le_commit key), more ++ [w.written.reverse], ?_,
    fun rows hrows row hrow hfeed htracks organizationId horg => ?_⟩
  · show db.committed ++ [w.written.reverse] = _
    rw [hcommitted, List.append_assoc]
  · rcases List.mem_append.1 hrows with hold | hnew
    · have hlt := hmore rows hold row hrow hfeed htracks organizationId horg
      exact hlt.trans_le (h.le_commit _)
    · rw [List.mem_singleton] at hnew
      subst hnew
      have hsome := h.written row (List.mem_reverse.1 hrow) hfeed htracks organizationId horg
      exact (hle _).trans_lt (h.lt_commit hsome)

theorem Work.Sound.spares (hw : w.Sound db) (hv : v.Sound db)
    (happart : ∀ key ∈ w.held, key ∉ v.held) : v.Sound (db.commit w) := by
  refine ⟨hv.held, fun key c hc => ?_, hv.written⟩
  have hheld : key ∈ v.held := by
    have hkey : c.key = key := by simpa using List.find?_some hc
    exact hkey ▸ hv.held c (List.mem_of_find?_eq_some hc)
  have hnone : w.change? key = none := by
    refine List.find?_eq_none.2 fun d hd hkey => happart key ?_ hheld
    exact of_decide_eq_true hkey ▸ hw.held d hd
  rw [db.revision_commit, Work.view, hnone]
  exact hv.later key c hc

theorem writing_keeps (db₀ : Database) :
    writing.Keeps (Database.Since db₀) (fun db w => w.Sound db) fun _ => Work.Knows where
  held_idle := rfl
  idle _ _ := ⟨by simp [writing], by simp [writing, Work.change?], by simp [writing]⟩
  start _ _ _ _ _ := trivial
  goes db w stage w' stage' _ hw hknows hnext := by
    cases stage with
    | write row =>
        simp only [writing, writeRow] at hnext
        split at hnext
        · cases hnext
          exact ⟨hw, fun organizationId horg hleft => absurd horg hleft, List.Subset.refl _,
            List.subset_append_right _ _⟩
        · cases hnext
    | track row left =>
        cases left with
        | nil => cases hnext
        | cons organizationId left =>
            cases hnext
            refine ⟨hw.raise _, fun other hother hleft => ?_, List.subset_cons_self _ _,
              List.Subset.refl _⟩
            by_cases hsame : other = organizationId
            · subst hsame
              rw [Work.change?_raise, if_pos rfl]
              rfl
            · refine Work.isSome_raise (hknows other hother fun hin => ?_)
              exact (List.mem_cons.1 hin).elim hsame hleft
  done db w stage w' _ hw hknows hnext := by
    cases stage with
    | write row =>
        simp only [writing, writeRow] at hnext
        split at hnext
        · cases hnext
        · next huntracked =>
          cases hnext
          exact ⟨hw.write fun htracks => absurd htracks huntracked, List.Subset.refl _,
            List.subset_append_right _ _⟩
    | track row left =>
        cases left with
        | nil =>
            cases hnext
            exact ⟨hw.write fun _ organizationId horg => hknows organizationId horg (by simp),
              List.Subset.refl _, List.subset_append_right _ _⟩
        | cons organizationId left => cases hnext
  commits _ _ hdb hw := hdb.commit hw
  spares _ _ _ _ hw hv happart := ⟨hw.spares hv happart, fun _ hknows => hknows⟩

/-- A table with an `organization_id` in the final schema is detected, but for the feed and the
shares of workbooks. -/
theorem changes_detected {earlier : List Migration} {table : String}
    (h : (upgrade earlier).HasOrganizationId table) (hfeed : table ≠ feedTable)
    (hshares : table ≠ "workbook_shares") : Detected earlier table := by
  intro organizationId s s' hs hsteps hsame
  obtain ⟨db, hschema, hfirst⟩ := hs
  have hheld := (writing_keeps db).steps ⟨.refl db, by simp, .nil⟩ hfirst
  have hsince := ((writing_keeps s.db).steps ⟨.refl s.db, hheld.session, hheld.pair⟩ hsteps).database
  obtain ⟨more, hcommitted, hmore⟩ := hsince.committed
  refine ⟨more, hcommitted, fun rows hrows row hrow htable hof => ?_⟩
  subst htable
  have htracks : s'.db.schema.Tracks row.table := by
    rw [hsince.schema, hheld.database.schema, hschema]
    exact upgrade_tracks h hfeed hshares
  have hlt := hmore rows hrows row hrow hfeed htracks organizationId hof.mem_organizations
  rw [Database.lookup_getDataChanges, Database.lookup_getDataChanges] at hsame
  have hrevision : ∀ db : Database, db.revision (organizationId, row.table) =
      ((db.feed.find? (organizationId, row.table)).map (·.revision)).getD 0 := by
    intro db
    unfold Database.revision
    cases db.feed.find? (organizationId, row.table) <;> rfl
  rw [hrevision, hrevision, hsame] at hlt
  exact Nat.lt_irrefl _ hlt

namespace Sample

/-- The only table before the feed. -/
def employees : List Migration := [.createTable "employees" true]

def start : Database := ⟨upgrade employees, Table.empty, []⟩

def writes (rows : List RowWrite) : Transaction Work RowWrite Stage :=
  ⟨⟨[], [], []⟩, [], none, rows.map .call⟩

end Sample

/-- An employee moves between two other organizations, and the revision of the first stays. -/
theorem changes_detected_elsewhere : ∃ s s' : State,
    (s.db.getDataChanges 1).lookup "employees" = some 1 ∧ s'.db.committed.length = 2 ∧
      ∃ more, s'.db.committed = s.db.committed ++ more ∧
        ∀ rows ∈ more, ∀ row ∈ rows, row.table = "employees" → ¬ row.Of 1 := by
  obtain ⟨s, s', hs, hsteps, hreads⟩ := Sessions.Interleaved.of_play_play writing.Begins
    writing.serving (fun _ _ _ => True) (fun db => db.schema = upgrade Sample.employees)
    Sample.start
    [.begins (Sample.writes [.insert "employees" (some 1)]), .acts 0, .acts 0, .acts 0, .acts 0,
      .acts 0]
    [.begins (Sample.writes [.update "employees" (some 2) (some 3)]), .acts 0, .acts 0, .acts 0,
      .acts 0, .acts 0, .acts 0]
    (p := fun s s' => (s.db.getDataChanges 1).lookup "employees" = some 1 ∧
      (s'.db.getDataChanges 1).lookup "employees" = some 1 ∧ s'.db.committed.length = 2)
    rfl (by decide +kernel)
  simp only [decide_eq_true_eq] at hreads
  obtain ⟨hbefore, hafter, hlength⟩ := hreads
  exact ⟨s, s', hbefore, hlength, changes_detected (by decide +kernel) (by decide +kernel)
    (by decide +kernel) 1 s s' hs hsteps (hbefore.trans hafter.symm)⟩

/-- A schedule after which the revision of a table is what it was, although a row was written. -/
theorem not_detected_of_play {earlier : List Migration} {table : String} (db : Database)
    (moves : List (Sessions.Move (Transaction Work RowWrite Stage)))
    (hschema : db.schema = upgrade earlier) (hnew : db.committed = [])
    (hplay : (Sessions.play writing.Begins writing.serving (fun _ _ _ => True) ⟨db, []⟩ moves).any
      (fun s => (db.getDataChanges 1).lookup table = (s.db.getDataChanges 1).lookup table ∧
        ∃ rows ∈ s.db.committed, ∃ row ∈ rows, row.table = table ∧ row.Of 1) = true) :
    ¬ Detected earlier table := by
  intro hdetected
  obtain ⟨s, s', hs, hsteps, hend⟩ := Sessions.Interleaved.of_play_play writing.Begins
    writing.serving (fun _ _ _ => True) (fun db' => db' = db) db [] moves
    (p := fun s s' => s.db.committed = [] ∧
      (s.db.getDataChanges 1).lookup table = (s'.db.getDataChanges 1).lookup table ∧
      ∃ rows ∈ s'.db.committed, ∃ row ∈ rows, row.table = table ∧ row.Of 1) rfl
    (by simpa [Sessions.play, hnew] using hplay)
  simp only [decide_eq_true_eq] at hend
  obtain ⟨hempty, hsame, rows, hrows, row, hrow, htable, hof⟩ := hend
  obtain ⟨start, rfl, hfirst⟩ := hs
  obtain ⟨more, hcommitted, hmore⟩ := hdetected 1 s s' ⟨start, hschema, hfirst⟩ hsteps hsame
  rw [hempty, List.nil_append] at hcommitted
  exact hmore rows (hcommitted ▸ hrows) row hrow htable hof

/-- The shares of workbooks have no trigger, and the feed has none for itself. -/
theorem undetected_tables :
    (upgrade Sample.employees).HasOrganizationId "workbook_shares" ∧
      ¬ Detected Sample.employees "workbook_shares" ∧
      (upgrade Sample.employees).HasOrganizationId feedTable ∧
      ¬ Detected Sample.employees feedTable := by
  refine ⟨by decide +kernel, ?_, by decide +kernel, ?_⟩
  · exact not_detected_of_play Sample.start
      [.begins (Sample.writes [.insert "workbook_shares" (some 1)]), .acts 0, .acts 0, .acts 0]
      rfl rfl (by decide +kernel)
  · exact not_detected_of_play Sample.start
      [.begins (Sample.writes [.insert "employees" (some 1)]), .acts 0, .acts 0, .acts 0, .acts 0,
        .acts 0] rfl rfl (by decide +kernel)

end Cestos.Feed
