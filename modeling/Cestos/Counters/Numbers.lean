import Cestos.Core.Table
import Cestos.Core.Transactions
import Mathlib.Data.List.Range

/-!
# Business numbers

Numbers that an organization draws for its records of a type, counted by one row for each type.
The row is incremented in the transaction of the caller, which may draw several numbers and may
still be rolled back. It is created by the first draw; until then there is nothing to lock.
-/

namespace Cestos.Counters

open Cestos.Core

abbrev Id := Nat

/-- The counter of an organization and an entity type (`uq_business_counters_organization_id`). -/
abbrev Key := Id × String

structure BusinessCounter where
  organizationId : Id
  entityType : String
  currentValue : Nat
  deriving DecidableEq

def BusinessCounter.key (c : BusinessCounter) : Key := (c.organizationId, c.entityType)

/-- What `next_business_number` returned, and what it was drawn from. -/
structure BusinessNumber where
  key : Key
  value : Nat
  text : String
  deriving DecidableEq

/-- The counters, and the numbers that each transaction has committed. -/
structure Database where
  counters : Table BusinessCounter.key
  committed : List (List BusinessNumber)

/-- What a transaction has locked and written, and the numbers that it has drawn. -/
structure Work where
  held : List Key
  counters : List BusinessCounter
  drawn : List BusinessNumber
  deriving DecidableEq

/-- The prefix and the width for each entity type. -/
def prefixes : List (String × String × Nat) := [
  ("employee", "EMP", 6),
  ("client", "CLI", 6),
  ("project", "PRJ", 6),
  ("location", "SITE", 6),
  ("assignment", "ASN", 6),
  ("asset", "AST", 6),
  ("inventory_item", "ITM", 6),
  ("inventory_store", "STR", 6),
  ("inventory_receipt", "GRN", 6),
  ("inventory_issue", "ISS", 6),
  ("inventory_return", "RTN", 6),
  ("inventory_transfer", "TRF", 6),
  ("inventory_request", "REQ", 6),
  ("inventory_adjustment", "ADJ", 6),
  ("inventory_stock_count", "CNT", 6),
  ("inventory_transaction", "INV", 6),
  ("inventory_reservation", "RSV", 6),
  ("drilling_program", "DPG", 6),
  ("drilling_hole", "DHL", 6),
  ("drilling_shift", "DSR", 6),
  ("maintenance_work_order", "MWO", 6),
  ("hse_incident", "HSE", 6),
  ("hse_corrective_action", "CAP", 6),
  ("purchase_order", "PO", 6),
  ("supplier", "SUP", 6),
  ("supervisor_scorecard", "SCR", 6),
  ("commercial_opportunity", "OPP", 6)]

/-- The number with leading zeros. -/
def formatNumber (code : String) (width value : Nat) : String :=
  code ++ "-" ++ String.ofList ((toString value).toList.leftpad width '0')

/-- The greatest value of an `Integer` column. -/
def maxInteger : Nat := 2147483647

/-! ## Statements -/

/-- The row as the transaction sees it. -/
def Work.view (db : Database) (w : Work) (key : Key) : Option BusinessCounter :=
  (w.counters.find? fun c => c.key = key).or (db.counters.find? key)

/-- How far `next_business_number` has come. -/
inductive Stage
  | lookup (key : Key)
  /-- There was no counter. -/
  | create (key : Key)
  /-- The counter, as it was read or created. -/
  | increment (counter : BusinessCounter)

/-- A row that is there is locked by the lookup. A new row is locked by its insert, which waits
for the insert of another transaction, but not where the row is committed by now. -/
def Work.wants (db : Database) (w : Work) : Stage → List Key
  | .lookup key => if (w.view db key).isSome then [key] else []
  | .create key => if (db.counters.find? key).isSome then [] else [key]
  | .increment counter => [counter.key]

def nextBusinessNumber (db : Database) (w : Work) : Stage → Progress Work Stage
  | .lookup key =>
    match prefixes.lookup key.2, w.view db key with
    | none, _ => .fails
    | some _, none => .goes w (.create key)
    | some _, some counter => .goes { w with held := key :: w.held } (.increment counter)
  | .create key =>
    if (w.view db key).isSome then .fails
    else
      let counter : BusinessCounter := ⟨key.1, key.2, 0⟩
      .goes { w with held := key :: w.held, counters := counter :: w.counters } (.increment counter)
  | .increment counter =>
    match prefixes.lookup counter.entityType with
    | none => .fails
    | some (code, width) =>
      let value := counter.currentValue + 1
      if maxInteger < value then .fails
      else .done
        { held := w.held
          counters := { counter with currentValue := value } :: w.counters
          drawn := w.drawn ++ [⟨counter.key, value, formatNumber code width value⟩] }

/-- The rows as they were written last, the numbers in the order in which they were drawn. -/
def Database.commit (db : Database) (w : Work) : Database where
  counters := db.counters.upsertAll w.counters
  committed := db.committed ++ [w.drawn]

def numbering : Calls Database Work Key Stage Key where
  idle := ⟨[], [], []⟩
  held := Work.held
  start := .lookup
  wants := Work.wants
  next := nextBusinessNumber
  commit := Database.commit

structure Database.Initial (db : Database) : Prop where
  counters : db.counters.rows = []
  committed : db.committed = []

/-- The databases, with the transactions under way, that some interleaving leads to. -/
abbrev Interleaved : Sessions Database (Transaction Work Key Stage) → Prop :=
  Sessions.Interleaved numbering.Begins numbering.serving (fun _ _ _ => True) Database.Initial

/-! ## What is drawn -/

/-- The numbers that are drawn from a counter. -/
def drawnFrom (key : Key) (drawn : List BusinessNumber) : List Nat :=
  (drawn.filter fun number => number.key = key).map (·.value)

def Database.numbers (db : Database) (key : Key) : List Nat :=
  drawnFrom key db.committed.flatten

/-- How far a counter has come; a counter that is not there has not been drawn from. -/
def value (counter : Option BusinessCounter) : Nat := counter.elim 0 (·.currentValue)

def Database.currentValue (db : Database) (key : Key) : Nat := value (db.counters.find? key)

def Work.currentValue (db : Database) (w : Work) (key : Key) : Nat := value (w.view db key)

@[simp] theorem drawnFrom_append (key : Key) (drawn more : List BusinessNumber) :
    drawnFrom key (drawn ++ more) = drawnFrom key drawn ++ drawnFrom key more := by
  simp [drawnFrom]

/-- After the commit everybody sees what the transaction saw. -/
theorem Database.find?_commit (db : Database) (w : Work) (key : Key) :
    (db.commit w).counters.find? key = w.view db key :=
  Table.find?_upsertAll db.counters w.counters key

/-- A transaction has drawn the numbers from the committed value to its own, and holds the
counters that it has written. -/
structure Work.Sound (db : Database) (w : Work) : Prop where
  le : ∀ key, db.currentValue key ≤ w.currentValue db key
  numbers : ∀ key, drawnFrom key w.drawn =
    List.range' (db.currentValue key + 1) (w.currentValue db key - db.currentValue key)
  held : ∀ c ∈ w.counters, c.key ∈ w.held

/-- Between its statements a draw holds the counter that it has read. -/
def Work.Knows (db : Database) (w : Work) : Stage → Prop
  | .increment counter => counter.key ∈ w.held ∧ w.view db counter.key = some counter
  | _ => True

/-- The committed numbers are those up to the current value, in the order of the commits. -/
def Database.Gapless (db : Database) : Prop :=
  ∀ key, db.numbers key = List.range' 1 (db.currentValue key)

variable {db : Database} {w v : Work}

theorem Work.Sound.view_eq (h : w.Sound db) {key : Key} (hkey : key ∉ w.held) :
    w.view db key = db.counters.find? key := by
  have hnone : w.counters.find? (fun c => c.key = key) = none := by
    refine List.find?_eq_none.2 fun c hc hck => hkey ?_
    exact of_decide_eq_true hck ▸ h.held c hc
  simp [Work.view, hnone]

theorem Work.view_write {held : List Key} {c : BusinessCounter} {drawn : List BusinessNumber}
    {key : Key} (hkey : c.key = key) :
    Work.view db ⟨held, c :: w.counters, drawn⟩ key = some c := by
  simp [Work.view, hkey]

theorem Work.currentValue_write (held : List Key) (c : BusinessCounter)
    (drawn : List BusinessNumber) (key : Key) :
    Work.currentValue db ⟨held, c :: w.counters, drawn⟩ key =
      if c.key = key then c.currentValue else w.currentValue db key := by
  by_cases hkey : c.key = key
  · rw [Work.currentValue, Work.view_write hkey, if_pos hkey]
    rfl
  · simp [Work.currentValue, Work.view, hkey]

theorem Work.Sound.lock (h : w.Sound db) (key : Key) :
    Work.Sound db { w with held := key :: w.held } :=
  ⟨h.le, h.numbers, fun c hc => List.mem_cons_of_mem key (h.held c hc)⟩

theorem Work.Sound.create (h : w.Sound db) {key : Key} (hnone : w.view db key = none) :
    Work.Sound db { w with held := key :: w.held, counters := ⟨key.1, key.2, 0⟩ :: w.counters } := by
  have hsame : ∀ k, Work.currentValue db
      { w with held := key :: w.held, counters := ⟨key.1, key.2, 0⟩ :: w.counters } k =
      w.currentValue db k := by
    intro k
    rw [Work.currentValue_write]
    by_cases hk : key = k
    · subst hk
      rw [Work.currentValue, hnone]
      exact if_pos rfl
    · exact if_neg hk
  refine ⟨fun k => ?_, fun k => ?_, fun c hc => ?_⟩
  · rw [hsame]
    exact h.le k
  · rw [hsame]
    exact h.numbers k
  · rcases List.mem_cons.1 hc with rfl | hc
    · exact List.mem_cons_self
    · exact List.mem_cons_of_mem key (h.held c hc)

theorem Work.Sound.increment (h : w.Sound db) {counter : BusinessCounter} {text : String}
    (hknows : w.Knows db (.increment counter)) :
    Work.Sound db
      { held := w.held
        counters := { counter with currentValue := counter.currentValue + 1 } :: w.counters
        drawn := w.drawn ++ [⟨counter.key, counter.currentValue + 1, text⟩] } := by
  obtain ⟨hheld, hview⟩ := hknows
  have hold : w.currentValue db counter.key = counter.currentValue := by
    rw [Work.currentValue, hview]
    rfl
  have hwritten : { counter with currentValue := counter.currentValue + 1 }.key = counter.key := rfl
  refine ⟨fun key => ?_, fun key => ?_, fun c hc => ?_⟩
  · have hle := h.le key
    rw [Work.currentValue_write, hwritten]
    by_cases hkey : counter.key = key
    · subst hkey
      rw [if_pos rfl]
      show _ ≤ counter.currentValue + 1
      omega
    · rw [if_neg hkey]
      exact hle
  · have hle := h.le key
    rw [Work.currentValue_write, hwritten, drawnFrom_append, h.numbers key]
    by_cases hkey : counter.key = key
    · subst hkey
      have hone : drawnFrom counter.key
          [⟨counter.key, counter.currentValue + 1, text⟩] = [counter.currentValue + 1] := by
        simp [drawnFrom]
      rw [if_pos rfl, hone, hold]
      show _ = List.range' _ (counter.currentValue + 1 - db.currentValue counter.key)
      rw [Nat.sub_add_comm (hold ▸ hle), List.range'_concat]
      congr 2
      omega
    · have hnone : drawnFrom key [⟨counter.key, counter.currentValue + 1, text⟩] = [] := by
        simp [drawnFrom, hkey]
      rw [if_neg hkey, hnone, List.append_nil]
  · rcases List.mem_cons.1 hc with rfl | hc
    · exact hheld
    · exact h.held c hc

theorem Database.currentValue_commit (db : Database) (w : Work) (key : Key) :
    (db.commit w).currentValue key = w.currentValue db key := by
  rw [Database.currentValue, Database.find?_commit, Work.currentValue]

theorem Database.Gapless.commit (hdb : db.Gapless) (h : w.Sound db) :
    (db.commit w).Gapless := by
  intro key
  have hnumbers : (db.commit w).numbers key = db.numbers key ++ drawnFrom key w.drawn := by
    simp [Database.numbers, Database.commit]
  rw [hnumbers, hdb key, h.numbers key, db.currentValue_commit, Nat.add_comm _ 1,
    List.range'_append_1, Nat.add_sub_cancel' (h.le key)]

theorem Work.Sound.spares (hw : w.Sound db) (hv : v.Sound db)
    (happart : ∀ key ∈ w.held, key ∉ v.held) :
    v.Sound (db.commit w) ∧ ∀ stage, v.Knows db stage → v.Knows (db.commit w) stage := by
  have hsame : ∀ key ∈ v.held, (db.commit w).counters.find? key = db.counters.find? key := by
    intro key hkey
    rw [db.find?_commit]
    exact hw.view_eq fun hheld => happart key hheld hkey
  have hview : ∀ key ∈ v.held, v.view (db.commit w) key = v.view db key := by
    intro key hkey
    rw [Work.view, Work.view, hsame key hkey]
  have hfree : ∀ key, key ∉ v.held →
      v.currentValue (db.commit w) key = (db.commit w).currentValue key := by
    intro key hkey
    have hnone : v.counters.find? (fun c => c.key = key) = none := by
      refine List.find?_eq_none.2 fun c hc hck => hkey ?_
      exact of_decide_eq_true hck ▸ hv.held c hc
    simp [Work.currentValue, Database.currentValue, Work.view, hnone]
  refine ⟨⟨fun key => ?_, fun key => ?_, hv.held⟩, fun stage hstage => ?_⟩
  · by_cases hkey : key ∈ v.held
    · rw [Database.currentValue, hsame key hkey, Work.currentValue, hview key hkey]
      exact hv.le key
    · exact Nat.le_of_eq (hfree key hkey).symm
  · by_cases hkey : key ∈ v.held
    · rw [Database.currentValue, hsame key hkey, Work.currentValue, hview key hkey]
      exact hv.numbers key
    · have hnil : drawnFrom key v.drawn = [] := by
        rw [hv.numbers key, Work.currentValue, hv.view_eq hkey, Database.currentValue]
        simp
      rw [hnil, hfree key hkey]
      simp
  · cases stage with
    | increment counter => exact ⟨hstage.1, (hview _ hstage.1).trans hstage.2⟩
    | lookup key => trivial
    | create key => trivial

theorem numbering_keeps :
    numbering.Keeps Database.Gapless (fun db w => w.Sound db) fun db w => w.Knows db where
  held_idle := rfl
  idle db _ := ⟨fun _ => Nat.le_refl _, fun key => by
    show [] = List.range' _ (db.currentValue key - db.currentValue key)
    simp, by simp [numbering]⟩
  start _ _ _ _ _ := trivial
  goes db w stage w' stage' _ hw _ hnext := by
    cases stage with
    | lookup key =>
        simp only [numbering, nextBusinessNumber] at hnext
        split at hnext
        · cases hnext
        · cases hnext
          exact ⟨hw, trivial, List.Subset.refl _, List.subset_append_right _ _⟩
        · next counter _ hview =>
          cases hnext
          have hkey : counter.key = key := by
            rcases Option.or_eq_some_iff.1 hview with hown | ⟨-, hrow⟩
            · simpa using List.find?_some hown
            · exact Table.key_of_find? hrow
          refine ⟨hw.lock key, ⟨hkey ▸ List.mem_cons_self, hkey ▸ hview⟩,
            List.subset_cons_self _ _, ?_⟩
          simp [numbering, Work.wants, hview]
    | create key =>
        simp only [numbering, nextBusinessNumber] at hnext
        split at hnext
        · cases hnext
        · next hnone =>
          cases hnext
          have hview : w.view db key = none := by simpa using hnone
          refine ⟨hw.create hview, ⟨List.mem_cons_self, ?_⟩, List.subset_cons_self _ _, ?_⟩
          · exact Work.view_write rfl
          · have hrow : db.counters.find? key = none := (Option.or_eq_none_iff.1 hview).2
            simp [numbering, Work.wants, hrow]
    | increment counter =>
        simp only [numbering, nextBusinessNumber] at hnext
        split at hnext
        · cases hnext
        · split at hnext <;> cases hnext
  done db w stage w' _ hw hknows hnext := by
    cases stage with
    | lookup key =>
        simp only [numbering, nextBusinessNumber] at hnext
        split at hnext <;> cases hnext
    | create key =>
        simp only [numbering, nextBusinessNumber] at hnext
        split at hnext <;> cases hnext
    | increment counter =>
        simp only [numbering, nextBusinessNumber] at hnext
        split at hnext
        · cases hnext
        · split at hnext
          · cases hnext
          · cases hnext
            exact ⟨hw.increment hknows, List.Subset.refl _, List.subset_append_right _ _⟩
  commits _ _ hdb hw := hdb.commit hw
  spares _ _ _ _ hw hv happart := hw.spares hv happart

theorem Interleaved.gapless {s : Sessions Database (Transaction Work Key Stage)}
    (h : Interleaved s) : s.db.Gapless := by
  obtain ⟨db, hinit, hsteps⟩ := h
  have hdb : db.Gapless := by
    intro key
    have hrow : db.counters.find? key = none := by simp [Table.find?, hinit.counters]
    simp [Database.numbers, Database.currentValue, hrow, value, hinit.committed, drawnFrom]
  exact (numbering_keeps.steps ⟨hdb, by simp, .nil⟩ hsteps).database

/-- A transaction that draws a number counts once where the number is drawn. -/
theorem countP_le_count_flatten (key : Key) (n : Nat) (committed : List (List BusinessNumber)) :
    committed.countP (fun drawn => n ∈ drawnFrom key drawn) ≤
      (drawnFrom key committed.flatten).count n := by
  induction committed with
  | nil => exact Nat.le_refl _
  | cons drawn committed ih =>
      rw [List.countP_cons, List.flatten_cons, drawnFrom_append, List.count_append]
      by_cases hn : n ∈ drawnFrom key drawn
      · have hpos := List.count_pos_iff.2 hn
        simp only [hn, decide_true, if_true]
        omega
      · simp only [hn, decide_false, Bool.false_eq_true, if_false]
        omega

/-- The committed numbers are those from one to the current value, each drawn once, and at most
one transaction has committed the first. -/
theorem committed_numbers {s : Sessions Database (Transaction Work Key Stage)}
    (h : Interleaved s) (key : Key) :
    s.db.numbers key = List.range' 1 (s.db.currentValue key) ∧
      s.db.committed.countP (fun drawn => 1 ∈ drawnFrom key drawn) ≤ 1 := by
  have hgapless := h.gapless key
  refine ⟨hgapless, (countP_le_count_flatten key 1 s.db.committed).trans ?_⟩
  have hnodup : (List.range' 1 (s.db.currentValue key)).Nodup := List.nodup_range'
  show (s.db.numbers key).count 1 ≤ 1
  rw [hgapless]
  exact List.nodup_iff_count_le_one.1 hnodup 1

namespace Sample

def empty : Database := ⟨Table.empty, []⟩

def client : Key := (1, "client")

def drawing (rest : List (Action Key)) : Transaction Work Key Stage := ⟨⟨[], [], []⟩, [], none, rest⟩

end Sample

/-- Two transactions find no counter. The one that creates it later fails, goes back to its
savepoint and draws again; a third draws a number and is rolled back. -/
theorem committed_numbers_race : ∃ s : Sessions Database (Transaction Work Key Stage),
    s.db.numbers Sample.client = [1, 2] ∧ s.db.currentValue Sample.client = 2 ∧
      s.running.length = 0 ∧
      s.db.numbers Sample.client = List.range' 1 (s.db.currentValue Sample.client) ∧
      s.db.committed.countP (fun drawn => 1 ∈ drawnFrom Sample.client drawn) ≤ 1 := by
  obtain ⟨s, hs, hend⟩ := Sessions.Interleaved.of_play numbering.Begins numbering.serving
    (fun _ _ _ => True) Database.Initial Sample.empty
    [.begins (Sample.drawing [.call Sample.client]), .acts 0, .acts 0,
      .begins (Sample.drawing [.savepoint, .call Sample.client, .call Sample.client]),
      .acts 1, .acts 1, .acts 1, .acts 0, .acts 0, .acts 0, .acts 0, .acts 0, .acts 0, .acts 0,
      .begins (Sample.drawing [.savepoint, .call Sample.client, .rollback, .rollback]), .acts 1,
      .acts 1, .acts 0, .acts 0, .acts 0, .acts 0, .acts 0]
    (p := fun s => s.db.numbers Sample.client = [1, 2] ∧ s.db.currentValue Sample.client = 2 ∧
      s.running.length = 0)
    ⟨rfl, rfl⟩ (by decide +kernel)
  simp only [decide_eq_true_eq] at hend
  exact ⟨s, hend.1, hend.2.1, hend.2.2, committed_numbers hs Sample.client⟩

end Cestos.Counters
