import Cestos.Feed.Changes

/-!
# Waiting for the feed

The trigger turns every table into one lock for each organization, held until the commit. Two
requests that write tables in different orders wait for each other.
-/

namespace Cestos.Feed

open Cestos.Core

/-- The revisions that the trigger raises for a row. -/
def RowWrite.keys (schema : Schema) (row : RowWrite) : List Key :=
  if schema.Tracks row.table then row.organizations.map fun o => (o, row.table) else []

/-- The revisions that a request raises, in the order in which it writes its rows. -/
def touched (schema : Schema) (rows : List RowWrite) : List Key :=
  rows.flatMap (RowWrite.keys schema)

/-- A request that has written nothing yet. -/
def request (rows : List RowWrite) : Transaction Work RowWrite Stage :=
  ⟨⟨[], [], []⟩, [], none, rows.map .call⟩

/-- Statements of the requests that have begun. -/
abbrev Goes : State → State → Prop :=
  Relation.ReflTransGen (Sessions.Step (fun _ => False) writing.serving fun _ _ _ => True)

/-- Whatever the two requests have done, in whatever order, they do not wait for each other. -/
def NeverDeadlocked (db : Database) (p q : List RowWrite) : Prop :=
  ∀ s, Goes ⟨db, [request p, request q]⟩ s → ¬ Deadlocked writing.locks writing.wanted s

/-- One list reaches `a` after `b`, the other one `b` after `a`, and up to there they have
nothing in common. -/
def Crossing (l m : List Key) : Prop :=
  ∃ i j, ∃ a ∈ l[i]?, ∃ b ∈ m[j]?, b ∈ l.take i ∧ a ∈ m.take j ∧ ∀ key ∈ l.take i, key ∉ m.take j

/-! ## What is left to lock -/

def Stage.keys (schema : Schema) : Stage → List Key
  | .write row => row.keys schema
  | .track row left => left.map fun o => (o, row.table)

def actionKeys (schema : Schema) : Action RowWrite → List Key
  | .call row => row.keys schema
  | _ => []

/-- The revisions that the transaction has yet to raise. -/
def left (schema : Schema) (t : Transaction Work RowWrite Stage) : List Key :=
  t.stage.elim [] (Stage.keys schema) ++ t.rest.flatMap (actionKeys schema)

/-- A transaction that raises the revisions of `l` one after the other. -/
structure Along (schema : Schema) (l : List Key) (t : Transaction Work RowWrite Stage) : Prop where
  keys : t.work.held.reverse ++ left schema t = l
  calls : ∀ a ∈ t.rest, ∃ row, a = .call row

variable {db db' : Database} {t t' u : Transaction Work RowWrite Stage} {l m : List Key}
  {others : List (Transaction Work RowWrite Stage)}

theorem along_request (schema : Schema) (rows : List RowWrite) :
    Along schema (touched schema rows) (request rows) := by
  refine ⟨?_, fun a ha => ?_⟩
  · show [] ++ ([] ++ (rows.map Action.call).flatMap (actionKeys schema)) = _
    rw [List.flatMap_map]
    rfl
  · obtain ⟨row, -, rfl⟩ := List.mem_map.1 ha
    exact ⟨row, rfl⟩

/-- The next statement locks nothing, or the first of what is left. -/
theorem wanted_cases (schema : Schema) (db : Database) (t : Transaction Work RowWrite Stage) :
    writing.wanted db t = [] ∨
      ∃ key more, writing.wanted db t = [key] ∧ left schema t = key :: more := by
  obtain ⟨work, saved, stage, rest⟩ := t
  match stage with
  | none => exact .inl rfl
  | some (.write row) => exact .inl rfl
  | some (.track row []) => exact .inl rfl
  | some (.track row (o :: os)) => exact .inr ⟨_, _, rfl, rfl⟩

/-- How many statements there are at most before the commit. -/
def size (schema : Schema) (t : Transaction Work RowWrite Stage) : Nat :=
  (left schema t).length + 3 * t.rest.length +
    t.stage.elim 0 fun | .write _ => 2 | .track _ _ => 1

/-- A statement commits, where nothing is left, or locks what it wants and nothing else. -/
theorem step_along (h : Along db.schema l t) {next : Option (Transaction Work RowWrite Stage)}
    (hstep : writing.step others db t = (db', next)) :
    (next = none ∧ left db.schema t = []) ∨
      db' = db ∧ ∃ t', next = some t' ∧ Along db.schema l t' ∧
        writing.locks t' = writing.wanted db t ++ writing.locks t ∧
        size db.schema t' < size db.schema t := by
  obtain ⟨work, saved, stage, rest⟩ := t
  obtain ⟨hkeys, hcalls⟩ := h
  match stage, rest with
  | none, [] =>
      simp only [Calls.step, Prod.mk.injEq] at hstep
      exact .inl ⟨hstep.2.symm, rfl⟩
  | none, .call row :: rest =>
      simp only [Calls.step, Prod.mk.injEq] at hstep
      obtain ⟨rfl, rfl⟩ := hstep
      refine .inr ⟨rfl, _, rfl, ⟨?_, fun a ha => hcalls a (List.mem_cons_of_mem _ ha)⟩, rfl, ?_⟩
      · rw [← hkeys]
        rfl
      · simp [size, left, writing, Stage.keys, actionKeys]
        omega
  | none, .savepoint :: rest =>
      obtain ⟨row, hrow⟩ := hcalls _ List.mem_cons_self
      cases hrow
  | none, .release :: rest =>
      obtain ⟨row, hrow⟩ := hcalls _ List.mem_cons_self
      cases hrow
  | none, .rollback :: rest =>
      obtain ⟨row, hrow⟩ := hcalls _ List.mem_cons_self
      cases hrow
  | some (.write row), rest =>
      by_cases htracks : db.schema.Tracks row.table
      · simp only [Calls.step, writing, writeRow, if_pos htracks, Prod.mk.injEq] at hstep
        obtain ⟨rfl, rfl⟩ := hstep
        refine .inr ⟨rfl, _, rfl, ⟨?_, hcalls⟩, rfl, ?_⟩
        · rw [← hkeys]
          simp [left, Stage.keys, RowWrite.keys, htracks]
        · simp [size, left, Stage.keys, RowWrite.keys, htracks]
      · simp only [Calls.step, writing, writeRow, if_neg htracks, Prod.mk.injEq] at hstep
        obtain ⟨rfl, rfl⟩ := hstep
        refine .inr ⟨rfl, _, rfl, ⟨?_, hcalls⟩, rfl, ?_⟩
        · rw [← hkeys]
          simp [left, Stage.keys, RowWrite.keys, htracks]
        · simp [size, left, Stage.keys, RowWrite.keys, htracks]
  | some (.track row []), rest =>
      simp only [Calls.step, writing, writeRow, Prod.mk.injEq] at hstep
      obtain ⟨rfl, rfl⟩ := hstep
      refine .inr ⟨rfl, _, rfl, ⟨?_, hcalls⟩, rfl, ?_⟩
      · rw [← hkeys]
        rfl
      · simp [size, left, Stage.keys]
  | some (.track row (o :: os)), rest =>
      simp only [Calls.step, writing, writeRow, Prod.mk.injEq] at hstep
      obtain ⟨rfl, rfl⟩ := hstep
      refine .inr ⟨rfl, _, rfl, ⟨?_, hcalls⟩, rfl, ?_⟩
      · rw [← hkeys]
        simp [left, Stage.keys, Work.raise]
      · simp [size, left, Stage.keys]

/-! ## From a circle to a crossing -/

/-- Two requests under way, or what is left of them. -/
def Pair (schema : Schema) (l m : List Key) (s : State) : Prop :=
  s.running.length ≤ 1 ∨ s.db.schema = schema ∧ ∃ t u, s.running = [t, u] ∧
    Along schema l t ∧ Along schema m u ∧ Exclusive writing.locks t u

theorem pair_step {schema : Schema} {s s' : State} (h : Pair schema l m s)
    (hstep : Sessions.Step (fun _ => False) writing.serving (fun _ _ _ => True) s s') :
    Pair schema l m s' := by
  cases hstep with
  | begins t hbegins => exact hbegins.elim
  | ends t =>
      refine .inl ?_
      rcases h with hfew | ⟨-, t', u', hrunning, -⟩
      · simp only [List.length_append, List.length_cons] at hfew ⊢
        omega
      · have hlength := congrArg List.length hrunning
        simp only [List.length_append, List.length_cons, List.length_nil] at hlength ⊢
        omega
  | @acts db db' before after next t _ hserving =>
      rcases h with hfew | ⟨rfl, t', u', hrunning, ht, hu, hexclusive⟩
      · refine .inl ?_
        cases next <;>
          simp only [List.length_append, List.length_cons, Option.toList, List.length_nil]
            at hfew ⊢ <;> omega
      · obtain ⟨hfree, hstep⟩ := locking_eq_some hserving
        match before, after with
        | [], [v] =>
            obtain ⟨rfl, hv⟩ := List.cons.inj hrunning
            obtain rfl := (List.cons.inj hv).1
            rcases step_along ht hstep with ⟨rfl, -⟩ | ⟨rfl, w, rfl, hw, hheld, -⟩
            · exact .inl (Nat.le_refl 1)
            · refine .inr ⟨rfl, w, v, rfl, hw, hu, ?_⟩
              refine hexclusive.acquire (by simp) hfree fun key hkey => ?_
              exact List.mem_append.1 (hheld ▸ hkey)
        | [v], [] =>
            obtain ⟨rfl, hv⟩ := List.cons.inj hrunning
            obtain rfl := (List.cons.inj hv).1
            rcases step_along hu hstep with ⟨rfl, -⟩ | ⟨rfl, w, rfl, hw, hheld, -⟩
            · exact .inl (Nat.le_refl 1)
            · refine .inr ⟨rfl, v, w, rfl, ht, hw, ?_⟩
              refine (hexclusive.symm.acquire (by simp) hfree fun key hkey => ?_).symm
              exact List.mem_append.1 (hheld ▸ hkey)
        | [], [] => cases hrunning
        | [], _ :: _ :: _ => cases hrunning
        | _ :: _ :: _, _ => simp at hrunning
        | [_], _ :: _ => cases hrunning

/-- What is held and what is wanted next, in terms of the list. -/
theorem Along.wanted (h : Along db.schema l t) {key : Key} (hkey : key ∈ writing.wanted db t) :
    writing.wanted db t = [key] ∧ key ∈ l[(writing.locks t).length]? ∧
      l.take (writing.locks t).length = (writing.locks t).reverse := by
  have hlength : t.work.held.reverse.length = (writing.locks t).length := List.length_reverse
  rcases wanted_cases db.schema db t with hnone | ⟨first, more, hone, hmore⟩
  · rw [hnone] at hkey
    cases hkey
  · rw [hone, List.mem_singleton] at hkey
    subst hkey
    refine ⟨hone, ?_, ?_⟩
    · rw [← h.keys, hmore, List.getElem?_append_right (Nat.le_of_eq hlength), hlength, Nat.sub_self]
      rfl
    · rw [← h.keys, ← hlength, List.take_left]
      rfl

theorem crossing_of_waits (ht : Along db.schema l t) (hu : Along db.schema m u)
    (hexclusive : Exclusive writing.locks t u)
    (htu : WaitsFor writing.locks writing.wanted db t u)
    (hut : WaitsFor writing.locks writing.wanted db u t) : Crossing l m := by
  obtain ⟨a, ha, hau⟩ := htu
  obtain ⟨b, hb, hbt⟩ := hut
  obtain ⟨-, hai, htaken⟩ := ht.wanted ha
  obtain ⟨-, hbj, hutaken⟩ := hu.wanted hb
  refine ⟨_, _, a, hai, b, hbj, ?_, ?_, fun key hkey => ?_⟩
  · rw [htaken]
    exact List.mem_reverse.2 hbt
  · rw [hutaken]
    exact List.mem_reverse.2 hau
  · rw [htaken] at hkey
    rw [hutaken]
    exact fun hin => hexclusive key (List.mem_reverse.1 hkey) (List.mem_reverse.1 hin)

/-! ## From a crossing to a circle -/

/-- A transaction whose keys nobody else holds goes on until it wants the `i`-th. -/
theorem exists_wanting (before after : List (Transaction Work RowWrite Stage)) {i : Nat}
    {a : Key} (ha : a ∈ l[i]?) (hfree : ∀ key ∈ l.take i, ¬ locked writing.locks (before ++ after) key)
    (h : Along db.schema l t) (hle : (writing.locks t).length ≤ i) :
    ∃ t', Along db.schema l t' ∧ (writing.locks t').length = i ∧ writing.wanted db t' = [a] ∧
      Goes ⟨db, before ++ t :: after⟩ ⟨db, before ++ t' :: after⟩ := by
  induction hsize : size db.schema t using Nat.strong_induction_on generalizing t with
  | _ n ih =>
      subst hsize
      by_cases hthere : (writing.locks t).length = i ∧ writing.wanted db t ≠ []
      · obtain ⟨rfl, hwants⟩ := hthere
        obtain ⟨key, hkey⟩ := List.exists_mem_of_ne_nil _ hwants
        obtain ⟨hone, hat, -⟩ := h.wanted hkey
        obtain rfl : key = a := Option.some.inj (hat.symm.trans ha)
        exact ⟨t, h, rfl, hone, .refl⟩
      · -- not there yet, so what the statement locks is among the first `i`
        have hearlier : ∀ key ∈ writing.wanted db t, (writing.locks t).length < i := by
          intro key hkey
          have hne : (writing.locks t).length ≠ i := fun heq =>
            hthere ⟨heq, List.ne_nil_of_mem hkey⟩
          omega
        have hserving : writing.serving (before ++ after) db t =
            some (writing.step (before ++ after) db t) := by
          refine if_neg ?_
          rintro ⟨key, hkey, hlocked⟩
          obtain ⟨-, hat, -⟩ := h.wanted hkey
          refine hfree key (List.mem_of_getElem? (i := (writing.locks t).length) ?_) hlocked
          rw [List.getElem?_take_of_lt (hearlier key hkey)]
          exact hat
        cases hresult : writing.step (before ++ after) db t with
        | mk db' next =>
            rw [hresult] at hserving
            rcases step_along h hresult with ⟨-, hnil⟩ | ⟨rfl, t', rfl, ht', hheld, hsmaller⟩
            · have hall := congrArg List.length h.keys
              have hi : i < l.length := (List.getElem?_eq_some_iff.1 ha).1
              rw [hnil, List.append_nil, List.length_reverse] at hall
              have hlocks : (writing.locks t).length = l.length := hall
              omega
            · have hle' : (writing.locks t').length ≤ i := by
                rw [hheld, List.length_append]
                rcases wanted_cases db'.schema db' t with hnone | ⟨key, -, hone, -⟩
                · rw [hnone, List.length_nil]
                  omega
                · have hlt := hearlier key (hone ▸ List.mem_singleton_self key)
                  rw [hone, List.length_singleton]
                  omega
              obtain ⟨t'', ht'', hlength, hwants, hsteps⟩ := ih _ hsmaller ht' hle' rfl
              refine ⟨t'', ht'', hlength, hwants, .head ?_ hsteps⟩
              have hstep : Sessions.Step (fun _ => False) writing.serving (fun _ _ _ => True)
                  ⟨db', before ++ t :: after⟩ ⟨db', before ++ [t'] ++ after⟩ :=
                .acts t trivial hserving
              rwa [List.append_assoc] at hstep

/-- Each takes what it locks before the other's key, and then waits. -/
theorem deadlocked_of_crossing {p q : List RowWrite}
    (h : Crossing (touched db.schema p) (touched db.schema q)) :
    ∃ s, Goes ⟨db, [request p, request q]⟩ s ∧ Deadlocked writing.locks writing.wanted s := by
  obtain ⟨i, j, a, ha, b, hb, hbi, haj, happart⟩ := h
  obtain ⟨t, ht, hti, hta, hfirst⟩ := exists_wanting [] [request q] ha
    (by
      rintro key - ⟨u, hu, hheld⟩
      rw [List.nil_append, List.mem_singleton] at hu
      subst hu
      cases hheld)
    (along_request db.schema p) (Nat.zero_le i)
  have htaken : (writing.locks t).reverse = (touched db.schema p).take i := by
    have hwanted : a ∈ writing.wanted db t := hta ▸ List.mem_singleton_self a
    obtain ⟨-, -, htake⟩ := ht.wanted hwanted
    rw [← htake, hti]
  obtain ⟨u, hu, huj, hub, hsecond⟩ := exists_wanting [t] [] hb
    (by
      rintro key hkey ⟨v, hv, hheld⟩
      rw [List.append_nil, List.mem_singleton] at hv
      subst hv
      refine happart key ?_ hkey
      rw [← htaken]
      exact List.mem_reverse.2 hheld)
    (along_request db.schema q) (Nat.zero_le j)
  have hutaken : (writing.locks u).reverse = (touched db.schema q).take j := by
    have hwanted : b ∈ writing.wanted db u := hub ▸ List.mem_singleton_self b
    obtain ⟨-, -, htake⟩ := hu.wanted hwanted
    rw [← htake, huj]
  refine ⟨⟨db, [t, u]⟩, hfirst.trans hsecond, deadlocked_pair.2 ⟨⟨a, ?_, ?_⟩, ⟨b, ?_, ?_⟩⟩⟩
  · rw [hta]
    exact List.mem_singleton_self a
  · exact List.mem_reverse.1 (hutaken ▸ haj)
  · rw [hub]
    exact List.mem_singleton_self b
  · exact List.mem_reverse.1 (htaken ▸ hbi)

/-- Before one of the two commits, the database is as it was. -/
theorem crossing_of_deadlocked {p q : List RowWrite} {s : State}
    (hsteps : Goes ⟨db, [request p, request q]⟩ s)
    (hdeadlocked : Deadlocked writing.locks writing.wanted s) :
    Crossing (touched db.schema p) (touched db.schema q) := by
  have hpair : Pair db.schema (touched db.schema p) (touched db.schema q) s := by
    clear hdeadlocked
    induction hsteps with
    | refl =>
        refine .inr ⟨rfl, _, _, rfl, along_request _ p, along_request _ q, fun key hkey => ?_⟩
        cases hkey
    | tail _ hstep ih => exact pair_step ih hstep
  rcases hpair with hfew | ⟨hschema, t, u, hrunning, ht, hu, hexclusive⟩
  · exact absurd hdeadlocked (not_deadlocked_of_length_le_one hfew)
  · obtain ⟨db', running⟩ := s
    subst hrunning
    obtain ⟨htu, hut⟩ := deadlocked_pair.1 hdeadlocked
    rw [← hschema] at ht hu ⊢
    exact crossing_of_waits ht hu hexclusive htu hut

end Cestos.Feed
