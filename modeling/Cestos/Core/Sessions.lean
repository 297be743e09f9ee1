import Mathlib.Data.List.Basic
import Mathlib.Logic.Relation

/-!
# Transactions side by side

The clients of a database whose transactions read what others have committed. A session
is a transaction under way, with what it has read and what it will write; nothing of it
is visible before it commits. Its next statement reads, commits, or waits for a row that
another session has locked. A session may also end at any time without effect.
-/

namespace Cestos.Core

/-- The committed state and the transactions under way. -/
structure Sessions (σ τ : Type) where
  db : σ
  running : List τ

/-- What the next statement of a session leads to, given the other sessions: the database
and, unless the transaction is over, the session after it. A session that waits for a lock
has no next statement. -/
abbrev Statement (σ τ : Type) := List τ → σ → τ → Option (σ × Option τ)

namespace Sessions

variable {σ τ : Type} {begins : τ → Prop} {statement : Statement σ τ}
  {admits : List τ → σ → τ → Prop} {init : σ → Prop}

/-- One step; only statements that meet `admits` are taken. -/
inductive Step (begins : τ → Prop) (statement : Statement σ τ) (admits : List τ → σ → τ → Prop) :
    Sessions σ τ → Sessions σ τ → Prop
  | begins {db running} (t : τ) : begins t →
      Step begins statement admits ⟨db, running⟩ ⟨db, running ++ [t]⟩
  | acts {db db' before after next} (t : τ) : admits (before ++ after) db t →
      statement (before ++ after) db t = some (db', next) →
      Step begins statement admits ⟨db, before ++ t :: after⟩
        ⟨db', before ++ next.toList ++ after⟩
  | ends {db before after} (t : τ) :
      Step begins statement admits ⟨db, before ++ t :: after⟩ ⟨db, before ++ after⟩

/-- What the steps lead to from a database of `init` without sessions. -/
def Interleaved (begins : τ → Prop) (statement : Statement σ τ)
    (admits : List τ → σ → τ → Prop) (init : σ → Prop) (s : Sessions σ τ) : Prop :=
  ∃ db, init db ∧ Relation.ReflTransGen (Step begins statement admits) ⟨db, []⟩ s

/-- A property of the database, one of every session and one of every two of them. -/
structure Holds (G : σ → Prop) (L : σ → τ → Prop) (R : τ → τ → Prop) (s : Sessions σ τ) :
    Prop where
  database : G s.db
  session : ∀ t ∈ s.running, L s.db t
  pair : s.running.Pairwise R

/-- What a statement has to keep: the database and the session after it are as they should
be, also next to the other sessions. -/
structure Keeps (G : σ → Prop) (L : σ → τ → Prop) (R : τ → τ → Prop) (others : List τ)
    (db : σ) (next : Option τ) : Prop where
  database : G db
  session : ∀ t ∈ next, L db t
  aside : ∀ t ∈ others, L db t
  pair : ∀ t ∈ next, ∀ u ∈ others, R t u

theorem Step.mono {admits' : List τ → σ → τ → Prop} {s s' : Sessions σ τ}
    (h : Step begins statement admits s s')
    (hadmits : ∀ others db t, admits others db t → admits' others db t) :
    Step begins statement admits' s s' := by
  cases h with
  | begins t ht => exact .begins t ht
  | acts t ht hstatement => exact .acts t (hadmits _ _ t ht) hstatement
  | ends t => exact .ends t

/-- What meets a condition meets a weaker one. -/
theorem Interleaved.mono {admits' : List τ → σ → τ → Prop} {s : Sessions σ τ}
    (h : Interleaved begins statement admits init s)
    (hadmits : ∀ others db t, admits others db t → admits' others db t) :
    Interleaved begins statement admits' init s := by
  obtain ⟨db, hdb, hsteps⟩ := h
  exact ⟨db, hdb, Relation.ReflTransGen.mono (fun _ _ hstep => hstep.mono hadmits) _ _ hsteps⟩

/-- The sessions in two places are related. -/
theorem Holds.related {G : σ → Prop} {L : σ → τ → Prop} {R : τ → τ → Prop} {s : Sessions σ τ}
    (h : Holds G L R s) (hsymm : ∀ t u, R t u → R u t) {i j : Nat} (hne : i ≠ j) {t u : τ}
    (ht : s.running[i]? = some t) (hu : s.running[j]? = some u) : R t u := by
  obtain ⟨hi, rfl⟩ := List.getElem?_eq_some_iff.1 ht
  obtain ⟨hj, rfl⟩ := List.getElem?_eq_some_iff.1 hu
  rcases Nat.lt_or_gt_of_ne hne with hlt | hgt
  · exact List.pairwise_iff_getElem.1 h.pair i j hi hj hlt
  · exact hsymm _ _ (List.pairwise_iff_getElem.1 h.pair j i hj hi hgt)

section Invariants

variable {G : σ → Prop} {L : σ → τ → Prop} {R : τ → τ → Prop}

/-- A session that is over has nothing to keep. -/
theorem Keeps.over {others : List τ} {db : σ} (hdb : G db) (haside : ∀ t ∈ others, L db t) :
    Keeps G L R others db none :=
  ⟨hdb, by simp, haside, by simp⟩

theorem Step.holds (hsymm : ∀ t u, R t u → R u t)
    (hbegins : ∀ db t, begins t → G db → L db t ∧ ∀ u, R t u)
    (hacts : ∀ others db t db' next, G db → L db t → (∀ u ∈ others, L db u ∧ R t u) →
      others.Pairwise R → admits others db t → statement others db t = some (db', next) →
      Keeps G L R others db' next)
    {s s' : Sessions σ τ} (hstep : Step begins statement admits s s') (h : Holds G L R s) :
    Holds G L R s' := by
  obtain ⟨hdb, hsession, hpair⟩ := h
  cases hstep with
  | begins t ht =>
      have hnew := hbegins _ t ht hdb
      refine ⟨hdb, fun u hu => ?_, List.pairwise_append.2 ⟨hpair, by simp, ?_⟩⟩
      · rcases List.mem_append.1 hu with hu | hu
        · exact hsession u hu
        · exact List.mem_singleton.1 hu ▸ hnew.1
      · intro u _ v hv
        exact List.mem_singleton.1 hv ▸ hsymm _ _ (hnew.2 u)
  | acts t hadmits hstatement =>
      have hordered := (List.perm_middle.pairwise_iff (hsymm _ _ ·)).1 hpair
      rw [List.pairwise_cons] at hordered
      have hmem : ∀ u ∈ _, L _ u := fun u hu =>
        hsession u (List.perm_middle.mem_iff.2 (List.mem_cons_of_mem t hu))
      obtain ⟨hdb', hnext, hothers, hrelated⟩ := hacts _ _ t _ _ hdb (hsession t (by simp))
        (fun u hu => ⟨hmem u hu, hordered.1 u hu⟩) hordered.2 hadmits hstatement
      rw [List.append_assoc]
      refine ⟨hdb', fun u hu => ?_, (List.perm_append_comm_assoc _ _ _).pairwise_iff
        (hsymm _ _ ·) |>.2 (List.pairwise_append.2 ⟨?_, hordered.2, ?_⟩)⟩
      · rcases List.mem_append.1 ((List.perm_append_comm_assoc _ _ _).mem_iff.1 hu) with hu | hu
        · exact hnext u (Option.mem_toList.1 hu)
        · exact hothers u hu
      · cases ‹Option τ› <;> simp
      · exact fun u hu v hv => hrelated u (Option.mem_toList.1 hu) v hv
  | ends t =>
      refine ⟨hdb, fun u hu => hsession u ?_, ?_⟩
      · exact List.perm_middle.mem_iff.2 (List.mem_cons_of_mem t hu)
      · exact (List.pairwise_cons.1 ((List.perm_middle.pairwise_iff (hsymm _ _ ·)).1 hpair)).2

/-- What is kept by every statement is kept by any number of steps. -/
theorem Holds.steps {s s' : Sessions σ τ} (h : Holds G L R s)
    (hsteps : Relation.ReflTransGen (Step begins statement admits) s s')
    (hsymm : ∀ t u, R t u → R u t) (hbegins : ∀ db t, begins t → G db → L db t ∧ ∀ u, R t u)
    (hacts : ∀ others db t db' next, G db → L db t → (∀ u ∈ others, L db u ∧ R t u) →
      others.Pairwise R → admits others db t → statement others db t = some (db', next) →
      Keeps G L R others db' next) : Holds G L R s' := by
  induction hsteps with
  | refl => exact h
  | tail _ hstep ih => exact hstep.holds hsymm hbegins hacts ih

/-- What holds at first and is kept by every statement holds in every interleaving. -/
theorem Interleaved.holds {s : Sessions σ τ} (h : Interleaved begins statement admits init s)
    (hsymm : ∀ t u, R t u → R u t) (hinit : ∀ db, init db → G db)
    (hbegins : ∀ db t, begins t → G db → L db t ∧ ∀ u, R t u)
    (hacts : ∀ others db t db' next, G db → L db t → (∀ u ∈ others, L db u ∧ R t u) →
      others.Pairwise R → admits others db t → statement others db t = some (db', next) →
      Keeps G L R others db' next) : Holds G L R s := by
  obtain ⟨db, hdb, hsteps⟩ := h
  have hfirst : Holds G L R ⟨db, []⟩ := ⟨hinit db hdb, by simp, .nil⟩
  exact hfirst.steps hsteps hsymm hbegins hacts

/-- What every statement does to the database, as long as the database is as it should be, any
number of steps does. -/
theorem steps_rel {P : σ → σ → Prop} (hrefl : ∀ db, P db db)
    (htrans : ∀ {a b c}, P a b → P b c → P a c)
    (hacts : ∀ others db t db' next, G db → admits others db t →
      statement others db t = some (db', next) → G db' ∧ P db db')
    {s s' : Sessions σ τ} (hdb : G s.db)
    (h : Relation.ReflTransGen (Step begins statement admits) s s') :
    G s'.db ∧ P s.db s'.db := by
  induction h with
  | refl => exact ⟨hdb, hrefl _⟩
  | tail _ hstep ih =>
      obtain ⟨hdb', hrel⟩ := ih
      cases hstep with
      | begins t ht => exact ⟨hdb', hrel⟩
      | acts t hadmits hstatement =>
          obtain ⟨hnew, hmoved⟩ := hacts _ _ t _ _ hdb' hadmits hstatement
          exact ⟨hnew, htrans hrel hmoved⟩
      | ends t => exact ⟨hdb', hrel⟩

end Invariants

/-! ## Schedules -/

/-- A move of a schedule: a session begins, or the session in a place takes its statement. -/
inductive Move (τ : Type)
  | begins (t : τ)
  | acts (place : Nat)

/-- One move, if it is permitted. -/
def move (begins : τ → Prop) (statement : Statement σ τ) (admits : List τ → σ → τ → Prop)
    [DecidablePred begins] [∀ others db t, Decidable (admits others db t)]
    (s : Sessions σ τ) : Move τ → Option (Sessions σ τ)
  | .begins t => if begins t then some ⟨s.db, s.running ++ [t]⟩ else none
  | .acts i =>
    match s.running[i]? with
    | none => none
    | some t =>
      if admits (s.running.take i ++ s.running.drop (i + 1)) s.db t then
        (statement (s.running.take i ++ s.running.drop (i + 1)) s.db t).map fun (db, next) =>
          ⟨db, s.running.take i ++ next.toList ++ s.running.drop (i + 1)⟩
      else none

section Play

variable [DecidablePred begins] [∀ others db t, Decidable (admits others db t)]

theorem Step.of_move {s s' : Sessions σ τ} {m : Move τ}
    (h : s.move begins statement admits m = some s') : Step begins statement admits s s' := by
  cases m with
  | begins t =>
      simp only [move, Option.ite_none_right_eq_some, Option.some.injEq] at h
      exact h.2 ▸ .begins t h.1
  | acts i =>
      simp only [move] at h
      split at h
      · cases h
      · next t ht =>
        obtain ⟨hi, rfl⟩ := List.getElem?_eq_some_iff.1 ht
        split at h
        · next hadmits =>
          obtain ⟨⟨db, next⟩, hstatement, rfl⟩ := Option.map_eq_some_iff.1 h
          have hacts : Step begins statement admits _ _ := .acts _ hadmits hstatement
          rwa [List.getElem_cons_drop hi, List.take_append_drop] at hacts
        · cases h

/-- The moves of a schedule, one after the other. -/
def play (begins : τ → Prop) (statement : Statement σ τ) (admits : List τ → σ → τ → Prop)
    [DecidablePred begins] [∀ others db t, Decidable (admits others db t)]
    (s : Sessions σ τ) (moves : List (Move τ)) : Option (Sessions σ τ) :=
  moves.foldlM (move begins statement admits) s

/-- A schedule is a number of steps. -/
theorem steps_of_play {s s' : Sessions σ τ} {moves : List (Move τ)}
    (h : s.play begins statement admits moves = some s') :
    Relation.ReflTransGen (Step begins statement admits) s s' := by
  induction moves generalizing s with
  | nil => exact Option.some.inj h ▸ .refl
  | cons m rest ih =>
      rw [Sessions.play, List.foldlM_cons, Option.bind_eq_bind, Option.bind_eq_some_iff] at h
      obtain ⟨mid, hmove, hrest⟩ := h
      exact .head (.of_move hmove) (ih hrest)

/-- Where a schedule leads is where some interleaving leads. -/
theorem Interleaved.play {s s' : Sessions σ τ} {moves : List (Move τ)}
    (h : Interleaved begins statement admits init s)
    (hplay : s.play begins statement admits moves = some s') :
    Interleaved begins statement admits init s' := by
  obtain ⟨db, hdb, hsteps⟩ := h
  exact ⟨db, hdb, hsteps.trans (steps_of_play hplay)⟩

variable (begins statement admits init) in
/-- A schedule that ends in a state where `p` holds. -/
theorem Interleaved.of_play (db : σ) (moves : List (Move τ)) {p : Sessions σ τ → Bool}
    (hinit : init db)
    (hplay : (Sessions.play begins statement admits ⟨db, []⟩ moves).any p = true) :
    ∃ s, Interleaved begins statement admits init s ∧ p s = true := by
  cases hs : Sessions.play begins statement admits ⟨db, []⟩ moves with
  | none => simp [hs] at hplay
  | some s =>
      rw [hs, Option.any_some] at hplay
      exact ⟨s, Interleaved.play ⟨db, hinit, .refl⟩ hs, hplay⟩

variable (begins statement admits init) in
/-- A schedule that is taken further, and ends in states of which `p` holds. -/
theorem Interleaved.of_play_play (db : σ) (moves further : List (Move τ))
    {p : Sessions σ τ → Sessions σ τ → Bool} (hinit : init db)
    (hplay : (Sessions.play begins statement admits ⟨db, []⟩ moves).any (fun s =>
      (s.play begins statement admits further).any (p s)) = true) :
    ∃ s s', Interleaved begins statement admits init s ∧
      Relation.ReflTransGen (Step begins statement admits) s s' ∧ p s s' = true := by
  obtain ⟨s, hs, hfurther⟩ := of_play begins statement admits init db moves hinit hplay
  cases hs' : s.play begins statement admits further with
  | none => simp [hs'] at hfurther
  | some s' =>
      rw [hs', Option.any_some] at hfurther
      exact ⟨s, s', hs, steps_of_play hs', hfurther⟩

end Play

end Sessions

end Cestos.Core
