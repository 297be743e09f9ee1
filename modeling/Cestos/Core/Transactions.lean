import Cestos.Core.Locking

/-!
# Transactions with savepoints

A transaction works off its actions: calls, each a number of statements, and savepoints that it
sets, releases or rolls back to. Nobody sees what it has done before it commits. A call that fails
is rolled back to the last savepoint, and without one the transaction is over. Rolling back gives
up what was locked since.
-/

namespace Cestos.Core

inductive Action (α : Type)
  | call (a : α)
  | savepoint
  | release
  | rollback

/-- What a statement of a call leads to. -/
inductive Progress (ω ι : Type)
  | goes (work : ω) (stage : ι)
  | done (work : ω)
  | fails

/-- The work that is done, what it was at the savepoints, and what is left to do. -/
structure Transaction (ω α ι : Type) where
  work : ω
  saved : List ω
  stage : Option ι
  rest : List (Action α)

/-- How calls are served: the rows that work has locked, the statements of a call, and the commit. -/
structure Calls (σ ω α ι κ : Type) where
  idle : ω
  held : ω → List κ
  start : α → ι
  wants : σ → ω → ι → List κ
  next : σ → ω → ι → Progress ω ι
  commit : σ → ω → σ

variable {σ ω α ι κ : Type}

/-- Back to the last savepoint. -/
def Transaction.rollback (t : Transaction ω α ι) : Option (Transaction ω α ι) :=
  match t.saved with
  | [] => none
  | work :: saved => some { t with work, saved, stage := none }

namespace Calls

variable (c : Calls σ ω α ι κ)

def step (_others : List (Transaction ω α ι)) (db : σ) (t : Transaction ω α ι) :
    σ × Option (Transaction ω α ι) :=
  match t.stage with
  | some i =>
    match c.next db t.work i with
    | .goes work i => (db, some { t with work, stage := some i })
    | .done work => (db, some { t with work, stage := none })
    | .fails => (db, t.rollback)
  | none =>
    match t.rest with
    | [] => (c.commit db t.work, none)
    | .call a :: rest => (db, some { t with stage := some (c.start a), rest })
    | .savepoint :: rest => (db, some { t with saved := t.work :: t.saved, rest })
    | .release :: rest => (db, some { t with saved := t.saved.tail, rest })
    | .rollback :: rest => (db, { t with rest }.rollback)

/-- The rows that the next statement locks. -/
def wanted (db : σ) (t : Transaction ω α ι) : List κ :=
  t.stage.elim [] (c.wants db t.work)

def locks (t : Transaction ω α ι) : List κ := c.held t.work

def serving [DecidableEq κ] : Statement σ (Transaction ω α ι) :=
  locking c.locks c.wanted c.step

/-- A transaction that begins, with anything to do. -/
def Begins (t : Transaction ω α ι) : Prop :=
  t.work = c.idle ∧ t.saved.isEmpty = true ∧ t.stage.isNone = true

instance [DecidableEq ω] : DecidablePred c.Begins :=
  fun _ => inferInstanceAs (Decidable (_ ∧ _ ∧ _))

/-- `G` is kept by commits of work that meets `L`, and `L` by what others do to rows that the work
has not locked; `I` is what a call knows between its statements. -/
structure Keeps (G : σ → Prop) (L : σ → ω → Prop) (I : σ → ω → ι → Prop) : Prop where
  held_idle : c.held c.idle = []
  idle : ∀ db, G db → L db c.idle
  start : ∀ db w a, G db → L db w → I db w (c.start a)
  goes : ∀ db w i w' i', G db → L db w → I db w i → c.next db w i = .goes w' i' →
    L db w' ∧ I db w' i' ∧ c.held w ⊆ c.held w' ∧ c.held w' ⊆ c.wants db w i ++ c.held w
  done : ∀ db w i w', G db → L db w → I db w i → c.next db w i = .done w' →
    L db w' ∧ c.held w ⊆ c.held w' ∧ c.held w' ⊆ c.wants db w i ++ c.held w
  commits : ∀ db w, G db → L db w → G (c.commit db w)
  spares : ∀ db w v, G db → L db w → L db v → (∀ key ∈ c.held w, key ∉ c.held v) →
    L (c.commit db w) v ∧ ∀ i, I db v i → I (c.commit db w) v i

/-- What a transaction has done, and what it goes back to, meets `L`. -/
structure Sound (L : σ → ω → Prop) (I : σ → ω → ι → Prop) (db : σ) (t : Transaction ω α ι) :
    Prop where
  work : L db t.work
  saved : ∀ w ∈ t.saved, L db w
  chain : (t.work :: t.saved).Pairwise fun w v => c.held v ⊆ c.held w
  stage : ∀ i ∈ t.stage, I db t.work i

variable {c} {G : σ → Prop} {L : σ → ω → Prop} {I : σ → ω → ι → Prop} {db db' : σ}
  {t t' u : Transaction ω α ι} {others : List (Transaction ω α ι)}

theorem Sound.subset (h : c.Sound L I db t) : ∀ w ∈ t.saved, c.held w ⊆ c.held t.work :=
  (List.pairwise_cons.1 h.chain).1

theorem Sound.rollback (h : c.Sound L I db t) (hback : t.rollback = some t') :
    c.Sound L I db t' ∧ c.locks t' ⊆ c.locks t := by
  obtain ⟨work, saved, stage, rest⟩ := t
  cases saved with
  | nil => cases hback
  | cons w saved =>
      obtain rfl := Option.some.inj hback
      refine ⟨⟨h.saved w List.mem_cons_self, fun v hv => h.saved v (List.mem_cons_of_mem w hv),
        (List.pairwise_cons.1 h.chain).2, by simp⟩, ?_⟩
      exact h.subset w List.mem_cons_self

theorem Sound.extend (h : c.Sound L I db t) {w : ω} {stage : Option ι} (hw : L db w)
    (hgrows : c.held t.work ⊆ c.held w) (hstage : ∀ i ∈ stage, I db w i) :
    c.Sound L I db { t with work := w, stage } := by
  refine ⟨hw, h.saved, List.pairwise_cons.2 ⟨fun v hv => ?_, (List.pairwise_cons.1 h.chain).2⟩,
    hstage⟩
  exact List.Subset.trans (h.subset v hv) hgrows

theorem Sound.spares (hc : c.Keeps G L I) (hdb : G db) {w : ω} (hw : L db w)
    (h : c.Sound L I db u) (happart : ∀ key ∈ c.held w, key ∉ c.held u.work) :
    c.Sound L I (c.commit db w) u := by
  have hlast := hc.spares db w u.work hdb hw h.work happart
  refine ⟨hlast.1, fun v hv => ?_, h.chain, fun i hi => hlast.2 i (h.stage i hi)⟩
  have hkeys : ∀ key ∈ c.held w, key ∉ c.held v :=
    fun key hkey hheld => happart key hkey (h.subset v hv hheld)
  exact (hc.spares db w v hdb hw (h.saved v hv) hkeys).1

/-- A statement either commits the work, or leaves the database as it is. -/
theorem step_spec (hc : c.Keeps G L I) (hdb : G db) (h : c.Sound L I db t)
    {next : Option (Transaction ω α ι)} (hstep : c.step others db t = (db', next)) :
    (db' = db ∧ ∀ t' ∈ next, c.Sound L I db t' ∧
      c.locks t' ⊆ c.wanted db t ++ c.locks t) ∨ db' = c.commit db t.work ∧ next = none := by
  obtain ⟨work, saved, stage, rest⟩ := t
  cases stage with
  | some i =>
      have hi := h.stage i rfl
      simp only [step] at hstep
      split at hstep
      · next w' i' hnext =>
        obtain ⟨rfl, rfl⟩ := Prod.mk.inj hstep
        obtain ⟨hw, hi', hgrows, hheld⟩ := hc.goes db work i w' i' hdb h.work hi hnext
        refine .inl ⟨rfl, fun t' ht' => ?_⟩
        obtain rfl := Option.some.inj ht'
        exact ⟨h.extend hw hgrows fun j hj => Option.some.inj hj ▸ hi', hheld⟩
      · next w' hnext =>
        obtain ⟨rfl, rfl⟩ := Prod.mk.inj hstep
        obtain ⟨hw, hgrows, hheld⟩ := hc.done db work i w' hdb h.work hi hnext
        refine .inl ⟨rfl, fun t' ht' => ?_⟩
        obtain rfl := Option.some.inj ht'
        exact ⟨h.extend hw hgrows (by simp), hheld⟩
      · obtain ⟨rfl, rfl⟩ := Prod.mk.inj hstep
        refine .inl ⟨rfl, fun t' ht' => ?_⟩
        obtain ⟨hsound, hlocks⟩ := h.rollback ht'
        exact ⟨hsound, List.Subset.trans hlocks (List.subset_append_right _ _)⟩
  | none =>
      simp only [step] at hstep
      have hsame : ∀ {saved' rest'}, (∀ w ∈ saved', L db w) →
          ((work :: saved').Pairwise fun w v => c.held v ⊆ c.held w) →
          c.Sound L I db (⟨work, saved', none, rest'⟩ : Transaction ω α ι) :=
        fun hsaved hchain => ⟨h.work, hsaved, hchain, by simp⟩
      split at hstep
      · obtain ⟨rfl, rfl⟩ := Prod.mk.inj hstep
        exact .inr ⟨rfl, rfl⟩
      · next a rest' =>
        obtain ⟨rfl, rfl⟩ := Prod.mk.inj hstep
        refine .inl ⟨rfl, fun t' ht' => ?_⟩
        obtain rfl := Option.some.inj ht'
        refine ⟨⟨h.work, h.saved, h.chain, fun i hi => ?_⟩, List.subset_append_right _ _⟩
        exact Option.some.inj hi ▸ hc.start db work a hdb h.work
      · obtain ⟨rfl, rfl⟩ := Prod.mk.inj hstep
        refine .inl ⟨rfl, fun t' ht' => ?_⟩
        obtain rfl := Option.some.inj ht'
        refine ⟨hsame (List.forall_mem_cons.2 ⟨h.work, h.saved⟩) (List.pairwise_cons.2
          ⟨List.forall_mem_cons.2 ⟨List.Subset.refl _, h.subset⟩, h.chain⟩),
          List.subset_append_right _ _⟩
      · obtain ⟨rfl, rfl⟩ := Prod.mk.inj hstep
        refine .inl ⟨rfl, fun t' ht' => ?_⟩
        obtain rfl := Option.some.inj ht'
        have htail : (work :: saved.tail).Sublist (work :: saved) :=
          (List.tail_sublist saved).cons_cons work
        exact ⟨hsame (fun w hw => h.saved w (List.mem_of_mem_tail hw)) (h.chain.sublist htail),
          List.subset_append_right _ _⟩
      · next rest' =>
        obtain ⟨rfl, rfl⟩ := Prod.mk.inj hstep
        refine .inl ⟨rfl, fun t' ht' => ?_⟩
        obtain ⟨hsound, hlocks⟩ :=
          Sound.rollback (t := ⟨work, saved, none, rest'⟩) ⟨h.work, h.saved, h.chain, by simp⟩ ht'
        exact ⟨hsound, List.Subset.trans hlocks (List.subset_append_right _ _)⟩

theorem serving_keeps [DecidableEq κ] (hc : c.Keeps G L I) {next : Option (Transaction ω α ι)}
    (hdb : G db) (h : c.Sound L I db t)
    (hothers : ∀ u ∈ others, c.Sound L I db u ∧ Exclusive c.locks t u)
    (hserving : c.serving others db t = some (db', next)) :
    Sessions.Keeps G (c.Sound L I) (Exclusive c.locks) others db' next := by
  obtain ⟨hfree, hstep⟩ := locking_eq_some hserving
  rcases step_spec hc hdb h hstep with ⟨rfl, hnext⟩ | ⟨rfl, rfl⟩
  · cases next with
    | none => exact .over hdb fun u hu => (hothers u hu).1
    | some t' =>
        obtain ⟨hsound, hlocks⟩ := hnext t' rfl
        exact .locks hdb hsound hothers hfree fun row hrow => List.mem_append.1 (hlocks hrow)
  · exact .over (hc.commits db t.work hdb h.work) fun u hu =>
      (hothers u hu).1.spares hc hdb h.work (hothers u hu).2

theorem Begins.sound (hc : c.Keeps G L I) (hdb : G db) (h : c.Begins t) :
    c.Sound L I db t ∧ ∀ u, Exclusive c.locks t u := by
  obtain ⟨work, saved, stage, rest⟩ := t
  obtain ⟨rfl, hsaved, hstage⟩ := h
  obtain rfl := List.isEmpty_iff.1 hsaved
  obtain rfl := Option.isNone_iff_eq_none.1 hstage
  refine ⟨⟨hc.idle db hdb, by simp, List.pairwise_singleton _ _, by simp⟩, fun u row hrow => ?_⟩
  rw [locks, hc.held_idle] at hrow
  cases hrow

/-- What the commits keep holds as long as any number of transactions go on. -/
theorem Keeps.steps [DecidableEq κ] (hc : c.Keeps G L I)
    {s s' : Sessions σ (Transaction ω α ι)}
    (h : s.Holds G (c.Sound L I) (Exclusive c.locks))
    (hsteps : Relation.ReflTransGen (Sessions.Step c.Begins c.serving fun _ _ _ => True) s s') :
    s'.Holds G (c.Sound L I) (Exclusive c.locks) :=
  h.steps hsteps (fun _ _ => Exclusive.symm) (fun _ _ hbegins hdb => hbegins.sound hc hdb)
    fun _ _ _ _ _ hdb hsound hothers _ _ hserving => serving_keeps hc hdb hsound hothers hserving

end Calls

end Cestos.Core
