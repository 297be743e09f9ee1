import Cestos.Core.Sessions

/-!
# Row locks

Transactions that lock rows before they act and keep the locks until they end. A statement
waits while another transaction holds one of the rows that it locks, so no row is ever held
twice. Transactions that wait for each other in a circle are deadlocked.
-/

namespace Cestos.Core

section Locks

variable {σ τ ρ : Type}

section Statements

variable (held : τ → List ρ) (wants : σ → τ → List ρ)

/-- Whether one of the transactions holds the row. -/
def locked (others : List τ) (row : ρ) : Prop := ∃ u ∈ others, row ∈ held u

instance [DecidableEq ρ] (others : List τ) : DecidablePred (locked held others) :=
  fun _ => inferInstanceAs (Decidable (∃ _ ∈ _, _))

/-- The statement locks the rows that it wants, or waits for those who hold them. -/
def locking [DecidableEq ρ] (step : List τ → σ → τ → σ × Option τ) : Statement σ τ :=
  fun others db t =>
    if ∃ row ∈ wants db t, locked held others row then none else some (step others db t)

/-- The two hold no row in common. -/
def Exclusive (t u : τ) : Prop := ∀ row ∈ held t, row ∉ held u

/-- `t` waits for `u`. -/
def WaitsFor (db : σ) (t u : τ) : Prop := ∃ row ∈ wants db t, row ∈ held u

/-- The session in one place waits for the session in the other. -/
def Waits (s : Sessions σ τ) (i j : Nat) : Prop :=
  i ≠ j ∧ ∃ t ∈ s.running[i]?, ∃ u ∈ s.running[j]?, WaitsFor held wants s.db t u

instance [DecidableEq ρ] (db : σ) (t u : τ) : Decidable (WaitsFor held wants db t u) :=
  inferInstanceAs (Decidable (∃ _ ∈ _, _))

instance [DecidableEq ρ] (s : Sessions σ τ) (i j : Nat) : Decidable (Waits held wants s i j) :=
  inferInstanceAs (Decidable (_ ∧ ∃ _ ∈ _, ∃ _ ∈ _, _))

/-- Sessions wait for each other in a circle. -/
def Deadlocked (s : Sessions σ τ) : Prop := ∃ i, Relation.TransGen (Waits held wants s) i i

variable {held wants}

theorem locking_eq_some [DecidableEq ρ] {step : List τ → σ → τ → σ × Option τ} {others : List τ}
    {db : σ} {t : τ} {result : σ × Option τ}
    (h : locking held wants step others db t = some result) :
    (∀ row ∈ wants db t, ¬ locked held others row) ∧ step others db t = result := by
  unfold locking at h
  split at h
  · cases h
  · next hfree => exact ⟨fun row hrow hlocked => hfree ⟨row, hrow, hlocked⟩, Option.some.inj h⟩

theorem Exclusive.symm {t u : τ} (h : Exclusive held t u) : Exclusive held u t :=
  fun row hu ht => h row ht hu

/-- What is locked beside what was held is free. -/
theorem Exclusive.acquire {others : List τ} {t t' u : τ} {rows : List ρ}
    (h : Exclusive held t u) (hu : u ∈ others) (hfree : ∀ row ∈ rows, ¬ locked held others row)
    (hheld : ∀ row ∈ held t', row ∈ rows ∨ row ∈ held t) : Exclusive held t' u := by
  intro row hrow hrowu
  rcases hheld row hrow with hnew | hold
  · exact hfree row hnew ⟨u, hu, hrowu⟩
  · exact h row hold hrowu

/-- A session that only locks more rows leaves to the others what they know. -/
theorem Sessions.Keeps.locks {G : σ → Prop} {L : σ → τ → Prop} {others : List τ} {db : σ}
    {t t' : τ} {rows : List ρ} (hdb : G db) (hnext : L db t')
    (hothers : ∀ u ∈ others, L db u ∧ Exclusive held t u)
    (hfree : ∀ row ∈ rows, ¬ locked held others row)
    (hheld : ∀ row ∈ held t', row ∈ rows ∨ row ∈ held t) :
    Keeps G L (Exclusive held) others db (some t') := by
  refine ⟨hdb, fun u hu => ?_, fun u hu => (hothers u hu).1, fun u hu v hv => ?_⟩
  · exact Option.some.inj hu ▸ hnext
  · obtain rfl := Option.some.inj hu
    exact (hothers v hv).2.acquire hv hfree hheld

/-- Two sessions are deadlocked if each waits for the other. -/
theorem deadlocked_pair {db : σ} {t u : τ} :
    Deadlocked held wants ⟨db, [t, u]⟩ ↔ WaitsFor held wants db t u ∧ WaitsFor held wants db u t := by
  have hplaces : ∀ {i j}, Waits held wants ⟨db, [t, u]⟩ i j →
      i = 0 ∧ j = 1 ∧ WaitsFor held wants db t u ∨ i = 1 ∧ j = 0 ∧ WaitsFor held wants db u t := by
    rintro i j ⟨hne, v, hv, w, hw, hwaits⟩
    match i, j, hne with
    | 0, 1, _ =>
        cases hv
        cases hw
        exact .inl ⟨rfl, rfl, hwaits⟩
    | 1, 0, _ =>
        cases hv
        cases hw
        exact .inr ⟨rfl, rfl, hwaits⟩
    | 0, 0, hne => exact absurd rfl hne
    | 1, 1, hne => exact absurd rfl hne
    | i + 2, _, _ => cases hv
    | _, j + 2, _ => cases hw
  constructor
  · rintro ⟨i, hcircle⟩
    obtain ⟨j, hfirst, -⟩ := Relation.TransGen.head'_iff.1 hcircle
    obtain ⟨k, -, hlast⟩ := Relation.TransGen.tail'_iff.1 hcircle
    rcases hplaces hfirst with ⟨rfl, rfl, htu⟩ | ⟨rfl, rfl, hut⟩
    · rcases hplaces hlast with ⟨-, h, -⟩ | ⟨-, -, hut⟩
      · cases h
      · exact ⟨htu, hut⟩
    · rcases hplaces hlast with ⟨-, -, htu⟩ | ⟨-, h, -⟩
      · exact ⟨htu, hut⟩
      · cases h
  · rintro ⟨htu, hut⟩
    have hthere : Waits held wants ⟨db, [t, u]⟩ 0 1 := ⟨by decide, t, rfl, u, rfl, htu⟩
    have hback : Waits held wants ⟨db, [t, u]⟩ 1 0 := ⟨by decide, u, rfl, t, rfl, hut⟩
    exact ⟨0, .tail (.single hthere) hback⟩

theorem not_deadlocked_of_length_le_one {s : Sessions σ τ} (h : s.running.length ≤ 1) :
    ¬ Deadlocked held wants s := by
  rintro ⟨i, hcircle⟩
  obtain ⟨j, ⟨hne, t, ht, u, hu, -⟩, -⟩ := Relation.TransGen.head'_iff.1 hcircle
  obtain ⟨hi, -⟩ := List.getElem?_eq_some_iff.1 ht
  obtain ⟨hj, -⟩ := List.getElem?_eq_some_iff.1 hu
  omega

theorem not_locked_of_exclusive {others : List τ} {t : τ} {row : ρ}
    (h : ∀ u ∈ others, Exclusive held t u) (hrow : row ∈ held t) : ¬ locked held others row := by
  rintro ⟨u, hu, hrowu⟩
  exact h u hu row hrow hrowu

end Statements

/-! ## Circles -/

variable {α : Type} {r : α → α → Prop}

/-- No chain leads back to where it starts. -/
def Acyclic (r : α → α → Prop) : Prop := ∀ a, ¬ Relation.TransGen r a a

theorem Acyclic.mono {r' : α → α → Prop} (h : Acyclic r) (hle : ∀ a b, r' a b → r a b) :
    Acyclic r' :=
  fun a hcircle => h a (Relation.TransGen.mono hle a a hcircle)

/-- A chain with one more link either does without the link, or passes it. -/
theorem transGen_insert {x y a b : α}
    (h : Relation.TransGen (fun u v => r u v ∨ u = x ∧ v = y) a b) :
    Relation.TransGen r a b ∨ Relation.ReflTransGen r a x ∧ Relation.ReflTransGen r y b := by
  induction h with
  | single hstep =>
      rcases hstep with hold | ⟨rfl, rfl⟩
      · exact .inl (.single hold)
      · exact .inr ⟨.refl, .refl⟩
  | tail _ hstep ih =>
      rcases hstep with hold | ⟨rfl, rfl⟩
      · rcases ih with hchain | ⟨hto, hfrom⟩
        · exact .inl (hchain.tail hold)
        · exact .inr ⟨hto, hfrom.tail hold⟩
      · rcases ih with hchain | ⟨hto, -⟩
        · exact .inr ⟨hchain.to_reflTransGen, .refl⟩
        · exact .inr ⟨hto, .refl⟩

/-- A link closes a circle only if a chain led from its end to its start. -/
theorem Acyclic.insert {x y : α} (h : Acyclic r) (hopen : ¬ Relation.ReflTransGen r y x) :
    Acyclic fun u v => r u v ∨ u = x ∧ v = y := by
  intro a hcircle
  rcases transGen_insert hcircle with hold | ⟨hto, hfrom⟩
  · exact h a hold
  · exact hopen (hfrom.trans hto)

/-- On a circle along which a rank never falls, it never rises either. -/
theorem transGen_of_rank {rank : α → Nat} (hrank : ∀ a b, r a b → rank a ≤ rank b) {a b : α}
    (h : Relation.TransGen r a b) :
    rank a ≤ rank b ∧ (rank b ≤ rank a →
      Relation.TransGen (fun u v => r u v ∧ rank u = rank v) a b) := by
  induction h with
  | single hstep =>
      exact ⟨hrank _ _ hstep, fun hback =>
        .single ⟨hstep, Nat.le_antisymm (hrank _ _ hstep) hback⟩⟩
  | tail _ hstep ih =>
      have hup := hrank _ _ hstep
      refine ⟨Nat.le_trans ih.1 hup, fun hback =>
        (ih.2 (Nat.le_trans hup hback)).tail ⟨hstep, ?_⟩⟩
      have hfrom := ih.1
      omega

theorem circle_of_rank {rank : α → Nat} (hrank : ∀ a b, r a b → rank a ≤ rank b) {a : α}
    (h : Relation.TransGen r a a) :
    Relation.TransGen (fun u v => r u v ∧ rank u = rank v) a a :=
  (transGen_of_rank hrank h).2 (Nat.le_refl _)

end Locks

/-!
## What locks protect

Transactions that rely on what belongs to the rows that they have locked. Each commit leaves to
the holder of a row what belongs to it (`kept`), and all commits move the database in one
direction (`moved`). A transaction that knows only what survives both is not misled by the
others, however the statements interleave.
-/

variable {σ τ ρ : Type}

/-- What a statement leads to: the database moves and is as it should be, the rows that others
hold keep what belongs to them, and the transaction goes on with what it held and what was free. -/
structure Guards (held : τ → List ρ) (kept : ρ → σ → σ → Prop) (moved : σ → σ → Prop)
    (G : σ → Prop) (L : σ → τ → Prop) (others : List τ) (db : σ) (t : τ) (db' : σ)
    (next : Option τ) : Prop where
  database : G db'
  moved : moved db db'
  kept : ∀ row, locked held others row → kept row db db'
  session : ∀ t' ∈ next, L db' t' ∧ ∀ row ∈ held t', row ∈ held t ∨ ¬ locked held others row

/-- Every request begins without locks, and every statement of a transaction that is not misled
keeps to the locks; `L` is what the transactions know. -/
structure Guarded (held : τ → List ρ) (kept : ρ → σ → σ → Prop) (moved : σ → σ → Prop)
    (G : σ → Prop) (L : σ → τ → Prop) (begins : τ → Prop) (statement : Statement σ τ)
    (admits : List τ → σ → τ → Prop) : Prop where
  begins : ∀ db t, begins t → G db → L db t ∧ held t = []
  stable : ∀ db db' t, L db t → moved db db' → (∀ row ∈ held t, kept row db db') → L db' t
  statement : ∀ others db t db' next, G db → L db t → (∀ u ∈ others, Exclusive held t u) →
    admits others db t → statement others db t = some (db', next) →
    Guards held kept moved G L others db t db' next

variable {held : τ → List ρ} {kept : ρ → σ → σ → Prop} {moved : σ → σ → Prop} {G : σ → Prop}
  {L : σ → τ → Prop} {begins : τ → Prop} {statement : Statement σ τ}
  {admits : List τ → σ → τ → Prop} {others : List τ} {db db' : σ} {t t' : τ}
  {next : Option τ}

namespace Guards

/-- The transaction goes on, with more locks perhaps. -/
theorem goes (hdb : G db) (hmoved : moved db db) (hkept : ∀ row, kept row db db)
    (hnext : L db t') (hheld : ∀ row ∈ held t', row ∈ held t ∨ ¬ locked held others row) :
    Guards held kept moved G L others db t db (some t') := by
  refine ⟨hdb, hmoved, fun row _ => hkept row, fun u hu => ?_⟩
  obtain rfl := Option.some.inj hu
  exact ⟨hnext, hheld⟩

/-- The transaction ends without effect. -/
theorem stops (hdb : G db) (hmoved : moved db db) (hkept : ∀ row, kept row db db) :
    Guards held kept moved G L others db t db none :=
  ⟨hdb, hmoved, fun row _ => hkept row, by simp⟩

/-- The transaction gives up its locks, after a commit perhaps. Only what belongs to the rows that
it holds may change. -/
theorem releases (hdb : G db') (hmoved : moved db db')
    (hexclusive : ∀ u ∈ others, Exclusive held t u)
    (hkept : ∀ row, row ∉ held t → kept row db db')
    (hnext : ∀ t' ∈ next, L db' t' ∧ held t' = []) :
    Guards held kept moved G L others db t db' next := by
  refine ⟨hdb, hmoved, fun row hlocked => hkept row fun hrow => ?_, fun u hu => ?_⟩
  · exact not_locked_of_exclusive hexclusive hrow hlocked
  · obtain ⟨hknown, hnone⟩ := hnext u hu
    exact ⟨hknown, by simp [hnone]⟩

/-- The transaction commits and ends. -/
theorem commits (hdb : G db') (hmoved : moved db db')
    (hexclusive : ∀ u ∈ others, Exclusive held t u)
    (hkept : ∀ row, row ∉ held t → kept row db db') :
    Guards held kept moved G L others db t db' none :=
  releases hdb hmoved hexclusive hkept (by simp)

theorem keeps (h : Guards held kept moved G L others db t db' next)
    (hstable : ∀ u ∈ others, moved db db' → (∀ row ∈ held u, kept row db db') → L db' u)
    (hexclusive : ∀ u ∈ others, Exclusive held t u) :
    Sessions.Keeps G L (Exclusive held) others db' next := by
  refine ⟨h.database, fun t' ht' => (h.session t' ht').1, fun u hu => ?_, fun t' ht' u hu => ?_⟩
  · exact hstable u hu h.moved fun row hrow => h.kept row ⟨u, hu, hrow⟩
  · intro row hrow hrowu
    rcases (h.session t' ht').2 row hrow with hold | hfree
    · exact hexclusive u hu row hold hrowu
    · exact hfree ⟨u, hu, hrowu⟩

end Guards

namespace Guarded

/-- Further steps keep what holds, and move the database. -/
theorem steps (h : Guarded held kept moved G L begins statement admits)
    (hrefl : ∀ db, moved db db) (htrans : ∀ {a b c}, moved a b → moved b c → moved a c)
    {s s' : Sessions σ τ} (hs : s.Holds G L (Exclusive held))
    (hsteps : Relation.ReflTransGen (Sessions.Step begins statement admits) s s') :
    s'.Holds G L (Exclusive held) ∧ moved s.db s'.db := by
  have hfirst : s.Holds (fun db => G db ∧ moved s.db db) L (Exclusive held) :=
    ⟨⟨hs.database, hrefl _⟩, hs.session, hs.pair⟩
  have hlast : s'.Holds (fun db => G db ∧ moved s.db db) L (Exclusive held) := by
    refine hfirst.steps hsteps (fun _ _ => Exclusive.symm) (fun db t ht hdb => ?_)
      fun others db t db' next hdb ht hothers _ hadmits hstatement => ?_
    · obtain ⟨hknown, hnone⟩ := h.begins db t ht hdb.1
      refine ⟨hknown, fun u row hrow => ?_⟩
      simp [hnone] at hrow
    · have hexclusive : ∀ u ∈ others, Exclusive held t u := fun u hu => (hothers u hu).2
      have hguards := h.statement others db t db' next hdb.1 ht hexclusive hadmits hstatement
      have hkeeps := hguards.keeps
        (fun u hu => h.stable db db' u (hothers u hu).1) hexclusive
      exact ⟨⟨hkeeps.database, htrans hdb.2 hguards.moved⟩, hkeeps.session, hkeeps.aside,
        hkeeps.pair⟩
  exact ⟨⟨hlast.database.1, hlast.session, hlast.pair⟩, hlast.database.2⟩

/-- What holds at first holds in every interleaving, whatever the order of the statements. -/
theorem holds (h : Guarded held kept moved G L begins statement admits)
    (hrefl : ∀ db, moved db db) (htrans : ∀ {a b c}, moved a b → moved b c → moved a c)
    {init : σ → Prop} (hinit : ∀ db, init db → G db) {s : Sessions σ τ}
    (hs : Sessions.Interleaved begins statement admits init s) :
    s.Holds G L (Exclusive held) := by
  obtain ⟨db, hdb, hsteps⟩ := hs
  have hfirst : Sessions.Holds G L (Exclusive held) (⟨db, []⟩ : Sessions σ τ) :=
    ⟨hinit db hdb, by simp, .nil⟩
  exact (h.steps hrefl htrans hfirst hsteps).1

end Guarded

end Cestos.Core
