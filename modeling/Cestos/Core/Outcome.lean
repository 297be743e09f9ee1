import Mathlib.Data.List.Forall2
import Mathlib.Tactic.Common

/-!
# Fallible computations

Guards and inversion rules for programs written in `Except`. A program that
returned `.ok` passed every guard on its way, and a loop that returned `.ok`
preserved whatever each of its turns preserves.
-/

namespace Cestos.Core

variable {ε α β σ : Type}

/-- Raise `e` unless `p` holds. -/
def ensure (p : Prop) [Decidable p] (e : ε) : Except ε Unit :=
  if p then .ok () else .error e

/-- The value of an optional result, or the error `e`. -/
def orError (x : Option α) (e : ε) : Except ε α :=
  match x with
  | some a => .ok a
  | none => .error e

@[simp] theorem ensure_eq_ok {p : Prop} [Decidable p] {e : ε} {u : Unit} :
    ensure p e = .ok u ↔ p := by
  unfold ensure
  split <;> simp_all

@[simp] theorem orError_eq_ok {x : Option α} {e : ε} {a : α} :
    orError x e = .ok a ↔ x = some a := by
  cases x <;> simp [orError]

theorem bind_eq_ok {x : Except ε α} {f : α → Except ε β} {b : β} :
    (x >>= f) = .ok b ↔ ∃ a, x = .ok a ∧ f a = .ok b := by
  cases x <;> simp [bind, Except.bind]

@[simp] theorem pure_eq_ok {a b : α} : (pure a : Except ε α) = .ok b ↔ a = b := by
  simp [pure, Except.pure]

@[simp] theorem ensure_eq_error {p : Prop} [Decidable p] {e e' : ε} :
    ensure p e = .error e' ↔ ¬ p ∧ e = e' := by
  unfold ensure
  split <;> simp_all

@[simp] theorem orError_eq_error {x : Option α} {e e' : ε} :
    orError x e = .error e' ↔ x = none ∧ e = e' := by
  cases x <;> simp [orError]

/-- A program fails in its first part or after it. -/
theorem bind_eq_error {x : Except ε α} {f : α → Except ε β} {e : ε} :
    (x >>= f) = .error e ↔ x = .error e ∨ ∃ a, x = .ok a ∧ f a = .error e := by
  cases x <;> simp [bind, Except.bind]

/-- A guard in front of a program: the guard held and the program ran. -/
@[simp] theorem ensure_bind_eq_ok {p : Prop} [Decidable p] {e : ε}
    {f : Unit → Except ε β} {b : β} :
    (ensure p e >>= f) = .ok b ↔ p ∧ f () = .ok b := by
  by_cases hp : p <;> simp [ensure, hp, bind, Except.bind]

@[simp] theorem orError_bind_eq_ok {x : Option α} {e : ε} {f : α → Except ε β} {b : β} :
    (orError x e >>= f) = .ok b ↔ ∃ a, x = some a ∧ f a = .ok b := by
  simp [bind_eq_ok]

/-- The error of a computation that failed. -/
def errorOf : Except ε α → Option ε
  | .ok _ => none
  | .error e => some e

theorem isOk_iff {x : Except ε α} : x.isOk = true ↔ ∃ a, x = .ok a := by
  cases x <;> simp [Except.isOk, Except.toBool]

/-- A run that was accepted, with what is seen of its result. -/
theorem exists_of_any {x : Except ε α} {p : α → Bool} (h : x.toOption.any p = true) :
    ∃ a, x = .ok a ∧ p a := by
  cases x with
  | error e => cases h
  | ok a => exact ⟨a, rfl, h⟩

@[simp] theorem ok_bind (a : α) (f : α → Except ε β) : (Except.ok a >>= f) = f a := rfl

theorem bind_congr_ok {x : Except ε α} {f g : α → Except ε β} (h : ∀ a, x = .ok a → f a = g a) :
    (x >>= f) = (x >>= g) := by
  cases x with
  | error e => rfl
  | ok a => exact h a rfl

theorem ensure_congr {p q : Prop} [Decidable p] [Decidable q] {e : ε} (h : p ↔ q) :
    ensure p e = ensure q e := by
  unfold ensure
  by_cases hp : p
  · rw [if_pos hp, if_pos (h.1 hp)]
  · rw [if_neg hp, if_neg fun hq => hp (h.2 hq)]

theorem not_isOk_iff {x : Except ε α} : x.isOk = false ↔ ∀ a, x ≠ .ok a := by
  cases x <;> simp [Except.isOk, Except.toBool]

/-- What holds where a step is refused, and after it where it is taken. -/
theorem getD_bind {x : Option α} {f : α → Option β} {P : β → Prop} {b : β} (hb : P b)
    (h : ∀ a, x = some a → ∀ c, f a = some c → P c) : P ((x.bind f).getD b) := by
  cases hbind : x.bind f with
  | none => exact hb
  | some c =>
      obtain ⟨a, ha, hc⟩ := Option.bind_eq_some_iff.1 hbind
      exact h a ha c hc

/-- What a loop that collects one result for each element returns comes from its elements. -/
theorem forall_of_mapM {f : α → Except ε β} {P : β → Prop} {l : List α} {l' : List β}
    (h : l.mapM f = .ok l') (hf : ∀ a ∈ l, ∀ b, f a = .ok b → P b) : ∀ b ∈ l', P b := by
  induction l generalizing l' with
  | nil =>
      simp only [List.mapM_nil, pure_eq_ok] at h
      simp [← h]
  | cons a l ih =>
      simp only [List.mapM_cons, bind_eq_ok, pure_eq_ok] at h
      obtain ⟨b, hb, bs, hbs, rfl⟩ := h
      exact List.forall_mem_cons.2 ⟨hf a List.mem_cons_self b hb,
        ih hbs fun x hx => hf x (List.mem_cons_of_mem a hx)⟩

/-- A loop that succeeds succeeds for each element. -/
theorem ok_of_mapM {f : α → Except ε β} {l : List α} {l' : List β} (h : l.mapM f = .ok l') :
    ∀ a ∈ l, ∃ b, f a = .ok b := by
  induction l generalizing l' with
  | nil => simp
  | cons a l ih =>
      simp only [List.mapM_cons, bind_eq_ok] at h
      obtain ⟨b, hb, rest, hrest, -⟩ := h
      exact List.forall_mem_cons.2 ⟨⟨b, hb⟩, ih hrest⟩

/-- A loop that fails fails at one of its elements. -/
theorem error_of_mapM {f : α → Except ε β} {l : List α} {e : ε} (h : l.mapM f = .error e) :
    ∃ a ∈ l, f a = .error e := by
  induction l with
  | nil => cases h
  | cons a l ih =>
      simp only [List.mapM_cons, bind_eq_error] at h
      rcases h with ha | ⟨_, -, hrest | ⟨_, -, hpure⟩⟩
      · exact ⟨a, List.mem_cons_self, ha⟩
      · obtain ⟨x, hx, hfail⟩ := ih hrest
        exact ⟨x, List.mem_cons_of_mem a hx, hfail⟩
      · cases hpure

/-- What a loop returns looks as what it was given. -/
theorem map_eq_of_mapM {γ : Type} {f : α → Except ε β} {g : β → γ} {g' : α → γ} {l : List α}
    {l' : List β} (h : l.mapM f = .ok l') (hf : ∀ a b, f a = .ok b → g b = g' a) :
    l'.map g = l.map g' := by
  induction l generalizing l' with
  | nil =>
      simp only [List.mapM_nil, pure_eq_ok] at h
      simp [← h]
  | cons a l ih =>
      simp only [List.mapM_cons, bind_eq_ok, pure_eq_ok] at h
      obtain ⟨b, hb, bs, hbs, rfl⟩ := h
      rw [List.map_cons, List.map_cons, hf a b hb, ih hbs]

theorem map_of_mapM {f : α → Except ε β} {g : β → α} {l : List α} {l' : List β}
    (h : l.mapM f = .ok l') (hf : ∀ a b, f a = .ok b → g b = a) : l'.map g = l :=
  (map_eq_of_mapM h hf).trans (List.map_id' l)

theorem isEmpty_of_mapM {f : α → Except ε β} {l : List α} {l' : List β} (h : l.mapM f = .ok l') :
    l'.isEmpty = l.isEmpty := by
  have hsame : l'.map (fun _ => ()) = l.map (fun _ => ()) := map_eq_of_mapM h fun _ _ _ => rfl
  rw [← List.isEmpty_map (f := fun _ => ()), hsame, List.isEmpty_map]

/-- A loop over what another one was accepted for. -/
theorem mapM_of_mapM {ε' γ : Type} {check : α → Except ε β} {f : α → Except ε' γ} {g : β → γ}
    {l : List α} {l' : List β} (h : l.mapM check = .ok l')
    (hf : ∀ a b, check a = .ok b → f a = .ok (g b)) : l.mapM f = .ok (l'.map g) := by
  induction l generalizing l' with
  | nil =>
      simp only [List.mapM_nil, pure_eq_ok] at h
      simp [← h, pure, Except.pure]
  | cons a l ih =>
      simp only [List.mapM_cons, bind_eq_ok, pure_eq_ok] at h
      obtain ⟨b, hb, bs, hbs, rfl⟩ := h
      rw [List.mapM_cons, hf a b hb, ih hbs]
      rfl

/-- A search, which ends with what it finds. -/
theorem anyM_of_mapM {ε' : Type} {check : α → Except ε β} {p : α → Except ε' Bool}
    {q : β → Bool} {l : List α} {l' : List β} (h : l.mapM check = .ok l')
    (hp : ∀ a b, check a = .ok b → p a = .ok (q b)) : l.anyM p = .ok (l'.any q) := by
  induction l generalizing l' with
  | nil =>
      simp only [List.mapM_nil, pure_eq_ok] at h
      simp [← h, pure, Except.pure]
  | cons a l ih =>
      simp only [List.mapM_cons, bind_eq_ok, pure_eq_ok] at h
      obtain ⟨b, hb, bs, hbs, rfl⟩ := h
      rw [List.anyM, hp a b hb, ok_bind, List.any_cons]
      cases q b with
      | true => rfl
      | false => exact ih hbs

theorem mapM_ok {f : α → Except ε β} {g : α → β} {l : List α} (h : ∀ a ∈ l, f a = .ok (g a)) :
    l.mapM f = .ok (l.map g) := by
  induction l with
  | nil => rfl
  | cons a l ih =>
      rw [List.mapM_cons, h a List.mem_cons_self, ih fun x hx => h x (List.mem_cons_of_mem a hx)]
      rfl

/-- What a loop has returned it returns again, if its turns do. -/
theorem mapM_again {f : α → Except ε α} {l l' : List α} (h : l.mapM f = .ok l')
    (hf : ∀ a b, f a = .ok b → f b = .ok b) : l'.mapM f = .ok l' :=
  (mapM_ok (forall_of_mapM h fun a _ b hb => hf a b hb)).trans (congrArg Except.ok (List.map_id' l'))

/-- A loop that comes to the same, turn by turn. -/
theorem mapM_eq_of_mapM {f g : α → Except ε β} {l : List α} {l' : List β} (h : l.mapM f = .ok l')
    (hg : ∀ a ∈ l, ∀ b ∈ l', f a = .ok b → g a = .ok b) : l.mapM g = .ok l' := by
  induction l generalizing l' with
  | nil => exact h
  | cons a l ih =>
      simp only [List.mapM_cons, bind_eq_ok, pure_eq_ok] at h ⊢
      obtain ⟨b, hb, bs, hbs, rfl⟩ := h
      exact ⟨b, hg a List.mem_cons_self b List.mem_cons_self hb, bs, ih hbs fun x hx y hy =>
        hg x (List.mem_cons_of_mem a hx) y (List.mem_cons_of_mem b hy), rfl⟩

theorem mapM_congr {f g : α → Except ε β} {l : List α} (h : ∀ a ∈ l, f a = g a) :
    l.mapM f = l.mapM g := by
  induction l with
  | nil => rfl
  | cons a l ih =>
      rw [List.mapM_cons, List.mapM_cons, h a List.mem_cons_self,
        ih fun x hx => h x (List.mem_cons_of_mem a hx)]

theorem foldlM_congr {f g : σ → α → Except ε σ} {l : List α} (h : ∀ s, ∀ x ∈ l, f s x = g s x)
    (s : σ) : l.foldlM f s = l.foldlM g s := by
  induction l generalizing s with
  | nil => rfl
  | cons x l ih =>
      rw [List.foldlM_cons, List.foldlM_cons, h s x List.mem_cons_self]
      exact congrArg (g s x >>= ·) (funext fun s' => ih (fun r y hy => h r y (List.mem_cons_of_mem x hy)) s')

theorem foldlM_eq_of_foldlM {f g : σ → α → Except ε σ} {l : List α} {s s' : σ}
    (h : l.foldlM f s = .ok s') (hg : ∀ s, ∀ a ∈ l, ∀ s', f s a = .ok s' → g s a = .ok s') :
    l.foldlM g s = .ok s' := by
  induction l generalizing s with
  | nil => exact h
  | cons a l ih =>
      rw [List.foldlM_cons, bind_eq_ok] at h ⊢
      obtain ⟨m, ha, hl⟩ := h
      exact ⟨m, hg s a List.mem_cons_self m ha,
        ih hl fun r b hb => hg r b (List.mem_cons_of_mem a hb)⟩

/-- A loop over optional results has one where each of its turns has. -/
theorem mapM_eq_some_iff {f : α → Option β} {l : List α} {l' : List β} :
    l.mapM f = some l' ↔ List.Forall₂ (fun a b => f a = some b) l l' := by
  induction l generalizing l' with
  | nil => simp [eq_comm]
  | cons a l ih =>
      rw [List.mapM_cons, List.forall₂_cons_left_iff]
      constructor
      · intro h
        obtain ⟨b, hb, h⟩ := Option.bind_eq_some_iff.1 h
        obtain ⟨bs, hbs, h⟩ := Option.bind_eq_some_iff.1 h
        exact ⟨b, bs, hb, ih.1 hbs, (Option.some.inj h).symm⟩
      · rintro ⟨b, bs, hb, hbs, rfl⟩
        rw [hb, ih.2 hbs]
        rfl

/-! ### Tests in order

A program that makes one test after the other fails as the first of them that fails. -/

section Tests

variable {κ : Type} {kind : ε → κ} {x : Except ε α} {f : α → Except ε β}

/-- How a program failed, if it did. -/
def faultOf (kind : ε → κ) (x : Except ε α) : Option κ := (errorOf x).map kind

/-- How the first test failed that did. -/
def firstFault (tests : List (Option κ)) : Option κ := tests.findSome? id

@[simp] theorem faultOf_ok (kind : ε → κ) (a : α) : faultOf kind (.ok a : Except ε α) = none := rfl

@[simp] theorem faultOf_error (kind : ε → κ) (e : ε) :
    faultOf kind (.error e : Except ε α) = some (kind e) := rfl

/-- A test that passes or fails in one way. -/
def testOf (p : Prop) [Decidable p] (k : κ) : Option κ := if p then none else some k

theorem faultOf_ensure_eq {p : Prop} [Decidable p] {e : ε} :
    faultOf kind (ensure p e) = testOf p (kind e) := by
  unfold ensure testOf
  split <;> rfl

theorem faultOf_orError_eq {x : Option α} {e : ε} :
    faultOf kind (orError x e) = testOf x.isSome (kind e) := by
  cases x <;> rfl

theorem testOf_congr {p q : Prop} [Decidable p] [Decidable q] {k : κ} (h : p ↔ q) :
    testOf p k = testOf q k := by
  unfold testOf
  by_cases hp : p
  · rw [if_pos hp, if_pos (h.1 hp)]
  · rw [if_neg hp, if_neg fun hq => hp (h.2 hq)]

theorem faultOf_eq_none : faultOf kind x = none ↔ ∃ a, x = .ok a := by
  cases x <;> simp

@[simp] theorem firstFault_nil : firstFault ([] : List (Option κ)) = none := rfl

theorem firstFault_append (tests tests' : List (Option κ)) :
    firstFault (tests ++ tests') = (firstFault tests).or (firstFault tests') :=
  List.findSome?_append

@[simp] theorem firstFault_singleton (test : Option κ) : firstFault [test] = test := by
  cases test <;> rfl

/-- The tests of a program are those of its first part and then those of the rest. -/
theorem faultOf_bind {tests tests' : List (Option κ)} (hx : faultOf kind x = firstFault tests)
    (hf : ∀ a, x = .ok a → faultOf kind (f a) = firstFault tests') :
    faultOf kind (x >>= f) = firstFault (tests ++ tests') := by
  rw [firstFault_append, ← hx]
  cases x with
  | error e => rfl
  | ok a => exact hf a rfl

theorem faultOf_bind_cons {test : Option κ} {tests : List (Option κ)} (hx : faultOf kind x = test)
    (hf : ∀ a, x = .ok a → faultOf kind (f a) = firstFault tests) :
    faultOf kind (x >>= f) = firstFault (test :: tests) :=
  faultOf_bind (hx.trans (firstFault_singleton test).symm) hf

/-- Where a program may fail in one way only is told by the tests that may. -/
theorem faultOf_bind_eq_some_iff {k : κ} {tests tests' : List (Option κ)}
    (hx : faultOf kind x = firstFault tests)
    (hf : ∀ a, x = .ok a → (faultOf kind (f a) = some k ↔ firstFault tests' = some k)) :
    faultOf kind (x >>= f) = some k ↔ firstFault (tests ++ tests') = some k := by
  rw [firstFault_append, ← hx]
  cases x with
  | error e => exact Iff.rfl
  | ok a => exact hf a rfl

theorem faultOf_bind_cons_eq_some_iff {k : κ} {test : Option κ} {tests : List (Option κ)}
    (hx : faultOf kind x = test)
    (hf : ∀ a, x = .ok a → (faultOf kind (f a) = some k ↔ firstFault tests = some k)) :
    faultOf kind (x >>= f) = some k ↔ firstFault (test :: tests) = some k :=
  faultOf_bind_eq_some_iff (hx.trans (firstFault_singleton test).symm) hf

theorem faultOf_bind_of_ok (hf : ∀ a, x = .ok a → ∃ b, f a = .ok b) :
    faultOf kind (x >>= f) = faultOf kind x := by
  cases x with
  | error e => rfl
  | ok a =>
      obtain ⟨b, hb⟩ := hf a rfl
      exact congrArg (faultOf kind) hb

theorem faultOf_bind_ok {g : α → β} : faultOf kind (x >>= fun a => .ok (g a)) = faultOf kind x :=
  faultOf_bind_of_ok fun a _ => ⟨g a, rfl⟩

/-- The tests of a loop are those of its turns. -/
theorem faultOf_mapM {tests : α → List (Option κ)} {l : List α}
    (h : ∀ a ∈ l, faultOf kind (f a) = firstFault (tests a)) :
    faultOf kind (l.mapM f) = firstFault (l.flatMap tests) := by
  induction l with
  | nil => rfl
  | cons a l ih =>
      rw [List.mapM_cons, List.flatMap_cons]
      refine faultOf_bind (h a List.mem_cons_self) fun b _ => ?_
      exact faultOf_bind_ok.trans (ih fun c hc => h c (List.mem_cons_of_mem a hc))

theorem faultOf_mapM_map {test : α → Option κ} {l : List α}
    (h : ∀ a ∈ l, faultOf kind (f a) = test a) :
    faultOf kind (l.mapM f) = firstFault (l.map test) := by
  rw [List.map_eq_flatMap]
  exact faultOf_mapM fun a ha => (h a ha).trans (firstFault_singleton _).symm

/-- The tests of a loop that tests every element by itself. -/
theorem faultOf_foldlM_flatMap {f : σ → α → Except ε σ} {tests : α → List (Option κ)} {l : List α}
    (h : ∀ s, ∀ a ∈ l, faultOf kind (f s a) = firstFault (tests a)) (s : σ) :
    faultOf kind (l.foldlM f s) = firstFault (l.flatMap tests) := by
  induction l generalizing s with
  | nil => rfl
  | cons a l ih =>
      rw [List.foldlM_cons, List.flatMap_cons]
      exact faultOf_bind (h s a List.mem_cons_self) fun s' _ =>
        ih (fun r b hb => h r b (List.mem_cons_of_mem a hb)) s'

theorem faultOf_foldlM_map {f : σ → α → Except ε σ} {test : α → Option κ} {l : List α}
    (h : ∀ s, ∀ a ∈ l, faultOf kind (f s a) = test a) (s : σ) :
    faultOf kind (l.foldlM f s) = firstFault (l.map test) := by
  rw [List.map_eq_flatMap]
  exact faultOf_foldlM_flatMap (fun s a ha => (h s a ha).trans (firstFault_singleton _).symm) s

/-- The tests of all elements, each made with the elements before it. -/
def testsAlong (tests : List α → α → List (Option κ)) : List α → List α → List (Option κ)
  | _, [] => []
  | before, a :: l => tests before a ++ testsAlong tests (before ++ [a]) l

/-- The tests of a loop whose state is what the elements so far make of it. -/
theorem faultOf_foldlM {R : List α → σ → Prop} {tests : List α → α → List (Option κ)}
    {f : σ → α → Except ε σ}
    (turn : ∀ {before s} a, R before s → faultOf kind (f s a) = firstFault (tests before a))
    (keep : ∀ {before s a s'}, R before s → f s a = .ok s' → R (before ++ [a]) s')
    {before : List α} {s : σ} (hs : R before s) (l : List α) :
    faultOf kind (l.foldlM f s) = firstFault (testsAlong tests before l) := by
  induction l generalizing before s with
  | nil => rfl
  | cons a l ih =>
      rw [List.foldlM_cons, testsAlong]
      exact faultOf_bind (turn a hs) fun s' hs' => ih (keep hs hs')

theorem foldlM_along {R : List α → σ → Prop} {f : σ → α → Except ε σ}
    (keep : ∀ {before s a s'}, R before s → f s a = .ok s' → R (before ++ [a]) s')
    {before l : List α} {s s' : σ} (hs : R before s) (h : l.foldlM f s = .ok s') :
    R (before ++ l) s' := by
  induction l generalizing before s with
  | nil =>
      simp only [List.foldlM_nil, pure_eq_ok] at h
      rw [List.append_nil]
      exact h ▸ hs
  | cons a l ih =>
      rw [List.foldlM_cons, bind_eq_ok] at h
      obtain ⟨m, ha, hl⟩ := h
      rw [List.append_cons]
      exact ih (keep hs ha) hl

end Tests

/-- A reflexive and transitive relation that every turn of a loop respects
relates the loop's first state to its last. -/
theorem foldlM_rel {R : σ → σ → Prop} (refl : ∀ s, R s s)
    (trans : ∀ {a b c}, R a b → R b c → R a c) {f : σ → α → Except ε σ} {l : List α}
    (turn : ∀ s x s', x ∈ l → f s x = .ok s' → R s s') {s s' : σ}
    (h : l.foldlM f s = .ok s') : R s s' := by
  induction l generalizing s with
  | nil =>
      simp only [List.foldlM_nil, pure_eq_ok] at h
      exact h ▸ refl s
  | cons x l ih =>
      rw [List.foldlM_cons, bind_eq_ok] at h
      obtain ⟨m, hx, hl⟩ := h
      have htail : R m s' :=
        ih (fun a y b hy => turn a y b (List.mem_cons_of_mem x hy)) hl
      exact trans (turn s x m List.mem_cons_self hx) htail

/-- A reflexive and transitive relation relates every state of a run to the later ones exactly if
it relates each state to the next. -/
theorem foldl_rel_iff {R : σ → σ → Prop} (refl : ∀ s, R s s)
    (trans : ∀ {a b c}, R a b → R b c → R a c) {f : σ → α → σ} {s : σ} {l : List α} :
    (∀ first second rest, l = first ++ second ++ rest →
      R (first.foldl f s) ((first ++ second).foldl f s)) ↔
    ∀ first x rest, l = first ++ x :: rest → R (first.foldl f s) (f (first.foldl f s) x) := by
  constructor
  · intro h first x rest hl
    have hstep := h first [x] rest (by simp [hl])
    rwa [List.foldl_append] at hstep
  · intro h first second rest hl
    induction second generalizing first with
    | nil => simpa using refl _
    | cons x second ih =>
        have htail := ih (first ++ [x]) (by simp [hl])
        rw [List.append_assoc, List.foldl_append] at htail
        exact trans (h first x (second ++ rest) (by simp [hl])) htail

/-- Every turn of a loop that returned has returned. -/
theorem forall_of_foldlM {P : α → Prop} {f : σ → α → Except ε σ} {l : List α}
    (turn : ∀ s x s', x ∈ l → f s x = .ok s' → P x) {s s' : σ} (h : l.foldlM f s = .ok s') :
    ∀ x ∈ l, P x := by
  induction l generalizing s with
  | nil => simp
  | cons x l ih =>
      rw [List.foldlM_cons, bind_eq_ok] at h
      obtain ⟨m, hx, hl⟩ := h
      exact List.forall_mem_cons.2 ⟨turn s x m List.mem_cons_self hx,
        ih (fun a y b hy => turn a y b (List.mem_cons_of_mem x hy)) hl⟩

/-- A property that every turn of a loop keeps holds after the loop. -/
theorem foldlM_inv {P : σ → Prop} {f : σ → α → Except ε σ} {l : List α}
    (turn : ∀ s x s', x ∈ l → P s → f s x = .ok s' → P s') {s s' : σ}
    (hs : P s) (h : l.foldlM f s = .ok s') : P s' := by
  have hrel : P s → P s' :=
    foldlM_rel (R := fun a b => P a → P b) (fun _ => id) (fun h₁ h₂ => h₂ ∘ h₁)
      (fun a x b hx hf ha => turn a x b hx ha hf) h
  exact hrel hs

end Cestos.Core
