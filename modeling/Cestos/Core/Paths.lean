import Mathlib.Data.List.Basic
import Mathlib.Data.List.Infix
import Mathlib.Tactic.Common

/-!
# Paths

Paths as `PurePosixPath` reads them: a root and components. Empty components and dots are left
out; two dots are a component like any other. A path is written so that it is read again as it is.
-/

namespace Cestos.Core

/-- What a path begins with. Two slashes are a root of their own. -/
inductive PathRoot
  | relative | absolute | double
  deriving DecidableEq

def PathRoot.text : PathRoot → List Char
  | .relative => []
  | .absolute => ['/']
  | .double => ['/', '/']

/-- A text between slashes that is a component. -/
def IsComponent (c : List Char) : Prop := '/' ∉ c ∧ c ≠ [] ∧ c ≠ ['.']

instance : DecidablePred IsComponent := fun c =>
  inferInstanceAs (Decidable ('/' ∉ c ∧ c ≠ [] ∧ c ≠ ['.']))

@[ext] structure PosixPath where
  root : PathRoot
  components : List (List Char)
  isComponent : ∀ c ∈ components, IsComponent c

instance : DecidableEq PosixPath := fun p q =>
  decidable_of_iff (p.root = q.root ∧ p.components = q.components) PosixPath.ext_iff.symm

/-- `posixpath.splitroot`. -/
def splitRoot : List Char → PathRoot × List Char
  | '/' :: '/' :: '/' :: rest => (.absolute, '/' :: '/' :: rest)
  | '/' :: '/' :: rest => (.double, rest)
  | '/' :: rest => (.absolute, rest)
  | text => (.relative, text)

/-- The components between the slashes of a text. -/
def componentsOf (text : List Char) : List (List Char) :=
  (text.splitOn '/').filter fun c => c ≠ [] ∧ c ≠ ['.']

/-! ## Components -/

theorem notMem_of_mem_splitOn {text c : List Char} (h : c ∈ text.splitOn '/') : '/' ∉ c := by
  induction text generalizing c with
  | nil =>
      obtain rfl : c = [] := by simpa using h
      simp
  | cons x text ih =>
      rw [List.splitOn_cons_eq_if_modifyHead] at h
      by_cases hx : x = '/'
      · rw [if_pos (by simpa using hx), List.mem_cons] at h
        cases h with
        | inl h => simp [h]
        | inr h => exact ih h
      · rw [if_neg (by simpa using hx)] at h
        cases hsplit : text.splitOn '/' with
        | nil => exact absurd hsplit (List.splitOn_ne_nil '/' text)
        | cons first rest =>
            rw [hsplit, List.modifyHead_cons, List.mem_cons] at h
            cases h with
            | inl h => simp [h, ih (hsplit ▸ List.mem_cons_self), Ne.symm hx]
            | inr h => exact ih (hsplit ▸ List.mem_cons_of_mem first h)

theorem isComponent_of_mem {text c : List Char} (h : c ∈ componentsOf text) : IsComponent c := by
  rw [componentsOf, List.mem_filter] at h
  exact ⟨notMem_of_mem_splitOn h.1, by simpa using h.2⟩

@[simp] theorem componentsOf_nil : componentsOf [] = [] := by
  simp [componentsOf]

theorem componentsOf_append_slash (text rest : List Char) :
    componentsOf (text ++ '/' :: rest) = componentsOf text ++ componentsOf rest := by
  rw [componentsOf, List.splitOn_append_cons_self, List.filter_append, componentsOf, componentsOf]

/-- A text without a slash is one component, if it is any. -/
theorem componentsOf_of_isComponent {c : List Char} (h : IsComponent c) : componentsOf c = [c] := by
  rw [componentsOf, List.splitOn_eq_singleton h.1]
  simp [h.2.1, h.2.2]

theorem componentsOf_intercalate {components : List (List Char)}
    (h : ∀ c ∈ components, IsComponent c) :
    componentsOf (['/'].intercalate components) = components := by
  by_cases hnil : components = []
  · simp [hnil]
  · rw [componentsOf, List.splitOn_intercalate '/' (fun c hc => (h c hc).1) hnil]
    exact List.filter_eq_self.2 fun c hc => by simp [(h c hc).2.1, (h c hc).2.2]

namespace PosixPath

/-- `PurePosixPath` of one text. -/
def parse (text : List Char) : PosixPath where
  root := (splitRoot text).1
  components := componentsOf (splitRoot text).2
  isComponent _ h := isComponent_of_mem h

@[simp] theorem parse_root (text : List Char) : (parse text).root = (splitRoot text).1 := rfl

@[simp] theorem parse_components (text : List Char) :
    (parse text).components = componentsOf (splitRoot text).2 := rfl

/-- `as_posix`. -/
def text (p : PosixPath) : List Char :=
  if p.root = .relative ∧ p.components = [] then ['.']
  else p.root.text ++ ['/'].intercalate p.components

/-- `posixpath.join` of two texts. -/
def joinText (a b : List Char) : List Char :=
  if b.head? = some '/' then b
  else if a = [] ∨ a.getLast? = some '/' then a ++ b
  else a ++ '/' :: b

/-- A path and further components. -/
def append (p q : PosixPath) : PosixPath where
  root := p.root
  components := p.components ++ q.components
  isComponent c h := (List.mem_append.1 h).elim (p.isComponent c) (q.isComponent c)

/-- The last component, or nothing. -/
def name (p : PosixPath) : List Char := p.components.getLast?.getD []

/-- `parts` has two dots, which lead out of a directory. -/
def Ascends (p : PosixPath) : Prop := ['.', '.'] ∈ p.components

theorem contains_iff_ascends {p : PosixPath} :
    p.components.contains ['.', '.'] = true ↔ p.Ascends := by
  simp [Ascends]

instance (p : PosixPath) : Decidable p.Ascends := decidable_of_iff _ contains_iff_ascends

/-- A path within a directory. -/
def Within (p : PosixPath) : Prop := p.root = .relative ∧ ¬ p.Ascends

instance (p : PosixPath) : Decidable p.Within :=
  inferInstanceAs (Decidable (p.root = .relative ∧ ¬ p.Ascends))

/-- A path that begins with another one. -/
def Under (p q : PosixPath) : Prop := p.root = q.root ∧ p.components <+: q.components

theorem under_append (p q : PosixPath) : p.Under (p.append q) :=
  ⟨rfl, List.prefix_append _ _⟩

theorem append_injective {p q q' : PosixPath} (h : p.append q = p.append q')
    (hroot : q.root = q'.root) : q = q' :=
  PosixPath.ext hroot (List.append_cancel_left (congrArg components h))

/-! ## Reading what was written -/

theorem head_of_isComponent {c : List Char} (h : IsComponent c) :
    ∃ x rest, c = x :: rest ∧ x ≠ '/' := by
  cases c with
  | nil => exact absurd rfl h.2.1
  | cons x rest => exact ⟨x, rest, rfl, fun hx => h.1 (hx ▸ List.mem_cons_self)⟩

/-- The root is told from a text that does not begin with a slash. -/
theorem splitRoot_append (root : PathRoot) {text : List Char} (h : text.head? ≠ some '/') :
    splitRoot (root.text ++ text) = (root, text) := by
  cases text with
  | nil => cases root <;> rfl
  | cons x rest =>
      have hx : x ≠ '/' := by simpa using h
      cases root <;> simp [PathRoot.text, splitRoot, hx]

theorem head?_intercalate_ne {components : List (List Char)}
    (h : ∀ c ∈ components, IsComponent c) :
    (['/'].intercalate components).head? ≠ some '/' := by
  cases components with
  | nil => simp
  | cons c rest =>
      obtain ⟨x, c, rfl, hx⟩ := head_of_isComponent (h c List.mem_cons_self)
      cases rest <;> simp [hx]

/-- What is written is read again. -/
theorem parse_text (p : PosixPath) : parse p.text = p := by
  by_cases hdot : p.root = .relative ∧ p.components = []
  · rw [text, if_pos hdot]
    ext1
    · exact hdot.1.symm
    · rw [hdot.2]
      rfl
  · rw [text, if_neg hdot]
    have hsplit := splitRoot_append p.root (head?_intercalate_ne p.isComponent)
    ext1
    · rw [parse_root, hsplit]
    · rw [parse_components, hsplit]
      exact componentsOf_intercalate p.isComponent

theorem text_injective {p q : PosixPath} (h : p.text = q.text) : p = q := by
  rw [← parse_text p, h, parse_text]

/-- A text that is written as it is. -/
def Canonical (text : List Char) : Prop := (parse text).text = text

theorem canonical_text (p : PosixPath) : Canonical p.text := by
  rw [Canonical, parse_text]

/-! ## Joining -/

theorem splitRoot_of_head {text : List Char} (h : text.head? ≠ some '/') :
    splitRoot text = (.relative, text) := splitRoot_append .relative h

/-- The root does not depend on what follows, unless a slash follows a slash. -/
theorem splitRoot_append_text {a t : List Char} (ha : a ≠ [])
    (h : a.getLast? = some '/' → t.head? ≠ some '/') :
    splitRoot (a ++ t) = ((splitRoot a).1, (splitRoot a).2 ++ t) := by
  match a, ha with
  | [x], _ =>
      by_cases hx : x = '/'
      · subst hx
        exact splitRoot_append .absolute (h rfl)
      · simp [splitRoot, hx]
  | [x, y], _ =>
      by_cases hx : x = '/'
      · by_cases hy : y = '/'
        · subst hx hy
          exact splitRoot_append .double (h rfl)
        · simp [splitRoot, hx, hy]
      · simp [splitRoot, hx]
  | x :: y :: z :: rest, _ =>
      by_cases hx : x = '/'
      · by_cases hy : y = '/'
        · by_cases hz : z = '/'
          · simp [splitRoot, hx, hy, hz]
          · simp [splitRoot, hx, hy, hz]
        · simp [splitRoot, hx, hy]
      · simp [splitRoot, hx]

/-- After a slash at the end the components go on as after no slash. -/
theorem componentsOf_append_of_getLast {text b : List Char}
    (h : text = [] ∨ text.getLast? = some '/') :
    componentsOf (text ++ b) = componentsOf text ++ componentsOf b := by
  cases h with
  | inl hnil => simp [hnil]
  | inr hlast =>
      obtain ⟨init, rfl⟩ := List.getLast?_eq_some_iff.1 hlast
      rw [List.append_assoc, List.singleton_append, componentsOf_append_slash,
        componentsOf_append_slash, componentsOf_nil, List.append_nil]

theorem getLast_splitRoot {a : List Char} (h : a.getLast? = some '/') :
    (splitRoot a).2 = [] ∨ (splitRoot a).2.getLast? = some '/' := by
  unfold splitRoot
  split
  · exact .inr (by simpa using h)
  · next rest _ => cases rest <;> simp_all
  · next rest _ _ => cases rest <;> simp_all
  · exact .inr h

/-- A relative path goes on where the first one ends. -/
theorem parse_joinText (a : List Char) {b : List Char} (hb : b.head? ≠ some '/') :
    parse (joinText a b) = (parse a).append (parse b) := by
  have hrelative := splitRoot_of_head hb
  have hjoin : ∃ t, joinText a b = a ++ t ∧ (a ≠ [] → a.getLast? = some '/' → t.head? ≠ some '/') ∧
      componentsOf ((splitRoot a).2 ++ t) = componentsOf (splitRoot a).2 ++ componentsOf b := by
    by_cases ha : a = [] ∨ a.getLast? = some '/'
    · refine ⟨b, by rw [joinText, if_neg hb, if_pos ha], fun _ _ => hb, ?_⟩
      apply componentsOf_append_of_getLast
      cases ha with
      | inl hnil => exact .inl (by rw [hnil]; rfl)
      | inr hlast => exact getLast_splitRoot hlast
    · exact ⟨'/' :: b, by rw [joinText, if_neg hb, if_neg ha],
        fun _ hlast => absurd (.inr hlast) ha, componentsOf_append_slash _ b⟩
  obtain ⟨t, ht, hhead, hcomponents⟩ := hjoin
  by_cases ha : a = []
  · subst ha
    have hbase : joinText [] b = b := by rw [joinText, if_neg hb, if_pos (.inl rfl)]; rfl
    have hempty : splitRoot [] = (.relative, []) := rfl
    ext1
    · simp [hbase, append, hrelative, hempty]
    · simp [hbase, append, hempty]
  · have hsplit := splitRoot_append_text ha (hhead ha)
    ext1
    · simp [ht, append, hsplit]
    · simp [ht, append, hsplit, hrelative, hcomponents]

end PosixPath

end Cestos.Core
