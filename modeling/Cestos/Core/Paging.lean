import Mathlib.Data.List.Sort
import Mathlib.Data.List.Nodup
import Mathlib.Data.List.Pairwise
import Mathlib.Logic.Equiv.Basic
import Mathlib.Tactic.Common

/-!
# Pages of a sorted list

A list is asked for page by page, and every time it is sorted anew. The pages have the same keys as
the list. They have the same elements if no page ends between two of the same key; where one does,
an element may be on no page.
-/

namespace Cestos.Core

variable {α κ : Type}

/-- A slice of `n` elements. The first page is number 0. -/
def page (n p : Nat) (l : List α) : List α := (l.take ((p + 1) * n)).drop (p * n)

/-- The first pages, each of its own list. -/
def pages (n : Nat) (ls : Nat → List α) (count : Nat) : List α :=
  (List.range count).flatMap fun p => page n p (ls p)

variable {n p count : Nat} {l l' : List α} {ls : Nat → List α}

theorem take_append_page : l.take (p * n) ++ page n p l = l.take ((p + 1) * n) := by
  have htake : l.take (p * n) = (l.take ((p + 1) * n)).take (p * n) := by
    rw [List.take_take, Nat.min_eq_left (Nat.mul_le_mul_right n (Nat.le_succ p))]
  rw [htake]
  exact List.take_append_drop _ _

theorem mem_take_of_mem_page {x : α} (h : x ∈ page n p l) : x ∈ l.take ((p + 1) * n) :=
  List.mem_of_mem_drop h

theorem mem_of_mem_page {x : α} (h : x ∈ page n p l) : x ∈ l :=
  List.mem_of_mem_take (mem_take_of_mem_page h)

theorem mem_drop_of_mem_page {x : α} (h : x ∈ page n p l) : x ∈ l.drop (p * n) := by
  unfold page at h
  rw [List.drop_take] at h
  exact List.mem_of_mem_take h

@[simp] theorem pages_zero : pages n ls 0 = [] := rfl

theorem pages_succ : pages n ls (count + 1) = pages n ls count ++ page n count (ls count) := by
  rw [pages, List.range_succ, List.flatMap_append, List.flatMap_singleton]
  rfl

theorem mem_pages {x : α} : x ∈ pages n ls count ↔ ∃ p < count, x ∈ page n p (ls p) := by
  simp [pages]

/-- The pages of one list are the list. -/
theorem pages_const : pages n (fun _ => l) count = l.take (count * n) := by
  induction count with
  | zero => simp
  | succ count ih => rw [pages_succ, ih, take_append_page]

theorem map_page (f : α → κ) : (page n p l).map f = page n p (l.map f) := by
  rw [page, page, List.map_drop, List.map_take]

theorem map_pages (f : α → κ) : (pages n ls count).map f = pages n (fun p => (ls p).map f) count := by
  induction count with
  | zero => rfl
  | succ count ih => rw [pages_succ, pages_succ, List.map_append, ih, map_page]

section Sorted

variable [LinearOrder κ] {key : α → κ}

/-- The keys do not grow. -/
def Falling (key : α → κ) (l : List α) : Prop := l.Pairwise fun x y => key y ≤ key x

/-- No two elements with the same key, one of them before `m` and the other one after it. -/
def Uncut (key : α → κ) (m : Nat) (l : List α) : Prop :=
  ∀ x ∈ l.take m, ∀ y ∈ l.drop m, key x ≠ key y

/-- Lists of the same elements have the same keys when they are sorted. -/
theorem Falling.map_eq (h : Falling key l) (h' : Falling key l') (hperm : l.Perm l') :
    l.map key = l'.map key :=
  (hperm.map key).eq_of_pairwise (fun _ _ _ _ hle hge => le_antisymm hge hle)
    (List.pairwise_map.2 h) (List.pairwise_map.2 h')

variable {m : Nat}

theorem Uncut.filter_eq (h : Uncut key m l) :
    l.filter (fun x => decide (key x ∈ (l.take m).map key)) = l.take m := by
  have htake : ∀ x ∈ l.take m, decide (key x ∈ (l.take m).map key) = true := fun x hx =>
    decide_eq_true (List.mem_map_of_mem hx)
  have hdrop : ∀ y ∈ l.drop m, ¬ decide (key y ∈ (l.take m).map key) = true := by
    intro y hy hmem
    obtain ⟨x, hx, hkey⟩ := List.mem_map.1 (of_decide_eq_true hmem)
    exact h x hx y hy hkey
  calc l.filter (fun x => decide (key x ∈ (l.take m).map key))
      = (l.take m ++ l.drop m).filter (fun x => decide (key x ∈ (l.take m).map key)) := by
        rw [List.take_append_drop]
    _ = l.take m := by
        rw [List.filter_append, List.filter_eq_self.2 htake, List.filter_eq_nil_iff.2 hdrop,
          List.append_nil]

omit [LinearOrder κ] in
theorem Uncut.of_map_eq (h : Uncut key m l) (hmap : l.map key = l'.map key) : Uncut key m l' := by
  intro x hx y hy heq
  have hx' : key x ∈ (l.take m).map key := by
    rw [List.map_take, hmap, ← List.map_take]
    exact List.mem_map_of_mem hx
  have hy' : key y ∈ (l.drop m).map key := by
    rw [List.map_drop, hmap, ← List.map_drop]
    exact List.mem_map_of_mem hy
  obtain ⟨a, ha, hkey⟩ := List.mem_map.1 hx'
  obtain ⟨b, hb, hkey'⟩ := List.mem_map.1 hy'
  exact h a ha b hb (hkey.trans (heq.trans hkey'.symm))

/-- Where no key is cut, the same elements come first however equal ones are ordered. -/
theorem Uncut.take_perm (h : Uncut key m l) (hl : Falling key l) (hl' : Falling key l')
    (hperm : l.Perm l') : (l.take m).Perm (l'.take m) := by
  have hmap := hl.map_eq hl' hperm
  have hkeys : (l'.take m).map key = (l.take m).map key := by
    rw [List.map_take, List.map_take, hmap]
  have h' := (h.of_map_eq hmap).filter_eq
  rw [hkeys] at h'
  rw [← h.filter_eq, ← h']
  exact hperm.filter _

variable (count) in
/-- The pages have every element once if none of them ends between two of the same key. -/
theorem pages_perm (hl : Falling key l) (hls : ∀ p, (ls p).Perm l ∧ Falling key (ls p))
    (huncut : ∀ p, Uncut key (p * n) l) : (pages n ls count).Perm (l.take (count * n)) := by
  induction count with
  | zero => simp
  | succ count ih =>
      obtain ⟨hperm, hfalling⟩ := hls count
      rw [pages_succ]
      calc (pages n ls count ++ page n count (ls count)).Perm
            (l.take (count * n) ++ page n count (ls count)) := ih.append_right _
        _ |>.Perm ((ls count).take (count * n) ++ page n count (ls count)) :=
            ((huncut count).take_perm hl hfalling hperm.symm).append_right _
        _ |>.Perm (l.take ((count + 1) * n)) := by
            rw [take_append_page]
            exact ((huncut (count + 1)).take_perm hl hfalling hperm.symm).symm

variable (n count) in
/-- The keys of the pages are those of the list. -/
theorem map_pages_key (hl : Falling key l) (hls : ∀ p, (ls p).Perm l ∧ Falling key (ls p)) :
    (pages n ls count).map key = (l.take (count * n)).map key := by
  have hmap : (fun p => (ls p).map key) = fun _ => l.map key :=
    funext fun p => (hls p).2.map_eq hl (hls p).1
  rw [map_pages, hmap, pages_const, List.map_take]

/-! ## Where a key is cut -/

/-- The number of the elements before all those with the key of `x`. -/
def ahead (key : α → κ) (l : List α) (x : α) : Nat := l.countP fun y => key x < key y

/-- The number of the elements with the key of `x`. -/
def tied (key : α → κ) (l : List α) (x : α) : Nat := l.countP fun y => key y = key x

theorem ahead_add_tied (x : α) : ahead key l x + tied key l x = l.countP fun y => key x ≤ key y := by
  unfold ahead tied
  induction l with
  | nil => rfl
  | cons y l ih =>
      simp only [List.countP_cons, ← ih, decide_eq_true_eq]
      rcases lt_trichotomy (key x) (key y) with hlt | heq | hgt
      · simp only [hlt, hlt.le, hlt.ne', if_true, if_false]
        omega
      · simp only [heq, lt_irrefl, le_refl, if_true, if_false]
        omega
      · simp only [hgt.not_gt, hgt.not_ge, hgt.ne, if_false]
        omega

theorem Falling.le_of_take (h : Falling key l) {x y : α} (hx : x ∈ l.take m) (hy : y ∈ l.drop m) :
    key y ≤ key x := by
  rw [Falling, ← List.take_append_drop m l] at h
  exact (List.pairwise_append.1 h).2.2 x hx y hy

theorem countP_take_drop (q : α → Bool) (m : Nat) (l : List α) :
    l.countP q = (l.take m).countP q + (l.drop m).countP q := by
  rw [← List.countP_append, List.take_append_drop]

/-- No key is cut exactly if for none the place is among its elements. -/
theorem uncut_iff (h : Falling key l) :
    Uncut key m l ↔ ∀ x ∈ l, ¬ (ahead key l x < m ∧ m < ahead key l x + tied key l x) := by
  constructor
  · rintro huncut x - ⟨hahead, htied⟩
    rw [ahead_add_tied] at htied
    have hlength : (l.take m).length = m :=
      List.length_take_of_le (htied.le.trans List.countP_le_length)
    obtain ⟨b, hb, hle⟩ : ∃ b ∈ l.drop m, key x ≤ key b := by
      rw [countP_take_drop _ m] at htied
      have hcount := List.countP_le_length (p := fun y => decide (key x ≤ key y)) (l := l.take m)
      obtain ⟨b, hb, hle⟩ := List.countP_pos_iff.1
        (show 0 < (l.drop m).countP (fun y => decide (key x ≤ key y)) by omega)
      exact ⟨b, hb, of_decide_eq_true hle⟩
    obtain ⟨a, ha, hge⟩ : ∃ a ∈ l.take m, key a ≤ key x := by
      by_contra hnone
      have hall : (l.take m).countP (fun y => decide (key x < key y)) = (l.take m).length :=
        List.countP_eq_length.2 fun a ha => decide_eq_true (not_le.1 fun hle => hnone ⟨a, ha, hle⟩)
      rw [ahead, countP_take_drop _ m] at hahead
      omega
    exact huncut a ha b hb (le_antisymm (hge.trans hle) (h.le_of_take ha hb))
  · intro hnone x hx y hy heq
    refine hnone x (List.mem_of_mem_take hx) ⟨?_, ?_⟩
    · have hdrop : (l.drop m).countP (fun z => decide (key x < key z)) = 0 :=
        List.countP_eq_zero.2 fun z hz hlt =>
          absurd (of_decide_eq_true hlt) (h.le_of_take hx hz).not_gt
      have hsplit := (l.take m).length_eq_countP_add_countP fun z => decide (key x < key z)
      have hself : 0 < (l.take m).countP (fun z => decide ¬ decide (key x < key z) = true) :=
        List.countP_pos_iff.2 ⟨x, hx, by simp⟩
      have hle := List.length_take_le m l
      rw [ahead, countP_take_drop _ m, hdrop]
      omega
    · have htake : (l.take m).countP (fun z => decide (key x ≤ key z)) = (l.take m).length :=
        List.countP_eq_length.2 fun z hz =>
          decide_eq_true (heq ▸ h.le_of_take hz hy)
      have hpos : 0 < (l.drop m).countP (fun z => decide (key x ≤ key z)) :=
        List.countP_pos_iff.2 ⟨y, hy, decide_eq_true heq.le⟩
      have hlt : m < l.length := by
        by_contra hge
        rw [List.drop_eq_nil_of_le (not_lt.1 hge)] at hy
        exact List.not_mem_nil hy
      rw [ahead_add_tied, countP_take_drop _ m, htake, List.length_take_of_le hlt.le]
      omega

end Sorted

/-! ## Sorting by a key -/

section SortOn

variable [LinearOrder κ] {key : α → κ}

/-- The elements by their keys, from the least to the greatest; those with the same key stay in
their order. -/
def sortOn (key : α → κ) (l : List α) : List α := l.insertionSort fun x y => key x ≤ key y

theorem sortOn_perm : (sortOn key l).Perm l := List.perm_insertionSort _ l

theorem mem_sortOn {x : α} : x ∈ sortOn key l ↔ x ∈ l := sortOn_perm.mem_iff

theorem pairwise_sortOn : (sortOn key l).Pairwise fun x y => key x ≤ key y := by
  have htrans : IsTrans α fun x y => key x ≤ key y := ⟨fun _ _ _ => le_trans⟩
  have htotal : Std.Total (α := α) fun x y => key x ≤ key y := ⟨fun x y => le_total (key x) (key y)⟩
  exact List.pairwise_insertionSort _ l

/-- Where no two elements have the same key, the order in which they are given does not matter. -/
theorem sortOn_eq_of_perm (h : l.Perm l') (hkey : ∀ x ∈ l, ∀ y ∈ l, key x = key y → x = y) :
    sortOn key l = sortOn key l' := by
  refine ((sortOn_perm.trans h).trans sortOn_perm.symm).eq_of_pairwise ?_ pairwise_sortOn
    pairwise_sortOn
  intro x y hx hy hle hge
  exact hkey x (mem_sortOn.1 hx) y (h.mem_iff.2 (mem_sortOn.1 hy)) (le_antisymm hle hge)

end SortOn

/-- Of two elements of a list one comes first. -/
theorem rel_or_rel {R : α → α → Prop} (h : l.Pairwise R) {x y : α} (hx : x ∈ l) (hy : y ∈ l)
    (hne : x ≠ y) : R x y ∨ R y x := by
  have hsymm : Std.Symm fun x y => R x y ∨ R y x := ⟨fun _ _ => Or.symm⟩
  have heither : l.Pairwise fun x y => R x y ∨ R y x := h.imp Or.inl
  exact heither.forall hx hy hne

theorem map_swap_perm [DecidableEq α] (hl : l.Nodup) {x y : α} (hx : x ∈ l) (hy : y ∈ l) :
    (l.map (Equiv.swap x y)).Perm l := by
  refine (List.perm_ext_iff_of_nodup (hl.map (Equiv.swap x y).injective) hl).2 fun z => ?_
  rw [List.mem_map]
  constructor
  · rintro ⟨w, hw, rfl⟩
    rw [Equiv.swap_apply_def]
    split
    · exact hy
    · split
      · exact hx
      · exact hw
  · intro hz
    refine ⟨Equiv.swap x y z, ?_, Equiv.swap_apply_self x y z⟩
    rw [Equiv.swap_apply_def]
    split
    · exact hy
    · split
      · exact hx
      · exact hz

/-- Two elements change their places between two requests, and one of them is on no page. -/
theorem notMem_page_of_swap [DecidableEq α] (hl : l.Nodup) {k : Nat} {x y : α}
    (hx : x ∈ l.take (k * n)) (hy : y ∈ l.drop (k * n)) (p : Nat) :
    y ∉ page n p (if p < k then l else l.map (Equiv.swap x y)) := by
  have hdisjoint := List.disjoint_take_drop hl (le_refl (k * n))
  split
  next hp =>
    intro hmem
    have hle : (p + 1) * n ≤ k * n := Nat.mul_le_mul_right n hp
    exact hdisjoint (List.take_subset_take_left _ hle (mem_take_of_mem_page hmem)) hy
  next hp =>
    intro hmem
    have hle : k * n ≤ p * n := Nat.mul_le_mul_right n (not_lt.1 hp)
    have hdrop := mem_drop_of_mem_page hmem
    rw [← List.map_drop] at hdrop
    obtain ⟨z, hz, hzy⟩ := List.mem_map.1 hdrop
    obtain rfl : z = x :=
      (Equiv.swap x y).injective (hzy.trans (Equiv.swap_apply_left x y).symm)
    exact hdisjoint hx (List.drop_subset_drop_left _ hle hz)

end Cestos.Core
