import Mathlib.Data.List.Infix

/-!
# Words and windows

A text is cut into the words between its spaces, and a list into windows of a width that begin
one step after the other. Words that are joined with spaces are the words of the text that
results; what is no longer than the overlap of two windows lies inside one of them.
-/

namespace Cestos.Core

/-! ## Words -/

section Words

variable (isSpace : Char → Bool)

/-- The words of a text, from left to right. -/
def words (text : List Char) : List (List Char) :=
  (text.splitOnP isSpace).filter (· ≠ [])

/-- The words with one space after each but the last. -/
def unwords (ws : List (List Char)) : List Char := [' '].intercalate ws

/-- A text without spaces that is not empty. -/
structure IsWord (w : List Char) : Prop where
  nonempty : w ≠ []
  noSpace : ∀ c ∈ w, isSpace c = false

variable {isSpace}

theorem noSpace_of_mem_splitOnP {text piece : List Char} (h : piece ∈ text.splitOnP isSpace) :
    ∀ c ∈ piece, isSpace c = false := by
  induction text generalizing piece with
  | nil =>
      obtain rfl : piece = [] := by simpa using h
      simp
  | cons c rest ih =>
      rw [List.splitOnP_cons_eq_if_modifyHead] at h
      by_cases hc : isSpace c
      · simp only [hc, if_true, List.mem_cons] at h
        cases h with
        | inl hnil => simp [hnil]
        | inr hrest => exact ih hrest
      · simp only [hc, if_false, Bool.false_eq_true] at h
        cases hsplit : rest.splitOnP isSpace with
        | nil => exact absurd hsplit (List.splitOnP_ne_nil _ _)
        | cons first others =>
            rw [hsplit] at h ih
            simp only [List.modifyHead_cons, List.mem_cons] at h
            cases h with
            | inl hfirst =>
                subst hfirst
                intro d hd
                cases List.mem_cons.1 hd with
                | inl heq => simpa [heq] using hc
                | inr hmem => exact ih List.mem_cons_self d hmem
            | inr hothers => exact ih (List.mem_cons_of_mem _ hothers)

theorem isWord_of_mem_words {text w : List Char} (h : w ∈ words isSpace text) :
    IsWord isSpace w := by
  simp only [words, List.mem_filter, decide_eq_true_eq] at h
  exact ⟨h.2, noSpace_of_mem_splitOnP h.1⟩

theorem words_of_isWord {w : List Char} (h : IsWord isSpace w) : words isSpace w = [w] := by
  rw [words, List.splitOnP_eq_singleton h.noSpace]
  simp [h.nonempty]

theorem words_append_space {w text : List Char} {c : Char} (h : IsWord isSpace w)
    (hc : isSpace c = true) : words isSpace (w ++ c :: text) = w :: words isSpace text := by
  rw [words, List.splitOnP_append_cons_of_forall_mem h.noSpace c hc]
  simp [words, h.nonempty]

/-- Joining words and cutting the text again gives the words back. -/
theorem words_unwords {ws : List (List Char)} (hspace : isSpace ' ' = true)
    (h : ∀ w ∈ ws, IsWord isSpace w) : words isSpace (unwords ws) = ws := by
  induction ws with
  | nil => simp [unwords, words]
  | cons w rest ih =>
      have hw := h w List.mem_cons_self
      have hrest := ih fun v hv => h v (List.mem_cons_of_mem w hv)
      cases rest with
      | nil => simpa [unwords] using words_of_isWord hw
      | cons v others =>
          have hcut : unwords (w :: v :: others) = w ++ ' ' :: unwords (v :: others) := by
            simp [unwords]
          rw [hcut, words_append_space hw hspace, hrest]

theorem unwords_eq_nil {ws : List (List Char)} (h : ∀ w ∈ ws, IsWord isSpace w) :
    unwords ws = [] ↔ ws = [] := by
  cases ws with
  | nil => simp [unwords]
  | cons w rest =>
      have hw := (h w List.mem_cons_self).nonempty
      cases rest with
      | nil => simp [unwords, hw]
      | cons v others => simp [unwords]

/-- A text of spaces has no words. -/
theorem words_eq_nil {text : List Char} : words isSpace text = [] ↔ text.all isSpace = true := by
  induction text with
  | nil => simp [words]
  | cons c rest ih =>
      rw [words, List.splitOnP_cons_eq_if_modifyHead]
      by_cases hc : isSpace c
      · simpa [hc, words] using ih
      · cases hsplit : rest.splitOnP isSpace with
        | nil => exact absurd hsplit (List.splitOnP_ne_nil _ _)
        | cons first others => simp [hc]

end Words

/-! ## Windows -/

section Windows

variable {α : Type}

/-- The part of a width at every multiple of the step. -/
def windows (step width : Nat) (xs : List α) : List (List α) :=
  (List.range ((xs.length + (step - 1)) / step)).map fun i => (xs.drop (step * i)).take width

variable {step width : Nat} {xs ys w : List α}

theorem infix_of_mem_windows (h : w ∈ windows step width xs) : w <:+: xs := by
  obtain ⟨i, -, rfl⟩ := List.mem_map.1 h
  exact (List.take_prefix _ _).isInfix.trans (List.drop_suffix _ _).isInfix

theorem length_of_mem_windows (h : w ∈ windows step width xs) : w.length ≤ width := by
  obtain ⟨i, -, rfl⟩ := List.mem_map.1 h
  exact List.length_take_le _ _

theorem ne_nil_of_mem_windows (hwidth : 0 < width) (h : w ∈ windows step width xs) : w ≠ [] := by
  obtain ⟨i, hi, rfl⟩ := List.mem_map.1 h
  rw [List.mem_range, Nat.lt_iff_add_one_le] at hi
  intro hnil
  have hlength := congrArg List.length hnil
  simp only [List.length_take, List.length_drop, List.length_nil] at hlength
  by_cases hstep : step = 0
  · subst hstep
    simp at hi
  · rw [Nat.le_div_iff_mul_le (Nat.pos_of_ne_zero hstep), Nat.add_mul, Nat.mul_comm] at hi
    omega

/-- What lies in a list and is no longer than the overlap, and one more, lies in one window. -/
theorem exists_window (hstep : 0 < step) (h : ys <:+: xs) (hnil : ys ≠ [])
    (hlength : ys.length + (step - 1) ≤ width) : ∃ w ∈ windows step width xs, ys <:+: w := by
  obtain ⟨before, after, rfl⟩ := h
  have hpos : 0 < ys.length := List.length_pos_iff.2 hnil
  have hdiv := Nat.div_add_mod before.length step
  have hmod := Nat.mod_lt before.length hstep
  refine ⟨((before ++ ys ++ after).drop (step * (before.length / step))).take width,
    List.mem_map.2 ⟨before.length / step, ?_, rfl⟩, ?_⟩
  · rw [List.mem_range, Nat.lt_iff_add_one_le, Nat.le_div_iff_mul_le hstep, Nat.add_mul,
      Nat.mul_comm]
    simp only [List.length_append]
    omega
  · have hdrop : (before ++ ys ++ after).drop (step * (before.length / step)) =
        before.drop (step * (before.length / step)) ++ (ys ++ after) := by
      rw [List.append_assoc, List.drop_append_of_le_length (by omega)]
    have hkept : (before.drop (step * (before.length / step)) ++ ys).length ≤ width := by
      simp only [List.length_append, List.length_drop]
      omega
    rw [hdrop, ← List.append_assoc, List.take_append]
    rw [List.take_of_length_le hkept]
    exact ⟨_, _, rfl⟩

/-- The windows cut to the step are the list again. -/
theorem flatten_windows (hstep : 0 < step) (hwidth : step ≤ width) :
    ((windows step width xs).map (List.take step)).flatten = xs := by
  have hall : ∀ n, (((List.range n).map fun i => (xs.drop (step * i)).take width).map
      (List.take step)).flatten = xs.take (step * n) := by
    intro n
    induction n with
    | zero => simp
    | succ n ih =>
        rw [List.range_succ, List.map_append, List.map_append, List.flatten_append, ih,
          Nat.mul_succ, List.take_add]
        simp [List.take_take, Nat.min_eq_left hwidth]
  rw [windows, hall, List.take_of_length_le]
  have hdiv := Nat.div_add_mod (xs.length + (step - 1)) step
  have hmod := Nat.mod_lt (xs.length + (step - 1)) hstep
  omega

end Windows

end Cestos.Core
