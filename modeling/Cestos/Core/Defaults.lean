import Mathlib.Data.List.Basic
import Mathlib.Logic.Function.Basic

/-!
# Values and defaults

A loop over rows that fills a dictionary: some rows set the value of a key, whatever it was, others
set it where the key has none. In the end a key has the last value that was set or, where none was,
what it had before or else the first default.
-/

namespace Cestos.Core

inductive Entry (κ β : Type)
  | sets (key : κ) (value : β)
  | defaults (key : κ) (value : β)
  | skips

namespace Entry

variable {κ β : Type} [DecidableEq κ]

/-- `d[key] = value`, `d.setdefault(key, value)`, or nothing. -/
def apply (d : κ → Option β) : Entry κ β → κ → Option β
  | .sets key value => Function.update d key (some value)
  | .defaults key value => Function.update d key (some ((d key).getD value))
  | .skips => d

/-- The value that is set for a key. -/
def value? (k : κ) : Entry κ β → Option β
  | .sets key value => if key = k then some value else none
  | _ => none

def default? (k : κ) : Entry κ β → Option β
  | .defaults key value => if key = k then some value else none
  | _ => none

theorem foldl_apply (entries : List (Entry κ β)) (d : κ → Option β) (k : κ) :
    entries.foldl apply d k = ((entries.filterMap (value? k)).getLast?).or
      ((d k).or (entries.filterMap (default? k)).head?) := by
  induction entries generalizing d with
  | nil => simp
  | cons entry entries ih =>
      rw [List.foldl_cons, ih]
      cases entry with
      | skips => rfl
      | sets key value =>
          by_cases hkey : key = k
          · subst hkey
            simp only [apply, value?, default?, Function.update_self, List.filterMap_cons, if_true,
              List.getLast?_cons, Option.some_or]
            cases (entries.filterMap (value? key)).getLast? <;> rfl
          · simp only [apply, value?, default?, hkey, Function.update_of_ne (Ne.symm hkey),
              List.filterMap_cons, if_false]
      | defaults key value =>
          by_cases hkey : key = k
          · subst hkey
            simp only [apply, value?, default?, Function.update_self, List.filterMap_cons, if_true,
              List.head?_cons]
            cases d key <;> rfl
          · simp only [apply, value?, default?, hkey, Function.update_of_ne (Ne.symm hkey),
              List.filterMap_cons, if_false]

/-- Where one value is all that is set and one all that is left to default, the rows that there are
decide. -/
theorem foldl_apply_of_const {entries : List (Entry κ β)} {k : κ} (value fallback : β)
    (hvalue : ∀ entry ∈ entries, ∀ v ∈ entry.value? k, v = value)
    (hfallback : ∀ entry ∈ entries, ∀ v ∈ entry.default? k, v = fallback) :
    entries.foldl apply (fun _ => none) k =
      if ∃ entry ∈ entries, (entry.value? k).isSome then some value
      else if ∃ entry ∈ entries, (entry.default? k).isSome then some fallback
      else none := by
  have hconst : ∀ {f : Entry κ β → Option β} {c : β},
      (∀ entry ∈ entries, ∀ v ∈ f entry, v = c) →
      entries.filterMap f = List.replicate (entries.filterMap f).length c := by
    refine fun hf => List.eq_replicate_of_mem fun v hv => ?_
    obtain ⟨entry, hentry, hv⟩ := List.mem_filterMap.1 hv
    exact hf entry hentry v hv
  have hnone : ∀ f : Entry κ β → Option β,
      entries.filterMap f = [] ↔ ¬ ∃ entry ∈ entries, (f entry).isSome := by
    intro f
    simp [List.filterMap_eq_nil_iff]
  rw [foldl_apply, Option.none_or]
  split
  · next hsome =>
    rw [← not_not (a := ∃ entry ∈ entries, _), ← hnone, ← List.length_eq_zero_iff] at hsome
    obtain ⟨n, hn⟩ := Nat.exists_eq_succ_of_ne_zero hsome
    rw [hconst hvalue, hn, List.getLast?_replicate]
    simp
  · next hempty =>
    rw [(hnone _).2 hempty, List.getLast?_nil, Option.none_or]
    split
    · next hsome =>
      rw [← not_not (a := ∃ entry ∈ entries, _), ← hnone, ← List.length_eq_zero_iff] at hsome
      obtain ⟨n, hn⟩ := Nat.exists_eq_succ_of_ne_zero hsome
      rw [hconst hfallback, hn, List.head?_replicate]
      simp
    · next hempty => rw [(hnone _).2 hempty, List.head?_nil]

end Entry

end Cestos.Core
